/-
  **The local accounts.**  The daemon reads `/etc/passwd` and `/etc/group` with a reader of
  comma-separated values whose delimiter is the colon, and puts the names and the numbers of both
  files into the `nxset`, but for those that the admin opted in to.

  `optedIn_iff` says when the local users that are opted in stay out of the set: users and groups
  are one list, names and numbers of one entry are skipped together, and another entry may bring
  either of them back.  `parsed_iff` says which files are read line by line: they have no quotes
  where the reader looks for them.
-/
import Himmelblau.Csv
import Himmelblau.DirectoryGroups
import Himmelblau.LocalIdentities

namespace Himmelblau.EtcPasswd

open Interface LockProgram DirectoryGroups List

/-! ## 1. The parsers -/

structure EtcUser where
  name : String
  password : String
  uid : UInt32
  gid : UInt32
  gecos : String
  homedir : String
  shell : String
  deriving DecidableEq, Repr

structure EtcGroup where
  name : String
  password : String
  gid : UInt32
  members : List String
  deriving DecidableEq, Repr

inductive UnixIntegrationError where
  | unixIntegrationError
  deriving DecidableEq, Repr

def hexValue (c : Char) : Option ℕ :=
  if c.isDigit then some (c.toNat - '0'.toNat)
  else if 'a' ≤ c ∧ c ≤ 'f' then some (c.toNat - 'a'.toNat + 10)
  else if 'A' ≤ c ∧ c ≤ 'F' then some (c.toNat - 'A'.toNat + 10)
  else none

/-- `u32::from_str_radix(text, 16)`. -/
def parseHex (text : List Char) : Option UInt32 :=
  let digits := match text with
    | '+' :: rest => rest
    | digits => digits
  match digits.mapM hexValue with
  | none | some [] => none
  | some values =>
    let value := values.foldl (fun n d => 16 * n + d) 0
    if value < 2 ^ 32 then some (UInt32.ofNat value) else none

def parseId : List Char → Option UInt32
  | '0' :: 'x' :: text => parseHex text
  | text => parseU32 (String.ofList text)

/-- A record as an `EtcUser`.  There are no headers, so the fields go by their places, and what is
    left of the record is not looked at. -/
def etcUser : List (List Char) → Option EtcUser
  | name :: password :: uid :: gid :: gecos :: homedir :: shell :: _ => do
    let uid ← parseId uid
    let gid ← parseId gid
    return ⟨String.ofList name, String.ofList password, uid, gid, String.ofList gecos,
      String.ofList homedir, String.ofList shell⟩
  | _ => none

def etcGroup : List (List Char) → Option EtcGroup
  | name :: password :: gid :: members :: _ => do
    let gid ← parseId gid
    return ⟨String.ofList name, String.ofList password, gid,
      (members.splitOn ',').map String.ofList⟩
  | _ => none

/-- The byte order mark at the start of a file is skipped. -/
def stripBom : List Char → List Char
  | c :: text => if c = '\ufeff' then text else c :: text
  | [] => []

/-- Every record must have as many fields as the first one. -/
def sameLength (records : List (List (List Char))) : Bool :=
  records.all fun record => record.length == (records.headD []).length

abbrev CsvReader := Char → List Char → List (List (List Char))

variable (read : CsvReader)

def parse {T : Type} (deserialize : List (List Char) → Option T) (contents : List Char) :
    Except UnixIntegrationError (List T) :=
  let records := read ':' (stripBom contents)
  if sameLength records then
    match records.mapM deserialize with
    | some parsed => .ok parsed
    | none => .error .unixIntegrationError
  else .error .unixIntegrationError

def parseEtcPasswd : List Char → Except UnixIntegrationError (List EtcUser) := parse read etcUser

def parseEtcGroup : List Char → Except UnixIntegrationError (List EtcGroup) := parse read etcGroup

/-! ## 2. Reloading the `nxset` -/

structure EtcFiles where
  passwd : Except String (List Char)
  group : Except String (List Char)

def EtcUser.ids (user : EtcUser) : String × UInt32 := (user.name, user.uid)

def EtcGroup.ids (group : EtcGroup) : String × UInt32 := (group.name, group.gid)

namespace EtcFiles

variable (files : EtcFiles)

def users : Except String (List EtcUser) := do
  let contents ← files.passwd
  (parseEtcPasswd read contents).mapError fun _ => "Invalid passwd content"

def groups : Except String (List EtcGroup) := do
  let contents ← files.group
  (parseEtcGroup read contents).mapError fun _ => "Invalid group content"

def idIter : Except String (List (String × UInt32)) := do
  let users ← files.users read
  let groups ← files.groups read
  return users.map EtcUser.ids ++ groups.map EtcGroup.ids

end EtcFiles

variable {P : Type} (R : Resolver P)

def processEtcPasswdGroup (files : EtcFiles) : Op P (Except String Unit) := do
  match files.idIter read with
  | .error e => return .error e
  | .ok entries =>
    R.reloadNxset entries
    return .ok ()

variable {read} {files : EtcFiles} {entries : List (String × UInt32)} {allowIdOverrides : List Id}
  {lines : List Csv.Line}

theorem idIter_eq {users : List EtcUser} {groups : List EtcGroup}
    (husers : files.users read = .ok users) (hgroups : files.groups read = .ok groups) :
    files.idIter read = .ok (users.map EtcUser.ids ++ groups.map EtcGroup.ids) := by
  unfold EtcFiles.idIter
  rw [husers, hgroups]
  rfl

theorem nxset_processEtcPasswdGroup (h : files.idIter read = .ok entries) (s : ResolverState P) :
    ((processEtcPasswdGroup read R files).exec s).2.nxset =
      Resolver.nxsetOf R.allowIdOverrides entries := by
  unfold processEtcPasswdGroup
  rw [h]
  rfl

/-! ## 3. Users that are opted in -/

/-- The admin opted in to the name or the number of the entry. -/
def OptedIn (allowIdOverrides : List Id) (ids : String × UInt32) : Prop :=
  .gid ids.2 ∈ allowIdOverrides ∨ .name ids.1 ∈ allowIdOverrides

instance (allowIdOverrides : List Id) (ids : String × UInt32) :
    Decidable (OptedIn allowIdOverrides ids) :=
  inferInstanceAs (Decidable (_ ∨ _))

theorem mem_nxsetOf {id : Id} : id ∈ Resolver.nxsetOf allowIdOverrides entries ↔
      ∃ e ∈ entries, ¬ OptedIn allowIdOverrides e ∧ (id = .name e.1 ∨ id = .gid e.2) := by
  unfold Resolver.nxsetOf
  rw [mem_flatMap]
  refine exists_congr fun ⟨name, gid⟩ => and_congr_right fun _ => ?_
  have hcond : (allowIdOverrides.contains (.gid gid) || allowIdOverrides.contains (.name name)) =
      decide (OptedIn allowIdOverrides (name, gid)) := by
    rw [Bool.eq_iff_iff, decide_eq_true_iff]
    simp [OptedIn]
  dsimp only
  rw [hcond]
  by_cases h : OptedIn allowIdOverrides (name, gid) <;> simp [h]

theorem mem_nxsetOf_of_not {e : String × UInt32} (he : e ∈ entries)
    (hnot : ¬ OptedIn allowIdOverrides e) : .name e.1 ∈ Resolver.nxsetOf allowIdOverrides entries ∧
      .gid e.2 ∈ Resolver.nxsetOf allowIdOverrides entries :=
  ⟨mem_nxsetOf.mpr ⟨e, he, hnot, .inl rfl⟩, mem_nxsetOf.mpr ⟨e, he, hnot, .inr rfl⟩⟩

/-- What `get_usertoken` does once the `nxset` lets it. -/
def lookedUp (accountId : Id) (s : ResolverState P) :
    Except Unit (Option UserToken) × ResolverState P :=
  let r := (R.lookupUsertoken accountId).exec s
  match r.1 with
  | .error () => (.error (), r.2)
  | .ok (false, item) => (.ok item, r.2)
  | .ok (true, item) => (R.refreshUsertoken accountId item).exec r.2

/-- The id is not in the `nxset`, and `get_usertoken` for it is not cut off. -/
structure Reachable (accountId : Id) (s : ResolverState P) : Prop where
  not_mem : accountId ∉ s.nxset
  goesOn : (R.getUsertoken accountId).exec s = lookedUp R accountId s

theorem nxsetHas_iff (nxset : List Id) (id : Id) :
    Resolver.nxsetHas nxset id = true ↔ id ∈ nxset := by
  cases id <;> simp [Resolver.nxsetHas, Resolver.inNxset]

theorem reachable_iff (accountId : Id) (s : ResolverState P) :
    Reachable R accountId s ↔ accountId ∉ s.nxset := by
  refine ⟨Reachable.not_mem, fun h => ⟨h, ?_⟩⟩
  rw [Resolver.exec_getUsertoken, if_neg (mt (nxsetHas_iff _ _).mp h)]
  rfl

section OptIn

variable {users : List EtcUser} {groups : List EtcGroup} {files : EtcFiles}

def Shares (e : String × UInt32) (user : EtcUser) : Prop := e.1 = user.name ∨ e.2 = user.uid

instance (e : String × UInt32) (user : EtcUser) : Decidable (Shares e user) :=
  inferInstanceAs (Decidable (_ ∨ _))

/-- A user that is opted in stays out of the set unless another entry brings one of its ids
    back. -/
theorem not_mem_nxsetOf_iff (user : EtcUser) :
    (.name user.name ∉ Resolver.nxsetOf allowIdOverrides entries ∧
        .gid user.uid ∉ Resolver.nxsetOf allowIdOverrides entries) ↔
      ∀ e ∈ entries, ¬ OptedIn allowIdOverrides e → ¬ Shares e user := by
  simp only [mem_nxsetOf]
  constructor
  · rintro ⟨hname, huid⟩ e he hnot (hsame | hsame)
    · exact hname ⟨e, he, hnot, .inl (by rw [hsame])⟩
    · exact huid ⟨e, he, hnot, .inr (by rw [hsame])⟩
  · intro h
    constructor
    · rintro ⟨e, he, hnot, heq | heq⟩
      · exact h e he hnot (.inl (Id.name.inj heq).symm)
      · cases heq
    · rintro ⟨e, he, hnot, heq | heq⟩
      · cases heq
      · exact h e he hnot (.inr (Id.gid.inj heq).symm)

/-- After the set is reloaded, the local users that are opted in are reachable, and those that are
    not, and have nothing in common with an entry that is, are in the set, exactly if no entry
    that is not opted in has the name or the number of a user that is. -/
theorem optedIn_iff (husers : files.users read = .ok users)
    (hgroups : files.groups read = .ok groups) (s : ResolverState P) :
    let entries := users.map EtcUser.ids ++ groups.map EtcGroup.ids
    let after := ((processEtcPasswdGroup read R files).exec s).2
    ((∀ user ∈ users, OptedIn R.allowIdOverrides user.ids →
          Reachable R (.name user.name) after ∧ Reachable R (.gid user.uid) after) ∧
        ∀ user ∈ users, ¬ OptedIn R.allowIdOverrides user.ids →
          (∀ e ∈ entries, OptedIn R.allowIdOverrides e → ¬ Shares e user) →
          .name user.name ∈ after.nxset ∧ .gid user.uid ∈ after.nxset) ↔
      ∀ user ∈ users, OptedIn R.allowIdOverrides user.ids →
        ∀ e ∈ entries, ¬ OptedIn R.allowIdOverrides e → ¬ Shares e user := by
  intro entries after
  have hnxset : after.nxset = Resolver.nxsetOf R.allowIdOverrides entries :=
    nxset_processEtcPasswdGroup R (idIter_eq husers hgroups) s
  have hout : ∀ user : EtcUser,
      (Reachable R (.name user.name) after ∧ Reachable R (.gid user.uid) after) ↔
        ∀ e ∈ entries, ¬ OptedIn R.allowIdOverrides e → ¬ Shares e user := by
    intro user
    rw [reachable_iff, reachable_iff, hnxset]
    exact not_mem_nxsetOf_iff user
  constructor
  · rintro ⟨h, -⟩ user huser hopted
    exact (hout user).mp (h user huser hopted)
  · intro h
    refine ⟨fun user huser hopted => (hout user).mpr (h user huser hopted), ?_⟩
    intro user huser hnot _
    rw [hnxset]
    exact mem_nxsetOf_of_not (mem_append_left _ (mem_map_of_mem huser)) hnot

end OptIn

def aliceFiles : EtcFiles where
  passwd := .ok "alice:x:1000:1000:Alice:/home/alice:/bin/sh\n".toList
  group := .ok "alice:x:1000:\nwheel:x:10:alice\n".toList

def aliceUser : EtcUser :=
  ⟨"alice", "x", 1000, 1000, "Alice", "/home/alice", "/bin/sh"⟩

def aliceResolver : Resolver Unit := { outageResolver with allowIdOverrides := [.name "alice"] }

theorem alice_reachable :
    let after := ((processEtcPasswdGroup Csv.read aliceResolver aliceFiles).exec aliceState).2
    aliceFiles.users Csv.read = .ok [aliceUser] ∧
      Reachable aliceResolver (.name "alice") after ∧
      Reachable aliceResolver (.gid 1000) after := by
  have husers : aliceFiles.users Csv.read = .ok [aliceUser] := by decide +kernel
  have hgroups : aliceFiles.groups Csv.read = .ok [⟨"alice", "x", 1000, [""]⟩,
      ⟨"wheel", "x", 10, ["alice"]⟩] := by decide +kernel
  refine ⟨husers, ((optedIn_iff aliceResolver husers hgroups aliceState).mpr ?_).1 aliceUser
    (mem_singleton_self _) (by decide)⟩
  simp only [mem_singleton, forall_eq]
  decide

/-- The user's group is another one: the group is not opted in, and its number is the user's. -/
theorem alice_cut_off :
    let files : EtcFiles := { aliceFiles with group := .ok "users:x:1000:\n".toList }
    let after := ((processEtcPasswdGroup Csv.read aliceResolver files).exec aliceState).2
    files.users Csv.read = .ok [aliceUser] ∧ OptedIn aliceResolver.allowIdOverrides aliceUser.ids ∧
      .gid 1000 ∈ after.nxset ∧ ¬ Reachable aliceResolver (.gid 1000) after := by
  refine ⟨by decide +kernel, by decide, by decide +kernel, ?_⟩
  rw [reachable_iff]
  decide +kernel

/-! ## 4. Files that are read line by line -/

structure Format (T : Type) where
  deserialize : List (List Char) → Option T
  ids : T → String × UInt32
  width : ℕ
  two_le : 2 ≤ width
  width_le : ∀ {record t}, deserialize record = some t → width ≤ record.length
  head_eq : ∀ {record t}, deserialize record = some t → record.head? = some (ids t).1.toList

def passwdFormat : Format EtcUser where
  deserialize := etcUser
  ids := EtcUser.ids
  width := 7
  two_le := by decide
  width_le := by
    intro record user h
    unfold etcUser at h
    split at h
    · simp only [length_cons]
      omega
    · cases h
  head_eq := by
    intro record user h
    unfold etcUser at h
    split at h
    · obtain ⟨uid, -, h⟩ := Option.bind_eq_some_iff.mp h
      obtain ⟨gid, -, h⟩ := Option.bind_eq_some_iff.mp h
      cases h
      simp [EtcUser.ids]
    · cases h

def groupFormat : Format EtcGroup where
  deserialize := etcGroup
  ids := EtcGroup.ids
  width := 4
  two_le := by decide
  width_le := by
    intro record group h
    unfold etcGroup at h
    split at h
    · simp only [length_cons]
      omega
    · cases h
  head_eq := by
    intro record group h
    unfold etcGroup at h
    split at h
    · obtain ⟨gid, -, h⟩ := Option.bind_eq_some_iff.mp h
      cases h
      simp [EtcGroup.ids]
    · cases h

namespace Format

variable {T : Type} (F : Format T)

/-- The line has the format's fields, and its record is deserialised with its name and with this
    id. -/
structure Describes (line : Csv.Line) (id : UInt32) : Prop where
  plain : line.Plain ':'
  width : line.middle.length + 2 = F.width
  record : ∀ record, Csv.RecordOf ':' line record →
    ∃ t, F.deserialize record = some t ∧ F.ids t = (String.ofList line.name, id)

end Format

/-- The lines are read as they are meant: the reader takes none of their characters for a quotation
    that goes on, a line end or a byte order mark. -/
structure LineByLine (lines : List Csv.Line) : Prop where
  noMark : ∀ line ∈ lines.head?, line.name.head? ≠ some '\ufeff'
  legible : Csv.Legible lines

theorem lineByLine_of_unquoted (hmark : ∀ line ∈ lines.head?, line.name.head? ≠ some '\ufeff')
    (h : ∀ line ∈ lines, ∀ f ∈ line.name :: line.last :: line.middle,
      f.head? ≠ some '"' ∧ '\r' ∉ f) :
    LineByLine lines := by
  refine ⟨hmark, ?_⟩
  clear hmark
  induction lines with
  | nil => exact trivial
  | cons line lines ih =>
    obtain ⟨hline, hlines⟩ := forall_mem_cons.mp h
    obtain ⟨hname, hrest⟩ := forall_mem_cons.mp hline
    obtain ⟨hlast, hmiddle⟩ := forall_mem_cons.mp hrest
    have hopens : line.Opens := ⟨hname.1, hname.2, fun f hf => .inl (hmiddle f hf)⟩
    have hend : Csv.BalancedAtEnd line.last := ⟨line.last, 0, (append_nil _).symm, .inl hlast⟩
    cases lines with
    | nil => exact ⟨hopens, .inr hend⟩
    | cons line' lines => exact ⟨hopens, hend, ih hlines⟩

theorem delimits_colon : Csv.Delimits ':' := ⟨by decide, by decide⟩

theorem mapM_eq_some_iff {T : Type} {deserialize : List (List Char) → Option T}
    {records : List (List (List Char))} {parsed : List T} :
    records.mapM deserialize = some parsed ↔
      Forall₂ (fun record t => deserialize record = some t) records parsed := by
  induction records generalizing parsed with
  | nil => simp [eq_comm]
  | cons record records ih =>
    rw [mapM_cons]
    constructor
    · intro h
      obtain ⟨t, ht, h⟩ := Option.bind_eq_some_iff.mp h
      obtain ⟨ts, hts, heq⟩ := Option.bind_eq_some_iff.mp h
      cases heq
      exact .cons ht (ih.mp hts)
    · intro h
      cases h with
      | cons ht hts =>
        rw [ht, ih.mpr hts]
        rfl

theorem parse_eq_ok_iff {T : Type} {deserialize : List (List Char) → Option T}
    {contents : List Char} {parsed : List T} :
    parse Csv.read deserialize contents = .ok parsed ↔
      sameLength (Csv.read ':' (stripBom contents)) = true ∧
        (Csv.read ':' (stripBom contents)).mapM deserialize = some parsed := by
  unfold parse
  dsimp only
  split
  · rename_i hsame
    split
    · rename_i hmap
      simp [hsame, hmap]
    · rename_i hmap
      simp [hmap]
  · rename_i hsame
    simp [hsame]

theorem stripBom_render (nl : List Char)
    (h : ∀ line ∈ lines.head?, line.name.head? ≠ some '\ufeff') :
    stripBom (Csv.render ':' nl lines) = Csv.render ':' nl lines := by
  cases lines with
  | nil => rfl
  | cons line lines =>
    obtain ⟨rest, hrest⟩ := Csv.exists_render_eq ':' nl line lines
    have hmark := h line rfl
    have htext := hrest line.name
    change Csv.render ':' nl (line :: lines) = _ at htext
    rw [htext]
    cases hname : line.name with
    | nil => rfl
    | cons c name =>
      rw [hname] at hmark
      exact if_neg (fun hc => hmark (congrArg some hc))

/-- Where the reader skips a byte order mark, the first name is not what the line has. -/
theorem noMark_of_heads {k : ℕ} (hk : 2 ≤ k) {nl : List Char} (hnl : ':' ∉ nl)
    (hplain : ∀ line ∈ lines, line.Plain ':' ∧ line.middle.length + 2 = k)
    (hwidths : ∀ record ∈ Csv.read ':' (stripBom (Csv.render ':' nl lines)), k ≤ record.length)
    (hheads : (Csv.read ':' (stripBom (Csv.render ':' nl lines))).map head? =
      lines.map fun line => some line.name) :
    ∀ line ∈ lines.head?, line.name.head? ≠ some '\ufeff' := by
  cases lines with
  | nil => nofun
  | cons line lines =>
    rintro _ ⟨⟩ hmark
    obtain ⟨name, hname⟩ : ∃ name, line.name = '\ufeff' :: name := by
      cases hname : line.name with
      | nil =>
        rw [hname] at hmark
        cases hmark
      | cons c name =>
        rw [hname] at hmark
        exact ⟨name, by rw [Option.some.inj hmark]⟩
    obtain ⟨rest, hrest⟩ := Csv.exists_render_eq ':' nl line lines
    have htext : stripBom (Csv.render ':' nl (line :: lines)) =
        Csv.render ':' nl ({ line with name := name } :: lines) := by
      have hline := hrest line.name
      change Csv.render ':' nl (line :: lines) = _ at hline
      rw [hline, hrest name, hname]
      rfl
    rw [htext] at hwidths hheads
    obtain ⟨⟨hl, hwidth⟩, hlines⟩ := forall_mem_cons.mp hplain
    have hl' : ({ line with name := name } : Csv.Line).Plain ':' := by
      have hmem : ∀ c ∈ name, c ∈ line.name := fun c hc => hname ▸ mem_cons_of_mem _ hc
      exact ⟨⟨fun hc => hl.name.1 (hmem _ hc), fun hc => hl.name.2 (hmem _ hc)⟩, hl.middle, hl.last⟩
    have hle := Csv.length_first_le delimits_colon hnl hk
      (forall_mem_cons.mpr ⟨⟨hl', hwidth⟩, hlines⟩) hwidths (length_map _) hheads
    rw [hname] at hle
    exact Nat.not_succ_le_self _ hle

namespace Format

variable {T : Type} {F : Format T} {records : List (List (List Char))} {parsed : List T}
  {lines : List (Csv.Line × UInt32)} {nl : List Char}

theorem widths_and_heads
    (h : Forall₂ (fun record t => F.deserialize record = some t) records parsed) :
    (∀ record ∈ records, F.width ≤ record.length) ∧
      records.map head? = parsed.map fun t => some (F.ids t).1.toList := by
  induction h with
  | nil => exact ⟨nofun, rfl⟩
  | cons ht _ ih =>
    refine ⟨forall_mem_cons.mpr ⟨F.width_le ht, ih.1⟩, ?_⟩
    rw [map_cons, map_cons, F.head_eq ht, ih.2]

theorem exists_parsed (h : ∀ l ∈ lines, F.Describes l.1 l.2)
    (hrecords : Forall₂ (Csv.RecordOf ':') (lines.map Prod.fst) records) :
    (∀ record ∈ records, record.length = F.width) ∧
      ∃ parsed, Forall₂ (fun record t => F.deserialize record = some t) records parsed ∧
        parsed.map F.ids = lines.map fun l => (String.ofList l.1.name, l.2) := by
  induction lines generalizing records with
  | nil =>
    cases hrecords
    exact ⟨nofun, [], .nil, rfl⟩
  | cons l lines ih =>
    cases hrecords with
    | @cons _ record _ records hrecord hrest =>
      obtain ⟨hl, hlines⟩ := forall_mem_cons.mp h
      obtain ⟨hwidth, parsed, hparsed, hids⟩ := ih hlines hrest
      obtain ⟨t, ht, hid⟩ := hl.record record hrecord
      have hlength : record.length = F.width := by
        obtain ⟨last, rfl⟩ := hrecord
        have hl := hl.width
        simp only [length_append, length_cons, length_map, length_nil]
        omega
      refine ⟨forall_mem_cons.mpr ⟨hlength, hwidth⟩, t :: parsed, .cons ht hparsed, ?_⟩
      rw [map_cons, map_cons, hid, hids]

theorem sameLength_of_forall {k : ℕ} (h : ∀ record ∈ records, record.length = k) :
    sameLength records = true := by
  unfold sameLength
  rw [all_eq_true]
  intro record hrecord
  cases records with
  | nil => cases hrecord
  | cons first rest =>
    rw [h record hrecord, headD_cons, h first mem_cons_self]
    exact beq_self_eq_true k

/-- A file of the format is parsed to one record for each line, with the line's name and id,
    exactly if it is read line by line. -/
theorem parse_iff (h : ∀ l ∈ lines, F.Describes l.1 l.2) (hnl : nl = [] ∨ nl = ['\n']) :
    (∃ parsed, parse Csv.read F.deserialize (Csv.render ':' nl (lines.map Prod.fst)) = .ok parsed ∧
        parsed.map F.ids = lines.map fun l => (String.ofList l.1.name, l.2)) ↔
      LineByLine (lines.map Prod.fst) := by
  have hplain : ∀ line ∈ lines.map Prod.fst,
      line.Plain ':' ∧ line.middle.length + 2 = F.width := by
    intro line hline
    obtain ⟨l, hl, rfl⟩ := mem_map.mp hline
    exact ⟨(h l hl).plain, (h l hl).width⟩
  have hiff := Csv.read_render_iff delimits_colon hnl F.two_le hplain
  constructor
  · rintro ⟨parsed, hparse, hids⟩
    obtain ⟨-, hmap⟩ := parse_eq_ok_iff.mp hparse
    obtain ⟨hwidths, hheads⟩ := widths_and_heads (mapM_eq_some_iff.mp hmap)
    have hnames : parsed.map (fun t => some (F.ids t).1.toList) =
        (lines.map Prod.fst).map fun line => some line.name := by
      have hsome := congrArg (map fun ids : String × UInt32 => some ids.1.toList) hids
      simpa [Function.comp_def] using hsome
    rw [hnames] at hheads
    have hnl' : ':' ∉ nl := by
      rcases hnl with rfl | rfl <;> decide
    have hnoMark := noMark_of_heads F.two_le hnl' hplain hwidths hheads
    rw [stripBom_render nl hnoMark] at hwidths hheads
    exact ⟨hnoMark, hiff.mp ⟨hwidths, hheads⟩⟩
  · rintro ⟨hnoMark, hread⟩
    obtain ⟨records, hfinal, hrecords⟩ := hread.final_render delimits_colon hnl
      (R := []) fun line hline => (hplain line hline).1
    obtain ⟨hwidth, parsed, hparsed, hids⟩ := exists_parsed h hrecords
    have hfinal : Csv.read ':' (Csv.render ':' nl (lines.map Prod.fst)) = records := hfinal
    refine ⟨parsed, parse_eq_ok_iff.mpr ?_, hids⟩
    rw [stripBom_render nl hnoMark, hfinal]
    exact ⟨sameLength_of_forall hwidth, mapM_eq_some_iff.mpr hparsed⟩

end Format

/-! ## 5. The two files -/

structure Numeral (text : List Char) (id : UInt32) : Prop where
  digits : text.all Char.isDigit = true
  value : parseU32 (String.ofList text) = some id

def IsField (text : List Char) : Prop := ':' ∉ text ∧ '\n' ∉ text

instance (text : List Char) : Decidable (IsField text) := inferInstanceAs (Decidable (_ ∧ _))

structure PasswdLine where
  name : List Char
  password : List Char
  uidText : List Char
  gidText : List Char
  gecos : List Char
  homedir : List Char
  shell : List Char
  uid : UInt32
  gid : UInt32
  fields : ∀ text ∈ [name, password, gecos, homedir, shell], IsField text
  uid_numeral : Numeral uidText uid
  gid_numeral : Numeral gidText gid

structure GroupLine where
  name : List Char
  password : List Char
  gidText : List Char
  members : List Char
  gid : UInt32
  fields : ∀ text ∈ [name, password, members], IsField text
  gid_numeral : Numeral gidText gid

def PasswdLine.line (l : PasswdLine) : Csv.Line :=
  ⟨l.name, [l.password, l.uidText, l.gidText, l.gecos, l.homedir], l.shell⟩

def GroupLine.line (l : GroupLine) : Csv.Line := ⟨l.name, [l.password, l.gidText], l.members⟩

def contents (lines : List Csv.Line) (newline : Bool) : List Char :=
  Csv.render ':' (if newline then ['\n'] else []) lines

section Numerals

variable {text : List Char} {id : UInt32}

theorem Numeral.ne (h : Numeral text id) {c : Char} (hc : c.isDigit = false) : c ∉ text := by
  intro hmem
  rw [all_eq_true.mp h.digits c hmem] at hc
  cases hc

theorem Numeral.isField (h : Numeral text id) : IsField text :=
  ⟨h.ne (by decide), h.ne (by decide)⟩

theorem Numeral.parseId (h : Numeral text id) : parseId text = some id := by
  unfold EtcPasswd.parseId
  split
  · exact absurd (mem_cons_of_mem _ mem_cons_self) (h.ne (by decide))
  · exact h.value

theorem Numeral.fieldValue (h : Numeral text id) : Csv.fieldValue ':' text = text := by
  refine Csv.fieldValue_plain h.isField.1 ?_ ?_
  · intro hquote
    exact h.ne (c := '"') (by decide) (mem_of_mem_head? hquote)
  · exact (Csv.noTerminator_iff h.isField.2).mpr (h.ne (by decide))

end Numerals

theorem PasswdLine.describes (l : PasswdLine) : passwdFormat.Describes l.line l.uid where
  plain := by
    refine ⟨l.fields l.name (by simp), ?_, l.fields l.shell (by simp)⟩
    simp only [PasswdLine.line, forall_mem_cons]
    exact ⟨l.fields _ (by simp), l.uid_numeral.isField, l.gid_numeral.isField,
      l.fields _ (by simp), l.fields _ (by simp), nofun⟩
  width := rfl
  record := by
    rintro record ⟨last, rfl⟩
    refine ⟨⟨String.ofList l.name, String.ofList (Csv.fieldValue ':' l.password), l.uid, l.gid,
      String.ofList (Csv.fieldValue ':' l.gecos), String.ofList (Csv.fieldValue ':' l.homedir),
      String.ofList last⟩, ?_, rfl⟩
    simp [passwdFormat, etcUser, PasswdLine.line, l.uid_numeral.fieldValue,
      l.gid_numeral.fieldValue, l.uid_numeral.parseId, l.gid_numeral.parseId]

theorem GroupLine.describes (l : GroupLine) : groupFormat.Describes l.line l.gid where
  plain := by
    refine ⟨l.fields l.name (by simp), ?_, l.fields l.members (by simp)⟩
    simp only [GroupLine.line, forall_mem_cons]
    exact ⟨l.fields _ (by simp), l.gid_numeral.isField, nofun⟩
  width := rfl
  record := by
    rintro record ⟨last, rfl⟩
    refine ⟨⟨String.ofList l.name, String.ofList (Csv.fieldValue ':' l.password), l.gid,
      (last.splitOn ',').map String.ofList⟩, ?_, rfl⟩
    simp [groupFormat, etcGroup, GroupLine.line, l.gid_numeral.fieldValue, l.gid_numeral.parseId]

def PasswdLine.ids (l : PasswdLine) : String × UInt32 := (String.ofList l.name, l.uid)

def GroupLine.ids (l : GroupLine) : String × UInt32 := (String.ofList l.name, l.gid)

theorem Format.parse_contents_iff {T L : Type} (F : Format T) {line : L → Csv.Line}
    {id : L → UInt32} (h : ∀ l, F.Describes (line l) (id l)) (lines : List L) (newline : Bool) :
    (∃ parsed, parse Csv.read F.deserialize (contents (lines.map line) newline) = .ok parsed ∧
        parsed.map F.ids = lines.map fun l => (String.ofList (line l).name, id l)) ↔
      LineByLine (lines.map line) := by
  have hnl : (if newline then ['\n'] else []) = [] ∨ (if newline then ['\n'] else []) = ['\n'] := by
    cases newline with
    | false => exact .inl rfl
    | true => exact .inr rfl
  have hlines : ∀ l ∈ lines.map fun l => (line l, id l), F.Describes l.1 l.2 := by
    intro l hl
    obtain ⟨l, -, rfl⟩ := mem_map.mp hl
    exact h l
  have hiff := F.parse_iff hlines hnl
  simpa only [map_map, Function.comp_def, contents] using hiff

section Files

variable (users : List PasswdLine) (groups : List GroupLine) (newline newline' : Bool)

def passwdContents : List Char := contents (users.map PasswdLine.line) newline

def groupContents : List Char := contents (groups.map GroupLine.line) newline

theorem mem_nxset_of_parsed (hR : R.allowIdOverrides = []) (h : files.idIter read = .ok entries)
    (s : ResolverState P) : ∀ ids ∈ entries,
      .name ids.1 ∈ ((processEtcPasswdGroup read R files).exec s).2.nxset ∧
        .gid ids.2 ∈ ((processEtcPasswdGroup read R files).exec s).2.nxset := by
  intro ids hids
  have hnot : ¬ OptedIn R.allowIdOverrides ids := by
    rw [hR]
    rintro (hmem | hmem) <;> cases hmem
  rw [nxset_processEtcPasswdGroup R h]
  exact mem_nxsetOf_of_not hids hnot

/-- With the default rules for quotes, each file is parsed to one record for each line, with the
    name and the id of the line, and all of them are in the `nxset`, exactly if both files are read
    line by line. -/
theorem parsed_iff (hread : read = Csv.read) (hR : R.allowIdOverrides = []) (s : ResolverState P) :
    let files : EtcFiles :=
      ⟨.ok (passwdContents users newline), .ok (groupContents groups newline')⟩
    let after := ((processEtcPasswdGroup read R files).exec s).2
    ((∃ parsed, parseEtcPasswd read (passwdContents users newline) = .ok parsed ∧
          parsed.map EtcUser.ids = users.map PasswdLine.ids) ∧
        (∃ parsed, parseEtcGroup read (groupContents groups newline') = .ok parsed ∧
          parsed.map EtcGroup.ids = groups.map GroupLine.ids) ∧
        ∀ ids ∈ users.map PasswdLine.ids ++ groups.map GroupLine.ids,
          .name ids.1 ∈ after.nxset ∧ .gid ids.2 ∈ after.nxset) ↔
      LineByLine (users.map PasswdLine.line) ∧ LineByLine (groups.map GroupLine.line) := by
  subst hread
  intro files after
  have husers := passwdFormat.parse_contents_iff PasswdLine.describes users newline
  have hgroups := groupFormat.parse_contents_iff GroupLine.describes groups newline'
  constructor
  · rintro ⟨hparsed, hparsed', -⟩
    exact ⟨husers.mp hparsed, hgroups.mp hparsed'⟩
  · rintro ⟨hlines, hlines'⟩
    obtain ⟨parsed, hparse, hids⟩ := husers.mpr hlines
    obtain ⟨parsed', hparse', hids'⟩ := hgroups.mpr hlines'
    refine ⟨⟨parsed, hparse, hids⟩, ⟨parsed', hparse', hids'⟩, ?_⟩
    have hfiles :
        files.idIter Csv.read = .ok (parsed.map EtcUser.ids ++ parsed'.map EtcGroup.ids) :=
      idIter_eq (congrArg (Except.mapError _) hparse) (congrArg (Except.mapError _) hparse')
    have hmem := mem_nxset_of_parsed R hR hfiles s
    rw [show parsed.map EtcUser.ids = users.map PasswdLine.ids from hids,
      show parsed'.map EtcGroup.ids = groups.map GroupLine.ids from hids'] at hmem
    exact hmem

end Files

def aliceLine : PasswdLine where
  name := "alice".toList
  password := "x".toList
  uidText := "1000".toList
  gidText := "1000".toList
  gecos := "Alice \"Al\" A".toList
  homedir := "/home/alice".toList
  shell := "/bin/sh".toList
  uid := 1000
  gid := 1000
  fields := by decide
  uid_numeral := ⟨by decide, by decide⟩
  gid_numeral := ⟨by decide, by decide⟩

def usersLine : GroupLine where
  name := "users".toList
  password := "x".toList
  gidText := "100".toList
  members := "alice,bob".toList
  gid := 100
  fields := by decide
  gid_numeral := ⟨by decide, by decide⟩

theorem alice_parsed :
    let files : EtcFiles :=
      ⟨.ok (passwdContents [aliceLine] true), .ok (groupContents [usersLine] true)⟩
    let after := ((processEtcPasswdGroup Csv.read outageResolver files).exec aliceState).2
    .name "alice" ∈ after.nxset ∧ .gid 1000 ∈ after.nxset ∧ .name "users" ∈ after.nxset ∧
      .gid 100 ∈ after.nxset := by
  have hlines : LineByLine ([aliceLine].map PasswdLine.line) :=
    lineByLine_of_unquoted (by decide) (by decide)
  have hlines' : LineByLine ([usersLine].map GroupLine.line) :=
    lineByLine_of_unquoted (by decide) (by decide)
  obtain ⟨-, -, hall⟩ := (parsed_iff outageResolver [aliceLine] [usersLine] true true rfl rfl
    aliceState).mpr ⟨hlines, hlines'⟩
  have halice := hall ("alice", 1000) (by decide)
  have husers := hall ("users", 100) (by decide)
  exact ⟨halice.1, halice.2, husers.1, husers.2⟩

def bobLine : PasswdLine where
  name := "bob".toList
  password := "x".toList
  uidText := "1001".toList
  gidText := "1001".toList
  gecos := "Bob\"".toList
  homedir := "/home/bob".toList
  shell := "/bin/sh".toList
  uid := 1001
  gid := 1001
  fields := by decide
  uid_numeral := ⟨by decide, by decide⟩
  gid_numeral := ⟨by decide, by decide⟩

/-- Alice's gecos begins with a quote: both lines are one record, and Bob is not protected. -/
theorem bob_lost :
    let lines := [{ aliceLine with gecos := "\"Al".toList, fields := by decide }, bobLine]
    let files : EtcFiles := ⟨.ok (passwdContents lines true), .ok []⟩
    let after := ((processEtcPasswdGroup Csv.read outageResolver files).exec aliceState).2
    parseEtcPasswd Csv.read (passwdContents lines true) = .ok [⟨"alice", "x", 1000, 1000,
        "Al:/home/alice:/bin/sh\nbob:x:1001:1001:Bob", "/home/bob", "/bin/sh"⟩] ∧
      .name "bob" ∉ after.nxset ∧ .gid 1001 ∉ after.nxset := by
  decide +kernel

end Himmelblau.EtcPasswd
