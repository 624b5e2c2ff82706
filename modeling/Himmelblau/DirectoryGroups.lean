/-
  **Groups of the directory**, mirror of `group_token_from_directory_object` of
  `common/src/idprovider/himmelblau.rs`.

  A group keeps the name that the directory displays, which anyone who may create a group
  chooses.  Its gid comes from one of four sources; one of them reads that name.
-/
import Himmelblau.Idmap
import Himmelblau.NameMapping

namespace Himmelblau.DirectoryGroups

open Interface IdMap NameMapping

/-! ## 1. The token of a group -/

structure DirectoryObject where
  id : String
  displayName : Option String
  extensionAttrs : List (String × String)
  deriving DecidableEq, Repr

inductive IdAttr where
  | uuid
  | name
  | rfc2307
  deriving DecidableEq, Repr

inductive GroupError where
  | atSign
  | uuid (id : String)
  | tenantId
  | idmap (group : String) (e : IdmapError)
  | gidNumber (value : String)
  | noGidNumber (name : String)
  deriving DecidableEq, Repr

/-- What the provider reads: its configuration, the id map, the static id map (if it opens),
    the tenant id (if it can be had) and `Uuid::parse_str`. -/
structure GroupSource where
  idAttrMap : IdAttr
  rfc2307GroupFallbackMap : Option IdAttr
  idmap : Idmap
  staticIdCache : Option (String → Option UInt32)
  tenantId : Option String
  parseUuid : String → Option Uuid
  toLowercase : String → String
  normalize : String → Option (List UInt8)

/-- `text.parse::<u32>()`: digits, after an optional sign. -/
def parseU32 (text : String) : Option UInt32 :=
  let digits := match text.toList with
    | '+' :: rest => rest
    | digits => digits
  if digits ≠ [] ∧ digits.all Char.isDigit then
    let value := digits.foldl (fun n c => 10 * n + (c.toNat - '0'.toNat)) 0
    if value < 2 ^ 32 then some (UInt32.ofNat value) else none
  else none

namespace GroupSource

variable (G : GroupSource)

def gidOfObjectId (id : Uuid) : Except GroupError UInt32 :=
  match G.tenantId with
  | none => .error .tenantId
  | some tenantId =>
    match G.idmap.objectIdToUnixId tenantId (.fromObjectId id) with
    | .error e => .error (.idmap id.hyphenated e)
    | .ok gid => .ok gid

/-- The hashed id of `input`; an error tells `group`. -/
def gidOfInput (input group : String) : Except GroupError UInt32 :=
  match G.tenantId with
  | none => .error .tenantId
  | some tenantId =>
    match G.idmap.genToUnix G.toLowercase G.normalize tenantId input with
    | .error e => .error (.idmap group e)
    | .ok gid => .ok gid

def gidnumberOf (name : String) (id : Uuid) (extensionAttrs : List (String × String)) :
    Except GroupError UInt32 :=
  match G.staticIdCache.bind fun cache => cache id.hyphenated with
  | some gid => .ok gid
  | none =>
    match G.idAttrMap with
    | .uuid => G.gidOfObjectId id
    | .name => G.gidOfInput id.hyphenated name
    | .rfc2307 =>
      match extensionAttrs.lookup "gidNumber" with
      | some gidNumber =>
        match parseU32 gidNumber with
        | some gid => .ok gid
        | none => .error (.gidNumber gidNumber)
      | none =>
        match G.rfc2307GroupFallbackMap with
        | some .uuid => G.gidOfObjectId id
        | some .name => G.gidOfInput name name
        | _ => .error (.noGidNumber name)

def nameOf (value : DirectoryObject) : String := value.displayName.getD value.id

def groupTokenFromDirectoryObject (value : DirectoryObject) : Except GroupError GroupToken :=
  let name := nameOf value
  if looksLikeUpn name then .error .atSign
  else
    match G.parseUuid value.id with
    | none => .error (.uuid value.id)
    | some id =>
      match G.gidnumberOf name id value.extensionAttrs with
      | .error e => .error e
      | .ok gidnumber => .ok { name := name, spn := name, uuid := id, gidnumber := gidnumber }

/-! ## 2. What is accepted -/

variable {G} {a b : DirectoryObject} {g g' : GroupToken}

theorem groupTokenFromDirectoryObject_eq_ok (h : G.groupTokenFromDirectoryObject a = .ok g) :
    g.name = nameOf a ∧ g.spn = nameOf a ∧ looksLikeUpn (nameOf a) = false ∧
      G.parseUuid a.id = some g.uuid ∧
      G.gidnumberOf (nameOf a) g.uuid a.extensionAttrs = .ok g.gidnumber := by
  unfold groupTokenFromDirectoryObject at h
  dsimp only at h
  split at h
  · cases h
  · rename_i hat
    split at h
    · cases h
    · rename_i id hid
      split at h
      · cases h
      · rename_i gidnumber hgid
        cases h
        have hname : looksLikeUpn (nameOf a) = false := by simpa using hat
        exact ⟨rfl, rfl, hname, hid, hgid⟩

/-! ## 3. Which gids depend on the name -/

def ReadsName (G : GroupSource) (id : Uuid) (extensionAttrs : List (String × String)) : Prop :=
  (G.staticIdCache.bind fun cache => cache id.hyphenated) = none ∧ G.idAttrMap = .rfc2307 ∧
    extensionAttrs.lookup "gidNumber" = none ∧ G.rfc2307GroupFallbackMap = some .name

instance (id : Uuid) (extensionAttrs : List (String × String)) :
    Decidable (G.ReadsName id extensionAttrs) := inferInstanceAs (Decidable (_ ∧ _))

theorem gidOfInput_eq_ok {input group : String} {gid : UInt32}
    (h : G.gidOfInput input group = .ok gid) (group' : String) :
    G.gidOfInput input group' = .ok gid := by
  unfold gidOfInput at h ⊢
  split at h
  · cases h
  · split at h
    · cases h
    · exact h

variable {extensionAttrs : List (String × String)}

theorem gidnumberOf_of_readsName {id : Uuid} (h : G.ReadsName id extensionAttrs) (name : String) :
    G.gidnumberOf name id extensionAttrs = G.gidOfInput name name := by
  obtain ⟨hstatic, hmap, hext, hfallback⟩ := h
  unfold gidnumberOf
  rw [hstatic, hmap, hext, hfallback]

theorem gidnumberOf_of_not_readsName {id : Uuid} (h : ¬ G.ReadsName id extensionAttrs)
    {name : String} {gid : UInt32} (hgid : G.gidnumberOf name id extensionAttrs = .ok gid)
    (name' : String) : G.gidnumberOf name' id extensionAttrs = .ok gid := by
  unfold gidnumberOf at hgid ⊢
  split at hgid
  · exact hgid
  · rename_i hstatic
    cases hmap : G.idAttrMap with
    | uuid =>
      rw [hmap] at hgid
      exact hgid
    | name =>
      rw [hmap] at hgid
      exact gidOfInput_eq_ok hgid name'
    | rfc2307 =>
      rw [hmap] at hgid
      dsimp only at hgid ⊢
      split at hgid
      · exact hgid
      · rename_i hext
        split at hgid
        · exact hgid
        · rename_i hfallback
          exact absurd ⟨hstatic, hmap, hext, hfallback⟩ h
        · cases hgid

/-- Two groups with the same object id and attributes get the same gid if and only if their
    gid is not made from the name, or the names have the same hash. -/
theorem gidnumber_eq_iff (hid : a.id = b.id) (hattrs : a.extensionAttrs = b.extensionAttrs)
    (ha : G.groupTokenFromDirectoryObject a = .ok g)
    (hb : G.groupTokenFromDirectoryObject b = .ok g') :
    g.gidnumber = g'.gidnumber ↔
      ¬ G.ReadsName g.uuid a.extensionAttrs ∨
        G.gidOfInput (nameOf a) (nameOf a) = G.gidOfInput (nameOf b) (nameOf b) := by
  obtain ⟨-, -, -, hua, hga⟩ := groupTokenFromDirectoryObject_eq_ok ha
  obtain ⟨-, -, -, hub, hgb⟩ := groupTokenFromDirectoryObject_eq_ok hb
  have huuid : g.uuid = g'.uuid := by
    rw [hid, hub] at hua
    exact (Option.some.inj hua).symm
  rw [← huuid, ← hattrs] at hgb
  by_cases hreads : G.ReadsName g.uuid a.extensionAttrs
  · rw [gidnumberOf_of_readsName hreads] at hga hgb
    rw [hga, hgb]
    constructor
    · intro heq
      exact .inr (congrArg Except.ok heq)
    · rintro (hnot | heq)
      · exact absurd hreads hnot
      · exact Except.ok.inj heq
  · have hsame := gidnumberOf_of_not_readsName hreads hga (nameOf b)
    rw [hgb] at hsame
    constructor
    · intro _
      exact .inl hreads
    · intro _
      exact (Except.ok.inj hsame).symm

end GroupSource

/-! A tenant -/

def asciiBytes (text : String) : Option (List UInt8) :=
  some (text.toList.map fun c => UInt8.ofNat c.toNat)

def sampleSource (idAttrMap : IdAttr) (fallback : Option IdAttr) : GroupSource where
  idAttrMap := idAttrMap
  rfc2307GroupFallbackMap := fallback
  idmap := (Idmap.new.addGenDomain "example.com" "tenant" (200000, 2000200000)).2
  staticIdCache := none
  tenantId := some "tenant"
  parseUuid text := if text = "1" then some ⟨1⟩ else if text = "2" then some ⟨2⟩ else none
  toLowercase := id
  normalize := asciiBytes

theorem gidnumber_eq_renamed :
    ∃ g g',
      (sampleSource .uuid none).groupTokenFromDirectoryObject ⟨"1", some "staff", []⟩ = .ok g ∧
      (sampleSource .uuid none).groupTokenFromDirectoryObject ⟨"1", some "admins", []⟩ = .ok g' ∧
      g.name ≠ g'.name ∧ g.gidnumber = g'.gidnumber := by
  have hstaff : (sampleSource .uuid none).groupTokenFromDirectoryObject ⟨"1", some "staff", []⟩ =
      .ok ⟨"staff", "staff", ⟨1⟩, 16977216⟩ := by decide +kernel
  have hadmins : (sampleSource .uuid none).groupTokenFromDirectoryObject
      ⟨"1", some "admins", []⟩ = .ok ⟨"admins", "admins", ⟨1⟩, 16977216⟩ := by decide +kernel
  refine ⟨_, _, hstaff, hadmins, by decide, ?_⟩
  exact (GroupSource.gidnumber_eq_iff (a := ⟨"1", some "staff", []⟩)
    (b := ⟨"1", some "admins", []⟩) rfl rfl hstaff hadmins).mpr (.inl (by decide))

/-- With `id_attr_map = rfc2307` and the names as fallback, a group that has no `gidNumber`
    gets another gid under another name, and another group that copies the name gets its gid. -/
theorem gidnumber_ne_renamed :
    let gid := fun value => ((sampleSource .rfc2307 (some .name)).groupTokenFromDirectoryObject
      value).toOption.map (·.gidnumber)
    gid ⟨"1", some "staff", []⟩ = some 595517618 ∧ gid ⟨"1", some "admins", []⟩ = some 753432581 ∧
      gid ⟨"2", some "staff", []⟩ = some 595517618 := by
  decide +kernel

end Himmelblau.DirectoryGroups
