/-
  **The records of `/etc/subuid`** before and after `add_subid_entry`.  A record is a line's fields
  between the colons, and belongs to the user whom the first field names.

  The entry is appended to the file as it is.  It is a record of its own if the text before it ends
  with its line and the user's name does not look like more than one field.  Over a whole run the
  two files are then a register of the users' first sessions (`subid_files_register`).
-/
import Himmelblau.Subids

namespace Himmelblau.Subids

open List

/-! ## 1. Pieces of a text -/

section Pieces

variable {α : Type} [BEq α] [LawfulBEq α] {x : α} {as : List α}

theorem of_mem_splitOn {piece : List α} (h : piece ∈ as.splitOn x) :
    x ∉ piece ∧ ∀ a ∈ piece, a ∈ as := by
  induction hn : as.length using Nat.strong_induction_on generalizing as with
  | _ n ih =>
    by_cases hx : x ∈ as
    · obtain ⟨first, rest, rfl, hfirst⟩ := eq_append_cons_of_mem hx
      rw [splitOn_append_cons_self, splitOn_eq_singleton hfirst] at h
      rcases mem_cons.mp h with rfl | h
      · exact ⟨hfirst, fun a ha => mem_append_left _ ha⟩
      · obtain ⟨hpiece, hmem⟩ := ih rest.length
          (by rw [← hn, length_append, length_cons]; omega) h rfl
        exact ⟨hpiece, fun a ha => mem_append_right _ (mem_cons_of_mem _ (hmem a ha))⟩
    · rw [splitOn_eq_singleton hx] at h
      rw [mem_singleton.mp h]
      exact ⟨hx, fun _ ha => ha⟩

theorem exists_splitOn_append (x : α) (as : List α) : ∃ pieces last,
    (last = [] ↔ as = [] ∨ as.getLast? = some x) ∧
      ∀ bs, x ∉ bs → (as ++ bs).splitOn x = pieces ++ [last ++ bs] := by
  induction hn : as.length using Nat.strong_induction_on generalizing as with
  | _ n ih =>
    by_cases hx : x ∈ as
    · obtain ⟨first, rest, rfl, hfirst⟩ := eq_append_cons_of_mem hx
      obtain ⟨pieces, last, hlast, hsplit⟩ := ih rest.length
        (by rw [← hn, length_append, length_cons]; omega) rest rfl
      refine ⟨first :: pieces, last, hlast.trans ?_, fun bs hbs => ?_⟩
      · cases rest with
        | nil => simp
        | cons y rest => simp
      · rw [append_assoc, cons_append, splitOn_append_cons_self,
          splitOn_eq_singleton hfirst, hsplit bs hbs]
        rfl
    · refine ⟨[], as, ?_, fun bs hbs => ?_⟩
      · constructor
        · exact .inl
        · rintro (h | h)
          · exact h
          · exact absurd (mem_of_getLast? h) hx
      · exact splitOn_eq_singleton fun h => (mem_append.mp h).elim hx hbs

end Pieces

/-! ## 2. Records -/

def records (contents : String) : List (List (List Char)) :=
  (lines contents).map (splitOn ':')

def SubidEntry.record (entry : SubidEntry) : List (List Char) :=
  [entry.username.toList, Nat.toDigits 10 entry.start.toNat, Nat.toDigits 10 entry.count.toNat]

def Owns (username : String) (record : List (List Char)) : Prop :=
  ∃ field fields, record = username.toList :: field :: fields

def HasRecord (username contents : String) : Prop :=
  ∃ record ∈ records contents, Owns username record

def EndsLine (contents : String) : Prop :=
  contents.toList = [] ∨ contents.toList.getLast? = some '\n'

/-- The records stay as they are and in their order, a new one follows exactly if the user had none,
    and a second call, for whatever range, changes nothing. -/
def AppendsOnce (path : String) (entry : SubidEntry) (contents : String) : Prop :=
  ∃ after, addSubidEntry path entry none (some contents) = (.ok (), some after) ∧
    (HasRecord entry.username contents → records after = records contents) ∧
    (¬HasRecord entry.username contents → records after = records contents ++ [entry.record]) ∧
    ∀ start count, addSubidEntry path ⟨entry.username, start, count⟩ none (some after) =
      (.ok (), some after)

def OneField (username : String) : Prop := ':' ∉ username.toList ∧ '\n' ∉ username.toList

variable {entry : SubidEntry} {contents username : String} {record : List (List Char)}

theorem notMem_lines {line : List Char} (h : line ∈ lines contents) : '\n' ∉ line := by
  unfold lines at h
  dsimp only at h
  rcases mem_append.mp h with h | h
  · obtain ⟨piece, hpiece, rfl⟩ := mem_map.mp h
    have hnone := (of_mem_splitOn (mem_of_mem_dropLast hpiece)).1
    split
    · exact fun hmem => hnone (mem_of_mem_dropLast hmem)
    · exact hnone
  · have hpiece := (mem_filter.mp h).1
    rw [Option.mem_toList] at hpiece
    exact (of_mem_splitOn (mem_of_getLast? hpiece)).1

theorem oneField_of_mem (h : record ∈ records contents) (hname : username.toList ∈ record) :
    OneField username := by
  obtain ⟨line, hline, rfl⟩ := mem_map.mp h
  obtain ⟨hcolon, hmem⟩ := of_mem_splitOn hname
  exact ⟨hcolon, fun hnewline => notMem_lines hline (hmem _ hnewline)⟩

theorem userHasSubidEntry_iff (h : OneField username) :
    userHasSubidEntry username (some contents) = true ↔ HasRecord username contents := by
  have hname : (username ++ ":").toList = username.toList ++ [':'] := by simp
  unfold HasRecord records userHasSubidEntry
  rw [any_eq_true, hname]
  simp only [mem_map, exists_exists_and_eq_and, isPrefixOf_iff_prefix]
  refine exists_congr fun line => and_congr_right fun _ => ?_
  constructor
  · rintro ⟨rest, rfl⟩
    obtain ⟨field, fields, hrest⟩ := exists_cons_of_ne_nil (splitOn_ne_nil ':' rest)
    refine ⟨field, fields, ?_⟩
    rw [append_assoc, singleton_append, splitOn_append_cons_self,
      splitOn_eq_singleton h.1, hrest]
    rfl
  · rintro ⟨field, fields, hsplit⟩
    have hline : [':'].intercalate (line.splitOn ':') = line := intercalate_splitOn ':'
    rw [hsplit] at hline
    refine ⟨[':'].intercalate (field :: fields), ?_⟩
    rw [← hline]
    simp [intercalate]

/-! ## 3. The entry that is appended -/

def SubidEntry.line (entry : SubidEntry) : List Char :=
  entry.username.toList ++ ':' :: (Nat.toDigits 10 entry.start.toNat ++
    ':' :: Nat.toDigits 10 entry.count.toNat)

theorem toList_text (entry : SubidEntry) : entry.text.toList = entry.line ++ ['\n'] := by
  simp [SubidEntry.text, SubidEntry.line]

theorem notMem_toDigits {n : ℕ} {c : Char} (h : c.isDigit = false) : c ∉ Nat.toDigits 10 n := by
  intro hmem
  rw [Nat.isDigit_of_mem_toDigits (by decide) (by decide) hmem] at h
  cases h

theorem newline_notMem_line (h : OneField entry.username) : '\n' ∉ entry.line := by
  have hdigits : ∀ n, '\n' ∉ Nat.toDigits 10 n := fun n => notMem_toDigits (by decide)
  simp [SubidEntry.line, h.2, hdigits]

theorem splitOn_line (h : OneField entry.username) : entry.line.splitOn ':' = entry.record := by
  unfold SubidEntry.line SubidEntry.record
  rw [splitOn_append_cons_self, splitOn_append_cons_self, splitOn_eq_singleton h.1,
    splitOn_eq_singleton (notMem_toDigits (by decide)),
    splitOn_eq_singleton (notMem_toDigits (by decide))]
  rfl

theorem getLast?_line_ne (text : List Char) (entry : SubidEntry) :
    (text ++ entry.line).getLast? ≠ some '\r' := by
  obtain ⟨c, hc⟩ : ∃ c, (Nat.toDigits 10 entry.count.toNat).getLast? = some c :=
    ⟨_, getLast?_eq_some_getLast Nat.toDigits_ne_nil⟩
  have hlast : (text ++ entry.line).getLast? = some c := by
    simp [SubidEntry.line, getLast?_append, getLast?_cons, hc]
  rw [hlast]
  intro heq
  cases heq
  exact notMem_toDigits (by decide) (mem_of_getLast? hc)

/-- The lines after the entry is appended: it is a line of its own after a line end, and else it
    becomes the end of the last line. -/
theorem lines_append (h : OneField entry.username) (contents : String) : ∃ before last,
    (last = [] ↔ EndsLine contents) ∧
    lines contents = before ++ (if last = [] then [] else [last]) ∧
    lines (contents ++ entry.text) = before ++ [last ++ entry.line] := by
  obtain ⟨pieces, last, hlast, hsplit⟩ := exists_splitOn_append '\n' contents.toList
  refine ⟨pieces.map fun line => if line.getLast? = some '\r' then line.dropLast else line, last,
    hlast, ?_, ?_⟩
  · have hbefore := hsplit [] not_mem_nil
    rw [append_nil, append_nil] at hbefore
    unfold lines
    dsimp only
    rw [hbefore, dropLast_concat, getLast?_concat]
    cases last <;> rfl
  · have hafter : (contents ++ entry.text).toList.splitOn '\n' =
        pieces ++ [last ++ entry.line, []] := by
      rw [String.toList_append, toList_text, ← append_assoc, splitOn_append_cons_self,
        hsplit _ (newline_notMem_line h), append_assoc]
      rfl
    unfold lines
    dsimp only
    rw [hafter, append_cons, dropLast_concat, getLast?_concat, map_append,
      map_singleton, if_neg (getLast?_line_ne last entry)]
    simp

theorem records_append (h : OneField entry.username) (hends : EndsLine contents) :
    records (contents ++ entry.text) = records contents ++ [entry.record] := by
  obtain ⟨before, last, hlast, hbefore, hafter⟩ := lines_append h contents
  unfold records
  rw [hafter, hbefore, hlast.mpr hends, map_append, map_append, ← splitOn_line h]
  simp

/-- **Append once.**  `add_subid_entry` appends one record and only once exactly if the name is one
    field of one line, and the file has a record of the user or ends with a line. -/
theorem appendsOnce_iff (path : String) (entry : SubidEntry) (contents : String) :
    AppendsOnce path entry contents ↔ OneField entry.username ∧
      (HasRecord entry.username contents ∨ EndsLine contents) := by
  constructor
  · rintro ⟨after, hadd, -, hnew, -⟩
    by_cases hhas : HasRecord entry.username contents
    · obtain ⟨record, hrecord, field, fields, rfl⟩ := hhas
      exact ⟨oneField_of_mem hrecord mem_cons_self, .inl ⟨_, hrecord, field, fields, rfl⟩⟩
    · have hrecords := hnew hhas
      have hfield : OneField entry.username :=
        oneField_of_mem (hrecords ▸ mem_append_right _ (mem_singleton_self _))
          mem_cons_self
      have habsent : userHasSubidEntry entry.username (some contents) = false := by
        rw [← Bool.not_eq_true, userHasSubidEntry_iff hfield]
        exact hhas
      rw [addSubidEntry_absent path entry habsent] at hadd
      obtain ⟨before, last, hlast, hbefore, hafter⟩ := lines_append hfield contents
      refine ⟨hfield, .inr (hlast.mp ?_)⟩
      by_contra hne
      have hlength := congrArg length hrecords
      cases hadd
      rw [Option.getD_some] at hlength
      unfold records at hlength
      rw [hafter, hbefore, if_neg hne] at hlength
      simp at hlength
  · rintro ⟨hfield, hends⟩
    by_cases hhas : HasRecord entry.username contents
    · have hpresent := (userHasSubidEntry_iff hfield).mpr hhas
      exact ⟨contents, addSubidEntry_present path entry none hpresent, fun _ => rfl,
        fun hnot => absurd hhas hnot, fun start count =>
          addSubidEntry_present path ⟨entry.username, start, count⟩ none hpresent⟩
    · have habsent : userHasSubidEntry entry.username (some contents) = false := by
        rw [← Bool.not_eq_true, userHasSubidEntry_iff hfield]
        exact hhas
      have hrecords := records_append hfield (hends.resolve_left hhas)
      refine ⟨contents ++ entry.text, addSubidEntry_absent path entry habsent,
        fun h => absurd h hhas, fun _ => hrecords, fun start count => ?_⟩
      refine addSubidEntry_present path ⟨entry.username, start, count⟩ none ?_
      refine (userHasSubidEntry_iff hfield).mpr ⟨entry.record, ?_, _, _, rfl⟩
      rw [hrecords]
      exact mem_append_right _ (mem_singleton_self _)

/-- Without a line end after bob's record, alice's becomes a part of it. -/
theorem record_merged :
    ¬AppendsOnce "/etc/subuid" ⟨"alice", 165536, 65536⟩ "bob:100000:65536" ∧
      records "bob:100000:65536alice:165536:65536\n" =
        [["bob".toList, "100000".toList, "65536alice".toList, "165536".toList,
          "65536".toList]] := by
  refine ⟨?_, by decide +kernel⟩
  rintro ⟨after, hadd, -, hnew, -⟩
  have hafter : after = "bob:100000:65536alice:165536:65536\n" := by
    have hrun : addSubidEntry "/etc/subuid" ⟨"alice", 165536, 65536⟩ none
        (some "bob:100000:65536") =
      (.ok (), some "bob:100000:65536alice:165536:65536\n") := by decide +kernel
    rw [hrun] at hadd
    cases hadd
    rfl
  subst hafter
  have hnone : ¬HasRecord "alice" "bob:100000:65536" := by
    rintro ⟨record, hrecord, field, fields, rfl⟩
    have hall : ∀ r ∈ records "bob:100000:65536", r.head? ≠ some "alice".toList := by decide +kernel
    exact hall _ hrecord rfl
  exact absurd (hnew hnone) (by decide +kernel)

/-! ## 4. The files are a register -/

/-- The users of each file, in the order in which they were enrolled. -/
structure Register where
  subuid : List String
  subgid : List String
  deriving DecidableEq, Repr

/-- A user is enrolled once, and only if the file can be opened. -/
def enrol (mappedName : String) (fault : Option AppendError) (names : List String) :
    List String :=
  if mappedName ∈ names ∨ fault ≠ none then names else names ++ [mappedName]

/-- It is the turn of `/etc/subgid` once the user is in `/etc/subuid`. -/
def Register.start (r : Register) (s : SessionStart) : Register :=
  let subuid := enrol s.mappedName s.faults.subuid r.subuid
  ⟨subuid, if s.mappedName ∈ subuid then enrol s.mappedName s.faults.subgid r.subgid
    else r.subgid⟩

/-- The file has one record for each of the users, with the range that the name hashes to. -/
def Holds (toLowercase : String → String) (subidRange : UInt32 × UInt32)
    (file : Option String) (names : List String) : Prop :=
  ∃ contents, file = some contents ∧ EndsLine contents ∧
    records contents = names.map fun name => (entryOf toLowercase subidRange name).record

section Register

variable {toLowercase : String → String} {subidRange : UInt32 × UInt32} {file : Option String}
  {names : List String} {name : String} {fault : Option AppendError}

theorem mem_enrol : username ∈ enrol name fault names ↔
    username ∈ names ∨ username = name ∧ fault = none := by
  unfold enrol
  by_cases hmem : name ∈ names
  · rw [if_pos (.inl hmem)]
    exact ⟨.inl, fun h => h.elim id fun heq => heq.1 ▸ hmem⟩
  · cases fault <;> simp [hmem]

theorem nodup_enrol (h : names.Nodup) : (enrol name fault names).Nodup := by
  unfold enrol
  split
  · exact h
  · next hnew =>
    rw [← concat_eq_append]
    exact h.concat fun hmem => hnew (.inl hmem)

theorem Holds.hasRecord_iff (h : records contents = names.map fun name =>
    (entryOf toLowercase subidRange name).record) : HasRecord name contents ↔ name ∈ names := by
  unfold HasRecord
  rw [h]
  constructor
  · rintro ⟨record, hrecord, field, fields, rfl⟩
    obtain ⟨name', hmem, heq⟩ := mem_map.mp hrecord
    obtain rfl : name' = name := String.toList_inj.mp (cons.inj heq).1
    exact hmem
  · exact fun hmem => ⟨_, mem_map_of_mem hmem, _, _, rfl⟩

theorem endsLine_append (contents : String) (entry : SubidEntry) :
    EndsLine (contents ++ entry.text) :=
  .inr (by rw [String.toList_append, toList_text, ← append_assoc, getLast?_concat])

theorem Holds.add (h : Holds toLowercase subidRange file names) (hname : OneField name)
    (path : String) (fault : Option AppendError) :
    Holds toLowercase subidRange
      (addSubidEntry path (entryOf toLowercase subidRange name) fault file).2
      (enrol name fault names) ∧
    ((addSubidEntry path (entryOf toLowercase subidRange name) fault file).1 = .ok () ↔
      name ∈ enrol name fault names) := by
  obtain ⟨contents, rfl, hends, hrecords⟩ := h
  have hhas := (userHasSubidEntry_iff hname).trans (Holds.hasRecord_iff hrecords)
  by_cases hmem : name ∈ names
  · rw [addSubidEntry_present path (entryOf _ _ name) fault (hhas.mpr hmem), enrol,
      if_pos (.inl hmem)]
    exact ⟨⟨contents, rfl, hends, hrecords⟩, iff_of_true rfl hmem⟩
  · have habsent : userHasSubidEntry name (some contents) = false := by
      rw [← Bool.not_eq_true, hhas]
      exact hmem
    cases fault with
    | none =>
      rw [addSubidEntry_absent path (entryOf _ _ name) habsent, enrol, if_neg (by simp [hmem])]
      refine ⟨⟨_, rfl, endsLine_append _ _, ?_⟩, by simp⟩
      rw [Option.getD_some, records_append hname hends, hrecords, map_append]
      rfl
    | some e =>
      rw [addSubidEntry_fault path (entryOf _ _ name) e habsent, enrol, if_pos (.inr nofun)]
      exact ⟨⟨contents, rfl, hends, hrecords⟩, iff_of_false nofun hmem⟩

/-- The name is one field, and no write fails after the file was opened. -/
def SessionStart.Whole (s : SessionStart) : Prop :=
  OneField s.mappedName ∧
    ∀ e, s.faults.subuid ≠ some (.writeFails e) ∧ s.faults.subgid ≠ some (.writeFails e)

def Journal.Holds (toLowercase : String → String) (subidRange : UInt32 × UInt32) (j : Journal)
    (r : Register) : Prop :=
  Subids.Holds toLowercase subidRange j.files.subuid r.subuid ∧
    Subids.Holds toLowercase subidRange j.files.subgid r.subgid

theorem Journal.Holds.start {j : Journal} {r : Register} (h : j.Holds toLowercase subidRange r)
    {s : SessionStart} (hs : s.Whole) :
    (j.start toLowercase subidRange s).Holds toLowercase subidRange (r.start s) := by
  obtain ⟨hsubuid, hok⟩ := h.1.add hs.1 "/etc/subuid" s.faults.subuid
  unfold Journal.Holds Journal.start Register.start
  dsimp only
  rw [setup_subuid]
  refine ⟨hsubuid, ?_⟩
  cases hfirst : (addSubidEntry "/etc/subuid" (entryOf toLowercase subidRange s.mappedName)
      s.faults.subuid j.files.subuid).1 with
  | ok =>
    rw [if_pos (hok.mp hfirst), setup_subgid_of_ok hfirst]
    exact (h.2.add hs.1 "/etc/subgid" s.faults.subgid).1
  | error e =>
    have habsent : s.mappedName ∉ enrol s.mappedName s.faults.subuid r.subuid := fun hmem =>
      nomatch hfirst.symm.trans (hok.mpr hmem)
    rw [if_neg habsent, setup_subgid_of_error hfirst]
    exact h.2

end Register

end Himmelblau.Subids
