/-
  **Subordinate ids**, mirror of `gen_subid_start` of `idmap/src/lib.rs` and of
  `user_has_subid_entry`, `add_subid_entry` and `setup_subordinate_ids` of
  `daemon/src/tasks_daemon.rs`.

  The slot of a user is a hash of the name, and the task that records it only looks whether this
  user has an entry already.  Two users whose names have the same slot get the same range.
-/
import Himmelblau.Idmap
import Himmelblau.Runs

namespace Himmelblau.Subids

open IdMap

/-! ## 1. `gen_subid_start` -/

def subidCount : UInt32 := 65536

/-- How many whole slots there are in a range. -/
def numSlots (subidRange : UInt32 × UInt32) : UInt32 :=
  -- max_id.saturating_sub(min_id)
  (if subidRange.2 ≤ subidRange.1 then 0 else subidRange.2 - subidRange.1) / subidCount

def nameHash (toLowercase : String → String) (username : String) : UInt32 :=
  murmurhash3 (toLowercase username).toUTF8.toList 0xdeadbeef

def genSubidStart (toLowercase : String → String) (username : String)
    (subidRange : UInt32 × UInt32) : UInt32 :=
  if numSlots subidRange = 0 then
    -- Range is too small, just return min_id
    subidRange.1
  else
    let hash := nameHash toLowercase username
    let slot := hash % numSlots subidRange
    subidRange.1 + slot * subidCount

def slotOf (toLowercase : String → String) (subidRange : UInt32 × UInt32)
    (username : String) : ℕ :=
  (nameHash toLowercase username).toNat % max 1 (numSlots subidRange).toNat

variable {toLowercase : String → String} {subidRange : UInt32 × UInt32} (entry : SubidEntry)
  (path : String)

theorem numSlots_mul_le (subidRange : UInt32 × UInt32) :
    (numSlots subidRange).toNat * 65536 ≤ subidRange.2.toNat - subidRange.1.toNat := by
  unfold numSlots
  rw [UInt32.toNat_div]
  change _ / 65536 * 65536 ≤ _
  split
  · simp
  · next h =>
    have hle : subidRange.1 ≤ subidRange.2 := UInt32.le_of_lt (UInt32.not_le.mp h)
    rw [UInt32.toNat_sub_of_le _ _ hle]
    exact Nat.div_mul_le_self _ _

/-- The start of the slot that a hash is mapped to. -/
def startOfHash (subidRange : UInt32 × UInt32) (hash : UInt32) : UInt32 :=
  subidRange.1 + hash % numSlots subidRange * subidCount

theorem toNat_startOfHash (hpos : 0 < (numSlots subidRange).toNat) (hash : UInt32) :
    (startOfHash subidRange hash).toNat =
      subidRange.1.toNat + hash.toNat % (numSlots subidRange).toNat * 65536 := by
  have hslots := numSlots_mul_le subidRange
  have hslot := Nat.mod_lt hash.toNat hpos
  have hmax := subidRange.2.toNat_lt
  unfold startOfHash
  rw [UInt32.toNat_add, UInt32.toNat_mul, UInt32.toNat_mod]
  change (_ + _ * 65536 % 4294967296) % 4294967296 = _
  generalize hash.toNat % (numSlots subidRange).toNat = slot at hslot ⊢
  generalize (numSlots subidRange).toNat = slots at hslots hslot
  omega

theorem numSlots_pos_iff : 0 < (numSlots subidRange).toNat ↔ numSlots subidRange ≠ 0 := by
  rw [Nat.pos_iff_ne_zero, ne_eq, ne_eq, ← UInt32.toNat_inj]
  rfl

theorem toNat_genSubidStart (username : String) :
    (genSubidStart toLowercase username subidRange).toNat =
      subidRange.1.toNat + slotOf toLowercase subidRange username * 65536 := by
  unfold genSubidStart slotOf
  by_cases hnone : numSlots subidRange = 0
  · rw [if_pos hnone, hnone]
    change _ = _ + _ % 1 * 65536
    rw [Nat.mod_one, Nat.zero_mul, Nat.add_zero]
  · have hpos := numSlots_pos_iff.mpr hnone
    rw [if_neg hnone, max_eq_right hpos]
    exact toNat_startOfHash hpos _

theorem numSlots_pos (h : subidRange.1.toNat + 65536 ≤ subidRange.2.toNat) :
    0 < (numSlots subidRange).toNat := by
  have hlt : ¬subidRange.2 ≤ subidRange.1 := by
    rw [UInt32.le_iff_toNat_le]
    omega
  unfold numSlots
  rw [if_neg hlt, UInt32.toNat_div,
    UInt32.toNat_sub_of_le _ _ (UInt32.le_of_lt (UInt32.not_le.mp hlt))]
  change 0 < _ / 65536
  omega

/-- **Whole slots.**  In a range with room for one slot, whatever the hash of the name is, the start
    is computed without wrapping and is that of a whole slot inside the range, and two slots are
    equal or disjoint.  The name counts in lower case. -/
theorem genSubidStart_slots (toLowercase : String → String)
    (hroom : subidRange.1.toNat + 65536 ≤ subidRange.2.toNat) :
    (∀ hash, (startOfHash subidRange hash).toNat =
        subidRange.1.toNat + hash.toNat % (numSlots subidRange).toNat * 65536 ∧
      (startOfHash subidRange hash).toNat + 65536 ≤ subidRange.2.toNat) ∧
    (∀ hash hash', startOfHash subidRange hash = startOfHash subidRange hash' ∨
      (startOfHash subidRange hash).toNat + 65536 ≤ (startOfHash subidRange hash').toNat ∨
      (startOfHash subidRange hash').toNat + 65536 ≤ (startOfHash subidRange hash).toNat) ∧
    ∀ username, genSubidStart toLowercase username subidRange =
        startOfHash subidRange (nameHash toLowercase username) ∧
      ∀ username', toLowercase username' = toLowercase username →
        genSubidStart toLowercase username' subidRange =
          genSubidStart toLowercase username subidRange := by
  have hpos := numSlots_pos hroom
  have hslots := numSlots_mul_le subidRange
  have hstart := toNat_startOfHash hpos
  refine ⟨fun hash => ⟨hstart hash, ?_⟩, fun hash hash' => ?_, fun username =>
    ⟨if_neg (numSlots_pos_iff.mp hpos), fun username' hsame => ?_⟩⟩
  · have hslot := Nat.mod_lt hash.toNat hpos
    rw [hstart]
    omega
  · rw [← UInt32.toNat_inj, hstart, hstart]
    omega
  · unfold genSubidStart nameHash
    rw [hsame]

theorem genSubidStart_default :
    numSlots (2100000000, 4200000000) = 32043 ∧
      (genSubidStart id "anna.vogel@example.com" (2100000000, 4200000000)).toNat =
        2100000000 + (nameHash id "anna.vogel@example.com").toNat % 32043 * 65536 := by
  obtain ⟨hslots, -, hnames⟩ := @genSubidStart_slots (2100000000, 4200000000) id (by decide)
  refine ⟨by decide +kernel, ?_⟩
  rw [(hnames _).1, (hslots _).1]
  decide +kernel

/-! ## 2. `/etc/subuid` and `/etc/subgid` -/

def lines (text : String) : List (List Char) :=
  let parts := text.toList.splitOn '\n'
  parts.dropLast.map (fun line => if line.getLast? = some '\r' then line.dropLast else line) ++
    (parts.getLast?.toList.filter fun line => !line.isEmpty)

/-- Check if a user already has an entry in the given subid file (`none`: it cannot be read) -/
def userHasSubidEntry (username : String) (subidFile : Option String) : Bool :=
  match subidFile with
  | some contents => (lines contents).any fun line => (username ++ ":").toList.isPrefixOf line
  | none => false

/-- Format: username:start:count -/
structure SubidEntry where
  username : String
  start : UInt32
  count : UInt32
  deriving DecidableEq, Repr

def SubidEntry.text : String :=
  entry.username ++ ":" ++ toString entry.start.toNat ++ ":" ++ toString entry.count.toNat ++ "\n"

/-- What appending to a file can fail with; a line that fails to be written leaves nothing. -/
inductive AppendError where
  | openFails (e : String)
  | writeFails (e : String)
  deriving DecidableEq, Repr

def AppendError.text : AppendError → String
  | .openFails e => "Failed to open " ++ path ++ ": " ++ e
  | .writeFails e => "Failed to write to " ++ path ++ ": " ++ e

def addSubidEntry (entry : SubidEntry) (fault : Option AppendError)
    (subidFile : Option String) : Except String Unit × Option String :=
  if userHasSubidEntry entry.username subidFile then (.ok (), subidFile)
  else
    match fault with
    | some e => (.error (e.text path), subidFile)
    | none => (.ok (), some (subidFile.getD "" ++ entry.text))

structure SubidFiles where
  subuid : Option String
  subgid : Option String
  deriving DecidableEq, Repr

/-- What appending fails with at one of the two files. -/
structure SubidFaults where
  subuid : Option AppendError := none
  subgid : Option AppendError := none
  deriving DecidableEq, Repr

def setupSubordinateIds (faults : SubidFaults) (files : SubidFiles) :
    Except String Unit × SubidFiles :=
  match addSubidEntry "/etc/subuid" entry faults.subuid files.subuid with
  | (.error e, subuid) => (.error e, { files with subuid := subuid })
  | (.ok (), subuid) =>
    match addSubidEntry "/etc/subgid" entry faults.subgid files.subgid with
    | (r, subgid) => (r, ⟨subuid, subgid⟩)

/-! ## 3. Session starts, and the ranges they record -/

/-- The `SubordinateIds` task of one session start. -/
structure SessionStart where
  mappedName : String
  faults : SubidFaults := {}
  deriving DecidableEq, Repr

/-- The two files, with the entries that were appended to each. -/
structure Journal where
  files : SubidFiles
  subuid : List SubidEntry
  subgid : List SubidEntry
  deriving DecidableEq, Repr

def Journal.empty : Journal := ⟨⟨some "", some ""⟩, [], []⟩

def entryOf (toLowercase : String → String) (subidRange : UInt32 × UInt32) (mappedName : String) :
    SubidEntry :=
  ⟨mappedName, genSubidStart toLowercase mappedName subidRange, subidCount⟩

/-- An entry was recorded where the file has changed. -/
def recorded (before after : Option String) (entries : List SubidEntry) : List SubidEntry :=
  if after = before then entries else entries ++ [entry]

def Journal.start (toLowercase : String → String) (subidRange : UInt32 × UInt32) (j : Journal)
    (s : SessionStart) : Journal :=
  let entry := entryOf toLowercase subidRange s.mappedName
  let files := (setupSubordinateIds entry s.faults j.files).2
  { files := files
    subuid := recorded entry j.files.subuid files.subuid j.subuid
    subgid := recorded entry j.files.subgid files.subgid j.subgid }

def WritesSubuid (j : Journal) (s : SessionStart) : Prop :=
  userHasSubidEntry s.mappedName j.files.subuid = false ∧ s.faults.subuid = none

/-- The session start appends a line to `/etc/subgid`; it gets there if the first file went well. -/
def WritesSubgid (j : Journal) (s : SessionStart) : Prop :=
  (s.faults.subuid = none ∨ userHasSubidEntry s.mappedName j.files.subuid = true) ∧
    userHasSubidEntry s.mappedName j.files.subgid = false ∧ s.faults.subgid = none

def SubidEntry.Apart (a b : SubidEntry) : Prop :=
  a.start.toNat + a.count.toNat ≤ b.start.toNat ∨ b.start.toNat + b.count.toNat ≤ a.start.toNat

instance (a b : SubidEntry) : Decidable (a.Apart b) :=
  inferInstanceAs (Decidable (_ ∨ _))

def Private (entries : List SubidEntry) : Prop :=
  ∀ a ∈ entries, ∀ b ∈ entries, a.username ≠ b.username → a.Apart b

/-- No other user among the entries has the slot of this one. -/
def SlotFree (toLowercase : String → String) (subidRange : UInt32 × UInt32) (mappedName : String)
    (entries : List SubidEntry) : Prop :=
  ∀ e ∈ entries, e.username ≠ mappedName →
    slotOf toLowercase subidRange e.username ≠ slotOf toLowercase subidRange mappedName

/-- Whatever line the session start appends, the slot is not that of another user's entry. -/
def NoCollision (toLowercase : String → String) (subidRange : UInt32 × UInt32) (j : Journal)
    (s : SessionStart) : Prop :=
  (WritesSubuid j s → SlotFree toLowercase subidRange s.mappedName j.subuid) ∧
    (WritesSubgid j s → SlotFree toLowercase subidRange s.mappedName j.subgid)

/-! ## 4. What one session start records -/

variable {entry : SubidEntry} {entries : List SubidEntry}

theorem append_text_ne (subidFile : Option String) :
    some (subidFile.getD "" ++ entry.text) ≠ subidFile := by
  intro h
  rw [← h, Option.getD_some] at h
  have hlength := congrArg String.length (Option.some.inj h)
  rw [String.length_append] at hlength
  have hzero : entry.text.length = 0 := by omega
  rw [SubidEntry.text, String.length_append] at hzero
  exact absurd hzero (Nat.succ_ne_zero _)

theorem addSubidEntry_present (entry : SubidEntry) (fault : Option AppendError)
    {subidFile : Option String} (h : userHasSubidEntry entry.username subidFile = true) :
    addSubidEntry path entry fault subidFile = (.ok (), subidFile) :=
  if_pos h

theorem addSubidEntry_fault (entry : SubidEntry) (e : AppendError)
    {subidFile : Option String} (h : userHasSubidEntry entry.username subidFile = false) :
    addSubidEntry path entry (some e) subidFile = (.error (e.text path), subidFile) := by
  simp [addSubidEntry, h]

theorem addSubidEntry_absent (entry : SubidEntry) {subidFile : Option String}
    (h : userHasSubidEntry entry.username subidFile = false) :
    addSubidEntry path entry none subidFile =
      (.ok (), some (subidFile.getD "" ++ entry.text)) := by
  simp [addSubidEntry, h]

theorem addSubidEntry_unchanged {fault : Option AppendError} {subidFile : Option String}
    (h : ¬ (userHasSubidEntry entry.username subidFile = false ∧ fault = none)) :
    (addSubidEntry path entry fault subidFile).2 = subidFile := by
  by_cases hhas : userHasSubidEntry entry.username subidFile = true
  · rw [addSubidEntry_present path entry fault hhas]
  · rw [Bool.not_eq_true] at hhas
    cases fault with
    | none => exact absurd ⟨hhas, rfl⟩ h
    | some e => rw [addSubidEntry_fault path entry e hhas]

theorem recorded_self (f : Option String) (entries : List SubidEntry) :
    recorded entry f f entries = entries :=
  if_pos rfl

theorem recorded_append (f : Option String) (entries : List SubidEntry) :
    recorded entry f (some (f.getD "" ++ entry.text)) entries = entries ++ [entry] :=
  if_neg (append_text_ne f)

section Start

variable {j : Journal} {s : SessionStart}

theorem setup_subuid (entry : SubidEntry) (faults : SubidFaults) (files : SubidFiles) :
    (setupSubordinateIds entry faults files).2.subuid =
      (addSubidEntry "/etc/subuid" entry faults.subuid files.subuid).2 := by
  unfold setupSubordinateIds
  rcases addSubidEntry "/etc/subuid" entry faults.subuid files.subuid with ⟨e | u, subuid⟩ <;> rfl

theorem setup_subgid_of_ok {faults : SubidFaults} {files : SubidFiles}
    (h : (addSubidEntry "/etc/subuid" entry faults.subuid files.subuid).1 = .ok ()) :
    (setupSubordinateIds entry faults files).2.subgid =
      (addSubidEntry "/etc/subgid" entry faults.subgid files.subgid).2 := by
  unfold setupSubordinateIds
  rcases hadd : addSubidEntry "/etc/subuid" entry faults.subuid files.subuid with ⟨e | u, subuid⟩
  · rw [hadd] at h
    cases h
  · rfl

theorem setup_subgid_of_error {faults : SubidFaults} {files : SubidFiles} {e : String}
    (h : (addSubidEntry "/etc/subuid" entry faults.subuid files.subuid).1 = .error e) :
    (setupSubordinateIds entry faults files).2.subgid = files.subgid := by
  unfold setupSubordinateIds
  rcases hadd : addSubidEntry "/etc/subuid" entry faults.subuid files.subuid with ⟨e' | u, subuid⟩
  · rfl
  · rw [hadd] at h
    cases h

theorem start_subuid_file (h : WritesSubuid j s) :
    (j.start toLowercase subidRange s).files.subuid =
      some (j.files.subuid.getD "" ++ (entryOf toLowercase subidRange s.mappedName).text) := by
  unfold Journal.start
  dsimp only
  rw [setup_subuid, h.2, addSubidEntry_absent "/etc/subuid" (entryOf _ _ _) h.1]

theorem start_subuid_file_same (h : ¬ WritesSubuid j s) :
    (j.start toLowercase subidRange s).files.subuid = j.files.subuid := by
  unfold Journal.start
  dsimp only
  rw [setup_subuid]
  exact addSubidEntry_unchanged "/etc/subuid" h

theorem start_subgid_file (h : WritesSubgid j s) :
    (j.start toLowercase subidRange s).files.subgid =
      some (j.files.subgid.getD "" ++ (entryOf toLowercase subidRange s.mappedName).text) := by
  unfold Journal.start
  dsimp only
  obtain ⟨hfirst, hhas, hfault⟩ := h
  rw [setup_subgid_of_ok, hfault, addSubidEntry_absent "/etc/subgid" (entryOf _ _ _) hhas]
  by_cases hpresent : userHasSubidEntry s.mappedName j.files.subuid = true
  · rw [addSubidEntry_present "/etc/subuid" (entryOf _ _ _) _ hpresent]
  · have hnone : s.faults.subuid = none := hfirst.resolve_right hpresent
    rw [Bool.not_eq_true] at hpresent
    rw [hnone, addSubidEntry_absent "/etc/subuid" (entryOf _ _ _) hpresent]

theorem start_subgid_file_same (h : ¬ WritesSubgid j s) :
    (j.start toLowercase subidRange s).files.subgid = j.files.subgid := by
  unfold Journal.start
  dsimp only
  rcases hfirst : (addSubidEntry "/etc/subuid" (entryOf toLowercase subidRange s.mappedName)
    s.faults.subuid j.files.subuid).1 with e | u
  · exact setup_subgid_of_error hfirst
  · rw [setup_subgid_of_ok hfirst]
    refine addSubidEntry_unchanged "/etc/subgid" ?_
    rintro ⟨hhas, hfault⟩
    refine h ⟨?_, hhas, hfault⟩
    by_cases hpresent : userHasSubidEntry s.mappedName j.files.subuid = true
    · exact Or.inr hpresent
    · rw [Bool.not_eq_true] at hpresent
      cases hsub : s.faults.subuid with
      | none => exact Or.inl rfl
      | some e =>
        rw [hsub, addSubidEntry_fault "/etc/subuid" (entryOf _ _ _) e hpresent] at hfirst
        cases hfirst

theorem start_subuid (h : WritesSubuid j s) :
    (j.start toLowercase subidRange s).subuid =
      j.subuid ++ [entryOf toLowercase subidRange s.mappedName] := by
  change recorded _ _ (j.start toLowercase subidRange s).files.subuid _ = _
  rw [start_subuid_file h, recorded_append]

theorem start_subuid_same (h : ¬ WritesSubuid j s) :
    (j.start toLowercase subidRange s).subuid = j.subuid := by
  change recorded _ _ (j.start toLowercase subidRange s).files.subuid _ = _
  rw [start_subuid_file_same h, recorded_self]

theorem start_subgid (h : WritesSubgid j s) :
    (j.start toLowercase subidRange s).subgid =
      j.subgid ++ [entryOf toLowercase subidRange s.mappedName] := by
  change recorded _ _ (j.start toLowercase subidRange s).files.subgid _ = _
  rw [start_subgid_file h, recorded_append]

theorem start_subgid_same (h : ¬ WritesSubgid j s) :
    (j.start toLowercase subidRange s).subgid = j.subgid := by
  change recorded _ _ (j.start toLowercase subidRange s).files.subgid _ = _
  rw [start_subgid_file_same h, recorded_self]

end Start

/-! ## 5. Two users, two slots -/

theorem entryOf_apart_iff (a b : String) :
    (entryOf toLowercase subidRange a).Apart (entryOf toLowercase subidRange b) ↔
      slotOf toLowercase subidRange a ≠ slotOf toLowercase subidRange b := by
  unfold SubidEntry.Apart entryOf
  dsimp only
  rw [toNat_genSubidStart, toNat_genSubidStart]
  change _ + _ + 65536 ≤ _ ∨ _ + _ + 65536 ≤ _ ↔ _
  omega

/-- Every entry has the range that its user's name hashes to. -/
def Hashed (toLowercase : String → String) (subidRange : UInt32 × UInt32)
    (entries : List SubidEntry) : Prop :=
  ∀ e ∈ entries, e = entryOf toLowercase subidRange e.username

theorem hashed_append (h : Hashed toLowercase subidRange entries) (mappedName : String) :
    Hashed toLowercase subidRange (entries ++ [entryOf toLowercase subidRange mappedName]) := by
  intro e he
  rcases List.mem_append.mp he with hold | hnew
  · exact h e hold
  · rw [List.mem_singleton.mp hnew]
    rfl

theorem SubidEntry.apart_comm {a b : SubidEntry} : a.Apart b ↔ b.Apart a :=
  or_comm

theorem private_append : Private (entries ++ [entry]) ↔
      Private entries ∧ ∀ e ∈ entries, e.username ≠ entry.username → e.Apart entry := by
  constructor
  · intro h
    refine ⟨fun a ha b hb => ?_, fun e he => ?_⟩
    · exact h a (List.mem_append_left _ ha) b (List.mem_append_left _ hb)
    · exact h e (List.mem_append_left _ he) entry
        (List.mem_append_right _ (List.mem_singleton_self entry))
  · rintro ⟨hold, hnew⟩ a ha b hb hne
    rcases List.mem_append.mp ha with ha | ha <;> rcases List.mem_append.mp hb with hb | hb
    · exact hold a ha b hb hne
    · rw [List.mem_singleton.mp hb] at hne ⊢
      exact hnew a ha hne
    · rw [List.mem_singleton.mp ha] at hne ⊢
      exact SubidEntry.apart_comm.mp (hnew b hb hne.symm)
    · rw [List.mem_singleton.mp ha, List.mem_singleton.mp hb] at hne
      exact absurd rfl hne

theorem private_record_iff (h : Hashed toLowercase subidRange entries) (mappedName : String) :
    Private (entries ++ [entryOf toLowercase subidRange mappedName]) ↔
      Private entries ∧ SlotFree toLowercase subidRange mappedName entries := by
  rw [private_append]
  refine and_congr_right fun _ => forall₂_congr fun e he => ?_
  refine imp_congr_right fun _ => ?_
  rw [h e he, entryOf_apart_iff]
  rfl

/-! ## 6. Runs -/

def Journal.Hashed (toLowercase : String → String) (subidRange : UInt32 × UInt32) (j : Journal) :
    Prop :=
  Subids.Hashed toLowercase subidRange j.subuid ∧ Subids.Hashed toLowercase subidRange j.subgid

def Journal.Private (j : Journal) : Prop :=
  Subids.Private j.subuid ∧ Subids.Private j.subgid

theorem start_hashed {j : Journal} (h : j.Hashed toLowercase subidRange) (s : SessionStart) :
    (j.start toLowercase subidRange s).Hashed toLowercase subidRange := by
  constructor
  · by_cases hw : WritesSubuid j s
    · rw [start_subuid hw]
      exact hashed_append h.1 s.mappedName
    · rw [start_subuid_same hw]
      exact h.1
  · by_cases hw : WritesSubgid j s
    · rw [start_subgid hw]
      exact hashed_append h.2 s.mappedName
    · rw [start_subgid_same hw]
      exact h.2

theorem start_private_iff {j : Journal} (h : j.Hashed toLowercase subidRange) (s : SessionStart) :
    (j.start toLowercase subidRange s).Private ↔
      j.Private ∧ NoCollision toLowercase subidRange j s := by
  have hsubuid : Private (j.start toLowercase subidRange s).subuid ↔
      Private j.subuid ∧
        (WritesSubuid j s → SlotFree toLowercase subidRange s.mappedName j.subuid) := by
    by_cases hw : WritesSubuid j s
    · rw [start_subuid hw, private_record_iff h.1, forall_prop_of_true hw]
    · rw [start_subuid_same hw, forall_prop_of_false hw, and_true]
  have hsubgid : Private (j.start toLowercase subidRange s).subgid ↔
      Private j.subgid ∧
        (WritesSubgid j s → SlotFree toLowercase subidRange s.mappedName j.subgid) := by
    by_cases hw : WritesSubgid j s
    · rw [start_subgid hw, private_record_iff h.2, forall_prop_of_true hw]
    · rw [start_subgid_same hw, forall_prop_of_false hw, and_true]
  unfold Journal.Private NoCollision
  rw [hsubuid, hsubgid]
  exact and_and_and_comm

theorem run_private_iff (starts : List SessionStart) {j : Journal}
    (h : j.Hashed toLowercase subidRange) :
    (starts.foldl (Journal.start toLowercase subidRange) j).Private ↔
      j.Private ∧ Runs.Along (Journal.start toLowercase subidRange)
        (NoCollision toLowercase subidRange) starts j := by
  induction starts generalizing j with
  | nil => exact (and_iff_left Runs.along_nil).symm
  | cons s starts ih =>
    rw [List.foldl_cons, ih (start_hashed h s), start_private_iff h s, Runs.along_cons, and_assoc]

theorem empty_hashed : Journal.empty.Hashed toLowercase subidRange := by
  constructor <;> intro e he <;> cases he

theorem empty_private : Journal.empty.Private := by
  constructor <;> intro e he <;> cases he

/-- **Subordinate ranges are private if and only if no session start records a slot that another
    user has.** -/
theorem subid_ranges_private_iff (toLowercase : String → String) (subidRange : UInt32 × UInt32)
    (starts : List SessionStart) :
    (starts.foldl (Journal.start toLowercase subidRange) Journal.empty).Private ↔
      Runs.Along (Journal.start toLowercase subidRange) (NoCollision toLowercase subidRange) starts
        Journal.empty := by
  rw [run_private_iff starts empty_hashed]
  exact and_iff_right empty_private

/-- Two names with one slot in the default range, which has room for 32043 users. -/
theorem subid_ranges_collide :
    (numSlots (2100000000, 4200000000)).toNat = 32043 ∧
      ¬ ([⟨"anna.vogel@example.com", {}⟩, ⟨"dave.klein@example.com", {}⟩].foldl
          (Journal.start id (2100000000, 4200000000)) Journal.empty).Private := by
  refine ⟨by decide +kernel, ?_⟩
  have hrun : ([⟨"anna.vogel@example.com", {}⟩, ⟨"dave.klein@example.com", {}⟩].foldl
      (Journal.start id (2100000000, 4200000000)) Journal.empty).subuid =
        [⟨"anna.vogel@example.com", 3348329728, 65536⟩,
          ⟨"dave.klein@example.com", 3348329728, 65536⟩] := by
    decide +kernel
  intro h
  have hapart := h.1
  rw [hrun] at hapart
  have hsame := hapart _ List.mem_cons_self _ (List.mem_cons_of_mem _ List.mem_cons_self)
    (by decide)
  exact absurd hsame (by decide)

end Himmelblau.Subids
