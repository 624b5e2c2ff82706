/-
  **The groups of a login** (`_nss_himmelblau_initgroups_dyn` of `nss/src/implementation.rs`): the
  gids that the daemon gave are appended to an array of glibc's, which is reallocated as it grows.
-/
import Mathlib

namespace Himmelblau.InitGroups

inductive Status
  | success
  | unavail
  | tryAgain

inductive Errno
  | einval
  | enomem

/-! ## 1. The array -/

/-- What the arguments point to, and the block that is allocated for the array: its address, and
    what is in its cells. -/
structure Memory where
  start : ℤ
  size : ℤ
  groupsp : Option ℕ
  errno : Option Errno
  address : Option ℕ
  block : List UInt32

/-- The address of a new block and what is in its cells, or none for lack of memory. -/
abbrev Allocator := Memory → ℕ → Option (ℕ × (ℕ → UInt32))

namespace Memory

variable (m : Memory)

/-- The cells behind the pointer; it may be null, or not the one of the block. -/
def array : List UInt32 := if m.groupsp ≠ none ∧ m.groupsp = m.address then m.block else []

/-- Whether the gid is in one of the first `n` cells.  All of them have to be there, although the
    search ends with the first that has it. -/
def contains (n : ℕ) (gid : UInt32) : Option Bool :=
  if n ≤ m.array.length then some ((m.array.take n).contains gid) else none

def write (i : ℕ) (gid : UInt32) : Option Memory :=
  if i < m.array.length then some { m with block := m.block.set i gid } else none

end Memory

/-! ## 2. The loop -/

def newSize (limit size : ℤ) : ℤ :=
  let doubled := max 16 (min (2 * size) (2 ^ 63 - 1))
  if 0 < limit then min limit doubled else doubled

def allocBytes (size : ℤ) : Option ℕ :=
  if 0 < size ∧ size.toNat * 4 < 2 ^ 64 then some (size.toNat * 4) else none

/-- `cur_size` and `groups` are always what `size` and `groupsp` point to.  `realloc` copies what
    was in the old block, and frees it. -/
def grow (alloc : Allocator) (limit curStart : ℤ) (m : Memory) : Option Memory :=
  if curStart < m.size then some m
  else do
    let bytes ← allocBytes (newSize limit m.size)
    let (address, junk) ← alloc m bytes
    return { m with
      size := newSize limit m.size
      groupsp := some address
      address := some address
      block := (List.range (bytes / 4)).map fun i => m.array[i]?.getD (junk i) }

def addGids (alloc : Allocator) (primaryGid : UInt32) (limit curStart : ℤ) (m : Memory) :
    List UInt32 → Option (Status × Memory)
  | [] => some (.success, { m with start := curStart })
  | gid :: gids => do
    -- glibc already includes the primary GID
    if gid = primaryGid then addGids alloc primaryGid limit curStart m gids
    else if ← m.contains curStart.toNat gid then
      addGids alloc primaryGid limit curStart m gids
    -- hard cap reached: stop adding, like `add_group` of glibc
    else if 0 < limit ∧ limit ≤ curStart then return (.success, { m with start := curStart })
    else
      match grow alloc limit curStart m with
      | none => return (.tryAgain, { m with errno := some .enomem, start := curStart })
      | some m => addGids alloc primaryGid limit (curStart + 1) (← m.write curStart.toNat gid) gids

def initgroupsDyn (alloc : Allocator) (primaryGid : UInt32) (limit : ℤ) (gids : List UInt32)
    (m : Memory) : Option (Status × Memory) :=
  if m.start < 0 ∨ m.size < 0 ∨ m.size < m.start ∨ (0 < m.size ∧ m.groupsp = none) then
    some (.unavail, { m with errno := some .einval })
  else addGids alloc primaryGid limit m.start m gids

/-! ## 3. What is added -/

/-- The array has these entries, and as many cells as it should. -/
structure Memory.Holds (m : Memory) (entries : List UInt32) : Prop where
  begins : entries <+: m.array
  room : entries.length ≤ m.size
  cells : m.size ≤ m.array.length

variable {alloc : Allocator} {limit : ℤ} {m : Memory} {entries : List UInt32}
  {gid primaryGid : UInt32}

namespace Memory.Holds

theorem contains_eq (h : m.Holds entries) :
    m.contains entries.length gid = some (entries.contains gid) := by
  rw [contains, if_pos h.begins.length_le, ← List.prefix_iff_eq_take.mp h.begins]

theorem grow (h : m.Holds entries) (hlimit : ¬ (0 < limit ∧ limit ≤ entries.length)) {m' : Memory}
    (hgrow : grow alloc limit entries.length m = some m') :
    m'.Holds entries ∧ entries.length < m'.size := by
  unfold InitGroups.grow at hgrow
  split at hgrow
  · cases hgrow
    exact ⟨h, ‹_›⟩
  · obtain ⟨bytes, hbytes, hgrow⟩ := Option.bind_eq_some_iff.mp hgrow
    obtain ⟨⟨address, junk⟩, -, hgrow⟩ := Option.bind_eq_some_iff.mp hgrow
    cases hgrow
    unfold allocBytes at hbytes
    split at hbytes
    · rename_i hfits
      cases hbytes
      have hroom := h.room
      have hmore : entries.length < newSize limit m.size := by
        unfold newSize at hfits ⊢
        dsimp only at hfits ⊢
        split_ifs at hfits ⊢ <;> omega
      refine ⟨⟨List.prefix_iff_getElem?.mpr fun i hi => ?_, hmore.le, by simp [array]⟩, hmore⟩
      have hcell : i < (newSize limit m.size).toNat := by omega
      simpa [array, hcell] using
        congrArg (·.getD (junk i)) (List.prefix_iff_getElem?.mp h.begins i hi)
    · cases hbytes

theorem write (h : m.Holds entries) (hroom : entries.length < m.size) (gid : UInt32) :
    ∃ m', m.write entries.length gid = some m' ∧ m'.Holds (entries ++ [gid]) := by
  obtain ⟨rest, hrest⟩ := h.begins
  have hcells := h.cells
  have hi : entries.length < m.array.length := by omega
  have hset : ({ m with block := m.block.set entries.length gid } : Memory).array =
      m.array.set entries.length gid := by
    unfold array
    split <;> simp_all
  refine ⟨{ m with block := m.block.set entries.length gid }, if_pos hi, ?_, ?_, ?_⟩
  · rw [hset, ← hrest, List.set_append_right _ _ le_rfl, Nat.sub_self]
    cases rest with
    | nil => simp [← hrest] at hi
    | cons c rest => exact ⟨rest, by simp⟩
  · simpa using Int.add_one_le_of_lt hroom
  · rw [hset, List.length_set]
    exact hcells

end Memory.Holds

/-- What is appended to these entries, up to the limit. -/
def wanted (primaryGid : UInt32) (limit : ℤ) (entries gids : List UInt32) : List UInt32 :=
  let new := (gids.filter fun gid => gid ≠ primaryGid ∧ gid ∉ entries).eraseDups
  if 0 < limit then new.take (limit - entries.length).toNat else new

theorem wanted_new (gids : List UInt32) (hprimary : gid ≠ primaryGid) (hnew : gid ∉ entries)
    (hlimit : ¬ (0 < limit ∧ limit ≤ entries.length)) :
    wanted primaryGid limit entries (gid :: gids) =
      gid :: wanted primaryGid limit (entries ++ [gid]) gids := by
  have hrest : (gids.filter fun g => g ≠ primaryGid ∧ g ∉ entries).filter (!· == gid) =
      gids.filter fun g => g ≠ primaryGid ∧ g ∉ entries ++ [gid] := by
    rw [List.filter_filter]
    exact List.filter_congr fun g _ => by grind
  unfold wanted
  rw [List.filter_cons_of_pos (by simp [hprimary, hnew]), List.eraseDups_cons, hrest]
  dsimp only
  split
  · have hroom : (limit - entries.length).toNat =
        (limit - (entries ++ [gid]).length).toNat + 1 := by
      simp
      omega
    rw [hroom, List.take_succ_cons]
  · rfl

theorem newSize_pos (limit size : ℤ) : 0 < newSize limit size := by
  unfold newSize
  dsimp only
  split_ifs <;> omega

/-- The array is full, and a `usize` has no room for the bytes of a larger one or the allocator has
    none; `start` and `errno` are stored back after it was asked. -/
def Exhausted (alloc : Allocator) (limit : ℤ) (m' : Memory) : Prop :=
  m'.size ≤ m'.start ∧ (2 ^ 64 ≤ (newSize limit m'.size).toNat * 4 ∨
    ∃ start errno, alloc { m' with start := start, errno := errno }
      ((newSize limit m'.size).toNat * 4) = none)

theorem exhausted_of_grow {curStart : ℤ} (hgrow : grow alloc limit curStart m = none) :
    Exhausted alloc limit { m with start := curStart, errno := some .enomem } := by
  unfold grow at hgrow
  split at hgrow
  · cases hgrow
  · next hroom =>
    refine ⟨not_lt.mp hroom, ?_⟩
    unfold allocBytes at hgrow
    split at hgrow
    · right
      refine ⟨m.start, m.errno, ?_⟩
      rcases halloc : alloc m ((newSize limit m.size).toNat * 4) with _ | ⟨address, junk⟩
      · rfl
      · simp [halloc] at hgrow
    · next hfits =>
      left
      by_contra hsmall
      exact hfits ⟨newSize_pos limit m.size, by simpa using hsmall⟩

/-- What is new follows the entries: all of it, or as much of it as there is memory for. -/
def Appends (alloc : Allocator) (limit : ℤ) (entries new : List UInt32) (status : Status)
    (m' : Memory) : Prop :=
  ∃ added, m'.Holds (entries ++ added) ∧ m'.start = (entries ++ added).length ∧ added <+: new ∧
    (status = .success ∧ added = new ∨
      status = .tryAgain ∧ added ≠ new ∧ m'.errno = some .enomem ∧ Exhausted alloc limit m')

theorem Memory.Holds.appends (h : m.Holds entries) {new : List UInt32} {status : Status}
    (errno : Option Errno)
    (hstatus : status = .success ∧ [] = new ∨ status = .tryAgain ∧ [] ≠ new ∧
      errno = some .enomem ∧
      Exhausted alloc limit { m with start := entries.length, errno := errno }) :
    Appends alloc limit entries new status
      { m with start := entries.length, errno := errno } := by
  refine ⟨[], ?_, by simp, by simp, hstatus⟩
  rw [List.append_nil]
  exact ⟨h.begins, h.room, h.cells⟩

theorem addGids_appends (gids : List UInt32) (h : m.Holds entries) : ∃ status m',
    addGids alloc primaryGid limit entries.length m gids = some (status, m') ∧
      Appends alloc limit entries (wanted primaryGid limit entries gids) status m' := by
  induction gids generalizing m entries with
  | nil => exact ⟨_, _, rfl, h.appends m.errno (.inl ⟨rfl, by simp [wanted]⟩)⟩
  | cons gid gids ih =>
    by_cases hskip : gid = primaryGid ∨ gid ∈ entries
    · have hsame : addGids alloc primaryGid limit entries.length m (gid :: gids) =
          addGids alloc primaryGid limit entries.length m gids := by
        rw [addGids, Int.toNat_natCast, h.contains_eq]
        rcases hskip with hskip | hskip <;> simp [hskip]
      have hwanted : wanted primaryGid limit entries (gid :: gids) =
          wanted primaryGid limit entries gids := by
        unfold wanted
        rw [List.filter_cons_of_neg (by grind)]
      rw [hsame, hwanted]
      exact ih h
    · obtain ⟨hprimary, hnew⟩ := not_or.mp hskip
      simp only [addGids, Int.toNat_natCast, h.contains_eq, hprimary, List.contains_eq_mem, hnew,
        decide_false, Option.bind_eq_bind, Option.bind_some, if_false, Bool.false_eq_true]
      by_cases hfull : 0 < limit ∧ limit ≤ entries.length
      · rw [if_pos hfull]
        exact ⟨_, _, rfl, h.appends m.errno (.inl ⟨rfl, by simp [wanted, hfull]⟩)⟩
      · rw [if_neg hfull, wanted_new gids hprimary hnew hfull]
        cases hgrow : grow alloc limit entries.length m with
        | none =>
          refine ⟨_, _, rfl, h.appends (some .enomem) (.inr ⟨rfl, ?_, rfl, ?_⟩)⟩
          · exact (List.cons_ne_nil _ _).symm
          · exact exhausted_of_grow hgrow
        | some grown =>
          obtain ⟨hgrown, hroom⟩ := h.grow hfull hgrow
          obtain ⟨m1, hwrite, hwritten⟩ := hgrown.write hroom gid
          obtain ⟨status, m', hadd, added, hholds⟩ := ih hwritten
          exact ⟨status, m', by simpa [hwrite] using hadd, gid :: added, by simpa using hholds⟩

/-- **`initgroups_dyn` is memory safe and exact**, for every array of at least `size` cells: no
    access is outside of the block, and the gids that are new follow the first `start` entries. -/
theorem initgroupsDyn_appends (alloc : Allocator) (primaryGid : UInt32) (limit : ℤ)
    (gids : List UInt32) (m : Memory) (hstart : 0 ≤ m.start) (hroom : m.start ≤ m.size)
    (hcells : m.size ≤ m.array.length) :
    let entries := m.array.take m.start.toNat
    ∃ status m', initgroupsDyn alloc primaryGid limit gids m = some (status, m') ∧
      Appends alloc limit entries (wanted primaryGid limit entries gids) status m' := by
  intro entries
  have hvalid : ¬ (m.start < 0 ∨ m.size < 0 ∨ m.size < m.start ∨
      (0 < m.size ∧ m.groupsp = none)) := by
    rintro (h | h | h | ⟨h, hnull⟩)
    · omega
    · omega
    · omega
    · simp [Memory.array, hnull] at hcells
      omega
  have hlength : m.start = entries.length := by
    rw [List.length_take]
    omega
  rw [initgroupsDyn, if_neg hvalid, hlength]
  exact addGids_appends gids ⟨List.take_prefix _ _, hlength ▸ hroom, hcells⟩

theorem initgroupsDyn_one :
    let alloc : Allocator := fun _ _ => some (8, fun _ => 0)
    ∃ m', initgroupsDyn alloc 100 0 [100, 7, 10, 20, 7] ⟨1, 1, some 4, none, some 4, [10]⟩ =
        some (.success, m') ∧ Appends alloc 0 [10] [7, 20] .success m' := by
  intro alloc
  obtain ⟨status, m', hrun, happends⟩ := initgroupsDyn_appends alloc 100 0 [100, 7, 10, 20, 7]
    ⟨1, 1, some 4, none, some 4, [10]⟩ (by decide) (by decide) (by decide)
  have hstatus : (initgroupsDyn alloc 100 0 [100, 7, 10, 20, 7]
      ⟨1, 1, some 4, none, some 4, [10]⟩).map Prod.fst = some .success := rfl
  rw [hrun] at hstatus
  cases hstatus
  exact ⟨m', hrun, happends⟩

end Himmelblau.InitGroups
