/-
  **Lookups and enumeration of the NSS cache.**  Both leave out rows older than 48 hours, but a
  lookup picks one row first and then asks for its age.  There is one row for a name; for a uid that
  was given to another name there may be several, and the one that is picked is the oldest.
-/
import Himmelblau.NssUsers

namespace Himmelblau.NssUsers.NssCache

open Interface

/-! ## 1. The rows that are left -/

/-- The insertions of which no later one has the name, in their order. -/
def latest : List (NssUser × ℤ) → List (NssUser × ℤ)
  | [] => []
  | row :: inserts =>
    if inserts.any fun later => later.1.name == row.1.name then latest inserts
    else row :: latest inserts

def run (writable : Bool) (inserts : List (NssUser × ℤ)) : NssCache :=
  inserts.foldl (fun cache row => cache.insertUser row.2 row.1) ⟨[], writable⟩

variable (inserts : List (NssUser × ℤ))

theorem latest_concat (row : NssUser × ℤ) : latest (inserts ++ [row]) =
      (latest inserts).filter (fun earlier => earlier.1.name != row.1.name) ++ [row] := by
  induction inserts with
  | nil => rfl
  | cons first inserts ih =>
    rw [List.cons_append, latest, latest, ih]
    by_cases hsame : first.1.name = row.1.name
    · have hlater : ((inserts ++ [row]).any fun later => later.1.name == first.1.name) = true := by
        simp [hsame]
      rw [if_pos hlater]
      split
      · rfl
      · rw [List.filter_cons_of_neg (by simp [hsame])]
    · have hlater : ((inserts ++ [row]).any fun later => later.1.name == first.1.name) =
          inserts.any fun later => later.1.name == first.1.name := by
        simp [Ne.symm hsame]
      rw [hlater]
      split
      · rfl
      · rw [List.filter_cons_of_pos (by simp [hsame])]
        rfl

theorem run_rows : run true inserts = ⟨latest inserts, true⟩ := by
  induction inserts using List.reverseRecOn with
  | nil => rfl
  | append_singleton inserts row ih =>
    rw [run, List.foldl_append, ← run, ih, latest_concat]
    rfl

theorem run_readOnly : run false inserts = ⟨[], false⟩ := by
  induction inserts using List.reverseRecOn with
  | nil => rfl
  | append_singleton inserts row ih =>
    rw [run, List.foldl_append, ← run, ih]
    rfl

theorem latest_pairwise : (latest inserts).Pairwise fun a b => a.1.name ≠ b.1.name := by
  induction inserts using List.reverseRecOn with
  | nil => exact .nil
  | append_singleton inserts row ih =>
    rw [latest_concat, List.pairwise_append]
    refine ⟨ih.filter _, List.pairwise_singleton _ _, fun a ha b hb => ?_⟩
    rw [List.mem_singleton.mp hb]
    simpa using (List.mem_filter.mp ha).2

/-! ## 2. Agreement -/

/-- A lookup by uid or by name finds a user exactly if the enumeration has one, and it is one of
    those enumerated. -/
structure Agrees (cache : NssCache) (now : ℤ) : Prop where
  uid : ∀ uid, (cache.getUser now (.gid uid)).isSome ↔ ∃ u ∈ cache.getUsers now, u.uid = uid
  name : ∀ n, (cache.getUser now (.name n)).isSome ↔ ∃ u ∈ cache.getUsers now, u.name = n
  enumerated : ∀ id u, cache.getUser now id = some u → u ∈ cache.getUsers now

def Fresh (now : ℤ) (row : NssUser × ℤ) : Prop := now - row.2 ≤ maxAgeSecs

/-- Of the rows of a uid, the first is fresh if any is. -/
def FirstFresh (rows : List (NssUser × ℤ)) (now : ℤ) : Prop :=
  ∀ first row, row ∈ rows → Fresh now row →
    rows.find? (fun r => r.1.uid == row.1.uid) = some first → Fresh now first

section Agreement

variable {cache : NssCache} {now : ℤ} {id : Id} {user : NssUser}

def matchesId (id : Id) (row : NssUser × ℤ) : Bool :=
  match id with
  | .name n => row.1.name == n
  | .gid uid => row.1.uid == uid

theorem getUser_eq : cache.getUser now id =
    match cache.nssPasswd.find? (matchesId id) with
    | some (user, lastUpdated) => if now - lastUpdated > maxAgeSecs then none else some user
    | none => none := rfl

theorem getUser_eq_some_iff : cache.getUser now id = some user ↔
    ∃ time, cache.nssPasswd.find? (matchesId id) = some (user, time) ∧ Fresh now (user, time) := by
  rw [getUser_eq]
  unfold Fresh
  rcases cache.nssPasswd.find? (matchesId id) with _ | ⟨found, time⟩
  · simp
  · by_cases hage : now - time > maxAgeSecs
    · simp only [hage, if_true]
      constructor
      · simp
      · rintro ⟨time', heq, hfresh⟩
        cases heq
        exact absurd hfresh (Int.not_le.mpr hage)
    · simp only [hage, if_false]
      constructor
      · rintro heq
        cases heq
        exact ⟨time, rfl, Int.not_lt.mp hage⟩
      · rintro ⟨time', heq, -⟩
        cases heq
        rfl

theorem mem_getUsers_iff : user ∈ cache.getUsers now ↔
    ∃ time, (user, time) ∈ cache.nssPasswd ∧ Fresh now (user, time) := by
  unfold getUsers Fresh
  simp only [List.mem_filterMap, Option.ite_none_right_eq_some, Option.some.injEq, Prod.exists]
  constructor
  · rintro ⟨_, time, hmem, hfresh, rfl⟩
    exact ⟨time, hmem, hfresh⟩
  · rintro ⟨time, hmem, hfresh⟩
    exact ⟨user, time, hmem, hfresh, rfl⟩

theorem mem_getUsers_of_getUser (h : cache.getUser now id = some user) :
    user ∈ cache.getUsers now ∧ ∃ time, matchesId id (user, time) = true := by
  obtain ⟨time, hfind, hfresh⟩ := getUser_eq_some_iff.mp h
  exact ⟨mem_getUsers_iff.mpr ⟨time, List.mem_of_find?_eq_some hfind, hfresh⟩, time,
    List.find?_some hfind⟩

/-- A lookup whose row is fresh if any that matches is, finds what the enumeration has. -/
theorem getUser_isSome_iff (h : ∀ first row, row ∈ cache.nssPasswd → Fresh now row →
      matchesId id row = true → cache.nssPasswd.find? (matchesId id) = some first →
      Fresh now first) :
    (cache.getUser now id).isSome ↔
      ∃ u time, (u, time) ∈ cache.nssPasswd ∧ Fresh now (u, time) ∧ matchesId id (u, time) := by
  rw [Option.isSome_iff_exists]
  constructor
  · rintro ⟨u, hu⟩
    obtain ⟨time, hfind, hfresh⟩ := getUser_eq_some_iff.mp hu
    exact ⟨u, time, List.mem_of_find?_eq_some hfind, hfresh, List.find?_some hfind⟩
  · rintro ⟨u, time, hmem, hfresh, hid⟩
    obtain ⟨⟨found, time'⟩, hfound⟩ := Option.isSome_iff_exists.mp
      (List.find?_isSome.mpr ⟨(u, time), hmem, hid⟩)
    exact ⟨found, getUser_eq_some_iff.mpr ⟨time', hfound, h _ _ hmem hfresh hid hfound⟩⟩

theorem agrees_iff (hnames : cache.nssPasswd.Pairwise fun a b => a.1.name ≠ b.1.name) :
    cache.Agrees now ↔ FirstFresh cache.nssPasswd now := by
  have hlisted : ∀ id, (∃ u time, (u, time) ∈ cache.nssPasswd ∧ Fresh now (u, time) ∧
      matchesId id (u, time) = true) ↔ ∃ u ∈ cache.getUsers now, matchesId id (u, 0) = true := by
    intro id
    simp only [mem_getUsers_iff]
    constructor
    · rintro ⟨u, time, hmem, hfresh, hid⟩
      exact ⟨u, ⟨time, hmem, hfresh⟩, hid⟩
    · rintro ⟨u, ⟨time, hmem, hfresh⟩, hid⟩
      exact ⟨u, time, hmem, hfresh, hid⟩
  constructor
  · intro h first row hmem hfresh hfind
    have hsome := (h.uid row.1.uid).mpr ⟨row.1, mem_getUsers_iff.mpr ⟨row.2, hmem, hfresh⟩, rfl⟩
    obtain ⟨u, hu⟩ := Option.isSome_iff_exists.mp hsome
    obtain ⟨time, hfound, hfresh'⟩ := getUser_eq_some_iff.mp hu
    cases hfind.symm.trans hfound
    exact hfresh'
  · intro h
    refine ⟨fun uid => ?_, fun n => ?_, fun id u hu => (mem_getUsers_of_getUser hu).1⟩
    · refine (getUser_isSome_iff fun first row hmem hfresh hid hfind => ?_).trans
        ((hlisted (.gid uid)).trans ?_)
      · have huid : row.1.uid = uid := beq_iff_eq.mp hid
        subst huid
        exact h first row hmem hfresh hfind
      · simp only [matchesId, beq_iff_eq]
    · refine (getUser_isSome_iff fun first row hmem hfresh hid hfind => ?_).trans
        ((hlisted (.name n)).trans ?_)
      · -- one row has the name
        have hname : row.1.name = n := beq_iff_eq.mp hid
        have hname' : first.1.name = n := by simpa [matchesId] using List.find?_some hfind
        have : Std.Symm fun a b : NssUser × ℤ => a.1.name ≠ b.1.name := ⟨fun _ _ h => h.symm⟩
        have hsame : first = row := by
          by_contra hne
          exact hnames.forall (List.mem_of_find?_eq_some hfind) hmem hne (hname'.trans hname.symm)
        rwa [hsame]
      · simp only [matchesId, beq_iff_eq]

end Agreement

/-- **Lookups.**  After every sequence of insertions and at every time, lookups agree with the
    enumeration exactly if, of the insertions that no later one of the name replaced, the first with
    a uid is at most 48 hours old whenever another one with that uid is. -/
theorem run_agrees_iff (writable : Bool) (inserts : List (NssUser × ℤ)) (now : ℤ) :
    (run writable inserts).Agrees now ↔ (writable = true → FirstFresh (latest inserts) now) := by
  cases writable with
  | true =>
    rw [run_rows, agrees_iff (latest_pairwise inserts)]
    exact ⟨fun h _ => h, fun h => h rfl⟩
  | false =>
    rw [run_readOnly, agrees_iff .nil]
    exact iff_of_true nofun nofun

/-- The uid of alice was given to bob a day before alice's row became too old. -/
theorem reassigned_uid_missed :
    ¬(run true [(⟨"alice", 1000, 1000, "", "/home/alice", "/bin/sh"⟩, 0),
      (⟨"bob", 1000, 1000, "", "/home/bob", "/bin/sh"⟩, 86400)]).Agrees 172801 := by
  intro h
  have hsome := (h.uid 1000).mpr ⟨⟨"bob", 1000, 1000, "", "/home/bob", "/bin/sh"⟩, by decide, rfl⟩
  exact absurd hsome (by decide)

end Himmelblau.NssUsers.NssCache
