/-
  **Tables with uniqueness constraints.**  A table is a list of rows, no two of
  which clash; `clash a b` is what a `PRIMARY KEY` or `UNIQUE` column forbids of
  two rows.  A statement that would break a constraint fails and leaves the
  table alone, so a table that breaks one cannot be built.
-/
import Mathlib

namespace Himmelblau.UniqueTable

structure Table {R : Type} (clash : R → R → Prop) where
  rows : List R
  unique : rows.Pairwise fun a b => ¬ clash a b

variable {R : Type} {clash : R → R → Prop}

namespace Table

def empty : Table clash := ⟨[], .nil⟩

def delete (t : Table clash) (p : R → Bool) : Table clash :=
  ⟨t.rows.filter fun r => !p r, t.unique.filter _⟩

/-- `UPDATE t SET ... WHERE p` of columns no constraint reads. -/
def modify (t : Table clash) (p : R → Bool) (f : R → R)
    (hf : ∀ a b, clash (if p a then f a else a) (if p b then f b else b) → clash a b) :
    Table clash :=
  ⟨t.rows.map fun r => if p r then f r else r,
    List.pairwise_map.mpr (t.unique.imp fun hab h => hab (hf _ _ h))⟩

/-- `UPDATE t SET ... WHERE p`; `none` when the result breaks a constraint. -/
def update? [DecidableRel clash] (t : Table clash) (p : R → Bool) (f : R → R) :
    Option (Table clash) :=
  if h : (t.rows.map fun r => if p r then f r else r).Pairwise fun a b => ¬ clash a b then
    some ⟨_, h⟩
  else none

/-- `INSERT INTO t`; `none` when a row of the table clashes with the new one. -/
def insert? [DecidableRel clash] (t : Table clash) (r : R) : Option (Table clash) :=
  if h : (t.rows ++ [r]).Pairwise fun a b => ¬ clash a b then some ⟨_, h⟩ else none

/-- `INSERT OR REPLACE INTO t`: the rows that clash with the new one go first. -/
def replace [DecidableRel clash] (t : Table clash) (r : R) : Table clash :=
  ⟨(t.rows.filter fun a => !decide (clash a r)) ++ [r],
    List.pairwise_append.mpr ⟨t.unique.filter _, List.pairwise_singleton _ _, by
      intro a ha b hb
      rw [List.mem_singleton.mp hb]
      simpa using (List.mem_filter.mp ha).2⟩⟩

@[simp] theorem delete_rows (t : Table clash) (p : R → Bool) :
    (t.delete p).rows = t.rows.filter fun r => !p r := rfl

@[simp] theorem modify_rows (t : Table clash) (p : R → Bool) (f : R → R) (hf) :
    (t.modify p f hf).rows = t.rows.map fun r => if p r then f r else r := rfl

variable [DecidableRel clash]

variable {t : Table clash}

theorem update?_eq_some {t' : Table clash} {p : R → Bool} {f : R → R}
    (h : t.update? p f = some t') : t'.rows = t.rows.map fun r => if p r then f r else r := by
  unfold update? at h
  split at h
  · cases h
    rfl
  · cases h

theorem update?_isSome {p : R → Bool} {f : R → R}
    (h : ∀ a ∈ t.rows, ∀ b ∈ t.rows,
      clash (if p a then f a else a) (if p b then f b else b) → clash a b) :
    (t.update? p f).isSome := by
  have hpair : (t.rows.map fun r => if p r then f r else r).Pairwise fun a b => ¬ clash a b := by
    rw [List.pairwise_map]
    exact t.unique.imp_of_mem fun ha hb hab hclash => hab (h _ ha _ hb hclash)
  simp only [update?, dif_pos hpair, Option.isSome_some]

theorem insert?_eq_some {t' : Table clash} {r : R} (h : t.insert? r = some t') :
    t'.rows = t.rows ++ [r] := by
  unfold insert? at h
  split at h
  · cases h
    rfl
  · cases h

theorem insert?_isSome {r : R} (h : ∀ a ∈ t.rows, ¬ clash a r) : (t.insert? r).isSome := by
  have hpair : (t.rows ++ [r]).Pairwise fun a b => ¬ clash a b := by
    refine List.pairwise_append.mpr ⟨t.unique, List.pairwise_singleton _ _, ?_⟩
    intro a ha b hb
    rw [List.mem_singleton.mp hb]
    exact h a ha
  simp only [insert?, dif_pos hpair, Option.isSome_some]

omit [DecidableRel clash] in
theorem eq_of_clash (t : Table clash) (hsymm : ∀ a b, clash a b → clash b a) {a b : R}
    (ha : a ∈ t.rows) (hb : b ∈ t.rows) (hab : clash a b) : a = b := by
  have : Std.Symm fun a b => ¬ clash a b := ⟨fun a b h hba => h (hsymm _ _ hba)⟩
  by_contra hne
  exact t.unique.forall ha hb hne hab

/-! ### Replacing one row after the other -/

section ReplaceAll

variable {t : Table clash} {rs : List R} {r : R}

theorem mem_replace {a : R} : r ∈ (t.replace a).rows ↔ (r ∈ t.rows ∧ ¬clash r a) ∨ r = a := by
  simp [replace]

theorem mem_or_mem_of_foldl_replace (h : r ∈ (rs.foldl replace t).rows) :
    (r ∈ t.rows ∧ ∀ a ∈ rs, ¬clash r a) ∨ r ∈ rs := by
  induction rs generalizing t with
  | nil => exact .inl ⟨h, nofun⟩
  | cons a rs ih =>
    rcases ih h with ⟨hr, hrest⟩ | hnew
    · rcases mem_replace.mp hr with ⟨hold, hclash⟩ | rfl
      · exact .inl ⟨hold, List.forall_mem_cons.mpr ⟨hclash, hrest⟩⟩
      · exact .inr List.mem_cons_self
    · exact .inr (List.mem_cons_of_mem a hnew)

theorem mem_foldl_replace_of_mem (hr : r ∈ t.rows) (h : ∀ a ∈ rs, ¬clash r a) :
    r ∈ (rs.foldl replace t).rows := by
  induction rs generalizing t with
  | nil => exact hr
  | cons a rs ih =>
    obtain ⟨ha, hrs⟩ := List.forall_mem_cons.mp h
    exact ih (mem_replace.mpr (.inl ⟨hr, ha⟩)) hrs

theorem mem_foldl_replace_of_pairwise (hrs : rs.Pairwise fun a b => ¬clash a b) (hr : r ∈ rs) :
    r ∈ (rs.foldl replace t).rows := by
  induction rs generalizing t with
  | nil => cases hr
  | cons a rs ih =>
    obtain ⟨ha, hrest⟩ := List.pairwise_cons.mp hrs
    rcases List.mem_cons.mp hr with rfl | hr
    · change r ∈ (rs.foldl replace (t.replace r)).rows
      exact mem_foldl_replace_of_mem (mem_replace.mpr (.inr rfl)) ha
    · exact ih hrest hr

end ReplaceAll

/-! ### Lookups -/

section Lookup

omit [DecidableRel clash]

variable {t : Table clash} {p : R → Bool}

def Unambiguous (t : Table clash) (p : R → Bool) : Prop :=
  ∀ a ∈ t.rows, ∀ b ∈ t.rows, p a = true → p b = true → a = b

theorem unambiguous_column {K : Type} [DecidableEq K] (t : Table clash)
    (hsymm : ∀ a b, clash a b → clash b a) {column : R → K}
    (hcolumn : ∀ a b, column a = column b → clash a b) (k : K) :
    t.Unambiguous fun r => column r == k := by
  intro a ha b hb hak hbk
  have hsame : column a = column b := (beq_iff_eq.mp hak).trans (beq_iff_eq.mp hbk).symm
  exact t.eq_of_clash hsymm ha hb (hcolumn a b hsame)

theorem unambiguous_iff {K X : Type} (t : Table clash) (hsymm : ∀ a b, clash a b → clash b a)
    {key : R → K} (hkey : ∀ a b, key a = key b → clash a b) (finds : X → R → Bool) :
    (∀ x, t.Unambiguous (finds x)) ↔ ∀ a ∈ t.rows, ∀ b ∈ t.rows, key a ≠ key b →
      ¬∃ x, finds x a = true ∧ finds x b = true := by
  constructor
  · rintro hone a ha b hb hne ⟨x, hax, hbx⟩
    exact hne (congrArg key (hone x a ha b hb hax hbx))
  · intro hnone x a ha b hb hax hbx
    by_contra hne
    have hkeys : key a ≠ key b := fun h => hne (t.eq_of_clash hsymm ha hb (hkey a b h))
    exact hnone a ha b hb hkeys ⟨x, hax, hbx⟩

theorem nodup (t : Table clash) (hrefl : ∀ a, clash a a) : t.rows.Nodup := by
  refine t.unique.imp ?_
  rintro a _ hab rfl
  exact hab (hrefl a)

theorem length_filter_le_one_iff (t : Table clash) (hrefl : ∀ a, clash a a) :
    (t.rows.filter p).length ≤ 1 ↔ t.Unambiguous p := by
  have hnodup : (t.rows.filter p).Nodup := (t.nodup hrefl).filter p
  have hmem : ∀ a, a ∈ t.rows.filter p ↔ a ∈ t.rows ∧ p a = true := fun a => List.mem_filter
  unfold Unambiguous
  constructor
  · intro hlen a ha b hb hpa hpb
    have ha' := (hmem a).mpr ⟨ha, hpa⟩
    have hb' := (hmem b).mpr ⟨hb, hpb⟩
    generalize t.rows.filter p = found at hlen ha' hb'
    match found, hlen with
    | [c], _ => rw [List.mem_singleton.mp ha', List.mem_singleton.mp hb']
  · intro hone
    generalize t.rows.filter p = found at hnodup hmem
    match found with
    | [] => exact Nat.zero_le 1
    | [_] => exact Nat.le_refl 1
    | a :: b :: rest =>
      obtain ⟨ha, hpa⟩ := (hmem a).mp List.mem_cons_self
      obtain ⟨hb, hpb⟩ := (hmem b).mp (List.mem_cons_of_mem a List.mem_cons_self)
      have hne : a ∉ b :: rest := (List.nodup_cons.mp hnodup).1
      exact absurd (hone a ha b hb hpa hpb ▸ List.mem_cons_self) hne

theorem filter_eq_singleton (hrefl : ∀ a, clash a a) (hone : t.Unambiguous p) {r : R}
    (hr : r ∈ t.rows) (hp : p r = true) : t.rows.filter p = [r] := by
  have hlen := (t.length_filter_le_one_iff hrefl).mpr hone
  have hmem : r ∈ t.rows.filter p := List.mem_filter.mpr ⟨hr, hp⟩
  generalize t.rows.filter p = found at hlen hmem
  match found, hlen with
  | [c], _ => rw [List.mem_singleton.mp hmem]

end Lookup

end Table

end Himmelblau.UniqueTable
