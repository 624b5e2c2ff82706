/-
  **Failures in a trace.**  A policy says which events of a trace (newest first) are
  failures, which of them clear the failures before, and which open a lock.  `failures`
  is how many there are since the last that cleared them; the trace has `Exceeded` a limit
  if at some failure there were more, and no event since has opened the lock.

  A counter and a lock that keep up with a trace are `Enforced`; each kind of event has a
  rule that says what they have to do.
-/
import Mathlib

namespace Himmelblau.Tally

structure Policy (ε : Type*) where
  fails : ε → Bool
  clears : ε → Bool
  unlocks : ε → Bool

namespace Policy

variable {ε : Type*} (p : Policy ε)

def failures : List ε → ℕ
  | [] => 0
  | e :: es => if p.clears e then 0 else if p.fails e then failures es + 1 else failures es

def Exceeded (limit : ℕ) : List ε → Prop
  | [] => False
  | e :: es => p.unlocks e = false ∧
      ((p.fails e = true ∧ limit < p.failures (e :: es)) ∨ Exceeded limit es)

instance decidableExceeded (limit : ℕ) : (es : List ε) → Decidable (p.Exceeded limit es)
  | [] => .isFalse id
  | e :: es =>
    have := decidableExceeded limit es
    inferInstanceAs (Decidable (p.unlocks e = false ∧
      ((p.fails e = true ∧ limit < p.failures (e :: es)) ∨ p.Exceeded limit es)))

theorem failures_of_clears {e : ε} {es : List ε} (h : p.clears e = true) :
    p.failures (e :: es) = 0 := if_pos h

theorem failures_of_other {e : ε} {es : List ε} (hfails : p.fails e = false)
    (hclears : p.clears e = false) : p.failures (e :: es) = p.failures es := by
  simp [failures, hfails, hclears]

theorem failures_filter {q : ε → Bool} (hfails : ∀ e, q e = false → p.fails e = false)
    (hclears : ∀ e, q e = false → p.clears e = false) (es : List ε) :
    p.failures (es.filter q) = p.failures es := by
  induction es with
  | nil => rfl
  | cons e es ih =>
    cases hq : q e with
    | true => rw [List.filter_cons_of_pos hq, failures, failures, ih]
    | false =>
      rw [List.filter_cons_of_neg (by simp [hq]), ih,
        p.failures_of_other (hfails e hq) (hclears e hq)]

theorem exceeded_filter {q : ε → Bool} (hfails : ∀ e, q e = false → p.fails e = false)
    (hclears : ∀ e, q e = false → p.clears e = false)
    (hunlocks : ∀ e, q e = false → p.unlocks e = false) {limit : ℕ} {es : List ε} :
    p.Exceeded limit (es.filter q) ↔ p.Exceeded limit es := by
  induction es with
  | nil => rfl
  | cons e es ih =>
    cases hq : q e with
    | true =>
      rw [List.filter_cons_of_pos hq, Exceeded, Exceeded, ih, failures, failures,
        p.failures_filter hfails hclears]
    | false =>
      rw [List.filter_cons_of_neg (by simp [hq]), ih, Exceeded]
      simp [hfails e hq, hunlocks e hq]

/-- The counter has not missed a failure, and the lock is shut where it has to be. -/
structure Enforced (limit : ℕ) (es : List ε) (count : ℕ) (locked : Prop) : Prop where
  counts : p.failures es ≤ count
  locks : p.Exceeded limit es → locked

namespace Enforced

variable {p} {limit count count' : ℕ} {e : ε} {es : List ε} {locked locked' : Prop}

theorem nil : p.Enforced limit [] count locked := ⟨Nat.zero_le _, fun h => h.elim⟩

theorem mono (h : p.Enforced limit es count locked) (hlocked : locked → locked') :
    p.Enforced limit es count locked' := ⟨h.counts, fun hex => hlocked (h.locks hex)⟩

theorem failures_le (h : p.Enforced limit es count locked) (he : p.fails e = false) :
    p.failures (e :: es) ≤ count := by
  unfold failures
  split
  · exact Nat.zero_le _
  · rw [if_neg (by simp [he])]
    exact h.counts

theorem other (h : p.Enforced limit es count locked) (he : p.fails e = false)
    (hlocked : locked → locked') : p.Enforced limit (e :: es) count locked' := by
  refine ⟨h.failures_le he, fun hex => ?_⟩
  rcases hex.2 with ⟨hfails, -⟩ | hex
  · rw [he] at hfails
    cases hfails
  · exact hlocked (h.locks hex)

theorem cleared (h : p.Enforced limit es count locked) (he : p.fails e = false)
    (hfailures : p.failures (e :: es) = 0) : p.Enforced limit (e :: es) count' locked :=
  ⟨hfailures ▸ Nat.zero_le _, (h.other he id).locks⟩

theorem unlocked (h : p.Enforced limit es count locked) (he : p.fails e = false)
    (hopen : p.unlocks e = true) : p.Enforced limit (e :: es) count locked' := by
  refine ⟨h.failures_le he, fun hex => ?_⟩
  have hshut := hex.1
  rw [hopen] at hshut
  cases hshut

theorem failed (h : p.Enforced limit es count locked) (hlocked : locked → locked')
    (hshut : limit < count + 1 → locked') : p.Enforced limit (e :: es) (count + 1) locked' := by
  have hcount : p.failures (e :: es) ≤ count + 1 := by
    have := h.counts
    unfold failures
    split
    · omega
    · split <;> omega
  refine ⟨hcount, fun hex => ?_⟩
  rcases hex.2 with ⟨-, hlimit⟩ | hex
  · exact hshut (by omega)
  · exact hlocked (h.locks hex)

end Enforced

end Policy

end Himmelblau.Tally
