/-
  **Runs of a system that takes one operation after the other.**  A property of single steps is
  said to hold along a run if it holds of each step in the state that the step is taken in.  Two
  such properties that agree wherever an invariant holds agree along every run, if the steps keep
  the invariant.
-/
import Mathlib

namespace Himmelblau.Runs

variable {S O : Type} {step : S → O → S} {P Q : S → O → Prop}

def Along (step : S → O → S) (P : S → O → Prop) (ops : List O) (s : S) : Prop :=
  ∀ before op after, ops = before ++ op :: after → P (before.foldl step s) op

variable {s : S} {ops : List O}

theorem along_nil : Along step P [] s := by
  intro before op after h
  cases before <;> cases h

theorem along_cons {op : O} :
    Along step P (op :: ops) s ↔ P s op ∧ Along step P ops (step s op) := by
  constructor
  · intro h
    refine ⟨h [] op ops rfl, ?_⟩
    intro before op' after heq
    exact h (op :: before) op' after (congrArg (op :: ·) heq)
  · rintro ⟨hop, hops⟩ before op' after heq
    cases before with
    | nil =>
      cases heq
      exact hop
    | cons first before =>
      obtain ⟨rfl, hrest⟩ := List.cons.inj heq
      exact hops before op' after hrest

theorem Along.foldl (Inv : S → Prop) (hstep : ∀ s op, Inv s → Q s op → Inv (step s op))
    (hs : Inv s) (h : Along step Q ops s) : Inv (ops.foldl step s) := by
  induction ops generalizing s with
  | nil => exact hs
  | cons op ops ih =>
    obtain ⟨hop, hops⟩ := along_cons.mp h
    exact ih (hstep s op hs hop) hops

/-- Where the invariant holds, `P` and `Q` are the same, and `Q` keeps it: then they are the same
    along every run. -/
theorem along_congr (Inv : S → Prop) (hiff : ∀ s, ∀ op ∈ ops, Inv s → (P s op ↔ Q s op))
    (hstep : ∀ s, ∀ op ∈ ops, Inv s → Q s op → Inv (step s op)) (hs : Inv s) :
    Along step P ops s ↔ Along step Q ops s := by
  induction ops generalizing s with
  | nil => exact iff_of_true (along_nil) (along_nil)
  | cons op ops ih =>
    rw [along_cons, along_cons, hiff s op List.mem_cons_self hs]
    refine and_congr_right ?_
    intro hop
    exact ih (fun s op' hmem => hiff s op' (List.mem_cons_of_mem op hmem))
      (fun s op' hmem => hstep s op' (List.mem_cons_of_mem op hmem))
      (hstep s op List.mem_cons_self hs hop)

theorem along_const {P : O → Prop} (step : S → O → S) :
    Along step (fun _ op => P op) ops s ↔ ∀ op ∈ ops, P op := by
  constructor
  · intro h op hop
    obtain ⟨before, after, heq⟩ := List.append_of_mem hop
    exact h before op after heq
  · rintro h before op after rfl
    exact h op (List.mem_append_right before List.mem_cons_self)

end Himmelblau.Runs
