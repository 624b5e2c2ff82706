/-
  **The pool of warm containers** (mirror of `orchestrator/src/container_pool.rs`).  A task waits
  at one of its awaits, and what it does from there to the next one is a step; the steps of
  different tasks come in any order.
-/
import Mathlib

namespace Himmelblau.ContainerPool

variable {I : Type}

/-! ## 1. Tasks -/

/-- `ContainerPoolState`, and the containers that were handed to sessions or destroyed. -/
structure Pool (I : Type) where
  spare : Option I
  replenishInProgress : Bool
  shuttingDown : Bool
  handed : Multiset I
  destroyed : Multiset I

inductive Task (I : Type) where
  | acquire | ping (c : I) | ensureAndReturn (c : I) | ensureAndCreate | createSession
  | check | checkPing (c : I) | takeStale (c : I) | ensure
  | replenish | replenished (c : I) | replenishFailed
  | shutdown | awaitReplenish | takeLate | destroy (c : I) (next : Task I) | done

abbrev System (I : Type) := Pool I × Multiset (Task I)

def ensureSpare (p : Pool I) : System I :=
  if p.shuttingDown || p.spare.isSome || p.replenishInProgress then (p, 0)
  else ({ p with replenishInProgress := true }, {.replenish})

/-- What a task does next: `pong` and `created` are podman's answers. -/
def Task.step [DecidableEq I] (pong : Bool) (created : Option I) (p : Pool I) : Task I → System I
  | .acquire => ({ p with spare := none }, {p.spare.elim .ensureAndCreate .ping})
  | .ping c => (p, {if pong then .ensureAndReturn c else .destroy c .ensureAndCreate})
  | .ensureAndReturn c => ({ (ensureSpare p).1 with handed := {c} + p.handed }, (ensureSpare p).2)
  | .ensureAndCreate => ((ensureSpare p).1, {.createSession} + (ensureSpare p).2)
  | .createSession => ({ p with handed := created.toList + p.handed }, 0)
  | .check => (p, {p.spare.elim .ensure .checkPing})
  | .checkPing c => (p, if pong then 0 else {.takeStale c})
  | .takeStale c =>
    if p.spare = some c then ({ p with spare := none }, {.destroy c .ensure}) else (p, {.ensure})
  | .ensure => ensureSpare p
  | .replenish => (p, {created.elim .replenishFailed .replenished})
  | .replenished c =>
    if p.shuttingDown || p.spare.isSome then
      ({ p with replenishInProgress := false }, {.destroy c .done})
    else ({ p with replenishInProgress := false, spare := some c }, 0)
  | .replenishFailed => ({ p with replenishInProgress := false }, 0)
  | .shutdown => ({ p with shuttingDown := true, spare := none },
      {p.spare.elim .awaitReplenish (.destroy · .awaitReplenish)})
  | .awaitReplenish => (p, {if p.replenishInProgress then .awaitReplenish else .takeLate})
  | .takeLate => ({ p with spare := none }, {p.spare.elim .done (.destroy · .done)})
  | .destroy c next => ({ p with destroyed := {c} + p.destroyed }, {next})
  | .done => (p, 0)

/-! ## 2. Every container is in one place -/

def Task.held : Task I → Multiset I
  | .ping c | .ensureAndReturn c | .replenished c => {c}
  | .destroy c next => {c} + next.held
  | _ => 0

def Task.makes : Task I → Bool
  | .createSession | .replenish => true
  | _ => false

def Task.replenishes : Task I → ℕ
  | .replenish | .replenished _ | .replenishFailed => 1
  | .destroy _ next => next.replenishes
  | _ => 0

def kept (s : System I) : Multiset I :=
  s.1.spare.toList + (s.2.map Task.held).sum + s.1.handed + s.1.destroyed

def calls : List (Task I) := [.acquire, .check, .ensure, .shutdown]

/-- What can be reached as calls come in and tasks go on, with all the containers that podman has
    made; it makes no container twice. -/
inductive Reached [DecidableEq I] : Multiset I → System I → Prop
  | start : Reached 0 (⟨none, false, false, 0, 0⟩, 0)
  | call {made : Multiset I} {s : System I} (h : Reached made s) (t : Task I) (ht : t ∈ calls) :
      Reached made (s.1, {t} + s.2)
  | resume {made : Multiset I} {p : Pool I} {t : Task I} {tasks : Multiset (Task I)}
      (h : Reached made (p, {t} + tasks)) (pong : Bool) (created : Option I)
      (hnew : ∀ c ∈ created, c ∉ made) :
      Reached ((if t.makes then (created.toList : Multiset I) else 0) + made)
        ((t.step pong created p).1, (t.step pong created p).2 + tasks)

theorem idle_calls : ∀ t ∈ (calls : List (Task I)), t.held = 0 ∧ t.replenishes = 0 := by
  simp [calls, Task.held, Task.replenishes]

theorem kept_add (s : System I) (tasks : Multiset (Task I)) :
    kept (s.1, s.2 + tasks) = kept s + (tasks.map Task.held).sum := by
  simp only [kept, Multiset.map_add, Multiset.sum_add]
  abel

variable [DecidableEq I] (pong : Bool) (created : Option I) {p : Pool I} {t : Task I}

theorem kept_step : kept (t.step pong created p) =
    (if t.makes then (created.toList : Multiset I) else 0) + kept (p, {t}) := by
  obtain ⟨_ | d, busy, down, handed, destroyed⟩ := p <;> cases created <;> cases t
  all_goals
    simp only [Task.step, ensureSpare]
    try split
    all_goals
      simp_all [kept, Task.held, Task.makes, -Multiset.singleton_add]
      try abel

theorem Reached.kept_eq {made : Multiset I} {s : System I} (h : Reached made s) :
    kept s = made := by
  induction h with
  | start => rfl
  | call h t ht ih => simpa [kept, idle_calls t ht] using ih
  | resume h pong created hnew ih => rw [kept_add, kept_step, add_assoc, ← kept_add, ih]

theorem Reached.nodup {made : Multiset I} {s : System I} (h : Reached made s) : made.Nodup := by
  induction h with
  | start => exact Multiset.nodup_zero
  | call h t ht ih => exact ih
  | resume h pong created hnew ih =>
    split
    · cases created with
      | none => simpa using ih
      | some c => simpa using ⟨hnew c rfl, ih⟩
    · simpa using ih

/-- The flag says whether a spare is being started; then there is none. -/
def Flagged (s : System I) : Prop :=
  (s.2.map Task.replenishes).sum = s.1.replenishInProgress.toNat ∧
    (s.1.replenishInProgress = true → s.1.spare = none)

theorem Flagged.resume {tasks : Multiset (Task I)} (hs : Flagged (p, {t} + tasks)) :
    Flagged ((t.step pong created p).1, (t.step pong created p).2 + tasks) := by
  obtain ⟨spare, _ | _, down, handed, destroyed⟩ := p <;> cases created <;> cases t
  all_goals
    simp only [Task.step, ensureSpare]
    try split
    all_goals simp_all [Flagged, Task.replenishes]
  all_goals cases spare <;> rfl

theorem Reached.flagged {made : Multiset I} {s : System I} (h : Reached made s) : Flagged s := by
  induction h with
  | start => exact ⟨rfl, fun _ => rfl⟩
  | call h t ht ih => simpa [Flagged, idle_calls t ht] using ih
  | resume h pong created hnew ih => exact ih.resume pong created

/-- In whatever order the tasks go on, every container that podman made is in exactly one place:
    none is lost, handed out twice, or handed out and destroyed.  At most one is the spare or is
    being started as the spare. -/
theorem containers_used_once {made : Multiset I} {s : System I} (h : Reached made s) :
    kept s = made ∧ made.Nodup ∧
      s.1.spare.toList.length + (s.2.map Task.replenishes).sum ≤ 1 := by
  refine ⟨h.kept_eq, h.nodup, ?_⟩
  obtain ⟨hcount, hspare⟩ := h.flagged
  rw [hcount]
  cases hbusy : s.1.replenishInProgress with
  | true => simp [hspare hbusy]
  | false => cases s.1.spare <;> simp

theorem containers_used_once_cold :
    ∃ s : System ℕ, Reached {7} s ∧ s.1.handed = {7} ∧ kept s = {7} := by
  have hcall : Reached 0 (⟨none, false, false, 0, 0⟩, {.acquire} + (0 : Multiset (Task ℕ))) :=
    Reached.start.call .acquire (by simp [calls])
  have hacquired : Reached 0 (⟨none, false, false, 0, 0⟩,
      {.ensureAndCreate} + (0 : Multiset (Task ℕ))) := hcall.resume true none (by simp)
  have hensured : Reached 0 (⟨none, true, false, 0, 0⟩,
      {.createSession} + ({.replenish} : Multiset (Task ℕ))) := hacquired.resume true none (by simp)
  have h := hensured.resume true (some 7) (by simp)
  exact ⟨_, h, rfl, (containers_used_once h).1⟩

end Himmelblau.ContainerPool
