/-
  **Interleaved programs and deadlock.**  Finitely many clients run lock programs
  on one shared state.  A step lets one client do one thing; a client that asks
  for a mutex moves only when nobody holds that mutex.  Deadlock is the usual
  one: a non-empty set of clients, each waiting for a mutex that another client
  of the set holds.

  The main rule is `not_deadlocked_of_rank`: when every waiting client asks for a
  mutex that stands at or above all it holds, in one order of the mutexes, there is no
  deadlock.  `RunIn.disciplined` brings what `Prog.Locks` says about the programs to
  every state of every interleaving.
-/
import Himmelblau.LockProgram

namespace Himmelblau.LockPool

open LockProgram

/-! ## 1. Clients and steps -/

structure Client (M σ : Type) where
  prog : Prog M σ Unit
  held : List M

structure Pool (ι M σ : Type) where
  clients : ι → Client M σ
  shared : σ

variable {ι M σ : Type} [DecidableEq ι] [Fintype ι] [DecidableEq M]

namespace Pool

def start (progs : ι → Prog M σ Unit) (s : σ) : Pool ι M σ :=
  { clients := fun i => { prog := progs i, held := [] }, shared := s }

def put (c : Pool ι M σ) (i : ι) (client : Client M σ) (s : σ) : Pool ι M σ :=
  { clients := Function.update c.clients i client, shared := s }

def step (c : Pool ι M σ) (i : ι) : Option (Pool ι M σ) :=
  let held := (c.clients i).held
  match (c.clients i).prog with
  | .ret _ => none
  | .acquire m k =>
    if ∀ j, m ∉ (c.clients j).held then some (c.put i { prog := k, held := m :: held } c.shared)
    else none
  | .release m k => some (c.put i { prog := k, held := held.erase m } c.shared)
  | .act u k => some (c.put i { prog := k c.shared, held := held } (u c.shared))

def steps (c : Pool ι M σ) : List ι → Option (Pool ι M σ)
  | [] => some c
  | i :: schedule => (c.step i).bind fun c' => c'.steps schedule

/-- The mutex client `i` asks for next, if its next step is to take one. -/
def asks (c : Pool ι M σ) (i : ι) : Option M :=
  match (c.clients i).prog with
  | .acquire m _ => some m
  | _ => none

/-- A non-empty set of clients, each waiting for a mutex another of them holds. -/
def Deadlocked (c : Pool ι M σ) : Prop :=
  ∃ S : Finset ι, S.Nonempty ∧
    ∀ i ∈ S, ∃ m, c.asks i = some m ∧ ∃ j ∈ S, j ≠ i ∧ m ∈ (c.clients j).held

inductive RunIn (P : Pool ι M σ → Prop) (c0 : Pool ι M σ) : Pool ι M σ → Prop
  | init (h : P c0) : RunIn P c0 c0
  | step {c c' : Pool ι M σ} (i : ι) (hrun : RunIn P c0 c) (hstep : c.step i = some c')
      (h : P c') : RunIn P c0 c'

abbrev Reachable (c0 c : Pool ι M σ) : Prop := RunIn (fun _ => True) c0 c

variable {P : Pool ι M σ → Prop} {c0 c c' : Pool ι M σ} {i : ι} {Ok : List M → M → Prop}

theorem RunIn.holds (h : RunIn P c0 c) : P c := by
  cases h with
  | init h => exact h
  | step i hrun hstep h => exact h

/-- **The induction rule.**  What holds at the start and is kept by every step holds
    in every state of every run. -/
theorem RunIn.invariant {I : Pool ι M σ → Prop} (h : RunIn P c0 c) (h0 : I c0)
    (hstep : ∀ c c' i, I c → c.step i = some c' → I c') : I c := by
  induction h with
  | init _ => exact h0
  | step i _ hs _ ih => exact hstep _ _ i ih hs

theorem reachable_of_steps (schedule : List ι) :
    ∀ {c c' : Pool ι M σ}, Reachable c0 c → c.steps schedule = some c' → Reachable c0 c' := by
  induction schedule with
  | nil =>
    intro c c' hc h
    cases h
    exact hc
  | cons i schedule ih =>
    intro c c' hc h
    obtain ⟨c1, hstep, hrest⟩ := Option.bind_eq_some_iff.mp h
    exact ih (.step i hc hstep trivial) hrest

/-! ## 2. What one step can do -/

theorem step_cases (h : c.step i = some c') :
    (∃ m k, (c.clients i).prog = .acquire m k ∧ (∀ j, m ∉ (c.clients j).held) ∧
      c' = c.put i { prog := k, held := m :: (c.clients i).held } c.shared) ∨
    (∃ m k, (c.clients i).prog = .release m k ∧
      c' = c.put i { prog := k, held := (c.clients i).held.erase m } c.shared) ∨
    (∃ u k, (c.clients i).prog = .act u k ∧
      c' = c.put i { prog := k c.shared, held := (c.clients i).held } (u c.shared)) := by
  unfold step at h
  split at h
  · cases h
  · rename_i m k hprog
    split at h
    · rename_i hfree
      exact .inl ⟨m, k, hprog, hfree, (Option.some.inj h).symm⟩
    · cases h
  · rename_i m k hprog
    exact .inr (.inl ⟨m, k, hprog, (Option.some.inj h).symm⟩)
  · rename_i u k hprog
    exact .inr (.inr ⟨u, k, hprog, (Option.some.inj h).symm⟩)

omit [Fintype ι] [DecidableEq M] in
@[simp] theorem put_clients_self (c : Pool ι M σ) (i : ι) (client : Client M σ) (s : σ) :
    (c.put i client s).clients i = client := Function.update_self ..

omit [Fintype ι] [DecidableEq M] in
theorem put_clients_of_ne (c : Pool ι M σ) {j : ι} (hj : j ≠ i) (client : Client M σ) (s : σ) :
    (c.put i client s).clients j = c.clients j := Function.update_of_ne hj ..

theorem held_step (h : c.step i = some c') {j : ι} {m : M} (hm : m ∈ (c'.clients j).held) :
    m ∈ (c.clients j).held ∨ (j = i ∧ ∀ l, m ∉ (c.clients l).held) := by
  by_cases hj : j = i
  · subst hj
    obtain ⟨m', k, -, hfree, rfl⟩ | ⟨m', k, -, rfl⟩ | ⟨u, k, -, rfl⟩ := step_cases h
    · rw [put_clients_self] at hm
      obtain rfl | hm := List.mem_cons.mp hm
      · exact .inr ⟨rfl, hfree⟩
      · exact .inl hm
    · rw [put_clients_self] at hm
      exact .inl (List.mem_of_mem_erase hm)
    · rw [put_clients_self] at hm
      exact .inl hm
  · obtain ⟨m', k, -, -, rfl⟩ | ⟨m', k, -, rfl⟩ | ⟨u, k, -, rfl⟩ := step_cases h <;>
      exact .inl (by rwa [put_clients_of_ne _ hj] at hm)

/-! ## 3. Invariants of every interleaving -/

def Exclusive (c : Pool ι M σ) : Prop :=
  ∀ i j m, m ∈ (c.clients i).held → m ∈ (c.clients j).held → i = j

theorem Exclusive.step (hc : c.Exclusive) (h : c.step i = some c') : c'.Exclusive := by
  intro j l m hj hl
  obtain hj | ⟨rfl, hfree⟩ := held_step h hj
  · obtain hl | ⟨rfl, hfree⟩ := held_step h hl
    · exact hc j l m hj hl
    · exact absurd hj (hfree j)
  · obtain hl | ⟨rfl, -⟩ := held_step h hl
    · exact absurd hl (hfree l)
    · rfl

theorem RunIn.exclusive {progs : ι → Prog M σ Unit} {s : σ} (h : RunIn P (start progs s) c) :
    c.Exclusive :=
  h.invariant (fun _ _ _ hm => absurd hm List.not_mem_nil) fun _ _ _ hc hs => hc.step hs

def Disciplined (Ok : List M → M → Prop) (c : Pool ι M σ) : Prop :=
  ∀ i, (c.clients i).prog.Locks Ok (c.clients i).held fun _ _ => True

theorem Disciplined.step (hc : c.Disciplined Ok) (h : c.step i = some c') : c'.Disciplined Ok := by
  intro j
  by_cases hj : j = i
  · subst hj
    have hprog := hc j
    -- the program unfolds by the one constructor that the step consumed
    obtain ⟨m, k, hp, -, rfl⟩ | ⟨m, k, hp, rfl⟩ | ⟨u, k, hp, rfl⟩ := step_cases h <;>
      rw [hp] at hprog <;> rw [put_clients_self]
    · exact hprog.2
    · exact hprog
    · exact hprog _
  · obtain ⟨m, k, -, -, rfl⟩ | ⟨m, k, -, rfl⟩ | ⟨u, k, -, rfl⟩ := step_cases h <;>
      (rw [put_clients_of_ne _ hj]; exact hc j)

theorem RunIn.disciplined {progs : ι → Prog M σ Unit} {s : σ} (h : RunIn P (start progs s) c)
    (hprogs : ∀ i, (progs i).Balanced Ok) : c.Disciplined Ok :=
  h.invariant (fun i => (hprogs i).mono (fun _ _ h => h) fun _ _ _ => trivial)
    fun _ _ _ hc hs => hc.step hs

omit [DecidableEq ι] [Fintype ι] in
theorem Disciplined.asks_ok (hc : c.Disciplined Ok) {m : M} (h : c.asks i = some m) :
    Ok (c.clients i).held m := by
  have hprog := hc i
  unfold asks at h
  split at h
  · rename_i m' k hp
    cases h
    rw [hp] at hprog
    exact hprog.1
  · cases h

/-! ## 4. One order of the mutexes excludes deadlock -/

omit [DecidableEq ι] [Fintype ι] [DecidableEq M] in
/-- **Deadlock freedom from an order.**  If every client that waits asks for a mutex
    at or above all it holds, no set of clients is deadlocked.  (A client asking
    for a mutex it holds itself waits for nobody else, since a mutex has one
    holder.) -/
theorem not_deadlocked_of_rank (rank : M → ℕ) (hrank : rank.Injective) (hexcl : c.Exclusive)
    (horder : ∀ i m, c.asks i = some m → ∀ h ∈ (c.clients i).held, rank h ≤ rank m) :
    ¬ c.Deadlocked := by
  rintro ⟨S, hS, hwait⟩
  obtain ⟨i0, hi0⟩ := hS
  have : Nonempty M := ⟨(hwait i0 hi0).choose⟩
  choose! want hasks hheld using hwait
  -- the client of the set that waits for the highest mutex has nobody to wait for
  obtain ⟨i, hi, hmax⟩ := S.exists_max_image (fun i => rank (want i)) ⟨i0, hi0⟩
  obtain ⟨j, hj, hne, hm⟩ := hheld i hi
  obtain ⟨l, hl, hlj, hml⟩ := hheld j hj
  have hle : rank (want i) ≤ rank (want j) := horder j _ (hasks j hj) _ hm
  have heq : want i = want j := hrank (Nat.le_antisymm hle (hmax j hj))
  rw [← heq] at hml
  exact hlj (hexcl l j _ hml hm)

end Pool

end Himmelblau.LockPool
