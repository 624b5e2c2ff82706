/-
  **Programs that take mutexes.**  A small language for code that works on one
  shared state behind several non re-entrant mutexes: a program returns, takes a
  mutex, drops a mutex, or does one atomic piece of work on the state.  It has
  three readings, all by recursion on the program:

    * `exec`  — what the program computes when nobody else runs;
    * `run`   — the same, but a program that asks for a mutex it already holds
      stops there, as a non re-entrant mutex makes it do;
    * `Locks` — which mutexes it asks for while holding which others, whatever
      the shared state is at each of its steps (so also when other programs
      change the state in between).

  Nothing here is about a particular program.
-/
import Mathlib

namespace Himmelblau.LockProgram

/-! ## 1. Programs -/

/-- A program over mutexes `M` and a shared state `σ`.  `act` is one atomic piece
    of work: the program reads the state, and the state is updated. -/
inductive Prog (M σ α : Type) where
  | ret (value : α)
  | acquire (mutex : M) (next : Prog M σ α)
  | release (mutex : M) (next : Prog M σ α)
  | act (update : σ → σ) (next : σ → Prog M σ α)

variable {M σ α β γ : Type}

namespace Prog

def bind : Prog M σ α → (α → Prog M σ β) → Prog M σ β
  | ret a, f => f a
  | acquire m k, f => acquire m (k.bind f)
  | release m k, f => release m (k.bind f)
  | act u k, f => act u fun s => (k s).bind f

instance : Monad (Prog M σ) where
  pure := ret
  bind := bind

def lock (m : M) : Prog M σ Unit := acquire m (ret ())

def unlock (m : M) : Prog M σ Unit := release m (ret ())

def get : Prog M σ σ := act id ret

def modify (u : σ → σ) : Prog M σ Unit := act u fun _ => ret ()

/-- One atomic call: read the state, answer, and leave a new state. -/
def call (f : σ → α × σ) : Prog M σ α := act (fun s => (f s).2) fun s => ret (f s).1

/-! ## 2. What a program computes -/

/-- The value and the state left by the program when it runs alone. -/
def exec : Prog M σ α → σ → α × σ
  | ret a, s => (a, s)
  | acquire _ k, s => k.exec s
  | release _ k, s => k.exec s
  | act u k, s => (k s).exec (u s)

@[simp] theorem exec_pure (a : α) (s : σ) : (pure a : Prog M σ α).exec s = (a, s) := rfl

@[simp] theorem exec_lock (m : M) (s : σ) : (lock m).exec s = ((), s) := rfl

@[simp] theorem exec_unlock (m : M) (s : σ) : (unlock m).exec s = ((), s) := rfl

@[simp] theorem exec_get (s : σ) : (get : Prog M σ σ).exec s = (s, s) := rfl

@[simp] theorem exec_modify (u : σ → σ) (s : σ) :
    (modify u : Prog M σ Unit).exec s = ((), u s) := rfl

@[simp] theorem exec_call (f : σ → α × σ) (s : σ) : (call f : Prog M σ α).exec s = f s := rfl

@[simp] theorem exec_bind (p : Prog M σ α) (f : α → Prog M σ β) (s : σ) :
    (p >>= f).exec s = (f (p.exec s).1).exec (p.exec s).2 := by
  change (p.bind f).exec s = _
  induction p generalizing s with
  | ret a => rfl
  | acquire m k ih => exact ih s
  | release m k ih => exact ih s
  | act u k ih => exact ih s (u s)

/-- Run on its own, the program moves the state along `T`. -/
def Within (T : σ → σ → Prop) (p : Prog M σ α) : Prop := ∀ s, T s (p.exec s).2

section Within

variable {T : σ → σ → Prop}

theorem Within.pure [Std.Refl T] (a : α) : Within T (Pure.pure a : Prog M σ α) :=
  fun s => Std.Refl.refl s

theorem Within.lock [Std.Refl T] (m : M) : Within T (lock m : Prog M σ Unit) :=
  fun s => Std.Refl.refl s

theorem Within.unlock [Std.Refl T] (m : M) : Within T (unlock m : Prog M σ Unit) :=
  fun s => Std.Refl.refl s

theorem Within.get [Std.Refl T] : Within T (get : Prog M σ σ) := fun s => Std.Refl.refl s

theorem Within.bind [IsTrans σ T] {p : Prog M σ α} {f : α → Prog M σ β} (hp : Within T p)
    (hf : ∀ a, Within T (f a)) : Within T (p >>= f) := fun s => by
  rw [exec_bind]
  exact IsTrans.trans _ _ _ (hp s) (hf _ _)

end Within

/-! ## 3. Running against non re-entrant mutexes -/

/-- How a program that runs alone ends: with a value, or waiting for a mutex that
    it holds itself. -/
inductive Outcome (M σ α : Type) where
  | done (value : α) (held : List M) (state : σ)
  | blocked (mutex : M) (held : List M) (state : σ)

variable [DecidableEq M]

def run : Prog M σ α → List M → σ → Outcome M σ α
  | ret a, held, s => .done a held s
  | acquire m k, held, s => if m ∈ held then .blocked m held s else k.run (m :: held) s
  | release m k, held, s => k.run (held.erase m) s
  | act u k, held, s => (k s).run held (u s)

/-- The program, started with no mutex held, comes to ask for a mutex it holds. -/
def SelfBlocks (p : Prog M σ α) (s : σ) : Prop := ∃ m held s', p.run [] s = .blocked m held s'

theorem not_selfBlocks_pure (a : α) (s : σ) : ¬ (pure a : Prog M σ α).SelfBlocks s := by
  rintro ⟨m, held, s', h⟩
  cases h

theorem run_bind (p : Prog M σ α) (f : α → Prog M σ β) (held : List M) (s : σ) :
    (p >>= f).run held s =
      match p.run held s with
      | .done a held' s' => (f a).run held' s'
      | .blocked m held' s' => .blocked m held' s' := by
  change (p.bind f).run held s = _
  induction p generalizing held s with
  | ret a => rfl
  | acquire m k ih =>
    by_cases hm : m ∈ held
    · simp only [bind, run, if_pos hm]
    · simp only [bind, run, if_neg hm]
      exact ih _ _
  | release m k ih => exact ih _ _
  | act u k ih => exact ih _ _ _

variable {p : Prog M σ α}

theorem exec_of_run_done {held held' : List M} {s s' : σ} {a : α}
    (h : p.run held s = .done a held' s') : p.exec s = (a, s') := by
  induction p generalizing held s with
  | ret b => cases h; rfl
  | acquire m k ih =>
    by_cases hm : m ∈ held
    · simp only [run, if_pos hm] at h
      cases h
    · simp only [run, if_neg hm] at h
      exact ih h
  | release m k ih => exact ih h
  | act u k ih => exact ih _ h

/-! ## 4. Which mutexes are asked for while holding which others -/

/-- Started with the mutexes `held`, the program asks for a mutex `m` only while it
    holds a list of mutexes `h` with `Ok h m`, whatever the state is at each of its
    steps, and when it ends with value `a` and mutexes `h`, `Q a h` holds. -/
def Locks (Ok : List M → M → Prop) : Prog M σ α → List M → (α → List M → Prop) → Prop
  | ret a, held, Q => Q a held
  | acquire m k, held, Q => Ok held m ∧ k.Locks Ok (m :: held) Q
  | release m k, held, Q => k.Locks Ok (held.erase m) Q
  | act _ k, held, Q => ∀ s, (k s).Locks Ok held Q

variable {Ok : List M → M → Prop} {held : List M}

theorem locks_bind (p : Prog M σ α) (f : α → Prog M σ β) (Q : β → List M → Prop) :
    (p >>= f).Locks Ok held Q ↔ p.Locks Ok held fun a h => (f a).Locks Ok h Q := by
  change (p.bind f).Locks Ok held Q ↔ _
  induction p generalizing held with
  | ret a => exact Iff.rfl
  | acquire m k ih => exact and_congr_right fun _ => ih
  | release m k ih => exact ih
  | act u k ih => exact forall_congr' fun s => ih s

/-! Rules that read a program from its front. -/

section Rules

variable {f : Unit → Prog M σ β} {Q : β → List M → Prop}

theorem Locks.lock_bind {m : M} (h : Ok held m) (hf : (f ()).Locks Ok (m :: held) Q) :
    (lock m >>= f).Locks Ok held Q := ⟨h, hf⟩

theorem Locks.unlock_bind {m : M} (hf : (f ()).Locks Ok (held.erase m) Q) :
    (unlock m >>= f).Locks Ok held Q := hf

theorem Locks.modify_bind {u : σ → σ} (hf : (f ()).Locks Ok held Q) :
    (modify u >>= f).Locks Ok held Q := fun _ => hf

theorem Locks.call_bind {g : σ → α × σ} {f : α → Prog M σ β} (hf : ∀ a, (f a).Locks Ok held Q) :
    (call g >>= f).Locks Ok held Q := fun _ => hf _

end Rules

theorem Locks.mono {p : Prog M σ α} {Ok' : List M → M → Prop} {Q Q' : α → List M → Prop}
    (h : p.Locks Ok held Q) (hOk : ∀ h m, Ok h m → Ok' h m) (hQ : ∀ a h, Q a h → Q' a h) :
    p.Locks Ok' held Q' := by
  induction p generalizing held with
  | ret a => exact hQ _ _ h
  | acquire m k ih => exact ⟨hOk _ _ h.1, ih h.2⟩
  | release m k ih => exact ih h
  | act u k ih => exact fun s => ih s (h s)

theorem Locks.not_blocked {Q : α → List M → Prop} (h : p.Locks (fun h m => m ∉ h) held Q) (s : σ) :
    ∃ a held' s', p.run held s = .done a held' s' ∧ Q a held' := by
  induction p generalizing held s with
  | ret a => exact ⟨a, held, s, rfl, h⟩
  | acquire m k ih =>
    obtain ⟨a, held', s', hrun, hQ⟩ := ih h.2 s
    exact ⟨a, held', s', by simp only [run, if_neg h.1, hrun], hQ⟩
  | release m k ih => exact ih h s
  | act u k ih => exact ih s (h s) (u s)

/-! ## 5. Balanced programs: called with no mutex, they return with none -/

/-- Called with no mutex held, the program asks for mutexes as `Ok` allows and
    returns with none held. -/
def Balanced (Ok : List M → M → Prop) (p : Prog M σ α) : Prop := p.Locks Ok [] fun _ h => h = []

theorem Balanced.pure (a : α) : Balanced Ok (Pure.pure a : Prog M σ α) := rfl

theorem Balanced.bind {p : Prog M σ α} {f : α → Prog M σ β} (hp : Balanced Ok p)
    (hf : ∀ a, Balanced Ok (f a)) : Balanced Ok (p >>= f) := by
  refine (locks_bind p f _).mpr (hp.mono (fun _ _ h => h) ?_)
  rintro a h rfl
  exact hf a

theorem Balanced.ite {c : Prop} [Decidable c] {q : Prog M σ α} (hp : Balanced Ok p)
    (hq : Balanced Ok q) : Balanced Ok (if c then p else q) := by
  split
  · exact hp
  · exact hq

theorem Balanced.not_selfBlocks (hp : Balanced (fun h m => m ∉ h) p) (s : σ) :
    ¬ p.SelfBlocks s := by
  rintro ⟨m, held, s', hblocked⟩
  obtain ⟨a, held', s'', hdone, -⟩ := hp.not_blocked s
  rw [hdone] at hblocked
  cases hblocked

theorem Balanced.selfBlocks_bind (hp : Balanced (fun h m => m ∉ h) p) (f : α → Prog M σ β) (s : σ) :
    (p >>= f).SelfBlocks s ↔ (f (p.exec s).1).SelfBlocks (p.exec s).2 := by
  obtain ⟨a, held', s', hdone, rfl⟩ := hp.not_blocked s
  rw [exec_of_run_done hdone]
  unfold SelfBlocks
  rw [run_bind, hdone]

theorem Locks.of_run_done {Q : α → List M → Prop} {held' : List M} {s s' : σ} {a : α}
    (h : p.Locks Ok held Q) (hrun : p.run held s = .done a held' s') : Q a held' := by
  induction p generalizing held s with
  | ret b =>
    cases hrun
    exact h
  | acquire m k ih =>
    by_cases hm : m ∈ held
    · simp only [run, if_pos hm] at hrun
      cases hrun
    · simp only [run, if_neg hm] at hrun
      exact ih h.2 hrun
  | release m k ih => exact ih h hrun
  | act u k ih => exact ih _ (h _) hrun

theorem Balanced.selfBlocks_bind_iff {p : Prog M σ α} {f : α → Prog M σ β} (hp : Balanced Ok p)
    (hf : ∀ a, Balanced (fun h m => m ∉ h) (f a)) (s : σ) :
    (p >>= f).SelfBlocks s ↔ p.SelfBlocks s := by
  unfold SelfBlocks
  rw [run_bind]
  cases hrun : p.run [] s with
  | blocked m held s' => exact ⟨fun _ => ⟨m, held, s', rfl⟩, fun _ => ⟨m, held, s', rfl⟩⟩
  | done a held s' =>
    obtain rfl : held = [] := hp.of_run_done hrun
    refine ⟨fun h => absurd h ((hf a).not_selfBlocks s'), ?_⟩
    rintro ⟨m, held, s'', h⟩
    cases h

/-! ## 6. Programs that move the state -/

/-- Started with `held`, the program asks for mutexes as `Ok` allows, ends with `held'` and moves
    the state along `T`. -/
structure Moves (Ok : List M → M → Prop) (T : σ → σ → Prop) (held held' : List M)
    (p : Prog M σ α) : Prop where
  locks : p.Locks Ok held fun _ h => h = held'
  within : p.Within T

section Moves

variable {T : σ → σ → Prop} {held' : List M}

theorem Moves.mono {p : Prog M σ α} {Ok' : List M → M → Prop} (h : p.Moves Ok T held held')
    (hOk : ∀ h m, Ok h m → Ok' h m) : p.Moves Ok' T held held' :=
  ⟨h.locks.mono hOk fun _ _ h => h, h.within⟩

theorem Moves.balanced (h : p.Moves Ok T [] []) : p.Balanced Ok := h.locks

theorem Moves.call {g : σ → α × σ} (h : Within T (call g : Prog M σ α)) :
    Moves Ok T held held (call g) :=
  ⟨fun _ => rfl, h⟩

theorem Moves.modify {u : σ → σ} (h : Within T (modify u : Prog M σ Unit)) :
    Moves Ok T held held (modify u) :=
  ⟨fun _ => rfl, h⟩

variable [Std.Refl T]

theorem Moves.pure (a : α) : Moves Ok T held held (Pure.pure a : Prog M σ α) :=
  ⟨rfl, .pure a⟩

theorem Moves.get : Moves Ok T held held (get : Prog M σ σ) :=
  ⟨fun _ => rfl, .get⟩

theorem Moves.lock {m : M} (h : Ok held m) : Moves Ok T held (m :: held) (lock m) :=
  ⟨⟨h, rfl⟩, .lock m⟩

theorem Moves.unlock {m : M} : Moves Ok T held (held.erase m) (unlock m) :=
  ⟨rfl, .unlock m⟩

omit [Std.Refl T] in
theorem Moves.bind [IsTrans σ T] {held1 : List M} {p : Prog M σ α} {f : α → Prog M σ β}
    (hp : Moves Ok T held held1 p) (hf : ∀ a, Moves Ok T held1 held' (f a)) :
    Moves Ok T held held' (p >>= f) := by
  refine ⟨(locks_bind p f _).mpr (hp.locks.mono (fun _ _ h => h) ?_), .bind hp.within fun a =>
    (hf a).within⟩
  rintro a h rfl
  exact (hf a).locks

end Moves

end Prog

end Himmelblau.LockProgram
