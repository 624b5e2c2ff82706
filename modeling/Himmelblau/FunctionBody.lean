/-
  **Function bodies that can return early.**  A body works on a state, and either
  goes on with a value or leaves its function with the function's answer, as `return`
  and `?` do in Rust.  Macros that contain a `return` are bodies of their own and are
  composed with the rest of the function by `>>=`.

  `Ensures` is the weakest precondition of a body, with one postcondition for going on
  and one for leaving; a body is reasoned about from its front.  `Within T` says that
  whatever the body does, it moves the state along the relation `T`.

  Nothing here is about a particular program.
-/
import Mathlib

namespace Himmelblau.FunctionBody

/-- A piece of a function that answers with `ρ`, over the state `σ`. -/
def Body (σ ρ α : Type) := σ → Except ρ α × σ

variable {σ ρ α β ε : Type}

namespace Body

instance : Monad (Body σ ρ) where
  pure a := fun s => (.ok a, s)
  bind p f := fun s =>
    match p s with
    | (.ok a, s') => f a s'
    | (.error r, s') => (.error r, s')

instance : LawfulMonad (Body σ ρ) :=
  LawfulMonad.mk' _
    (fun p => by
      funext s
      change (match p s with
        | (.ok a, s') => (.ok a, s')
        | (.error r, s') => (.error r, s')) = p s
      rcases p s with ⟨_ | _, s'⟩ <;> rfl)
    (fun _ _ => rfl)
    (fun p f g => by
      funext s
      change (match (match p s with
        | (.ok a, s') => f a s'
        | (.error r, s') => (.error r, s')) with
        | (.ok a, s') => g a s'
        | (.error r, s') => (.error r, s')) = match p s with
          | (.ok a, s') => (f a >>= g) s'
          | (.error r, s') => (.error r, s')
      rcases p s with ⟨_ | _, s'⟩ <;> rfl)

/-! ## 1. The primitives -/

def leave (r : ρ) : Body σ ρ α := fun s => (.error r, s)

def get : Body σ ρ σ := fun s => (.ok s, s)

def modify (u : σ → σ) : Body σ ρ Unit := fun s => (.ok (), u s)

def call (f : σ → α × σ) : Body σ ρ α := fun s => (.ok (f s).1, (f s).2)

/-- `x.map_err(f)?`. -/
def orLeave (x : Except ε α) (f : ε → ρ) : Body σ ρ α :=
  match x with
  | .ok a => pure a
  | .error e => leave (f e)

/-- The answer of another function, whether it goes on or leaves. -/
def attempt {ρ' : Type} (p : Body σ ρ α) : Body σ ρ' (Except ρ α) := fun s => (.ok (p s).1, (p s).2)

/-- The answer of the function whose body this is, and the state it leaves. -/
def run (p : Body σ ρ ρ) (s : σ) : ρ × σ :=
  match p s with
  | (.ok r, s') => (r, s')
  | (.error r, s') => (r, s')

theorem bind_apply (p : Body σ ρ α) (f : α → Body σ ρ β) (s : σ) :
    (p >>= f) s = match p s with
      | (.ok a, s') => f a s'
      | (.error r, s') => (.error r, s') := rfl

/-! ## 2. Postconditions -/

def Ensures (p : Body σ ρ α) (s : σ) (Q : α → σ → Prop) (X : ρ → σ → Prop) : Prop :=
  match p s with
  | (.ok a, s') => Q a s'
  | (.error r, s') => X r s'

/-- The same of the answer of the whole function, at its end or where it is left. -/
abbrev Gives (p : Body σ ρ ρ) (s : σ) (X : ρ → σ → Prop) : Prop := p.Ensures s X X

variable {s : σ} {Q Q' : α → σ → Prop} {X X' : ρ → σ → Prop}

@[simp] theorem ensures_pure (a : α) : (pure a : Body σ ρ α).Ensures s Q X ↔ Q a s := Iff.rfl

@[simp] theorem ensures_leave (r : ρ) : (leave r : Body σ ρ α).Ensures s Q X ↔ X r s := Iff.rfl

@[simp] theorem ensures_get {Q : σ → σ → Prop} : (get : Body σ ρ σ).Ensures s Q X ↔ Q s s := Iff.rfl

@[simp] theorem ensures_modify (u : σ → σ) {Q : Unit → σ → Prop} :
    (modify u : Body σ ρ Unit).Ensures s Q X ↔ Q () (u s) := Iff.rfl

@[simp] theorem ensures_call (f : σ → α × σ) :
    (call f : Body σ ρ α).Ensures s Q X ↔ Q (f s).1 (f s).2 := Iff.rfl

theorem ensures_bind (p : Body σ ρ α) (f : α → Body σ ρ β) {Q : β → σ → Prop} :
    (p >>= f).Ensures s Q X ↔ p.Ensures s (fun a s' => (f a).Ensures s' Q X) X := by
  change (match (match p s with
    | (.ok a, s') => f a s'
    | (.error r, s') => (.error r, s')) with
    | (.ok a, s') => Q a s'
    | (.error r, s') => X r s') ↔ _
  unfold Ensures
  rcases p s with ⟨_ | _, s'⟩ <;> exact Iff.rfl

theorem ensures_orLeave (x : Except ε α) (f : ε → ρ) :
    (orLeave x f : Body σ ρ α).Ensures s Q X ↔
      (∀ a, x = .ok a → Q a s) ∧ ∀ e, x = .error e → X (f e) s := by
  cases x with
  | ok a => simp [orLeave]
  | error e => simp [orLeave]

theorem Ensures.mono {p : Body σ ρ α} (h : p.Ensures s Q X) (hQ : ∀ a s', Q a s' → Q' a s')
    (hX : ∀ r s', X r s' → X' r s') : p.Ensures s Q' X' := by
  unfold Ensures at h ⊢
  rcases hp : p s with ⟨r | a, s'⟩
  · rw [hp] at h
    exact hX _ _ h
  · rw [hp] at h
    exact hQ _ _ h

theorem Ensures.bind {p : Body σ ρ α} {f : α → Body σ ρ β} {Q : β → σ → Prop}
    (hp : p.Ensures s Q' X) (hf : ∀ a s', Q' a s' → (f a).Ensures s' Q X) :
    (p >>= f).Ensures s Q X :=
  (ensures_bind p f).mpr (hp.mono hf fun _ _ h => h)

theorem Ensures.andThen {p : Body σ ρ α} {f : α → Body σ ρ β} {Q : β → σ → Prop}
    (hp : p.Ensures s Q' fun _ _ => False) (hf : ∀ a s', Q' a s' → (f a).Ensures s' Q X) :
    (p >>= f).Ensures s Q X :=
  (hp.mono (fun _ _ h => h) fun _ _ h => h.elim).bind hf

theorem Ensures.attempt {ρ' : Type} {p : Body σ ρ α} (h : p.Ensures s Q X)
    {X' : ρ' → σ → Prop} : (attempt p).Ensures s (fun r s' => match r with
      | .ok a => Q a s'
      | .error e => X e s') X' := by
  unfold Ensures at h
  unfold Ensures Body.attempt
  split at h
  · next heq =>
    rw [heq]
    exact h
  · next heq =>
    rw [heq]
    exact h

theorem ensures_true (p : Body σ ρ α) : p.Ensures s (fun _ _ => True) fun _ _ => True := by
  unfold Ensures
  split
  · trivial
  · trivial

theorem Ensures.and {p : Body σ ρ α} (h : p.Ensures s Q X) (h' : p.Ensures s Q' X') :
    p.Ensures s (fun a s' => Q a s' ∧ Q' a s') (fun r s' => X r s' ∧ X' r s') := by
  unfold Ensures at h h' ⊢
  rcases hp : p s with ⟨r | a, s'⟩ <;> (rw [hp] at h h'; exact ⟨h, h'⟩)

theorem Ensures.both {p : Body σ ρ α} (h : p.Ensures s Q fun _ _ => False)
    (h' : p.Ensures s Q' fun _ _ => False) :
    p.Ensures s (fun a s' => Q a s' ∧ Q' a s') fun _ _ => False :=
  (h.and h').mono (fun _ _ h => h) fun _ _ h => h.1

theorem Ensures.goesOn {p : Body σ ρ α} {a : α} {s' : σ} (h : p.Ensures s Q X)
    (heq : p s = (.ok a, s')) : Q a s' := by
  unfold Ensures at h
  rw [heq] at h
  exact h

theorem Ensures.ran {p : Body σ ρ α} (h : p.Ensures s Q X) :
    p.Ensures s (fun a s' => p s = (.ok a, s') ∧ Q a s') X := by
  unfold Ensures at h ⊢
  rcases hp : p s with ⟨r | a, s'⟩
  · rw [hp] at h
    exact h
  · rw [hp] at h
    exact ⟨rfl, h⟩

variable {f : α → Body σ ρ ρ} {p : Body σ ρ ρ}

theorem run_bind {p : Body σ ρ α} {a : α} {s' : σ} (heq : p s = (.ok a, s')) :
    (p >>= f).run s = (f a).run s' := by
  unfold run
  rw [bind_apply, heq]

theorem run_bind_left {p : Body σ ρ α} {r : ρ} {s' : σ} (heq : p s = (.error r, s')) :
    (p >>= f).run s = (r, s') := by
  unfold run
  rw [bind_apply, heq]

theorem run_call_bind (f : σ → α × σ) (k : α → Body σ ρ ρ) :
    (call f >>= k).run s = (k (f s).1).run (f s).2 := run_bind rfl

theorem Ensures.run (h : p.Ensures s X X) : X (p.run s).1 (p.run s).2 := by
  unfold Ensures at h
  unfold Body.run
  rcases hp : p s with ⟨r | a, s'⟩ <;> (rw [hp] at h; exact h)

theorem Ensures.run_of_stays (h : p.Ensures s X fun _ _ => False) : X (p.run s).1 (p.run s).2 :=
  (h.mono (fun _ _ h => h) fun _ _ h => h.elim).run

theorem run_eq {r : ρ} {s' : σ}
    (h : p.Ensures s (fun r' s'' => r' = r ∧ s'' = s') fun r' s'' => r' = r ∧ s'' = s') :
    p.run s = (r, s') :=
  Prod.ext h.run.1 h.run.2

/-! ## 3. Moving along a relation -/

/-- Whether it goes on or leaves, the body moves the state along `T`. -/
def Within (T : σ → σ → Prop) (p : Body σ ρ α) : Prop :=
  ∀ s, p.Ensures s (fun _ s' => T s s') (fun _ s' => T s s')

variable {T : σ → σ → Prop}

theorem Within.run (h : Within T p) (s : σ) : T s (p.run s).2 :=
  (h s).run

theorem Within.pure [Std.Refl T] (a : α) : Within T (pure a : Body σ ρ α) :=
  fun s => Std.Refl.refl s

theorem Within.leave [Std.Refl T] (r : ρ) : Within T (leave r : Body σ ρ α) :=
  fun s => Std.Refl.refl s

theorem Within.bind [IsTrans σ T] {p : Body σ ρ α} {f : α → Body σ ρ β} (hp : Within T p)
    (hf : ∀ a, Within T (f a)) : Within T (p >>= f) := fun s =>
  (hp s).bind fun a s' h =>
    (hf a s').mono (fun _ _ h' => IsTrans.trans _ _ _ h h') (fun _ _ h' => IsTrans.trans _ _ _ h h')

/-- The body goes on, and moves the state along `T`. -/
def Stays (T : σ → σ → Prop) (p : Body σ ρ α) : Prop :=
  ∀ s, p.Ensures s (fun _ s' => T s s') fun _ _ => False

theorem Stays.mono {T' : σ → σ → Prop} {p : Body σ ρ α} (h : Stays T p)
    (hT : ∀ {s s'}, T s s' → T' s s') : Stays T' p := fun s =>
  (h s).mono (fun _ _ h' => hT h') fun _ _ h' => h'

theorem Stays.pure [Std.Refl T] (a : α) : Stays T (pure a : Body σ ρ α) :=
  fun s => Std.Refl.refl s

theorem Stays.get [Std.Refl T] : Stays T (get : Body σ ρ σ) := fun s => Std.Refl.refl s

theorem Stays.modify {u : σ → σ} (h : ∀ s, T s (u s)) : Stays T (modify u : Body σ ρ Unit) := h

theorem Stays.bind [IsTrans σ T] {p : Body σ ρ α} {f : α → Body σ ρ β} (hp : Stays T p)
    (hf : ∀ a, Stays T (f a)) : Stays T (p >>= f) := fun s =>
  (hp s).bind fun a s' h => (hf a s').mono (fun _ _ h' => IsTrans.trans _ _ _ h h') fun _ _ h' => h'

/-! ## 4. What is answered -/

def Leaving (X : ρ → Prop) (p : Body σ ρ α) : Prop :=
  ∀ s, p.Ensures s (fun _ _ => True) fun r _ => X r

def Yields (X : ρ → Prop) (p : Body σ ρ ρ) : Prop :=
  ∀ s, p.Ensures s (fun r _ => X r) fun r _ => X r

variable {X : ρ → Prop}

theorem Leaving.of_stays {p : Body σ ρ α} {Q : σ → α → σ → Prop}
    (h : ∀ s, p.Ensures s (Q s) fun _ _ => False) : Leaving X p := fun s =>
  (h s).mono (fun _ _ _ => trivial) fun _ _ h' => h'.elim

theorem Leaving.pure (a : α) : Leaving X (pure a : Body σ ρ α) := fun _ => trivial

theorem Leaving.leave {r : ρ} (h : X r) : Leaving X (leave r : Body σ ρ α) := fun _ => h

theorem Leaving.bind {p : Body σ ρ α} {f : α → Body σ ρ β} (hp : Leaving X p)
    (hf : ∀ a, Leaving X (f a)) : Leaving X (p >>= f) := fun s =>
  (hp s).bind fun a s' _ => hf a s'

theorem Yields.pure {r : ρ} (h : X r) : Yields X (pure r : Body σ ρ ρ) := fun _ => h

theorem Yields.bind {p : Body σ ρ α} (hp : Leaving X p) (hf : ∀ a, Yields X (f a)) :
    Yields X (p >>= f) := fun s =>
  (hp s).bind fun a s' _ => hf a s'

theorem Yields.run (h : Yields X p) (s : σ) : X (p.run s).1 :=
  (h s).run (X := fun r _ => X r)

end Body

end Himmelblau.FunctionBody
