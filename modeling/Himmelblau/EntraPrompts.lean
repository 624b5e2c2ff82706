/-
  **What an online step leaves behind**: the prompt it answers with, the credential handler
  that the session keeps for the next step, and on what grounds it succeeds.

  A step goes on or leaves its function, and every piece of it is judged by `Walks`: while it
  goes on the handler stays, or becomes that of a flow; if it leaves with a prompt, then the
  handler fits the prompt; if it leaves with a success, or with the handler of a TOTP code or
  a new PIN, then there is evidence for it in the trace: a token was validated, or a request
  for one was answered in a way that the source treats as an outage.
-/
import Himmelblau.HelloMoves

namespace Himmelblau.Entra

open Interface Config Msal FunctionBody Ctx

variable {W ρ α β : Type}

/-! ## 1. Handlers and prompts -/

def isMfa : AuthCredHandler → Bool
  | .mfa .. => true
  | _ => false

def isPasswordFirst : AuthCredHandler → Bool
  | .passwordFirst .. => true
  | _ => false

/-- The handlers of a TOTP code and of a new PIN: something was shown before. -/
def isEarned : AuthCredHandler → Bool
  | .helloTOTP .. | .setupPin _ => true
  | _ => false

/-- What becomes of the handler while a step goes on: a flow moves on, and `ForceMFA` is
    added to the options of a password. -/
def Sticky (h h' : AuthCredHandler) : Prop :=
  h' = h ∨ (isMfa h = true ∧ isMfa h' = true) ∨
    (isPasswordFirst h = true ∧ isPasswordFirst h' = true)

def Kept : AuthCredHandler → PamAuthRequest → Prop
  | .setupPin _, .setupPin _ | .helloTOTP .., .helloTOTP _ | .passwordFirst .., .password _ => True
  | _, _ => False

def Prompts : AuthCredHandler → AuthRequest → Prop
  | .passwordFirst .., d => d = .password
  | .setupPin _, d => ∃ msg, d = .setupPin msg
  | .helloTOTP .., d => ∃ msg, d = .helloTOTP msg
  | _, _ => True

theorem prompts_of_isMfa {h : AuthCredHandler} (hmfa : isMfa h = true) (d : AuthRequest) :
    Prompts h d ∧ isEarned h = false := by
  cases h with
  | mfa => exact ⟨trivial, rfl⟩
  | _ => cases hmfa

theorem Sticky.refl (h : AuthCredHandler) : Sticky h h := .inl rfl

variable {h h' : AuthCredHandler} {p : Fn W StepAnswer StepAnswer}

theorem Sticky.isPasswordFirst (hs : Sticky h h') (hfirst : isPasswordFirst h = true) :
    isPasswordFirst h' = true := by
  rcases hs with rfl | ⟨hmfa, -⟩ | ⟨-, hfirst'⟩
  · exact hfirst
  · cases h with
    | mfa => cases hfirst
    | _ => cases hmfa
  · exact hfirst'

theorem Sticky.isMfa (hs : Sticky h h') (hmfa : isMfa h = true) : isMfa h' = true := by
  rcases hs with rfl | ⟨-, hmfa'⟩ | ⟨hfirst, -⟩
  · exact hmfa
  · exact hmfa'
  · cases h with
    | mfa => cases hfirst
    | _ => cases hmfa

theorem Sticky.trans {h'' : AuthCredHandler} (h1 : Sticky h h') (h2 : Sticky h' h'') :
    Sticky h h'' := by
  rcases h1 with rfl | ⟨hmfa, hmfa'⟩ | ⟨hfirst, hfirst'⟩
  · exact h2
  · exact .inr (.inl ⟨hmfa, h2.isMfa hmfa'⟩)
  · exact .inr (.inr ⟨hfirst, h2.isPasswordFirst hfirst'⟩)

theorem Sticky.earned (hs : Sticky h h') (he : isEarned h' = true) : isEarned h = true := by
  rcases hs with rfl | ⟨-, hmfa⟩ | ⟨-, hfirst⟩
  · exact he
  · cases h' with
    | mfa => cases he
    | _ => cases hmfa
  · cases h' with
    | passwordFirst => cases he
    | _ => cases hfirst

/-! ## 2. Evidence -/

/-- The answers to a request for a token after which the source goes on without one. -/
def fallsBack : MsalError → Bool
  | .requestFailed _ => true
  | e => isSsprRequired e

theorem fallsBack_of_isSsprRequired {e : MsalError} (h : isSsprRequired e = true) :
    fallsBack e = true := by
  cases e with
  | requestFailed => rfl
  | _ => exact h

/-- What counts as evidence for the account `a` with the Entra provider. -/
def Shows (a : String) : Event → Prop
  | .validated b _ => b = a
  | .tokenAnswer b _ (some e) => b = a ∧ fallsBack e = true
  | _ => False

def Evident (ev : Event → Prop) (c c' : Ctx W) : Prop :=
  ∃ new e, c'.provider.trace = new ++ c.provider.trace ∧ e ∈ new ∧ ev e

/-- No event is lost, and what is initialised stays so. -/
def Grows (c c' : Ctx W) : Prop :=
  c.provider.trace <:+ c'.provider.trace ∧
    (c.provider.initialized = true → c'.provider.initialized = true)

theorem Grows.trans {c c' c'' : Ctx W} (h : Grows c c') (h' : Grows c' c'') : Grows c c'' :=
  ⟨h.1.trans h'.1, fun hinit => h'.2 (h.2 hinit)⟩

theorem Grows.same {c c' : Ctx W} (htrace : c'.provider.trace = c.provider.trace)
    (hinit : c'.provider.initialized = c.provider.initialized) : Grows c c' :=
  ⟨htrace ▸ List.suffix_refl _, fun h => hinit.trans h⟩

theorem Grows.log {c c' : Ctx W} {e : Event} (htrace : c'.provider.trace = e :: c.provider.trace)
    (hinit : c'.provider.initialized = c.provider.initialized) : Grows c c' :=
  ⟨htrace ▸ List.suffix_cons _ _, fun h => hinit.trans h⟩

variable {ev : Event → Prop} {c c1 c' : Ctx W}

theorem Evident.mono (h : Evident ev c c1) (h' : Grows c1 c') : Evident ev c c' := by
  obtain ⟨new, e, htrace, hmem, he⟩ := h
  obtain ⟨more, hmore⟩ := h'.1
  refine ⟨more ++ new, e, ?_, List.mem_append_right more hmem, he⟩
  rw [← hmore, htrace, List.append_assoc]

theorem Evident.of_grows (h : Grows c c1) (h' : Evident ev c1 c') : Evident ev c c' := by
  obtain ⟨old, hold⟩ := h.1
  obtain ⟨new, e, htrace, hmem, he⟩ := h'
  refine ⟨new ++ old, e, ?_, List.mem_append_left old hmem, he⟩
  rw [htrace, ← hold, List.append_assoc]

/-! ## 3. The judgement -/

/-- Nothing happens to the handler, and nothing is lost. -/
def Quiet (p : Fn W ρ α) : Prop :=
  ∀ c, p.Ensures c (fun _ c' => c'.credHandler = c.credHandler ∧ Grows c c') (fun _ _ => False)

/-- What a step may be answered with, from the handler `h`: `G` are the grounds for a success
    and `E` is the evidence. -/
inductive Suits (G E : Prop) (h : AuthCredHandler) : StepAnswer → AuthCredHandler → Prop
  | error (e : IdpError) {h' : AuthCredHandler} (hsticky : Sticky h h') : Suits G E h (.error e) h'
  | denied (msg : String) {h' : AuthCredHandler} : Suits G E h (.ok (.denied msg, .none)) h'
  | next (d : AuthRequest) (action : AuthCacheAction) {h' : AuthCredHandler}
      (hprompts : Prompts h' d) (hearned : isEarned h' = true → E) :
      Suits G E h (.ok (.next d, action)) h'
  | success (t : UserToken) (action : AuthCacheAction) {h' : AuthCredHandler}
      (hsticky : Sticky h h') (hground : G) (hevidence : E) :
      Suits G E h (.ok (.success t, action)) h'

theorem Suits.mono {G G' E E' : Prop} {h h1 h' : AuthCredHandler} {r : StepAnswer}
    (hfits : Suits G E h1 r h') (hsticky : Sticky h h1) (hG : G → G') (hE : E → E') :
    Suits G' E' h r h' := by
  cases hfits with
  | error e h' => exact .error e (hsticky.trans h')
  | denied msg => exact .denied msg
  | next d action hprompts hearned => exact .next d action hprompts fun he => hE (hearned he)
  | success t action h' hground hevidence =>
    exact .success t action (hsticky.trans h') (hG hground) (hE hevidence)

variable (ev)

def Goes (c c' : Ctx W) : Prop := Sticky c.credHandler c'.credHandler ∧ Grows c c'

/-- The step is left with an answer that fits.  If `F` holds, there was evidence before. -/
def Leaves (G F : Prop) (c : Ctx W) (r : StepAnswer) (c' : Ctx W) : Prop :=
  Grows c c' ∧
    Suits G (F ∨ Evident ev c c' ∨ isEarned c.credHandler = true) c.credHandler r c'.credHandler

/-- A piece of a step, with `Q` for where it goes on. -/
def Judged (G F : Prop) (Q : Ctx W → α → Ctx W → Prop) (p : Fn W StepAnswer α) : Prop :=
  ∀ c, p.Ensures c (Q c) (Leaves ev G F c)

def Walks (G F : Prop) (p : Fn W StepAnswer α) : Prop := Judged ev G F (fun c _ c' => Goes c c') p

def Answers (G F : Prop) (p : Fn W StepAnswer StepAnswer) : Prop := Judged ev G F (Leaves ev G F) p

def Stops (G F : Prop) (p : Fn W StepAnswer α) : Prop := Judged ev G F (fun _ _ _ => False) p

variable {ev} {G F : Prop}

theorem Goes.refl (c : Ctx W) : Goes c c := ⟨.refl _, .same rfl rfl⟩

theorem Goes.trans (h : Goes c c1) (h' : Goes c1 c') : Goes c c' :=
  ⟨h.1.trans h'.1, h.2.trans h'.2⟩

theorem Leaves.after {r : StepAnswer} (h : Goes c c1) (h' : Leaves ev G F c1 r c') :
    Leaves ev G F c r c' := by
  refine ⟨h.2.trans h'.1, h'.2.mono h.1 id ?_⟩
  rintro (hF | hev | hearned)
  · exact .inl hF
  · exact .inr (.inl (hev.of_grows h.2))
  · exact .inr (.inr (h.1.earned hearned))

theorem Leaves.weaken {G' F' : Prop} {r : StepAnswer} (h : Leaves (fun _ => False) G F c r c')
    (hG : G → G') (hF : F → F') : Leaves ev G' F' c r c' := by
  refine ⟨h.1, h.2.mono (.refl _) hG ?_⟩
  rintro (hF' | ⟨_, _, _, _, hev⟩ | hearned)
  · exact .inl (hF hF')
  · exact hev.elim
  · exact .inr (.inr hearned)

theorem Goes.walks {p : Fn W StepAnswer α} (h : Goes c c1)
    (hp : p.Ensures c1 (fun _ c' => Goes c1 c') (Leaves ev G F c1)) :
    p.Ensures c1 (fun _ c' => Goes c c') (Leaves ev G F c) :=
  hp.mono (fun _ _ h' => h.trans h') fun _ _ h' => .after h h'

theorem Goes.answers (h : Goes c c1) (hp : p.Gives c1 (Leaves ev G F c1)) :
    p.Gives c1 (Leaves ev G F c) :=
  hp.mono (fun _ _ h' => .after h h') fun _ _ h' => .after h h'

theorem Leaves.after_evident {r : StepAnswer} (h : Goes c c1) (hev : Evident ev c c1)
    (h' : Leaves ev G True c1 r c') : Leaves ev G F c r c' :=
  ⟨h.2.trans h'.1, h'.2.mono h.1 id fun _ => .inr (.inl (hev.mono h'.1))⟩

/-! ## 4. Functions that keep the handler -/

namespace Quiet

theorem pure (x : α) : Quiet (pure x : Fn W ρ α) := fun _ => ⟨rfl, .same rfl rfl⟩

theorem bind {p : Fn W ρ α} {f : α → Fn W ρ β} (hp : Quiet p) (hf : ∀ x, Quiet (f x)) :
    Quiet (p >>= f) := fun c =>
  (hp c).bind fun x c1 h =>
    (hf x c1).mono (fun _ _ h' => ⟨h'.1.trans h.1, h.2.trans h'.2⟩) fun _ _ h' => h'

theorem get : Quiet (Body.get : Fn W ρ (Ctx W)) := fun _ => ⟨rfl, .same rfl rfl⟩

theorem ask (f : Ext W α) : Quiet (ask f : Fn W ρ α) := fun _ => ⟨rfl, .same rfl rfl⟩

theorem log (e : Event) : Quiet (log e : Fn W ρ Unit) := fun _ => ⟨rfl, .log rfl rfl⟩

theorem getKeystore : Quiet (getKeystore : Fn W ρ KeyStore) := fun _ => ⟨rfl, .same rfl rfl⟩

theorem insert (tag : String) (key : StoredKey) :
    Quiet (insertTaggedHsmKey tag key : Fn W ρ Unit) := fun _ => ⟨rfl, .same rfl rfl⟩

theorem delete (tag : String) : Quiet (deleteTaggedHsmKey tag : Fn W ρ Unit) :=
  fun _ => ⟨rfl, .same rfl rfl⟩

theorem resetBadPinCount (a : String) :
    Quiet (HimmelblauProvider.resetBadPinCount a : Fn W ρ Unit) :=
  fun _ => ⟨rfl, .log rfl rfl⟩

theorem incrementBadPinCount (a : String) :
    Quiet (HimmelblauProvider.incrementBadPinCount a : Fn W ρ Unit) :=
  fun _ => ⟨rfl, .log rfl rfl⟩

end Quiet

end Himmelblau.Entra

theorem Himmelblau.FunctionBody.Body.Stays.quiet {W ρ α : Type} {p : Entra.Fn W ρ α}
    (h : Stays Entra.Idle p) : Entra.Quiet p :=
  h.mono fun h' => ⟨h'.credHandler, h'.trace ▸ List.suffix_refl _, h'.initialized⟩

namespace Himmelblau.Entra

open Interface Config Msal FunctionBody Ctx

variable {W ρ α β : Type} {ev : Event → Prop} {G F : Prop} {c c1 c' : Ctx W}

namespace HimmelblauProvider

variable (P : HimmelblauProvider W)

theorem tryPin_quiet (a : String) (k : LoadableMsHelloKey) (pin : PinValue) :
    Quiet (P.tryPin a k pin : Fn W ρ _) :=
  .bind (.ask _) fun _ => .bind (.log _) fun _ => .pure _

theorem storeHelloKey_quiet (a : String) (amrNgcmfa : Bool) (k : LoadableMsHelloKey) :
    Quiet (P.storeHelloKey a amrNgcmfa k : Fn W ρ Unit) :=
  .bind (.insert _ _) fun _ => .log _

end HimmelblauProvider

def Still (c c' : Ctx W) : Prop := c'.credHandler = c.credHandler ∧ Grows c c'

theorem Still.refl (c : Ctx W) : Still c c := ⟨rfl, .same rfl rfl⟩

theorem Still.trans (h : Still c c1) (h' : Still c1 c') : Still c c' :=
  ⟨h'.1.trans h.1, h.2.trans h'.2⟩

/-- The handler stays, and where the function is left, it is with an answer in `X`. -/
def Plods (X : ρ → Prop) (p : Fn W ρ α) : Prop :=
  ∀ c, p.Ensures c (fun _ c' => Still c c') fun r c' => Still c c' ∧ X r

def Concludes (X : ρ → Prop) (p : Fn W ρ ρ) : Prop := ∀ c, p.Gives c fun r c' => Still c c' ∧ X r

variable {X : ρ → Prop} {r : ρ}

namespace Plods

variable {p : Fn W ρ α}

theorem of_quiet (h : Quiet p) : Plods X p := fun c =>
  (h c).mono (fun _ _ h' => h') fun _ _ h' => h'.elim

theorem pure (x : α) : Plods X (pure x : Fn W ρ α) := of_quiet (.pure x)

theorem leave (h : X r) : Plods X (Body.leave r : Fn W ρ α) := fun c => ⟨.refl c, h⟩

theorem orLeave {ε : Type} (x : Except ε α) {f : ε → ρ} (h : ∀ e, X (f e)) :
    Plods X (Body.orLeave x f : Fn W ρ α) := by
  cases x with
  | ok x => exact pure x
  | error e => exact leave (h e)

theorem bind {f : α → Fn W ρ β} (hp : Plods X p) (hf : ∀ x, Plods X (f x)) :
    Plods X (p >>= f) := fun c =>
  (hp c).bind fun x c1 h =>
    (hf x c1).mono (fun _ _ h' => h.trans h') fun _ _ h' => ⟨h.trans h'.1, h'.2⟩

end Plods

namespace Concludes

theorem pure (h : X r) : Concludes X (pure r : Fn W ρ ρ) := fun c => ⟨.refl c, h⟩

theorem bind {p : Fn W ρ α} {f : α → Fn W ρ ρ} (hp : Plods X p) (hf : ∀ x, Concludes X (f x)) :
    Concludes X (p >>= f) := fun c =>
  (hp c).bind fun x c1 h =>
    (hf x c1).mono (fun _ _ h' => ⟨h.trans h'.1, h'.2⟩) fun _ _ h' => ⟨h.trans h'.1, h'.2⟩

end Concludes

/-! ## 5. The rules of the judgement -/

theorem Still.leaves {r : StepAnswer} (h : Still c c')
    (hr : ∀ E h, (F → E) → Suits G E h r h) : Leaves ev G F c r c' :=
  ⟨h.2, h.1 ▸ hr _ _ .inl⟩

theorem Quiet.goes {p : Fn W ρ α} (h : Quiet p) (c : Ctx W) :
    p.Ensures c (fun _ c' => Goes c c') (fun _ _ => False) :=
  (h c).mono (fun _ _ h' => ⟨.inl h'.1, h'.2⟩) fun _ _ h' => h'

section Rules

variable {Q : Ctx W → α → Ctx W → Prop} {p : Fn W StepAnswer α}

namespace Judged

theorem of_stops (h : Stops ev G F p) : Judged ev G F Q p := fun c =>
  (h c).mono (fun _ _ h' => h'.elim) fun _ _ h' => h'

theorem leave {r : StepAnswer} (h : ∀ E h, Suits G E h r h) :
    Judged ev G F Q (Body.leave r) := fun _ => ⟨.same rfl rfl, h _ _⟩

theorem error (e : IdpError) : Judged ev G F Q (Body.leave (.error e)) :=
  leave fun _ h => .error e (.refl h)

theorem deny (msg : String) : Judged ev G F Q (deny msg) := leave fun _ _ => .denied msg

theorem prompt {handler : AuthCredHandler} {d : AuthRequest} (action : AuthCacheAction)
    (hprompts : Prompts handler d) (hearned : isEarned handler = true → F) :
    Judged ev G F Q (setCredHandler handler >>= fun _ => next d action) :=
  fun _ => ⟨.same rfl rfl, .next d action hprompts fun he => .inl (hearned he)⟩

theorem succeed (b : String) (t : UserToken) (action : AuthCacheAction) (hG : G) (hF : F) :
    Judged ev G F Q (succeed b t action) :=
  fun _ => ⟨.log rfl rfl, .success t action (.refl _) hG (.inl hF)⟩

end Judged

namespace Walks

theorem of_quiet (h : Quiet p) : Walks ev G F p := fun c =>
  (h.goes c).mono (fun _ _ h' => h') fun _ _ h' => h'.elim

theorem pure (x : α) : Walks ev G F (pure x : Fn W StepAnswer α) := of_quiet (.pure x)

theorem bind {f : α → Fn W StepAnswer β} (hp : Walks ev G F p) (hf : ∀ x, Walks ev G F (f x)) :
    Walks ev G F (p >>= f) := fun c =>
  (hp c).bind fun x c1 h => h.walks (hf x c1)

theorem orLeave (x : Except IdpError α) :
    Walks ev G F (Body.orLeave x .error : Fn W StepAnswer α) := by
  cases x with
  | ok x => exact pure x
  | error e => exact .error e

end Walks

namespace Stops

theorem bind {f : α → Fn W StepAnswer β} (hp : Walks ev G F p) (hf : ∀ x, Stops ev G F (f x)) :
    Stops ev G F (p >>= f) := fun c =>
  (hp c).bind fun x c1 h => (hf x c1).mono (fun _ _ h' => h') fun _ _ h' => .after h h'

end Stops

namespace Answers

theorem bind {f : α → Fn W StepAnswer StepAnswer} (hp : Walks ev G F p)
    (hf : ∀ x, Answers ev G F (f x)) : Answers ev G F (p >>= f) := fun c =>
  (hp c).bind fun x c1 h => h.answers (hf x c1)

theorem pure {r : StepAnswer} (h : ∀ E h, Suits G E h r h) :
    Answers ev G F (pure r : Fn W StepAnswer StepAnswer) := fun _ => ⟨.same rfl rfl, h _ _⟩

theorem pureError (e : IdpError) :
    Answers ev G F (Pure.pure (.error e) : Fn W StepAnswer StepAnswer) :=
  pure fun _ h => .error e (.refl h)

theorem pureDenied (msg : String) :
    Answers ev G F (Pure.pure (.ok (.denied msg, .none)) : Fn W StepAnswer StepAnswer) :=
  pure fun _ _ => .denied msg

theorem purePrompt {handler : AuthCredHandler} {d : AuthRequest} (action : AuthCacheAction)
    (hprompts : Prompts handler d) (hearned : isEarned handler = true → F) :
    Answers ev G F (setCredHandler handler >>= fun _ => Pure.pure (.ok (.next d, action)) :
      Fn W StepAnswer StepAnswer) :=
  fun _ => ⟨.same rfl rfl, .next d action hprompts fun he => .inl (hearned he)⟩

variable {p : Fn W StepAnswer StepAnswer}

theorem leaving (h : Answers ev G F p) :
    Stops ev G F (p >>= fun r => Body.leave r : Fn W StepAnswer α) := fun c =>
  Body.Ensures.bind ((h c).mono (fun _ _ h' => h') fun _ _ h' => h') fun _ _ h' => h'

theorem of_earned (h : Answers ev G True p) (he : isEarned c.credHandler = true) :
    p.Gives c (Leaves ev G F c) := by
  have hleaves : ∀ r c', Leaves ev G True c r c' → Leaves ev G F c r c' := fun _ _ h' =>
    ⟨h'.1, h'.2.mono (.refl _) id fun _ => .inr (.inr he)⟩
  exact (h c).mono hleaves hleaves

end Answers

end Rules

end Himmelblau.Entra

/-! ## 6. What both providers do with a PIN -/

namespace Himmelblau.Entra.HimmelblauProvider

open Interface Config Msal FunctionBody Ctx

variable {W ρ α : Type} (P : HimmelblauProvider W)

def Loads (cred : String) (k : LoadableMsHelloKey) : Prop :=
  ∃ pin w, P.outside.pinValueNew cred = some pin ∧ (P.outside.msHelloKeyLoad k pin w).1.isSome

variable {ev : Event → Prop} {a b pin cred : String} {G F : Prop} {c c1 : Ctx W}
  {k : LoadableMsHelloKey} {token : UnixUserToken} {oldToken : UserToken}
  {e : MsalError}

theorem handleHelloBadPinCount_plods {X : ρ → Prop} {retFn : String → ρ}
    (h : ∀ msg, X (retFn msg)) :
    Plods X (P.handleHelloBadPinCount b retFn : Fn W ρ Unit) := by
  apply Plods.bind (.of_quiet (.incrementBadPinCount b))
  intro _
  apply Plods.bind (.of_quiet .get)
  intro c
  dsimp only
  split
  · exact .leave (h _)
  · split
    · apply Plods.bind (.of_quiet (.delete _))
      intro _
      apply Plods.bind (.of_quiet (.delete _))
      intro _
      apply Plods.bind (.of_quiet (.delete _))
      intro _
      exact .bind (.of_quiet (.delete _)) fun _ => .leave (h _)
    · exact .pure ()

theorem handleHelloBadPinCount_walks {retFn : String → StepAnswer}
    (h : ∀ msg, ∃ msg', retFn msg = .ok (.denied msg', .none)) :
    Walks ev G F (P.handleHelloBadPinCount b retFn) := by
  have hplods : Plods (fun r : StepAnswer => ∃ msg, r = .ok (.denied msg, .none))
    (P.handleHelloBadPinCount b retFn) := P.handleHelloBadPinCount_plods h
  refine fun c => (hplods c).mono (fun _ _ h' => ⟨.inl h'.1, h'.2⟩) ?_
  rintro _ _ ⟨hstill, msg, rfl⟩
  exact hstill.leaves fun _ _ _ => .denied msg

theorem badPin_answers (msg : String) :
    Answers ev G F (P.handleHelloBadPinCount b (fun msg => .ok (.denied msg, .none)) >>=
      fun _ => deny msg) :=
  .bind (P.handleHelloBadPinCount_walks fun _ => ⟨_, rfl⟩) fun _ => .deny _

theorem helloTokenDenied_stops : Stops ev G F (P.helloTokenDenied b e : Fn W StepAnswer α) :=
  .bind (P.handleHelloBadPinCount_walks fun _ => ⟨_, rfl⟩) fun _ => .deny _

theorem tryPin_spec (pin : PinValue) :
    (P.tryPin b k pin : Fn W ρ _).Ensures c (fun r c' => Goes c c' ∧
      (r.isSome = true → ∃ w, (P.outside.msHelloKeyLoad k pin w).1.isSome = true))
      (fun _ _ => False) :=
  ⟨⟨.inl rfl, .log rfl rfl⟩, fun h => ⟨_, h⟩⟩

theorem sealToken_walks {onError : Fn W StepAnswer Unit} (h : Walks ev G F onError) :
    Walks ev G F (P.sealToken b token k pin onError) := by
  unfold sealToken
  split
  · apply Walks.bind (.of_quiet (.ask _))
    intro r
    split
    · exact .of_quiet (.insert _ _)
    · exact .pure ()
  · apply Walks.bind (.of_quiet (P.sealRefreshToken_calm _ _ _).idle.quiet)
    intro r
    split
    · exact .of_quiet (.insert _ _)
    · exact h

theorem setupHelloTotp_answers :
    Answers ev G True (P.setupHelloTotp b pin : Fn W StepAnswer StepAnswer) := by
  apply Answers.bind (.of_quiet (.ask _))
  intro totp
  split
  · exact .pureError _
  · split
    · exact .pureError _
    · apply Answers.bind (.of_quiet .getKeystore)
      intro ks
      split
      · exact .pureError _
      · apply Answers.bind (.of_quiet (.ask _))
        intro key
        split
        · exact .pureError _
        · apply Answers.bind (.of_quiet (.ask _))
          intro data
          split
          · exact .pureError _
          · exact .purePrompt .none ⟨_, rfl⟩ fun _ => trivial

theorem helloTotpOrSuccess_stops (token : UserToken) (hG : G) :
    Stops ev G True (P.helloTotpOrSuccess b cred token : Fn W StepAnswer α) := by
  unfold helloTotpOrSuccess
  split
  · apply Stops.bind (.of_quiet .getKeystore)
    intro ks
    split
    · exact P.setupHelloTotp_answers.leaving
    · exact .prompt .none ⟨_, rfl⟩ fun _ => trivial
  · exact .succeed b token .none hG trivial

theorem tryCode_quiet (record : String) : Quiet (P.tryCode b record cred : Fn W ρ _) := by
  apply Quiet.bind (.ask _)
  intro r
  split
  · exact .pure _
  · exact .bind (.log _) fun _ => .pure _

section Totp

variable {β : Type} {action : AuthResult → β} {X : Except IdpError β → Prop}

theorem totpDenied_concludes (h : ∀ msg, X (.ok (action (.denied msg)))) :
    Concludes X (P.totpDenied a action) :=
  .bind (P.handleHelloBadPinCount_plods fun _ => h _) fun _ => .pure (h _)

theorem totpAccepted_concludes (pending : Bool) (secret : SealedData)
    (h : X (.ok (action (.success oldToken)))) :
    Concludes X (P.totpAccepted a oldToken pending secret action) := by
  have hend : Concludes X (do
      log (.success a)
      resetBadPinCount a
      return .ok (action (.success oldToken)) : Fn W (Except IdpError β) _) :=
    .bind (.of_quiet (.log _)) fun _ => .bind (.of_quiet (.resetBadPinCount a)) fun _ => .pure h
  unfold totpAccepted
  split
  · exact .bind (.of_quiet (.insert _ _)) fun _ => hend
  · exact hend

theorem handleHelloPinTotpAuth_concludes (pending : Option SealedData) (herror : ∀ e, X (.error e))
    (hdenied : ∀ msg, X (.ok (action (.denied msg))))
    (hsuccess : X (.ok (action (.success oldToken)))) :
    Concludes X (P.handleHelloPinTotpAuth a oldToken cred pin pending action) := by
  apply Concludes.bind (.of_quiet .getKeystore)
  intro ks
  apply Concludes.bind (.orLeave _ herror)
  intro secret
  apply Concludes.bind (.of_quiet .getKeystore)
  intro ks'
  apply Concludes.bind (.orLeave _ herror)
  intro key
  dsimp only
  split
  · exact .pure (herror _)
  · apply Concludes.bind (.of_quiet (P.tryPin_quiet _ _ _))
    intro loaded
    split
    · exact P.totpDenied_concludes hdenied
    · apply Concludes.bind (.of_quiet (P.unsealText_calm _ _).idle.quiet)
      intro record
      split
      · exact .pure (herror _)
      · apply Concludes.bind (.of_quiet (P.tryCode_quiet _))
        intro checked
        split
        · exact .pure (herror _)
        · exact P.totpAccepted_concludes _ _ hsuccess
        · exact P.totpDenied_concludes hdenied

end Totp

theorem handleHelloPinTotpAuth_answers (pending : Option SealedData) (hG : G) : Answers ev G True
      (P.handleHelloPinTotpAuth a oldToken cred pin pending fun r => (r, .none)) := by
  have hall : Concludes (fun r => ∀ E h, (True → E) → Suits G E h r h)
      (P.handleHelloPinTotpAuth a oldToken cred pin pending fun r => (r, .none)) :=
    P.handleHelloPinTotpAuth_concludes pending (fun e _ h _ => .error e (.refl h))
      (fun msg _ _ _ => .denied msg) fun _ h hE => .success oldToken _ (.refl h) hG (hE trivial)
  exact fun c => (hall c).mono (fun _ _ h => h.1.leaves h.2) fun _ _ h => h.1.leaves h.2

/-! ## 7. The verdict on a token -/

/-- What `token_validate` answers: a success is in the trace. -/
inductive Verdict (ev : Event → Prop) (c : Ctx W) : Except IdpError AuthResult → Ctx W → Prop
  | error (e : IdpError) {c' : Ctx W} (h : Goes c c') : Verdict ev c (.error e) c'
  | denied (msg : String) {c' : Ctx W} (h : Goes c c') : Verdict ev c (.ok (.denied msg)) c'
  | success (t : UserToken) {c' : Ctx W} (h : Goes c c') (hevident : Evident ev c c') :
      Verdict ev c (.ok (.success t)) c'

theorem Verdict.answers {k : Except IdpError AuthResult → Fn W StepAnswer StepAnswer}
    {r : Except IdpError AuthResult} (h : Verdict ev c r c1)
    (herror : ∀ e, Answers ev G F (k (.error e)))
    (hdenied : ∀ msg, Answers ev G F (k (.ok (.denied msg))))
    (hsuccess : ∀ t, Answers ev G True (k (.ok (.success t)))) :
    (k r).Gives c1 (Leaves ev G F c) := by
  cases h with
  | error e h => exact h.answers (herror e c1)
  | denied msg h => exact h.answers (hdenied msg c1)
  | success t h hevident =>
    exact (hsuccess t c1).mono (fun _ _ h' => .after_evident h hevident h') fun _ _ h' =>
      .after_evident h hevident h'

end Himmelblau.Entra.HimmelblauProvider
