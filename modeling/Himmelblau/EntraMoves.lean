/-
  **The online step as moves of a view, and what it leaves behind.**  Four kinds of functions
  make up `unix_user_online_auth_step`, and each is walked once:

    * those that leave the views alone and may deny the step or prompt (`Checks`);
    * those that obtain a token (`Acquires`): they may count, reset and drop a stored
      value, and if they end the step with `Success`, then with the token of the session;
    * those that end the step for a token they are given (`Settles`);
    * the arms of the step, of which `Outcome` says how the token that was validated and
      the token of the answer are related, and `Leaves` that the answer fits.
-/
import Himmelblau.EntraPrompts

namespace Himmelblau.Entra

open Interface Config Msal FunctionBody Ctx Relation

variable {W ρ α β ε : Type}

def successToken : StepAnswer → Option UserToken
  | .ok (.success t, _) => some t
  | _ => none

namespace HimmelblauProvider

variable (P : HimmelblauProvider W)

/-! ## 1. Functions that check -/

/-- The views are left alone, and the handler stays or is that of a flow that moves on. -/
structure Same (c c' : Ctx W) : Prop where
  same : P.SameViews c c'
  goes : Goes c c'

/-- The step is ended, and not with `Success`; nothing is earned. -/
structure Declines (c : Ctx W) (r : StepAnswer) (c' : Ctx W) : Prop where
  same : P.SameViews c c'
  leaves : Leaves (fun _ => False) False False c r c'

def Rests (p : Fn W ρ α) : Prop := Body.Stays P.Same p

/-- The function rests, or ends the step without a success. -/
def Checks (p : Fn W StepAnswer α) : Prop :=
  ∀ c, p.Ensures c (fun _ c' => P.Same c c') (P.Declines c)

def Denies (p : Fn W StepAnswer α) : Prop :=
  ∀ c, p.Ensures c (fun _ _ => False) (P.Declines c)

variable {P} {c c1 c' : Ctx W} {r : StepAnswer}

instance : Std.Refl P.Same := ⟨fun c => ⟨.idle rfl rfl rfl, .refl c⟩⟩

instance : IsTrans (Ctx W) P.Same :=
  ⟨fun _ _ _ h h' => ⟨h.same.trans h'.same, h.goes.trans h'.goes⟩⟩

theorem Same.refl (c : Ctx W) : P.Same c c := Std.Refl.refl c

theorem Same.idle {u : ProviderState W} (hcount : u.badPinCounter = c.provider.badPinCounter)
    (htrace : u.trace = c.provider.trace) (hinit : u.initialized = c.provider.initialized) :
    P.Same c { c with provider := u } :=
  ⟨.idle rfl hcount htrace, .inl rfl, .same htrace hinit⟩

theorem Same.trans (h : P.Same c c1) (h' : P.Same c1 c') : P.Same c c' :=
  IsTrans.trans _ _ _ h h'

theorem Same.error (h : P.Same c c') (e : IdpError) : P.Declines c (.error e) c' :=
  ⟨h.same, h.goes.2, .error e h.goes.1⟩

theorem Same.denied (h : P.Same c c') (msg : String) :
    P.Declines c (.ok (.denied msg, .none)) c' := ⟨h.same, h.goes.2, .denied msg⟩

theorem Declines.after (h : P.Same c c1) (h' : P.Declines c1 r c') : P.Declines c r c' :=
  ⟨h.same.trans h'.same, .after h.goes h'.leaves⟩

theorem Declines.successToken_eq (h : P.Declines c r c') : successToken r = none := by
  cases h.leaves.2 with
  | success t action hsticky hground => exact hground.elim
  | _ => rfl

namespace Rests

variable {p : Fn W ρ α}

theorem of (hs : P.Silent p) (hq : Quiet p) : P.Rests p := fun c =>
  ((hs c).both (hq.goes c)).mono (fun _ _ h => ⟨h.1, h.2⟩) fun _ _ h => h

theorem bind {f : α → Fn W ρ β} (hp : P.Rests p) (hf : ∀ x, P.Rests (f x)) :
    P.Rests (p >>= f) := Body.Stays.bind hp hf

theorem ask (f : Ext W α) : P.Rests (ask f : Fn W ρ α) := of (.ask f) (.ask f)

theorem insertDevice {ending : String} (h : ending ∈ ["/certificate", "/intune", "/transport"])
    (key : StoredKey) : P.Rests (insertTaggedHsmKey (P.domain ++ ending) key : Fn W ρ Unit) :=
  of (.insertDevice h key) (.insert _ _)

theorem deleteDevice {ending : String} (h : ending ∈ ["/certificate", "/intune", "/transport"]) :
    P.Rests (deleteTaggedHsmKey (P.domain ++ ending) : Fn W ρ Unit) :=
  of (.deleteDevice h) (.delete _)

end Rests

end HimmelblauProvider

end Himmelblau.Entra

theorem Himmelblau.FunctionBody.Body.Stays.rests {W ρ α : Type} {P : Entra.HimmelblauProvider W}
    {p : Entra.Fn W ρ α} (h : Stays Entra.Idle p) : P.Rests p := .of h.silent h.quiet

namespace Himmelblau.Entra.HimmelblauProvider

open Interface Config Msal FunctionBody Ctx Relation

variable {W ρ α β ε : Type} {P : HimmelblauProvider W} {c c1 c' : Ctx W} {r : StepAnswer}

namespace Checks

variable {p : Fn W StepAnswer α}

theorem of_rests (hp : P.Rests p) : P.Checks p := fun c =>
  (hp c).mono (fun _ _ h => h) fun _ _ h => h.elim

theorem bind {f : α → Fn W StepAnswer β} (hp : P.Checks p) (hf : ∀ x, P.Checks (f x)) :
    P.Checks (p >>= f) := fun c =>
  (hp c).bind fun x c' h => (hf x c').mono (fun _ _ h' => h.trans h') fun _ _ h' => .after h h'

theorem pure (x : α) : P.Checks (pure x) := fun c => Same.refl c

theorem ask {f : Ext W α} {g : α → Fn W StepAnswer β} (hg : ∀ x, P.Checks (g x)) :
    P.Checks (Ctx.ask f >>= g) := bind (of_rests (.ask f)) hg

end Checks

namespace Denies

variable {p : Fn W StepAnswer α} {f : α → Fn W StepAnswer β} {handler : AuthCredHandler}
  {action : AuthCacheAction} {Q : α → Ctx W → Prop} {ev : Event → Prop} {G F : Prop}

theorem after (hp : P.Denies p) (h : P.Same c c1) : p.Ensures c1 Q (P.Declines c) :=
  (hp c1).mono (fun _ _ h' => h'.elim) fun _ _ h' => .after h h'

theorem checks (hp : P.Denies p) : P.Checks p := fun c => hp.after (.refl c)

theorem stops (hp : P.Denies p) : Stops ev G F p := fun c =>
  (hp c).mono (fun _ _ h => h) fun _ _ h => h.leaves.weaken False.elim False.elim

theorem rests (hp : P.Rests p) (hf : ∀ x, P.Denies (f x)) : P.Denies (p >>= f) := fun c =>
  (hp c).andThen fun x _ h => (hf x).after h

theorem error (e : IdpError) : P.Denies (Body.leave (.error e) : Fn W StepAnswer α) :=
  fun c => (Same.refl c).error e

theorem deny (msg : String) : P.Denies (deny msg : Fn W StepAnswer α) :=
  fun c => (Same.refl c).denied msg

theorem prompt {request : AuthRequest} (hprompts : Prompts handler request)
    (hearned : isEarned handler = false) :
    P.Denies (do setCredHandler handler; next request action : Fn W StepAnswer α) :=
  fun _ => ⟨.idle rfl rfl rfl, .same rfl rfl, .next _ _ hprompts fun he => by simp [hearned] at he⟩

end Denies

variable (P)

theorem storeDevice_rests (deviceId : String) (r : Except IdpError (String × String)) :
    P.Rests (P.storeDevice deviceId r : Fn W ρ Unit) := by
  unfold storeDevice
  split
  · exact .bind (.insertDevice (by decide) _) fun _ => .modify fun _ => .idle rfl rfl rfl
  · exact .modify fun _ => .idle rfl rfl rfl

theorem joinDomain_rests (token : UnixUserToken) : P.Rests (P.joinDomain token : Fn W ρ Bool) := by
  refine .bind (.ask _) fun r => ?_
  split
  · exact .pure _
  · refine .bind (.insertDevice (by decide) _) fun _ =>
      .bind (.insertDevice (by decide) _) fun _ => ?_
    exact .bind (P.intuneEnrollDevice_calm _).idle.rests fun _ =>
      .bind (P.storeDevice_rests _ _) fun _ => .ask _

theorem netDown_denies : P.Denies (do P.netDown; deny "Network outage detected."
    : Fn W StepAnswer α) :=
  .rests P.netDown_calm.idle.rests fun _ => .deny _

theorem checkNewDeviceEnrollmentRequired_denies (e : ErrorResponse) :
    P.Denies (P.checkNewDeviceEnrollmentRequired e : Fn W StepAnswer α) := by
  unfold checkNewDeviceEnrollmentRequired
  split
  · refine .rests (.deleteDevice (by decide)) fun _ => ?_
    exact .rests (.deleteDevice (by decide)) fun _ => .deny _
  · exact .deny _

variable {onErr : MsalError → Fn W StepAnswer α} {token : UnixUserToken}
  {clientId password extraData : Option String} {e : MsalError} {a service cred : String}
  {k : LoadableMsHelloKey} {authOptions : List AuthOption} {isDomainJoined : Bool}
  {handler : AuthCredHandler} {flow : MFAAuthContinue} {Q : α → Ctx W → Prop}
  {X : StepAnswer → Ctx W → Prop} {res : Except MsalError α}

theorem netDownCheck_ensures (hX : ∀ r c', P.Declines c r c' → X r c')
    (hok : ∀ x, res = .ok x → Q x c) (hErr : ∀ e, (onErr e).Ensures c Q X) :
    (P.netDownCheck res onErr).Ensures c Q X := by
  unfold netDownCheck
  split
  · exact hok _ rfl
  · exact (P.netDown_denies c).mono (fun _ _ h => h.elim) hX
  · exact (P.checkNewDeviceEnrollmentRequired_denies _ c).mono (fun _ _ h => h.elim) hX
  · exact hErr _

theorem netDownCheck_checks (hErr : ∀ e, P.Checks (onErr e)) :
    P.Checks (P.netDownCheck res onErr) := fun c =>
  P.netDownCheck_ensures (fun _ _ h => h) (fun _ _ => .refl c) fun e => hErr e c

theorem intuneEnroll_checks : P.Checks (P.intuneEnroll token) := by
  refine .bind (.of_rests (P.intuneEnrollDevice_calm _).idle.rests) fun r => ?_
  split
  · exact .pure _
  · refine .bind (.of_rests (.modify fun _ => .idle rfl rfl rfl)) fun _ => .ask fun saved => ?_
    split
    · exact .of_rests (.insertDevice (by decide) _)
    · exact (Denies.deny _).checks

theorem enroll_checks : P.Checks (P.enroll token) := by
  refine .bind (.of_rests .get) fun c => ?_
  split
  · refine .bind (.of_rests (P.joinDomain_rests token)) fun joined => ?_
    split
    · exact .pure _
    · exact (Denies.deny _).checks
  · split
    · exact P.intuneEnroll_checks
    · exact .pure _

theorem retryWithDefaultApp_checks (scopes : List String) :
    P.Checks (P.retryWithDefaultApp token scopes clientId e) := by
  unfold retryWithDefaultApp
  split
  · split
    · refine .ask fun r => ?_
      split
      · exact .pure _
      · exact (Denies.deny _).checks
    · exact (Denies.deny _).checks
  · exact (Denies.deny _).checks

theorem enrollAndObtainEnrolledToken_checks : P.Checks (P.enrollAndObtainEnrolledToken token) :=
  .bind P.enroll_checks fun _ => .ask fun _ =>
    P.netDownCheck_checks fun _ => P.retryWithDefaultApp_checks _

theorem requestReauth_denies (pin : String) :
    P.Denies (P.requestReauth a service pin : Fn W StepAnswer α) := by
  unfold requestReauth
  split
  · refine .rests (.ask _) fun r => ?_
    split
    · exact .prompt trivial rfl
    · exact P.netDown_denies
    · exact .prompt trivial rfl
    · exact .deny _
  · refine .rests (.ask _) fun r => ?_
    split
    · exact .prompt trivial rfl
    · exact P.netDown_denies
    · exact .deny _

theorem unsealRefreshToken_checks (d : SealedData) :
    P.Checks (P.unsealRefreshToken a k cred d) := by
  unfold unsealRefreshToken
  split
  · exact (Denies.error _).checks
  · refine .ask fun sk => ?_
    split
    · exact (Denies.error _).checks
    · refine .ask fun r => ?_
      split
      · exact .pure _
      · exact (Denies.error _).checks
      · exact .of_rests P.refreshTokenOk_idle.rests

theorem cachedTokens_checks : P.Checks (P.cachedTokens a k cred) := by
  refine .bind (.of_rests (.of .getKeystore .getKeystore)) fun ks => ?_
  split
  · refine .ask fun r => ?_
    split <;> exact .pure _
  · split
    · exact P.unsealRefreshToken_checks _
    · exact .of_rests P.refreshTokenOk_idle.rests

theorem ensureIntuneEnrolled_checks : P.Checks (P.ensureIntuneEnrolled token) := by
  refine .bind (.of_rests .get) fun c => ?_
  split
  · exact P.intuneEnroll_checks
  · exact .pure _

theorem enrolledOrMsaToken_checks : P.Checks (P.enrolledOrMsaToken token) := by
  unfold enrolledOrMsaToken
  split
  · exact (Denies.error _).checks
  · split
    · exact .pure _
    · exact P.enrollAndObtainEnrolledToken_checks

theorem changedPassword_checks : P.Checks (P.changedPassword a cred handler) := by
  unfold changedPassword
  split
  · exact .ask fun r => P.netDownCheck_checks fun e => .pure _
  · exact .pure _

theorem promptChangePassword_denies (oldCred : String) :
    P.Denies (promptChangePassword oldCred : Fn W StepAnswer α) := .prompt trivial rfl

theorem nestedAuthHandleMfaResp_denies (resp : MFAAuthContinue) (pin : Option String) :
    P.Denies (P.nestedAuthHandleMfaResp resp cred pin : Fn W StepAnswer α) := by
  unfold nestedAuthHandleMfaResp
  split
  · split
    · exact .prompt trivial rfl
    · exact .deny _
  · exact .prompt trivial rfl
  · exact .prompt trivial rfl
  · exact .prompt trivial rfl
  · exact .prompt trivial rfl
  · exact .prompt trivial rfl

theorem mfaError_denies : P.Denies (mfaError password e : Fn W StepAnswer α) := by
  unfold mfaError
  split
  · split
    · exact P.promptChangePassword_denies _
    · exact .deny _
  · exact .deny _

/-! ### With the handler of a session -/

theorem newHelloKey_checks (amrNgcmfa : Bool) (pin : String) {t : Option UnixUserToken}
    (hc : c.credHandler = .setupPin t) : (P.newHelloKey token amrNgcmfa pin).Ensures c
      (fun _ c' => P.Same c c') (P.Declines c) := by
  unfold newHelloKey
  split
  · simp only [Body.ensures_bind, ask, Body.ensures_call]
    generalize P.outside.provisionHelloForBusinessKey token pin c.provider.world = answer
    have hstill : P.Same c { c with provider.world := answer.2 } := .idle rfl rfl rfl
    refine P.netDownCheck_ensures (fun _ _ => .after hstill) (fun _ _ => hstill) fun e => ?_
    refine ⟨.idle rfl rfl rfl, .same rfl rfl, .next _ _ ?_ fun he => .inr (.inr he)⟩
    change Prompts c.credHandler _
    rw [hc]
    exact ⟨_, rfl⟩
  · refine ((P.createDecoupledHelloKey_calm pin).idle.rests (P := P) c).andThen fun r c1 h1 => ?_
    split
    · exact (Denies.error _).after h1
    · exact h1

theorem forceMfa_rests (hc : isPasswordFirst c.credHandler = true) :
    (forceMfa authOptions isDomainJoined : Fn W ρ _).Ensures c (fun _ c' => P.Same c c')
      (fun _ _ => False) := by
  unfold forceMfa
  split
  · exact .refl c
  · exact ⟨.idle rfl rfl rfl, .inr (.inr ⟨hc, rfl⟩), .same rfl rfl⟩

theorem passwordFirstFlow_checks (hc : isPasswordFirst c.credHandler = true) :
    (P.passwordFirstFlow a cred authOptions isDomainJoined).Ensures c (fun _ c' => P.Same c c')
      (P.Declines c) := by
  refine (Rests.ask (P := P) _ c).andThen fun r c1 h1 => ?_
  refine P.netDownCheck_ensures (fun _ _ => .after h1) (fun _ _ => h1) fun e => ?_
  split
  · refine (P.forceMfa_rests (h1.goes.1.isPasswordFirst hc)).andThen fun options c2 h2 => ?_
    refine (Rests.ask (P := P) _ c2).andThen fun r c3 h3 => ?_
    have h : P.Same c c3 := (h1.trans h2).trans h3
    exact P.netDownCheck_ensures (fun _ _ => .after h) (fun _ _ => h) fun e =>
      (Denies.deny _).after h
  · exact (Denies.deny _).after h1
  · exact (Denies.deny _).after h1

theorem mfaPollError_denies (e : MsalError) (hc : isMfa c.credHandler = true) :
    (mfaPollError password e : Fn W StepAnswer α).Ensures c (fun _ _ => False) (P.Declines c) := by
  unfold mfaPollError
  split
  · exact ⟨.idle rfl rfl rfl, .same rfl rfl,
      .next _ _ (prompts_of_isMfa hc _).1 fun he => .inr (.inr he)⟩
  · exact Denies.deny _ c
  · exact P.mfaError_denies c

/-- The identity provider has a token for the flow with this answer to it. -/
def FlowGives (a : String) (cred : Option String) (pollAttempt : Option UInt32)
    (flow : MFAAuthContinue) : Prop :=
  ∃ w token, (P.outside.acquireTokenByMfaFlow a cred pollAttempt flow w).1.1 = .ok token

theorem acquireMfaToken_checks {cred : Option String} {pollAttempt : Option UInt32}
    {pin : Option String} {onErr : MsalError → Fn W StepAnswer UnixUserToken}
    (hc : isMfa c.credHandler = true) (hErr : ∀ e c1, isMfa c1.credHandler = true →
      (onErr e).Ensures c1 (fun _ _ => False) (P.Declines c1)) :
    (P.acquireMfaToken a cred pollAttempt flow password extraData pin onErr).Ensures c
      (fun _ c' => P.Same c c' ∧ P.FlowGives a cred pollAttempt flow) (P.Declines c) := by
  let r := P.outside.acquireTokenByMfaFlow a cred pollAttempt flow c.provider.world
  let c1 : Ctx W := { c with
    provider.world := r.2
    credHandler := .mfa r.1.2 password extraData pin }
  have hstill : P.Same c c1 := ⟨.idle rfl rfl rfl, .inr (.inl ⟨hc, rfl⟩), .same rfl rfl⟩
  change (P.netDownCheck r.1.1 onErr).Ensures c1 _ _
  refine P.netDownCheck_ensures (fun _ _ => .after hstill) ?_ fun e => ?_
  · exact fun token htoken => ⟨hstill, c.provider.world, token, htoken⟩
  · exact (hErr e c1 rfl).mono (fun _ _ h => h.elim) fun _ _ => .after hstill

/-! ## 2. Functions that settle the step -/

section Acquiring

variable {P} {Seals : SealedUnder} {own : Option LoadableMsHelloKey} {a : String} {G F : Prop}

variable (Seals own a) in
/-- The step is ended, with `Success` and the token that `answer` says, if any.  It needs grounds
    and evidence for that, and for having earned a prompt. -/
def Settles (P : HimmelblauProvider W) (G : Prop) (answer : View → Option UserToken)
    (p : Fn W StepAnswer α) : Prop :=
  ∀ c, p.Ensures c (fun _ _ => False) (fun r c' => P.Going Seals own a c c' ∧
    successToken r = answer (P.see a c) ∧ Leaves (fun _ => False) G True c r c')

variable {c : Ctx W} {action : AuthCacheAction} {noHelloPin : Bool} {prt : SealedData}
  {p : Fn W StepAnswer α} {f : α → Fn W StepAnswer β} {Q : α → Ctx W → Prop}
  {reauthPin : Option String}

theorem setupHelloTotp_ensures (pin : String) : (P.setupHelloTotp a pin : Fn W ρ _).Ensures c
      (fun r c' => P.SameViews c c' ∧ successToken r = none) (fun _ _ => False) := by
  refine (Silent.ask (P := P) _ c).andThen fun totp c1 h1 => ?_
  split
  · exact ⟨h1, rfl⟩
  · split
    · exact ⟨h1, rfl⟩
    · simp only [Body.ensures_bind, ensures_getKeystore]
      split
      · exact ⟨h1, rfl⟩
      · refine (Silent.ask (P := P) _ c1).andThen fun sk c2 h2 => ?_
        split
        · exact ⟨h1.trans h2, rfl⟩
        · refine (Silent.ask (P := P) _ c2).andThen fun d c3 h3 => ?_
          split
          · exact ⟨(h1.trans h2).trans h3, rfl⟩
          · exact ⟨((h1.trans h2).trans h3).trans (.idle rfl rfl rfl), rfl⟩

theorem succeed_settles (token : UserToken) (hG : G) :
    Settles Seals own a P G (fun _ => some token)
      (succeed a token action : Fn W StepAnswer α) := fun c =>
  ⟨.single (P.see_log_self (c := c) (rfl : (Event.success a).account = a) ▸ .log _ _ rfl rfl)
    (others_log rfl), rfl, .log rfl rfl, .success token _ (.refl _) hG (.inl trivial)⟩

theorem helloTotpOrSuccess_settles (token : UserToken) (hG : G) :
    Settles Seals own a P G (fun _ => if P.config.enableHelloTotp then none else some token)
      (P.helloTotpOrSuccess a cred token : Fn W StepAnswer α) := by
  intro c
  have hmoves : (P.helloTotpOrSuccess a cred token : Fn W StepAnswer α).Ensures c
      (fun _ _ => False) (fun r c' => P.Going Seals own a c c' ∧
        successToken r = if P.config.enableHelloTotp then none else some token) := by
    unfold helloTotpOrSuccess
    by_cases htotp : P.config.enableHelloTotp = true
    · simp only [htotp, if_true, Body.ensures_bind, ensures_getKeystore]
      split
      · refine (setupHelloTotp_ensures cred).andThen fun r c1 h1 => ?_
        exact ⟨.of_same h1.1, h1.2⟩
      · exact ⟨.of_same (.idle rfl rfl rfl), rfl⟩
    · simp only [htotp]
      exact (succeed_settles token trivial c).mono (fun _ _ h => h) fun _ _ h => ⟨h.1, h.2.1⟩
  exact (hmoves.and (P.helloTotpOrSuccess_stops token hG c)).mono (fun _ _ h => h.1)
    fun _ _ h => ⟨h.1.1, h.1.2, h.2⟩

def pinDue (P : HimmelblauProvider W) (noHelloPin : Bool) (v : View) : Bool :=
  P.config.enableHello && !noHelloPin && v.key.isNone

theorem pinEnrolmentDue_eq (noHelloPin : Bool) (c : Ctx W) :
    P.pinEnrolmentDue a noHelloPin c.keystore = P.pinDue noHelloPin (P.see a c) := by
  unfold pinEnrolmentDue pinDue
  rw [P.fetchHelloKey_eq]
  cases (P.see a c).key <;> rfl

theorem setupPinOrSucceed_settles (handler : UnixUserToken) (msg : String) (t : UserToken)
    (hG : G) : Settles Seals own a P G (fun v => if P.pinDue noHelloPin v then none else some t)
      (do if P.pinEnrolmentDue a noHelloPin (← getKeystore) then
            setCredHandler (.setupPin (some handler))
            next (.setupPin msg) action
          else succeed a t action : Fn W StepAnswer α) := by
  intro c
  simp only [Body.ensures_bind, ensures_getKeystore, pinEnrolmentDue_eq]
  by_cases hdue : P.pinDue noHelloPin (P.see a c) = true
  · simp only [hdue, if_true]
    exact ⟨.of_same (.idle rfl rfl rfl), rfl, .same rfl rfl,
      .next _ _ ⟨_, rfl⟩ fun _ => .inl trivial⟩
  · simp only [hdue]
    exact succeed_settles t hG c

/-! ## 3. Functions that obtain a token -/

variable (Seals own a) in
/-- The account moves while its keys stay, and so does the handler. -/
structure Onward (P : HimmelblauProvider W) (c c' : Ctx W) : Prop where
  going : P.Going Seals own a c c'
  goes : Goes c c'

variable (Seals own a) in
/-- The step is ended early: at most one attempt was counted, and `Success` is only
    answered with the token of the session. -/
structure Early (P : HimmelblauProvider W) (G F : Prop) (old : UserToken) (c : Ctx W)
    (r : StepAnswer) (c' : Ctx W) : Prop where
  moves : P.Moves Seals own a c c'
  stale : ∀ t, successToken r = some t → t = old
  leaves : Leaves (Shows a) G F c r c'

variable (Seals own a) in
def Acquires (P : HimmelblauProvider W) (G F : Prop) (pre : View → Prop) (old : UserToken)
    (p : Fn W StepAnswer α) : Prop :=
  ∀ c, pre (P.see a c) → p.Ensures c (fun _ c' => Onward Seals own a P c c')
    (Early Seals own a P G F old c)

def LastIs (e : Event) (v : View) : Prop := ∃ es, v.events = e :: es

def Anywhere : View → Prop := fun _ => True

variable {pre : View → Prop} {old : UserToken} {c1 c' : Ctx W} {r : StepAnswer}

theorem Same.onward (h : P.Same c c') : Onward Seals own a P c c' := ⟨.of_same h.same, h.goes⟩

theorem Onward.trans (h : Onward Seals own a P c c1) (h' : Onward Seals own a P c1 c') :
    Onward Seals own a P c c' := ⟨h.going.trans h'.going, h.goes.trans h'.goes⟩

theorem Early.after (h : Onward Seals own a P c c1) (h' : Early Seals own a P G F old c1 r c') :
    Early Seals own a P G F old c r c' :=
  ⟨h.going.moves.trans h'.moves, h'.stale, .after h.goes h'.leaves⟩

theorem Early.of (h : P.Moves Seals own a c c') (hr : successToken r = none)
    (hleaves : Leaves (Shows a) G F c r c') : Early Seals own a P G F old c r c' :=
  ⟨h, fun t ht => absurd (hr.symm.trans ht) (by simp), hleaves⟩

theorem Declines.early (h : P.Declines c r c') : Early Seals own a P G F old c r c' :=
  .of (.of_same h.same) h.successToken_eq (h.leaves.weaken False.elim False.elim)

variable (P Seals own) in
theorem askToken_ensures (request : TokenRequest) (f : Ext W (Except MsalError UnixUserToken)) :
    (askToken a request f : Fn W ρ _).Ensures c (fun x c' => Onward Seals own a P c c' ∧
      LastIs (.tokenAnswer a request (errorOf x)) (P.see a c') ∧
      ∀ e, x = .error e → fallsBack e = true → Evident (Shows a) c c') (fun _ _ => False) := by
  let c1 : Ctx W := { c with provider.world := (f c.provider.world).2 }
  have hsame : P.SameViews c c1 := .idle rfl rfl rfl
  have hsee := P.see_log_self (a := a) (c := c1)
    (e := .tokenAnswer a request (errorOf (f c.provider.world).1)) rfl
  refine ⟨⟨.trans (.of_same hsame) (.single (hsee ▸ .log _ _ rfl rfl) (others_log rfl)),
    .inl rfl, .log rfl rfl⟩, ⟨_, congrArg View.events hsee⟩, fun e hx he => ?_⟩
  exact ⟨[_], _, rfl, List.mem_singleton_self _, by rw [hx]; exact ⟨rfl, he⟩⟩

namespace Acquires

variable {p : Fn W StepAnswer α} {f : α → Fn W StepAnswer β}

theorem of_checks (hp : P.Checks p) : Acquires Seals own a P G F pre old p :=
  fun c _ => (hp c).mono (fun _ _ h => h.onward) fun _ _ h => h.early

theorem of_denies (hp : P.Denies p) : Acquires Seals own a P G F pre old p := of_checks hp.checks

theorem of_settles {answer : View → Option UserToken} (hp : Settles Seals own a P G answer p)
    (hold : ∀ v t, answer v = some t → t = old) (hF : F) :
    Acquires Seals own a P G F pre old p :=
  fun c _ => (hp c).mono (fun _ _ h => h.elim) fun _ _ h =>
    ⟨h.1.moves, fun t ht => hold _ t (h.2.1.symm.trans ht), h.2.2.weaken id fun _ => hF⟩

theorem bind (hp : Acquires Seals own a P G F pre old p)
    (hf : ∀ x, Acquires Seals own a P G F Anywhere old (f x)) :
    Acquires Seals own a P G F pre old (p >>= f) := fun c hc =>
  (hp c hc).bind fun x c1 h => (hf x c1 trivial).mono (fun _ _ h' => h.trans h')
    fun _ _ h' => h'.after h

theorem rests (hp : P.Rests p) (hf : ∀ x, Acquires Seals own a P G F pre old (f x)) :
    Acquires Seals own a P G F pre old (p >>= f) := fun c hc =>
  (hp c).andThen fun x c1 h =>
    (hf x c1 (by rw [h.same.see a]; exact hc)).mono (fun _ _ h' => h.onward.trans h')
      fun _ _ h' => h'.after h.onward

/-- The rule for a request for a token: where the source falls back, its answer is the
    evidence. -/
theorem askToken {request : TokenRequest} {f : Ext W (Except MsalError UnixUserToken)}
    {g : Except MsalError UnixUserToken → Fn W StepAnswer β}
    (hg : ∀ x F', (F → F') → (∀ e, x = .error e → fallsBack e = true → F') →
      Acquires Seals own a P G F' (LastIs (.tokenAnswer a request (errorOf x))) old (g x)) :
    Acquires Seals own a P G F pre old (askToken a request f >>= g) := by
  intro c _
  refine (P.askToken_ensures Seals own request f).andThen fun x c1 h => ?_
  obtain ⟨hgo, hlast, hevident⟩ := h
  by_cases hfalls : ∃ e, x = .error e ∧ fallsBack e = true
  · obtain ⟨e, hx, he⟩ := hfalls
    refine (hg x True (fun _ => trivial) (fun _ _ _ => trivial) c1 hlast).mono
      (fun _ _ h => hgo.trans h) fun _ _ h => ?_
    exact ⟨hgo.going.moves.trans h.moves, h.stale,
      .after_evident hgo.goes (hevident e hx he) h.leaves⟩
  · exact (hg x F id (fun e hx he => absurd ⟨e, hx, he⟩ hfalls) c1 hlast).mono
      (fun _ _ h => hgo.trans h) fun _ _ h => h.after hgo

theorem reset {e : Event} (he : e.allowsReset) {f : Unit → Fn W StepAnswer β}
    (hf : Acquires Seals own a P G F Anywhere old (f ())) :
    Acquires Seals own a P G F (LastIs e) old (resetBadPinCount a >>= f) := by
  rintro c ⟨es, hes⟩
  refine ((P.reset_ensures a c).both ((Quiet.resetBadPinCount a).goes c)).andThen fun _ c1 h1 => ?_
  have hgo : Onward Seals own a P c c1 := ⟨.single (h1.1.1 ▸ .reset _ e es hes he) h1.1.2, h1.2⟩
  exact (hf c1 trivial).mono (fun _ _ h => hgo.trans h) fun _ _ h => h.after hgo

theorem drop {e : Event} {t : HelloTag} (ht : t = .prt ∨ t = .refreshToken)
    {f : Unit → Fn W StepAnswer β} (hf : Acquires Seals own a P G F (LastIs e) old (f ())) :
    Acquires Seals own a P G F (LastIs e) old (deleteTaggedHsmKey (P.tag a t) >>= f) := by
  rintro c ⟨es, hes⟩
  refine ((P.delete_ensures a c t).both ((Quiet.delete _).goes c)).andThen fun _ c1 h1 => ?_
  have hgo : Onward Seals own a P c c1 := ⟨.single (h1.1.1 ▸ .dropped _ t ht) h1.1.2, h1.2⟩
  exact (hf c1 ⟨es, by rw [h1.1.1]; exact hes⟩).mono (fun _ _ h => hgo.trans h)
    fun _ _ h => h.after hgo

end Acquires

theorem helloTokenDenied_acquires :
    Acquires Seals own a P G F pre old (P.helloTokenDenied a e : Fn W StepAnswer α) := by
  intro c _
  have hmoves : (P.helloTokenDenied a e : Fn W StepAnswer α).Ensures c (fun _ _ => False)
      (fun r c' => P.Moves Seals own a c c' ∧ successToken r = none) := by
    have hbad : ∀ c', P.see a c' = (P.see a c).bad a P.config.helloPinRetryCount →
        P.Others a c c' → P.Moves Seals own a c c' := fun c' hsee ho => .single (hsee ▸ .bad _) ho
    refine .bind ((P.handleHelloBadPinCount_ensures a c _).mono (fun _ _ h => h) ?_) ?_
    · rintro r c' ⟨hsee, ho, msg, rfl⟩
      exact ⟨hbad c' hsee ho, rfl⟩
    · rintro _ c' ⟨hsee, ho⟩
      exact ⟨hbad c' hsee ho, rfl⟩
  have hstops : Stops (Shows a) G F (P.helloTokenDenied a e : Fn W StepAnswer α) :=
    P.helloTokenDenied_stops
  exact (hmoves.and (hstops c)).mono (fun _ _ h => h.1.elim) fun _ _ h => .of h.1.1 h.1.2 h.2

theorem retryHelloToken_acquires (scopes : List String) :
    Acquires Seals own a P G F pre old (P.retryHelloToken a k scopes clientId cred) := by
  refine .askToken fun r F' _ _ => ?_
  split
  · exact .reset rfl (.of_checks (.pure _))
  · exact helloTokenDenied_acquires

theorem helloTokenError_acquires :
    Acquires Seals own a P G F pre old (P.helloTokenError a k clientId cred e) := by
  unfold helloTokenError
  split
  · split
    · exact retryHelloToken_acquires _
    · split
      · exact retryHelloToken_acquires _
      · exact .of_denies (P.checkNewDeviceEnrollmentRequired_denies _)
  · split
    · exact retryHelloToken_acquires _
    · exact helloTokenDenied_acquires
  · exact helloTokenDenied_acquires

theorem helloTotpOrSuccess_acquires (hG : G) (hF : F) :
    Acquires Seals own a P G F pre old (P.helloTotpOrSuccess a cred old : Fn W StepAnswer α) := by
  refine .of_settles (helloTotpOrSuccess_settles old hG) (fun _ t ht => ?_) hF
  split at ht
  · cases ht
  · exact (Option.some.inj ht).symm

theorem netDownHelloFallback_acquires (hG : G) (hF : F) :
    Acquires Seals own a P G F pre old (P.netDownHelloFallback a cred old : Fn W StepAnswer α) :=
  .rests P.netDown_calm.idle.rests fun _ => helloTotpOrSuccess_acquires hG hF

theorem acquireHelloToken_acquires (hG : G) :
    Acquires Seals own a P G F pre old (P.acquireHelloToken a old k cred) := by
  refine .askToken fun r F' _ hfalls => ?_
  split
  · exact .reset rfl (.of_checks (.pure _))
  · exact netDownHelloFallback_acquires hG (hfalls _ rfl rfl)
  · split
    · next hsspr =>
      exact helloTotpOrSuccess_acquires hG (hfalls _ rfl (fallsBack_of_isSsprRequired hsspr))
    · exact helloTokenError_acquires

theorem renewPrt_acquires {e : Event} (he : e.allowsReset) :
    Acquires Seals own a P G F (LastIs e) old (P.renewPrt a prt token) := by
  refine .rests (.ask _) fun r => .reset he ?_
  split <;> exact .of_checks (.pure _)

theorem dropAndReauth_acquires {e : Event} (he : e.allowsReset) {t : HelloTag}
    (ht : t = .prt ∨ t = .refreshToken) : Acquires Seals own a P G F (LastIs e) old
      (P.dropAndReauth a service cred (P.tag a t) : Fn W StepAnswer α) :=
  .drop ht (.reset he (.of_denies (P.requestReauth_denies cred)))

theorem retryPrt_acquires : Acquires Seals own a P G F pre old (P.retryPrt a prt) := by
  refine .askToken fun r F' _ _ => ?_
  split
  · exact renewPrt_acquires rfl
  · exact .of_denies (.deny _)

theorem exchangePrt_acquires (hG : G) :
    Acquires Seals own a P G F pre old (P.exchangePrt a service old cred prt) := by
  refine .askToken fun r F' _ hfalls => ?_
  split
  · exact renewPrt_acquires rfl
  · exact netDownHelloFallback_acquires hG (hfalls _ rfl rfl)
  · rename_i e hnet
    split
    · next hsspr =>
      exact helloTotpOrSuccess_acquires hG (hfalls _ rfl (fallsBack_of_isSsprRequired hsspr))
    · rename_i hsspr
      unfold prtError
      split
      · split
        · exact retryPrt_acquires
        · exact .of_denies (P.checkNewDeviceEnrollmentRequired_denies _)
      · rename_i hfailed
        refine dropAndReauth_acquires (t := .prt) ?_ (.inl rfl)
        cases e with
        | requestFailed msg => exact absurd rfl (hnet msg)
        | acquireTokenFailed err => exact absurd rfl (hfailed err)
        | _ => simpa [Event.allowsReset, errorOf, resets] using hsspr

theorem exchangeRefreshToken_acquires (refreshToken : String) (hG : G) :
    Acquires Seals own a P G F pre old
      (P.exchangeRefreshToken a service old cred refreshToken) := by
  refine .rests (.ask _) fun r => ?_
  split
  · exact .of_denies (.deny _)
  · refine .askToken fun r F' _ hfalls => ?_
    split
    · exact .reset rfl (.of_checks (.pure _))
    · exact netDownHelloFallback_acquires hG (hfalls _ rfl rfl)
    · rename_i e hnet
      split
      · next hsspr =>
        exact helloTotpOrSuccess_acquires hG (hfalls _ rfl (fallsBack_of_isSsprRequired hsspr))
      · rename_i hsspr
        refine dropAndReauth_acquires (t := .refreshToken) ?_ (.inr rfl)
        cases e with
        | requestFailed msg => exact absurd rfl (hnet msg)
        | _ => simpa [Event.allowsReset, errorOf, resets] using hsspr

variable (pre) in
theorem acquireToken_acquires (kt : KeyType) (hG : G) :
    Acquires Seals own a P G F pre old (P.acquireToken a service old k kt cred) := by
  cases kt with
  | hello => exact acquireHelloToken_acquires hG
  | decoupled =>
    refine .bind (.of_checks P.cachedTokens_checks) fun r => ?_
    split
    · exact exchangePrt_acquires hG
    · exact exchangeRefreshToken_acquires _ hG
    · exact .of_denies (P.requestReauth_denies cred)

/-! ## 4. The arms of the step -/

variable (Seals own a old) in
/-- What becomes of a step.  Either no token is validated and `Success` is answered only
    with the token of the session, or one is, and the step answers `Success` with it if and
    only if it does so at once. -/
inductive Outcome (P : HimmelblauProvider W) (atOnce : Bool) (v : View) (r : StepAnswer)
    (v' : View) : Prop
  | stale (h : ReflTransGen (Move a P.config.helloPinRetryCount Seals own) v v')
      (hr : ∀ t, successToken r = some t → t = old)
  | fresh (t : UserToken) (v1 : View)
      (h : ReflTransGen (Move a P.config.helloPinRetryCount Seals own) v v1)
      (h' : ReflTransGen (Move a P.config.helloPinRetryCount Seals own)
        (v1.log (.validated a t)) v')
      (hr : successToken r = if atOnce then some t else none)

variable (Seals own a old) in
/-- The outcome of a step for the account, that it is no other account's business, and that the
    answer fits. -/
structure Ends (P : HimmelblauProvider W) (G F : Prop) (atOnce : Bool) (c : Ctx W)
    (r : StepAnswer) (c' : Ctx W) : Prop where
  others : P.Others a c c'
  outcome : Outcome Seals own a old P atOnce (P.see a c) r (P.see a c')
  leaves : Leaves (Shows a) G F c r c'

variable {atOnce : Bool}

theorem Early.ends (h : Early Seals own a P G F old c r c') :
    Ends Seals own a old P G F atOnce c r c' := ⟨h.moves.2, .stale h.moves.1 h.stale, h.leaves⟩

theorem Ends.after (h : Onward Seals own a P c c1)
    (h' : Ends Seals own a old P G F atOnce c1 r c') :
    Ends Seals own a old P G F atOnce c r c' := by
  refine ⟨h.going.2.trans h'.others, ?_, .after h.goes h'.leaves⟩
  cases h'.outcome with
  | stale hm hr => exact .stale (h.going.moves.1.trans hm) hr
  | fresh t v1 hm hm' hr => exact .fresh t v1 (h.going.moves.1.trans hm) hm' hr

theorem Declines.ends (h : P.Declines c r c') : Ends Seals own a old P G F atOnce c r c' :=
  h.early.ends

theorem Denies.ends (hp : P.Denies p) (h : P.Same c c1) :
    p.Ensures c1 Q (Ends Seals own a old P G F atOnce c) :=
  (hp.after h).mono (fun _ _ h' => h') fun _ _ h' => h'.ends

theorem Checks.then_ends {Q : β → Ctx W → Prop} (hp : P.Checks p) (h : P.Same c c1)
    (hf : ∀ x c2, P.Same c c2 → (f x).Ensures c2 Q (Ends Seals own a old P G F atOnce c)) :
    (p >>= f).Ensures c1 Q (Ends Seals own a old P G F atOnce c) :=
  .bind ((hp c1).mono (fun _ _ h' => h.trans h') fun _ _ h' => (h'.after h).ends) hf

variable (a) in
/-- The token was accepted and that is on record, or nothing happened. -/
inductive Judges (P : HimmelblauProvider W) (c : Ctx W) :
    Except IdpError AuthResult → Ctx W → Prop
  | error (e : IdpError) {c' : Ctx W} (h : P.Same c c') : Judges P c (.error e) c'
  | denied (msg : String) {c' : Ctx W} (h : P.Same c c') : Judges P c (.ok (.denied msg)) c'
  | success (t : UserToken) {c' : Ctx W} (hgoes : Goes c c') (hevident : Evident (Shows a) c c')
      (ho : P.Others a c c') (hsee : P.see a c' = (P.see a c).log (.validated a t)) :
      Judges P c (.ok (.success t)) c'

theorem tokenValidate_ensures (oldToken : Option UserToken) :
    (P.tokenValidate a token oldToken : Fn W ρ _).Ensures c (Judges a P c) (fun _ _ => False) := by
  unfold tokenValidate
  split
  · exact .error _ (.refl c)
  · exact .error _ (.refl c)
  · refine ((P.matchesRequestedUser_calm _).idle.rests (P := P) c).andThen fun r c1 h1 => ?_
    split
    · exact .error _ h1
    · exact .denied _ h1
    · refine ((P.refreshCacheAdd_idle _).rests (P := P) c1).andThen fun _ c2 h2 => ?_
      refine (Rests.ask (P := P) _ c2).andThen fun r c3 h3 => ?_
      have h : P.Same c c3 := (h1.trans h2).trans h3
      split
      · exact .error _ h
      · rename_i t
        refine .success t ⟨h.goes.1, h.goes.2.trans (.log rfl rfl)⟩ ?_
          (h.same.others.trans (others_log rfl)) ?_
        · exact .of_grows h.goes.2 ⟨[_], _, rfl, List.mem_singleton_self _, rfl⟩
        · exact (P.see_log_self rfl).trans (congrArg (View.log · _) (h.same.see a))

/-- The rule for a token that is validated: the step ends with it, or nothing has happened. -/
theorem tokenValidate_then {f : Except IdpError AuthResult → Fn W StepAnswer α}
    (h : P.Same c c1) (hok : ∀ t, ∃ answer, Settles Seals own a P G answer (f (.ok (.success t))) ∧
      answer ((P.see a c).log (.validated a t)) = if atOnce then some t else none)
    (herror : ∀ e c', P.Declines c (.error e) c' →
      (f (.error e)).Ensures c' Q (Ends Seals own a old P G F atOnce c))
    (hdenied : ∀ msg c', P.Declines c (.ok (.denied msg, .none)) c' →
      (f (.ok (.denied msg))).Ensures c' Q (Ends Seals own a old P G F atOnce c)) :
    (P.tokenValidate a token none >>= f).Ensures c1 Q (Ends Seals own a old P G F atOnce c) := by
  refine (tokenValidate_ensures none).andThen fun r c2 hr => ?_
  cases hr with
  | error e h2 => exact herror e c2 ((h.trans h2).error e)
  | denied msg h2 => exact hdenied msg c2 ((h.trans h2).denied msg)
  | success t hgoes hevident ho hsee =>
    obtain ⟨answer, hsettles, hanswer⟩ := hok t
    rw [h.same.see a] at hsee
    refine (hsettles c2).mono (fun _ _ h' => h'.elim) fun r c' h' => ?_
    refine ⟨h.same.others.trans (ho.trans h'.1.2), ?_, .after h.goes
      (.after_evident hgoes hevident (h'.2.2.weaken id id))⟩
    exact .fresh t (P.see a c) .refl (hsee ▸ h'.1.moves.1) (by rw [h'.2.1, hsee, hanswer])

theorem finishHello_ends (hG : G) : (P.finishHello a cred token).Gives c
      (Ends Seals own a old P G F (!P.config.enableHelloTotp) c) := by
  refine tokenValidate_then (.refl c) (fun t => ⟨_, helloTotpOrSuccess_settles t hG, ?_⟩)
    (fun _ _ h => h.ends) fun _ _ h => h.ends
  cases P.config.enableHelloTotp <;> rfl

variable (laws : SealingLaws P Seals)

include laws

theorem sealToken_onward (hk : (P.see a c).Holds own k) :
    (P.sealToken a token k cred (Body.leave (.error .tpm))).Ensures c
      (fun _ c' => Onward Seals own a P c c') (Early Seals own a P G F old c) := by
  have hmoves : (P.sealToken a token k cred (Body.leave (.error .tpm)) :
      Fn W StepAnswer Unit).Ensures c (fun _ c' => P.Going Seals own a c c')
      (fun r c' => P.Moves Seals own a c c' ∧ successToken r = none) :=
    sealToken_ensures own laws token hk cred fun c' h => ⟨.of_same h, rfl⟩
  have hwalks : Walks (Shows a) G F (P.sealToken a token k cred (Body.leave (.error .tpm))) :=
    P.sealToken_walks (.error _)
  exact (hmoves.and (hwalks c)).mono (fun _ _ h => ⟨h.1, h.2⟩) fun _ _ h => .of h.1.1 h.1.2 h.2

theorem authAndValidateHelloKey_ends (kt : KeyType)
    (hk : (P.see a c).Holds own k) (hG : P.Loads cred k → G) :
    (P.authAndValidateHelloKey a service old k kt cred).Gives c
      (Ends Seals own a old P G F (!P.config.enableHelloTotp) c) := by
  unfold authAndValidateHelloKey
  split
  · exact ((Same.refl c).error _).ends
  · rename_i pin hpin
    refine ((P.tryPin_ensures a c pin).both (P.tryPin_spec pin)).andThen fun r c1 h1 => ?_
    obtain ⟨⟨hsee1, ho1, -⟩, hgoes1, hloads⟩ := h1
    split
    · have hmoves : ∀ msg, (P.handleHelloBadPinCount a (fun msg => .ok (.denied msg, .none)) >>=
          fun _ => deny msg : Fn W StepAnswer StepAnswer).Gives c1
          (fun r c' => P.Moves Seals own a c c' ∧ successToken r = none) := fun msg => by
        refine .bind ((handleHelloBadPinCount_after Seals own (.pinTried a false) rfl rfl hsee1 ho1
          _).mono (fun _ _ h => h) ?_) fun _ c' h => ⟨h, rfl⟩
        rintro r c' ⟨h, msg, rfl⟩
        exact ⟨h, rfl⟩
      have hends : ∀ r c', (P.Moves Seals own a c c' ∧ successToken r = none) ∧
          Leaves (Shows a) G F c r c' →
          Ends Seals own a old P G F (!P.config.enableHelloTotp) c r c' :=
        fun r c' h => (Early.of h.1.1 h.1.2 h.2).ends
      exact ((hmoves _).and (hgoes1.answers (P.badPin_answers _ c1))).mono hends hends
    · obtain ⟨w, hw⟩ := hloads rfl
      have hground : G := hG ⟨pin, w, hpin, hw⟩
      have hgo1 : Onward Seals own a P c c1 := ⟨.single (hsee1 ▸ .log _ _ rfl rfl) ho1, hgoes1⟩
      refine .bind ((acquireToken_acquires Anywhere kt hground c1 trivial).mono
        (fun _ _ h => hgo1.trans h) fun _ _ h => (h.after hgo1).ends) fun token c2 hgo2 => ?_
      refine .bind ((sealToken_onward laws (hk.milds hgo2.going.1)).mono
        (fun _ _ h => hgo2.trans h) fun _ _ h => (h.after hgo2).ends) fun _ c3 hgo3 => ?_
      refine .bind ((P.ensureIntuneEnrolled_checks c3).mono (fun _ _ h => hgo3.trans h.onward)
        fun _ _ h => (h.early.after hgo3).ends) fun _ c4 hgo4 => ?_
      exact (finishHello_ends hground).mono (fun _ _ h => h.after hgo4) fun _ _ h => h.after hgo4

theorem pinStep_ends
    (hG : ∀ k kt, P.fetchHelloKey a c.keystore = .ok (k, kt) → P.Loads cred k → G) :
    (P.pinStep a service old cred).Gives c
      (Ends Seals own a old P G F (!P.config.enableHelloTotp) c) := by
  unfold pinStep
  simp only [Body.ensures_bind, ensures_getKeystore, Body.ensures_orLeave]
  refine ⟨?_, fun e _ => ((Same.refl c).error e).ends⟩
  rintro ⟨k, kt⟩ hkey
  exact authAndValidateHelloKey_ends laws kt
    (.inl ⟨kt, P.fetchHelloKey_eq_ok.mp hkey⟩) (hG k kt hkey)

/-- A key is set up and used at once.  Where that key is stored, `token` decides. -/
theorem setupPinStep_ends (service : String)
    (token : Option UnixUserToken) (pin : String) (c : Ctx W) {t : Option UnixUserToken}
    (hc : c.credHandler = .setupPin t) (hG : G) :
    let X := fun r c' => (P.Others a c c' ∧
      (Outcome Seals own a old P (!P.config.enableHelloTotp) (P.see a c) r (P.see a c') ∨
        ∃ tok k, token = some tok ∧ Outcome Seals (some k) a old P (!P.config.enableHelloTotp)
          ((P.see a c).store a (tok.amrNgcmfa.getD false) k) r (P.see a c'))) ∧
      Leaves (Shows a) G F c r c'
    (P.setupPinStep a service old token pin).Gives c X := by
  intro X
  have hX : ∀ r c', Ends Seals own a old P G F (!P.config.enableHelloTotp) c r c' → X r c' :=
    fun r c' h => ⟨⟨h.others, .inl h.outcome⟩, h.leaves⟩
  unfold setupPinStep
  split
  · exact hX _ c ((Same.refl c).denied _).ends
  · rename_i tok
    refine .bind ((P.newHelloKey_checks _ pin hc).mono (fun _ _ h => h)
      fun r c' h => hX r c' h.ends) fun k c1 h1 => ?_
    refine ((storeHelloKey_ensures _).both ((P.storeHelloKey_quiet a _ k).goes c1)).andThen
      fun _ c2 h2 => ?_
    obtain ⟨⟨hsee2, ho2⟩, hgoes2⟩ := h2
    have hsee : P.see a c2 = (P.see a c).store a (tok.amrNgcmfa.getD false) k := by
      rw [hsee2, h1.same.see a]
    have hk : (P.see a c2).Holds (some k) k := by
      rw [hsee]
      refine .inr ⟨rfl, ?_⟩
      cases tok.amrNgcmfa.getD false with
      | true => exact .inl rfl
      | false => exact .inr rfl
    have hX : ∀ r c', Ends Seals (some k) a old P G F (!P.config.enableHelloTotp) c2 r c' →
        X r c' := fun r c' h => ⟨⟨h1.same.others.trans (ho2.trans h.others),
      .inr ⟨tok, k, rfl, hsee ▸ h.outcome⟩⟩, .after (h1.goes.trans hgoes2) h.leaves⟩
    exact (authAndValidateHelloKey_ends laws _ hk fun _ => hG).mono hX hX

omit laws

/-! ### Passwords -/

theorem finishPasswordOnly_ends (hG : G) (h : P.Same c c1) :
    (P.finishPasswordOnly a noHelloPin token cred : Fn W StepAnswer α).Ensures c1 Q
      (Ends Seals own a old P G F (!P.pinDue noHelloPin (P.see a c)) c) := by
  refine tokenValidate_then h (fun t => ⟨_, setupPinOrSucceed_settles token _ t hG, ?_⟩)
    (fun _ _ h => h.ends) fun _ _ h => h.ends
  change (if P.pinDue noHelloPin (P.see a c) then none else some t) = _
  cases P.pinDue noHelloPin (P.see a c) <;> rfl

theorem prtSigninFrequencyCheck_ends (hG : G) (h : P.Same c c1) :
    (P.prtSigninFrequencyCheck a noHelloPin cred).Ensures c1 (fun _ c' => P.Same c c')
      (Ends Seals own a old P G F (!P.pinDue noHelloPin (P.see a c)) c) := by
  refine (Checks.of_rests P.tryPrtSigninFrequencyCheck_idle.rests).then_ends h fun r c2 h2 => ?_
  split
  · exact finishPasswordOnly_ends hG h2
  · exact h2

theorem passwordFirstRopc_ends (res : Except MsalError UnixUserToken) (hG : G)
    (h : P.Same c c1) :
    (P.passwordFirstRopc a noHelloPin cred res).Ensures c1 (fun _ c' => P.Same c c')
      (Ends Seals own a old P G F (!P.pinDue noHelloPin (P.see a c)) c) := by
  unfold passwordFirstRopc
  split
  · exact P.enrollAndObtainEnrolledToken_checks.then_ends h fun token2 c2 h2 =>
      finishPasswordOnly_ends hG h2
  · split
    · exact prtSigninFrequencyCheck_ends hG h
    · exact (Denies.deny _).ends h
  · exact prtSigninFrequencyCheck_ends hG h
  · exact (P.promptChangePassword_denies _).ends h
  · exact (Denies.deny _).ends h

theorem passwordFirstStep_ends (hc : isPasswordFirst c.credHandler = true) (hG : G) :
    (P.passwordFirstStep a noHelloPin authOptions isDomainJoined cred).Gives c
      (Ends Seals own a old P G F (!P.pinDue noHelloPin (P.see a c)) c) := by
  -- both branches end with the flow
  have hflow : ∀ options c1, P.Same c c1 →
      ((do let flow ← P.passwordFirstFlow a cred options isDomainJoined
           P.nestedAuthHandleMfaResp flow cred none) : Fn W StepAnswer StepAnswer).Gives c1
        (Ends Seals own a old P G F (!P.pinDue noHelloPin (P.see a c)) c) := by
    intro options c1 h1
    refine .bind ((P.passwordFirstFlow_checks (h1.goes.1.isPasswordFirst hc)).mono
      (fun _ _ h => h1.trans h) fun _ _ h => (h.after h1).ends) fun flow c2 h2 => ?_
    exact (P.nestedAuthHandleMfaResp_denies flow none).ends h2
  unfold passwordFirstStep
  split
  · refine (Rests.ask (P := P) _ c).andThen fun r c1 h1 => ?_
    refine .bind (passwordFirstRopc_ends r hG h1) fun _ c2 h2 => ?_
    refine (P.forceMfa_rests (h2.goes.1.isPasswordFirst hc)).andThen fun options c3 h3 => ?_
    exact hflow options c3 (h2.trans h3)
  · exact hflow authOptions c (.refl c)

theorem sfaFallback_ends (hG : G) (h : P.Same c c1) :
    (P.sfaFallback a cred e : Fn W StepAnswer α).Ensures c1 Q
      (Ends Seals own a old P G F true c) := by
  unfold sfaFallback
  simp only [Body.ensures_bind, Body.ensures_get]
  split
  · refine (Checks.of_rests (.ask _)).then_ends h fun res c2 h2 => ?_
    refine .bind (P.netDownCheck_ensures (Q := fun _ c' => P.Same c c')
      (fun _ _ h => (h.after h2).ends) (fun _ _ => h2) ?_) ?_
    · intro e
      split
      · exact (P.promptChangePassword_denies _).ends h2
      · exact (Denies.deny _).ends h2
    · intro token c3 h3
      refine P.enrollAndObtainEnrolledToken_checks.then_ends h3 fun token2 c4 h4 => ?_
      exact tokenValidate_then h4 (fun t => ⟨_, succeed_settles t hG, rfl⟩)
        (fun _ _ h => h.ends) fun _ _ h => h.ends
  · exact (Denies.deny _).ends h

theorem passwordFlowError_ends (sfaEnabled : Bool) (hG : sfaEnabled = true → G)
    (h : P.Same c c1) :
    (P.passwordFlowError a cred sfaEnabled e : Fn W StepAnswer α).Ensures c1 Q
      (Ends Seals own a old P G F true c) := by
  unfold passwordFlowError
  split
  · rename_i hsfa
    split
    · split
      · exact sfaFallback_ends (hG hsfa) h
      · exact (Denies.deny _).ends h
    · exact sfaFallback_ends (hG hsfa) h
  · exact (Denies.deny _).ends h

theorem passwordStep_ends
    (hG : (reauthHelloPin handler).isNone = true → P.config.enableSfaFallback = true → G) :
    (P.passwordStep a service handler cred).Gives c (Ends Seals own a old P G F true c) := by
  refine P.changedPassword_checks.then_ends (.refl c) fun cred' c1 h1 => ?_
  refine (Checks.of_rests (.ask _)).then_ends h1 fun mresp c2 h2 => ?_
  refine .bind (P.netDownCheck_ensures (Q := fun _ c' => P.Same c c')
    (fun _ _ h => (h.after h2).ends) (fun _ _ => h2) fun e => ?_) fun resp c3 h3 => ?_
  · refine passwordFlowError_ends _ (fun hsfa => ?_) h2
    rw [Bool.and_eq_true] at hsfa
    exact hG hsfa.1 hsfa.2
  · exact (P.nestedAuthHandleMfaResp_denies resp _).ends h3

/-! ### Multi-factor authentication -/

theorem resealOnSuccess_walks {ev : Event → Prop} (pin : Option String) (t : UserToken) (hG : G) :
    Walks ev G True (P.resealOnSuccess a token pin t) := by
  apply Walks.bind (.of_quiet .getKeystore)
  intro ks
  split
  · apply Walks.bind (P.sealToken_walks (.pure ()))
    intro _
    apply Walks.bind (.of_quiet (.log _))
    intro _
    apply Walks.bind (.of_quiet (.resetBadPinCount a))
    intro _ c
    exact ⟨.same rfl rfl, .success t _ (.refl _) hG (.inl trivial)⟩
  · exact .pure ()

include laws

/-- After an MFA token was validated: a re-authentication seals it and succeeds, another
    login may have to set up a PIN first. -/
theorem finishMfa_settles (token2 : UnixUserToken) (t : UserToken)
    (hG : G) : Settles Seals own a P G (fun v => if P.pinDue noHelloPin v then none else some t)
      (do P.resealOnSuccess a token2 reauthPin t
          if P.pinEnrolmentDue a noHelloPin (← getKeystore) then
            setCredHandler (.setupPin (some token))
            next (.setupPin mfaSetupPinMessage) .none
          else succeed a t .none : Fn W StepAnswer α) := by
  intro c
  have hreseal : (P.resealOnSuccess a token2 reauthPin t).Ensures c (fun _ c' => c' = c)
      (fun r c' => P.Going Seals own a c c' ∧
        successToken r = if P.pinDue noHelloPin (P.see a c) then none else some t) := by
    unfold resealOnSuccess
    simp only [Body.ensures_bind, ensures_getKeystore]
    split
    · rename_i pin k kt hkey
      have hk := P.fetchHelloKey_eq_ok.mp hkey
      have hdue : P.pinDue noHelloPin (P.see a c) = false := by simp [pinDue, hk]
      refine .bind (sealToken_ensures own laws token2 (.inl ⟨kt, hk⟩) pin
        fun c' h => .of_same h) fun _ c1 h1 => ?_
      refine P.log_success_reset Seals own fun c' h => ?_
      simp only [Body.ensures_leave, hdue]
      exact ⟨h1.trans h, rfl⟩
    · rfl
  refine .bind ((hreseal.and (resealOnSuccess_walks reauthPin t hG c)).mono (fun _ _ h => h.1)
    fun _ _ h => ⟨h.1.1, h.1.2, h.2⟩) fun _ c1 h1 => ?_
  subst h1
  exact setupPinOrSucceed_settles token _ t hG c1

theorem finishMfa_ends (token2 : UnixUserToken) (hG : G)
    (h : P.Same c c1) : (P.finishMfa a noHelloPin token token2 reauthPin).Gives c1
      (Ends Seals own a old P G F (!P.pinDue noHelloPin (P.see a c)) c) := by
  refine tokenValidate_then h (fun t => ⟨_, finishMfa_settles laws token2 t hG, ?_⟩)
    (fun _ _ h => h.ends) fun _ _ h => h.ends
  change (if P.pinDue noHelloPin (P.see a c) then none else some t) = _
  cases P.pinDue noHelloPin (P.see a c) <;> rfl

theorem mfaStep_ends (hc : isMfa c.credHandler = true)
    (hG : P.FlowGives a (some cred) none flow → G) :
    (P.mfaStep a noHelloPin flow password extraData reauthPin cred).Gives c
      (Ends Seals own a old P G F (!P.pinDue noHelloPin (P.see a c)) c) := by
  refine .bind ((P.acquireMfaToken_checks hc fun e c1 _ => P.mfaError_denies c1).mono
    (fun _ _ h => h) fun _ _ h => h.ends) fun token c1 h1 => ?_
  exact P.enrollAndObtainEnrolledToken_checks.then_ends h1.1 fun token2 c2 h2 =>
    finishMfa_ends laws token2 (hG h1.2) h2

theorem mfaPollStep_ends (pollAttempt : UInt32)
    (hc : isMfa c.credHandler = true) (hG : P.FlowGives a none (some pollAttempt) flow → G) :
    (P.mfaPollStep a noHelloPin flow password extraData reauthPin pollAttempt).Gives c
      (Ends Seals own a old P G F (!P.pinDue noHelloPin (P.see a c)) c) := by
  unfold mfaPollStep
  split
  · exact (Denies.deny _).ends (.refl c)
  · refine .bind ((P.acquireMfaToken_checks hc fun e c1 => P.mfaPollError_denies e).mono
      (fun _ _ h => h) fun _ _ h => h.ends) fun token c1 h1 => ?_
    exact P.enrolledOrMsaToken_checks.then_ends h1.1 fun token2 c2 h2 =>
      finishMfa_ends laws token2 (hG h1.2) h2

omit laws

/-! ## 5. The step -/

/-- Whether a step that validates a token answers `Success` with it at once: after a PIN no
    TOTP code may be asked for, after another factor no PIN may have to be set up. -/
def succeedsAtOnce (P : HimmelblauProvider W) (noHelloPin : Bool) (credHandler : AuthCredHandler)
    (req : PamAuthRequest) (v : View) : Bool :=
  match credHandler, req with
  | .setupPin _, .setupPin _ => !P.config.enableHelloTotp
  | _, .pin _ => !P.config.enableHelloTotp
  | .passwordFirst .., .password _ => !P.pinDue noHelloPin v
  | .mfa .., .mfaCode _ | .mfa .., .mfaPoll _ | .mfa .., .fido _ => !P.pinDue noHelloPin v
  | _, _ => true

variable (Seals a old) in
def StepEnds (P : HimmelblauProvider W) (atOnce : Bool) (credHandler : AuthCredHandler)
    (req : PamAuthRequest) (c : Ctx W) (r : StepAnswer) (c' : Ctx W) : Prop :=
  (P.Others a c c' ∧ Outcome Seals none a old P atOnce (P.see a c) r (P.see a c')) ∨
    ∃ token pin k, credHandler = .setupPin (some token) ∧ req = .setupPin pin ∧
      P.Others a c c' ∧ Outcome Seals (some k) a old P atOnce
        ((P.see a c).store a (token.amrNgcmfa.getD false) k) r (P.see a c')

def Accepts (P : HimmelblauProvider W) (a : String) (keystore : KeyStore) :
    AuthCredHandler → PamAuthRequest → Prop
  | _, .pin cred => ∃ k kt, P.fetchHelloKey a keystore = .ok (k, kt) ∧ P.Loads cred k
  | .passwordFirst .., .password _ => False
  | h, .password _ => (reauthHelloPin h).isNone = true ∧ P.config.enableSfaFallback = true
  | .mfa flow .., .mfaCode cred => P.FlowGives a (some cred) none flow
  | .mfa flow .., .mfaPoll pollAttempt => P.FlowGives a none (some pollAttempt) flow
  | .mfa flow .., .fido assertion => P.FlowGives a (some assertion) none flow
  | _, _ => False

def Grounds (P : HimmelblauProvider W) (a : String) (keystore : KeyStore) (h : AuthCredHandler)
    (req : PamAuthRequest) : Prop := Kept h req ∨ P.Accepts a keystore h req

variable (P) in
theorem grounds_pin (a : String) (ks : KeyStore) (h : AuthCredHandler) {kt : KeyType}
    (hk : P.fetchHelloKey a ks = .ok (k, kt)) (hloads : P.Loads cred k) :
    P.Grounds a ks h (.pin cred) := by
  cases h <;> exact .inr ⟨k, kt, hk, hloads⟩

theorem grounds_password (ks : KeyStore) (hnone : (reauthHelloPin handler).isNone = true)
    (hsfa : P.config.enableSfaFallback = true) : P.Grounds a ks handler (.password cred) := by
  cases handler with
  | passwordFirst => exact .inl trivial
  | _ => exact .inr ⟨hnone, hsfa⟩

variable {req : PamAuthRequest}

theorem Ends.stepEnds (h : Ends Seals none a old P G F atOnce c r c') :
    StepEnds Seals a old P atOnce handler req c r c' ∧ Leaves (Shows a) G F c r c' :=
  ⟨.inl ⟨h.others, h.outcome⟩, h.leaves⟩

include laws

theorem stepMatch_ends (service : String) (noHelloPin : Bool)
    (hc : c.credHandler = handler) :
    (P.stepMatch a old service noHelloPin handler req).Gives c fun r c' =>
      StepEnds Seals a old P (P.succeedsAtOnce noHelloPin handler req (P.see a c)) handler req
        c r c' ∧ Leaves (Shows a) (P.Grounds a c.keystore handler req) F c r c' := by
  have hends : ∀ {atOnce G} {p : Fn W StepAnswer StepAnswer},
      p.Gives c (Ends Seals none a old P G F atOnce c) → p.Gives c fun r c' =>
        StepEnds Seals a old P atOnce handler req c r c' ∧ Leaves (Shows a) G F c r c' :=
    fun h => h.mono (fun _ _ h => h.stepEnds) fun _ _ h => h.stepEnds
  unfold stepMatch
  split
  · rename_i token pin
    have hkept : P.Grounds a c.keystore (.setupPin token) (.setupPin pin) := .inl trivial
    have hX := @setupPinStep_ends W P Seals none a _ F old laws service token pin c _ hc hkept
    refine hX.mono ?_ ?_ <;>
    · rintro r c' ⟨⟨ho, h | ⟨tok, k, rfl, h⟩⟩, hleaves⟩
      · exact ⟨.inl ⟨ho, h⟩, hleaves⟩
      · exact ⟨.inr ⟨tok, _, k, rfl, rfl, ho, h⟩, hleaves⟩
  · have honce : ∀ cred, P.succeedsAtOnce noHelloPin handler (.pin cred) (P.see a c) =
        !P.config.enableHelloTotp := by
      intro cred
      cases handler <;> rfl
    rw [honce]
    exact hends (pinStep_ends laws fun _ _ => P.grounds_pin a c.keystore handler)
  · exact hends (passwordFirstStep_ends (by rw [hc]; rfl) (.inl trivial))
  · rename_i cred hfirst
    have honce : P.succeedsAtOnce noHelloPin handler (.password cred) (P.see a c) = true := by
      cases handler with
      | passwordFirst options joined => exact absurd rfl (hfirst options joined)
      | _ => rfl
    rw [honce]
    exact hends (passwordStep_ends (grounds_password c.keystore))
  · exact hends (mfaStep_ends laws (by rw [hc]; rfl) .inr)
  · exact hends (mfaPollStep_ends laws _ (by rw [hc]; rfl) .inr)
  · exact hends (Denies.ends (.prompt trivial rfl) (.refl c))
  · exact hends (mfaStep_ends laws (by rw [hc]; rfl) .inr)
  · rename_i helloPin pending cred
    have hwalk : Answers (Shows a)
        (P.Grounds a c.keystore (.helloTOTP helloPin pending) (.helloTOTP cred)) True
        (P.handleHelloPinTotpAuth a old cred helloPin pending fun r => (r, .none)) :=
      P.handleHelloPinTotpAuth_answers _ (.inl trivial)
    refine ((handleHelloPinTotpAuth_ensures none laws _ _).and
      (hwalk.of_earned (F := F) (by rw [hc]; rfl))).mono ?_ ?_ <;>
    · rintro r c' ⟨⟨h, hanswer⟩, hleaves⟩
      refine ⟨.inl ⟨h.2, .stale h.1 fun t ht => ?_⟩, hleaves⟩
      rcases hanswer with ⟨e, rfl⟩ | ⟨res, rfl, hres⟩
      · cases ht
      · cases res with
        | success t' => exact hres t ((Option.some.inj ht) ▸ rfl)
        | denied msg => cases ht
        | next request => cases ht
  · exact ((Same.refl c).error _).ends.stepEnds

theorem unixUserOnlineAuthStep_ensures (service : String)
    (noHelloPin : Bool) (req : PamAuthRequest) (c : Ctx W) :
    (P.unixUserOnlineAuthStep a old service noHelloPin req).Gives c fun r c' =>
      StepEnds Seals a old P (P.succeedsAtOnce noHelloPin c.credHandler req (P.see a c))
        c.credHandler req c r c' ∧
      Leaves (Shows a) (P.Grounds a c.keystore c.credHandler req) False c r c' := by
  refine ((P.delayedInit_calm c).both (P.delayedInit_calm.idle.rests (P := P) c)).andThen
    fun ok c1 h1 => ?_
  obtain ⟨hcalm, h⟩ := h1
  split
  · simp only [Body.ensures_bind, Body.ensures_get, hcalm.credHandler]
    have hstep : (P.stepMatch a old service noHelloPin c.credHandler req).Gives c1 _ :=
      stepMatch_ends (F := False) laws service noHelloPin hcalm.credHandler
    rw [h.same.see a, hcalm.keystore] at hstep
    refine hstep.mono ?_ ?_ <;>
    · rintro r c' ⟨hends, hleaves⟩
      refine ⟨?_, .after h.goes hleaves⟩
      rcases hends with ⟨ho, hends⟩ | ⟨token, pin, k, hh, hreq, ho, hends⟩
      · exact .inl ⟨h.same.others.trans ho, h.same.see a ▸ hends⟩
      · exact .inr ⟨token, pin, k, hh, hreq, h.same.others.trans ho, h.same.see a ▸ hends⟩
  · exact (P.netDown_denies.after h).mono (fun _ _ h => h) fun _ _ h => h.ends.stepEnds

theorem unixUserOnlineAuthStep_ends (service : String)
    (noHelloPin : Bool) (req : PamAuthRequest) (c : Ctx W) :
    (P.unixUserOnlineAuthStep a old service noHelloPin req).Gives c
      (StepEnds Seals a old P (P.succeedsAtOnce noHelloPin c.credHandler req (P.see a c))
        c.credHandler req c) :=
  (unixUserOnlineAuthStep_ensures laws service noHelloPin req c).mono (fun _ _ h => h.1)
    fun _ _ h => h.1

omit laws

variable (P) in
theorem unixUserOnlineAuthStep_leaves (old : UserToken) (service : String) (noHelloPin : Bool)
    (req : PamAuthRequest) (c : Ctx W) :
    Leaves (Shows a) (P.Grounds a c.keystore c.credHandler req) False c
      ((P.unixUserOnlineAuthStep a old service noHelloPin req).run c).1
      ((P.unixUserOnlineAuthStep a old service noHelloPin req).run c).2 :=
  (unixUserOnlineAuthStep_ensures (.trivial P) service noHelloPin req c).run.2

end Acquiring

end HimmelblauProvider

end Himmelblau.Entra
