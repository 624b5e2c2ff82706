/-
  **The second factor of an offline login.**  After a right PIN, an offline step asks for a
  TOTP code if the account has enrolled one.  The code is checked by the next step, with the
  PIN that the session's credential handler keeps.  The online step leaves that handler
  behind, the offline step does not: the prompt can only be answered if the handler was there
  before.
-/
import Himmelblau.SessionPrompts

namespace Himmelblau

open Interface Db LockProgram FunctionBody Entra Entra.Ctx Msal

variable {W : Type}

/-! ## 1. Codes -/

namespace Entra.HimmelblauProvider

variable (P : HimmelblauProvider W)

/-- The PIN loads the account's key, the key unseals the secret, and the code is valid for it. -/
def acceptsCode (a code helloPin : String) (pending : Option SealedData) (c : Ctx W) : Bool :=
  match P.sealedTotpSecret a pending c.keystore, P.fetchHelloKey a c.keystore,
    P.outside.pinValueNew helloPin with
  | .ok secret, .ok (helloKey, _), some pin =>
    let loaded := P.outside.msHelloKeyLoad helloKey pin c.provider.world
    match loaded.1 with
    | none => false
    | some winHelloStorageKey =>
      let unsealed := P.outside.unsealData winHelloStorageKey secret loaded.2
      match unsealed.1 with
      | some ⟨some record⟩ => (P.outside.totpCheckCurrent record code unsealed.2).1 == some true
      | _ => false
  | _, _, _ => false

variable {P} {β : Type}

def Fails (action : AuthResult → β) (r : Except IdpError β) : Prop :=
  (∃ e, r = .error e) ∨ ∃ msg, r = .ok (action (.denied msg))

theorem totpDenied_fails (a : String) (action : AuthResult → β) (c : Ctx W) :
    (P.totpDenied a action).Gives c (fun r _ => Fails action r) :=
  (P.totpDenied_concludes (fun _ => .inr ⟨_, rfl⟩) c).mono (fun _ _ h => h.2) fun _ _ h => h.2

/-- The answer of a step that takes the code, or does not. -/
def Graded (token : UserToken) (action : AuthResult → β) (r : Except IdpError β) : Bool → Prop
  | true => r = .ok (action (.success token))
  | false => Fails action r

theorem handleHelloPinTotpAuth_graded (a code helloPin : String) (token : UserToken)
    (pending : Option SealedData) (action : AuthResult → β) (c : Ctx W) :
    (P.handleHelloPinTotpAuth a token code helloPin pending action).Gives c
      (fun r _ => Graded token action r (P.acceptsCode a code helloPin pending c)) := by
  unfold handleHelloPinTotpAuth acceptsCode
  simp only [Body.ensures_bind, getKeystore, Body.ensures_get, Body.ensures_pure]
  cases P.sealedTotpSecret a pending c.keystore with
  | error e => exact .inl ⟨e, rfl⟩
  | ok secret =>
    simp only [Body.orLeave, Body.ensures_pure]
    cases P.fetchHelloKey a c.keystore with
    | error e => exact .inl ⟨e, rfl⟩
    | ok key =>
      simp only [Body.ensures_pure]
      cases P.outside.pinValueNew helloPin with
      | none => exact .inl ⟨_, rfl⟩
      | some pin =>
        simp only [tryPin, Body.ensures_bind, ask, Body.ensures_call, log, Body.ensures_modify,
          Body.ensures_pure]
        generalize P.outside.msHelloKeyLoad key.1 pin c.provider.world = loaded
        rcases loaded with ⟨_ | winHelloStorageKey, w1⟩
        · exact totpDenied_fails a action _
        · simp only [unsealText, Body.ensures_bind, ask, Body.ensures_call]
          generalize P.outside.unsealData winHelloStorageKey secret w1 = unsealed
          rcases unsealed with ⟨_ | ⟨_ | record⟩, w2⟩
          · exact .inl ⟨_, rfl⟩
          · exact .inl ⟨_, rfl⟩
          · simp only [Body.ensures_pure, tryCode, Body.ensures_bind, ask, Body.ensures_call]
            generalize P.outside.totpCheckCurrent record code w2 = checked
            rcases checked with ⟨_ | _ | _, w3⟩
            · exact .inl ⟨_, rfl⟩
            · exact totpDenied_fails a action _
            · unfold totpAccepted
              cases pending with
              | none => exact rfl
              | some d => exact rfl

variable (P)

/-- The same of a step: online the provider initialises itself first. -/
def takesCode (init : Fn W StepAnswer Bool) (online : Bool) (a code helloPin : String)
    (pending : Option SealedData) (c : Ctx W) : Bool :=
  match online with
  | false => P.acceptsCode a code helloPin pending c
  | true =>
    match init c with
    | (.ok true, c') => P.acceptsCode a code helloPin pending c'
    | _ => false

variable {P}

def takenBy (takes : String → Option SealedData → Bool) : AuthCredHandler → Bool
  | .helloTOTP helloPin pending => takes helloPin pending
  | _ => false

theorem online_graded {init : Fn W StepAnswer Bool} (hinit : Quiet init)
    (step : AuthCredHandler → Fn W StepAnswer StepAnswer) {down : Fn W StepAnswer StepAnswer}
    {a code : String} {token : UserToken} {action : AuthResult → AuthResult × AuthCacheAction}
    (hcode : ∀ helloPin pending, step (.helloTOTP helloPin pending) =
      P.handleHelloPinTotpAuth a token code helloPin pending action)
    (hother : ∀ h c, Resolver.worksOffline h = true → (∀ helloPin pending,
      h ≠ .helloTOTP helloPin pending) → (step h).Gives c (fun r _ => Fails action r))
    (hdown : ∀ c, down.Ensures c (fun r _ => Fails action r) (fun r _ => Fails action r))
    (c : Ctx W) (hworks : Resolver.worksOffline c.credHandler = true) :
    Graded token action ((do
      if ← init then
        let credHandler := (← Body.get).credHandler
        step credHandler
      else down : Fn W StepAnswer StepAnswer).run c).1
      (takenBy (P.takesCode init true a code · · c) c.credHandler) := by
  apply Body.Ensures.run (X := fun r _ => Graded token action r _)
  have hquiet := hinit c
  unfold takesCode
  unfold Body.Ensures at hquiet
  rw [Body.ensures_bind, Body.Ensures]
  rcases hc : init c with ⟨_ | ok, c'⟩
  · rw [hc] at hquiet
    exact hquiet.elim
  · rw [hc] at hquiet
    obtain ⟨hhandler, -⟩ := hquiet
    cases ok with
    | false =>
      have hfalse : takenBy (fun _ _ => false) c.credHandler = false := by
        cases c.credHandler <;> rfl
      rw [hfalse]
      exact hdown c'
    | true =>
      dsimp only
      rw [if_pos rfl, Body.ensures_bind, Body.ensures_get, hhandler]
      cases hh : c.credHandler with
      | helloTOTP helloPin pending =>
        rw [hcode]
        exact P.handleHelloPinTotpAuth_graded a code helloPin token pending action c'
      | _ =>
        apply hother _ c' (by rw [← hh]; exact hworks)
        intro helloPin pending h
        cases h

theorem unixUserOnlineAuthStep_graded (a code service : String) (token : UserToken)
    (noHelloPin : Bool) (c : Ctx W) (hworks : Resolver.worksOffline c.credHandler = true) :
    Graded token (·, AuthCacheAction.none)
      ((P.unixUserOnlineAuthStep a token service noHelloPin (.helloTOTP code)).run c).1
      (takenBy (P.takesCode P.delayedInit true a code · · c) c.credHandler) := by
  refine online_graded P.delayedInit_calm.idle.quiet
    (fun h => P.stepMatch a token service noHelloPin h (.helloTOTP code)) (fun _ _ => rfl) ?_ ?_ c
    hworks
  · intro h c hworks hne
    cases h with
    | helloTOTP helloPin pending => exact absurd rfl (hne helloPin pending)
    | _ => exact .inl ⟨_, rfl⟩
  · exact fun _ => .inr ⟨_, rfl⟩

theorem himmelblauOfflineAuthStep_graded (a code : String) (token : UserToken) (c : Ctx W) :
    Graded token id ((P.himmelblauOfflineAuthStep a token (.helloTOTP code)).run c).1
      (takenBy (P.takesCode P.delayedInit false a code · · c) c.credHandler) := by
  apply Body.Ensures.run (X := fun r _ => Graded token id r _)
  unfold himmelblauOfflineAuthStep
  rw [Body.ensures_bind, Body.ensures_get]
  cases c.credHandler with
  | helloTOTP helloPin pending =>
    exact P.handleHelloPinTotpAuth_graded a code helloPin token pending id c
  | _ => exact .inl ⟨_, rfl⟩

end Entra.HimmelblauProvider

namespace Oidc.OidcProvider

variable {O : OidcProvider W}

theorem unixUserOnlineAuthStep_graded (a code : String) (token : UserToken) (noHelloPin : Bool)
    (c : Ctx W) (hworks : Resolver.worksOffline c.credHandler = true) :
    HimmelblauProvider.Graded token (·, AuthCacheAction.none)
      ((O.unixUserOnlineAuthStep a token noHelloPin (.helloTOTP code)).run c).1
      (HimmelblauProvider.takenBy (O.takesCode O.delayedInit true a code · · c) c.credHandler) := by
  refine HimmelblauProvider.online_graded O.delayedInit_calm.idle.quiet
    (fun h => O.stepMatch a token noHelloPin h (.helloTOTP code)) (fun _ _ => rfl) ?_ ?_ c hworks
  · intro h c hworks hne
    cases h with
    | helloTOTP helloPin pending => exact absurd rfl (hne helloPin pending)
    | mfa => cases hworks
    | _ => exact .inr ⟨_, rfl⟩
  · exact fun _ => .inr ⟨_, rfl⟩

theorem unixUserOfflineAuthStep_graded (a code : String) (token : UserToken) (c : Ctx W) :
    HimmelblauProvider.Graded token id
      ((O.unixUserOfflineAuthStep a token (.helloTOTP code)).run c).1
      (HimmelblauProvider.takenBy (O.takesCode O.delayedInit false a code · · c)
        c.credHandler) := by
  apply Body.Ensures.run (X := fun r _ => HimmelblauProvider.Graded token id r _)
  unfold unixUserOfflineAuthStep
  rw [Body.ensures_bind, Body.ensures_get]
  cases c.credHandler with
  | helloTOTP helloPin pending =>
    exact O.handleHelloPinTotpAuth_graded a code helloPin token pending id c
  | _ => exact .inl ⟨_, rfl⟩

end Oidc.OidcProvider

/-! ## 2. Sessions -/

open HimmelblauProvider Oidc

/-- How the providers check a code: online or not, with the PIN of the handler. -/
inductive ChecksCodes : IdProvider (ProviderState W) →
    (Bool → String → String → String → Option SealedData → Ctx W → Bool) → Prop
  | entra (P : HimmelblauProvider W) : ChecksCodes (entraProvider P) (P.takesCode P.delayedInit)
  | oidc (O : OidcProvider W) : ChecksCodes (oidcProvider O) (O.takesCode O.delayedInit)

section Sessions

variable {takes : Bool → String → String → String → Option SealedData → Ctx W → Bool}

variable {client : IdProvider (ProviderState W)}

theorem ChecksCodes.online (h : ChecksCodes client takes) (a code service : String)
    (token : UserToken) (noHelloPin : Bool) {handler : AuthCredHandler}
    (hworks : Resolver.worksOffline handler = true) (ks : KeyStore) (p : ProviderState W) :
    Graded token (·, AuthCacheAction.none)
      (client.unixUserOnlineAuthStep a token service noHelloPin handler (.helloTOTP code) ks p).1.1
      (takenBy (takes true a code · · ⟨ks, p, handler⟩) handler) := by
  cases h with
  | entra P => exact P.unixUserOnlineAuthStep_graded a code service token noHelloPin _ hworks
  | oidc O => exact O.unixUserOnlineAuthStep_graded a code token noHelloPin _ hworks

theorem ChecksCodes.offline (h : ChecksCodes client takes) (a code : String) (token : UserToken)
    (onlineAtInit : Bool) (handler : AuthCredHandler) (ks : KeyStore) (p : ProviderState W) :
    Graded token id
      (client.unixUserOfflineAuthStep a token handler (.helloTOTP code) onlineAtInit ks p).1.1
      (takenBy (takes false a code · · ⟨ks, p, handler⟩) handler) := by
  cases h with
  | entra P => exact P.himmelblauOfflineAuthStep_graded a code token _
  | oidc O => exact O.unixUserOfflineAuthStep_graded a code token _

theorem ChecksCodes.rules (h : ChecksCodes client takes) :
    ∃ ev accepts, LoginRules client ev accepts := by
  cases h with
  | entra P => exact ⟨_, _, entra_rules P⟩
  | oidc O => exact ⟨_, _, oidc_rules O⟩

variable {R : Resolver (ProviderState W)} {p : InProgress} {token : UserToken}

instance (s : ResolverState (ProviderState W)) : Decidable (R.Online p s) :=
  inferInstanceAs (Decidable (_ ∧ _))

theorem finish_graded {session : AuthSession} {r : Except IdpError AuthResult} {taken : Bool}
    (h : Graded token id r taken) (s : ResolverState (ProviderState W)) :
    ((R.authStepFinish session r).exec s).1.1 = .ok .success ↔
      taken = true ∧ R.Releasable token s := by
  cases taken with
  | true =>
    cases h
    rw [and_iff_right rfl]
    exact R.authStepFinish_success_iff
  | false =>
    refine iff_of_false ?_ fun h => nomatch h.1
    rcases h with ⟨e, rfl⟩ | ⟨msg, rfl⟩
    · cases e with
      | _ => exact nofun
    · exact nofun

theorem apply_graded (old : UserToken) {r : Except IdpError (AuthResult × AuthCacheAction)}
    {taken : Bool} (h : Graded token (·, AuthCacheAction.none) r taken)
    (s : ResolverState (ProviderState W)) :
    ∃ r', (R.applyCacheAction old r).exec s = (.ok r', s) ∧ Graded token id r' taken := by
  cases taken with
  | true =>
    cases h
    exact ⟨_, rfl, rfl⟩
  | false =>
    rcases h with ⟨e, rfl⟩ | ⟨msg, rfl⟩
    · exact ⟨_, rfl, .inl ⟨e, rfl⟩⟩
    · exact ⟨_, rfl, .inr ⟨msg, rfl⟩⟩

/-- A session in progress, with a handler that works offline, takes a code exactly if the
    handler is one for a code. -/
theorem answer_code_iff (hclient : ChecksCodes R.client takes) (htoken : p.token = some token)
    (hworks : Resolver.worksOffline p.credHandler = true) (hforce : p.forceReauth = false)
    (code : String) (s : ResolverState (ProviderState W)) :
    R.answer ⟨.inProgress p, s⟩ (.helloTOTP code) = .ok .success ↔
      takenBy (takes (decide (R.Online p s)) p.accountId code · ·
        ⟨s.db.hsmDataT, s.client, p.credHandler⟩) p.credHandler = true ∧ R.Releasable token s := by
  obtain ⟨ev, accepts, rules⟩ := hclient.rules
  have hs1 := rules.exec_getCachestate (some p.accountId) s
  unfold Resolver.answer
  rw [R.exec_pamAccountAuthenticateStep]
  by_cases honline : R.Online p s
  · simp only [R.exec_stepBranch_online htoken honline, hs1, honline, decide_true]
    have hgraded := hclient.online p.accountId code p.service token p.noHelloPin hworks
      (s.called s.db.hsmDataT s.client).db.hsmDataT (s.called s.db.hsmDataT s.client).client
    generalize R.client.unixUserOnlineAuthStep p.accountId token p.service p.noHelloPin
      p.credHandler (.helloTOTP code) _ _ = call at hgraded ⊢
    obtain ⟨r, happly, hr⟩ := apply_graded (R := R) token hgraded
      ((s.called s.db.hsmDataT s.client).called call.2.1 call.2.2)
    rw [happly]
    exact finish_graded hr _
  · simp only [R.exec_stepBranch_offline htoken honline, hs1, honline, decide_false]
    have hgraded := hclient.offline p.accountId code token p.onlineAtInit p.credHandler
      s.db.hsmDataT s.client
    rw [R.exec_authStepOffline_asked token hforce hworks (.inr ⟨code, rfl⟩)]
    exact finish_graded hgraded _

theorem asked_offline (hclient : ChecksCodes R.client takes) (htoken : p.token = some token)
    {s : ResolverState (ProviderState W)} (hoffline : ¬ R.Online p s) {cred msg : String}
    (hasked : R.answer ⟨.inProgress p, s⟩ (.pin cred) = .ok (.helloTOTP msg)) :
    p.forceReauth = false ∧ Resolver.worksOffline p.credHandler = true ∧
      R.nextSession (.inProgress p) (s, .pin cred) = .inProgress p := by
  obtain ⟨ev, accepts, rules⟩ := hclient.rules
  have hs1 := rules.exec_getCachestate (some p.accountId) s
  unfold Resolver.answer at hasked
  unfold Resolver.nextSession Resolver.stepLogin
  rw [R.exec_pamAccountAuthenticateStep] at hasked ⊢
  simp only [R.exec_stepBranch_offline htoken hoffline, hs1] at hasked ⊢
  have hforce : p.forceReauth = false := by
    by_contra hforce
    rw [Bool.not_eq_false] at hforce
    unfold Resolver.authStepOffline at hasked
    rw [hforce] at hasked
    cases hasked
  have hworks : Resolver.worksOffline p.credHandler = true := by
    by_contra hworks
    rw [Bool.not_eq_true] at hworks
    rw [R.exec_authStepOffline_unable token hforce hworks (.inl ⟨cred, rfl⟩)] at hasked
    cases hasked
  refine ⟨hforce, hworks, ?_⟩
  rw [R.exec_authStepOffline_asked token hforce hworks (.inl ⟨cred, rfl⟩)] at hasked ⊢
  generalize hcall : R.client.unixUserOfflineAuthStep p.accountId token p.credHandler (.pin cred)
    p.onlineAtInit _ _ = call at hasked ⊢
  obtain ⟨⟨hhandler, -⟩, hanswered⟩ := rules.offlineStep _ _ _ _ _ _ _ _ hcall
  obtain ⟨⟨answer, h'⟩, ks', client'⟩ := call
  have hh' : h' = p.credHandler := hhandler
  subst hh'
  change Answered _ answer at hanswered
  cases hanswered with
  | error e =>
    cases e with
    | _ => cases hasked
  | denied msg => cases hasked
  | code msg => rfl
  | success t =>
    dsimp only at hasked
    rw [R.exec_authStepFinish_success] at hasked
    split at hasked
    · cases hasked
    · split at hasked
      · cases hasked
      · cases hasked

/-- **A code is taken after an offline prompt** exactly if the session's handler was one for a
    code already, and with the PIN that it keeps the code is right, and the user token can be
    released.  Between the two steps the daemon may serve others, and go online. -/
theorem offline_code_accepted_iff (hclient : ChecksCodes R.client takes)
    (htoken : p.token = some token) {s₁ : ResolverState (ProviderState W)}
    (hoffline : ¬ R.Online p s₁) {cred msg : String}
    (hasked : R.answer ⟨.inProgress p, s₁⟩ (.pin cred) = .ok (.helloTOTP msg)) (code : String)
    (s₂ : ResolverState (ProviderState W)) :
    R.answer ⟨R.nextSession (.inProgress p) (s₁, .pin cred), s₂⟩ (.helloTOTP code) = .ok .success ↔
      ∃ helloPin pending, p.credHandler = .helloTOTP helloPin pending ∧
        takes (decide (R.Online p s₂)) p.accountId code helloPin pending
          ⟨s₂.db.hsmDataT, s₂.client, p.credHandler⟩ = true ∧ R.Releasable token s₂ := by
  obtain ⟨hforce, hworks, hnext⟩ := asked_offline hclient htoken hoffline hasked
  rw [hnext, answer_code_iff hclient htoken hworks hforce]
  constructor
  · rintro ⟨htaken, hreleasable⟩
    cases hh : p.credHandler with
    | helloTOTP helloPin pending =>
      rw [hh] at htaken
      exact ⟨helloPin, pending, rfl, htaken, hreleasable⟩
    | _ =>
      rw [hh] at htaken
      cases htaken
  · rintro ⟨helloPin, pending, hh, htakes, hreleasable⟩
    refine ⟨?_, hreleasable⟩
    rw [hh] at htakes ⊢
    exact htakes

end Sessions

def aliceTotpCutOff : ResolverState (ProviderState Unit) :=
  (sampleState .offline aliceTotpKeystore).resolver

/-- A session that was asked for a code online goes offline: the PIN is asked for again, and then
    the code is taken. -/
theorem offline_code_alice :
    let R := (sampleDaemon 3 true).resolver
    let p : InProgress := { aliceSession with credHandler := .helloTOTP "123456" none }
    R.answer ⟨.inProgress p, aliceTotpCutOff⟩ (.pin "123456") = .ok (.helloTOTP helloTotpPrompt) ∧
      R.answer ⟨R.nextSession (.inProgress p) (aliceTotpCutOff, .pin "123456"), aliceTotpCutOff⟩
        (.helloTOTP "424242") = .ok .success := by
  intro R p
  have hoffline : ¬ R.Online p aliceTotpCutOff := by decide +kernel
  have hasked : R.answer ⟨.inProgress p, aliceTotpCutOff⟩ (.pin "123456") =
      .ok (.helloTOTP helloTotpPrompt) := by decide +kernel
  refine ⟨hasked, ?_⟩
  refine (offline_code_accepted_iff (.entra (sampleProvider 3 true)) rfl hoffline hasked "424242"
    aliceTotpCutOff).mpr ⟨"123456", none, rfl, by decide +kernel, by decide +kernel, ?_⟩
  unfold Resolver.Storable
  decide +kernel

theorem offline_code_refused :
    let R := (sampleDaemon 3 true).resolver
    let p : InProgress := { aliceSession with onlineAtInit := false }
    ((R.pamAccountAuthenticateInit "alice@example.com" "login" false false).exec
        aliceTotpCutOff).1 = .ok (.inProgress p, .pin) ∧
      R.answers (.inProgress p) [(aliceTotpCutOff, .pin "123456"),
        (aliceTotpCutOff, .helloTOTP "424242")] =
          [.ok (.helloTOTP helloTotpPrompt), .error ()] ∧
      (sampleProvider 3 true).acceptsCode "alice@example.com" "424242" "123456" none
        ⟨aliceTotpKeystore, aliceTotpCutOff.client, p.credHandler⟩ = true := by
  intro R p
  exact ⟨by decide +kernel, by decide +kernel, by decide +kernel⟩

end Himmelblau
