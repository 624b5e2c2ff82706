/-
  **The online step of the OpenID Connect provider, judged piece by piece.**  The client
  answers with `RequestFailed` only while it is not initialised, and a step initialises it
  first: unlike the Entra provider, this one never falls back to an offline login, and the
  evidence for a success is always a token that was validated.
-/
import Himmelblau.EntraMoves
import Himmelblau.OidcStep

namespace Himmelblau.Oidc

open Interface Config Msal FunctionBody Entra Entra.Ctx

variable {W ρ α : Type} {ev : Event → Prop} {a : String} {G F : Prop} {c c1 c' : Ctx W}

def Validated (a : String) (e : Event) : Prop := ∃ t, e = .validated a t

namespace OidcProvider

variable (O : OidcProvider W)

/-! ## 1. Initialisation and the client -/

variable {c : Ctx W} {b cred : String} {k : LoadableMsHelloKey} {oldToken : UserToken}
  {token : OidcTokenResponse} {noHelloPin : Bool} {flow : MFAAuthContinue} {req : PamAuthRequest}
  {dagFlow : Option DeviceAuthResponse} {password reauthPin : Option String}

theorem clientDelayedInit_spec :
    (O.clientDelayedInit : Fn W ρ Bool).Ensures c (fun ok c' => c'.keystore = c.keystore ∧
      (ok = true → c'.provider.initialized = true)) (fun _ _ => False) := by
  unfold clientDelayedInit
  split
  · rw [Body.ensures_bind]
    change Body.Ensures (if _ then _ else _) _ _ _
    split
    · exact ⟨rfl, fun _ => rfl⟩
    · exact ⟨rfl, nofun⟩
  · exact ⟨rfl, nofun⟩

theorem delayedInit_spec :
    (O.delayedInit : Fn W ρ Bool).Ensures c (fun ok c' => c'.keystore = c.keystore ∧
      (ok = true → c'.provider.initialized = true)) (fun _ _ => False) := by
  unfold delayedInit
  simp only [Body.ensures_bind, Body.ensures_get]
  split
  · next hinit => exact ⟨rfl, fun _ => hinit⟩
  · split
    · exact ⟨rfl, by simp⟩
    · rw [Body.ensures_bind]
      change Body.Ensures (if _ then _ else _) _ _ _
      split
      · exact O.clientDelayedInit_spec
      · exact ⟨rfl, by simp⟩

/-- Once it is initialised, the client does not report an outage as one. -/
theorem acquireTokenByRefreshToken_answer (token : String) (scopes : List String)
    (hinit : c.provider.initialized = true) :
    (O.acquireTokenByRefreshToken token scopes : Fn W ρ _).Ensures c
      (fun r _ => ∀ msg, r ≠ .error (.requestFailed msg)) (fun _ _ => False) := by
  unfold acquireTokenByRefreshToken
  simp only [Body.ensures_bind, Body.ensures_get, hinit, if_true, ask, Body.ensures_call]
  split
  · intro msg h
    cases h
  · intro msg h
    cases h

/-! ## 2. A token for a PIN -/

theorem memCacheRefreshToken_walks : Walks ev G F (O.memCacheRefreshToken b) := by
  apply Walks.bind (.of_quiet O.refreshToken_idle.quiet)
  intro r
  split
  · exact .pure _
  · exact .deny _
  · exact .deny _

theorem cachedRefreshToken_walks : Walks ev G F (O.cachedRefreshToken b k cred) := by
  apply Walks.bind (.of_quiet .getKeystore)
  intro ks
  split
  · exact O.memCacheRefreshToken_walks
  · split
    · exact .error _
    · apply Walks.bind (.of_quiet (.ask _))
      intro key
      split
      · exact .error _
      · apply Walks.bind (.of_quiet (.ask _))
        intro text
        split
        · exact .pure _
        · exact .error _
        · exact O.memCacheRefreshToken_walks

theorem dropHelloKey_stops : Stops ev G F (O.dropHelloKey b : Fn W StepAnswer α) :=
  .bind (.of_quiet (.delete _)) fun _ => .bind (.of_quiet (.delete _)) fun _ =>
    .bind (.of_quiet (.resetBadPinCount _)) fun _ => .deny _

theorem exchangeRefreshToken_ensures (token : String) (hinit : c.provider.initialized = true) :
    (O.exchangeRefreshToken b oldToken cred token).Ensures c (fun _ c' => Goes c c')
      (Leaves ev G F c) := by
  refine (((O.acquireTokenByRefreshToken_calm token []).idle.quiet.goes c).both
    (O.acquireTokenByRefreshToken_answer token [] hinit)).andThen ?_
  rintro r c1 ⟨hgoes, hr⟩
  refine hgoes.walks (Walks.bind (.of_quiet (.log _)) (fun _ => ?_) c1)
  split
  · exact .bind (.of_quiet (.resetBadPinCount _)) fun _ => .pure _
  · exact absurd rfl (hr _)
  · exact .of_stops O.dropHelloKey_stops

theorem acquireToken_ensures (keyType : KeyType) (hinit : c.provider.initialized = true) :
    (O.acquireToken b oldToken k keyType cred).Ensures c (fun _ c' => Goes c c')
      (Leaves ev G F c) := by
  cases keyType with
  | decoupled =>
    refine Body.Ensures.bind (O.cachedRefreshToken_walks c) ?_
    intro token c1 hgoes
    exact hgoes.walks
      (O.exchangeRefreshToken_ensures token (hgoes.2.2 hinit))
  | hello =>
    have hstops : Walks ev G F (deleteTaggedHsmKey (O.fetchHelloKeyTag b false) >>= fun _ =>
        deny "Your session has expired. Please sign in again." :
        Fn W StepAnswer OidcTokenResponse) :=
      .bind (.of_quiet (.delete _)) fun _ => .deny _
    exact hstops c

theorem sealRefreshTokenOf_walks (pin : PinValue) :
    Walks ev G F (O.sealRefreshTokenOf b token k pin) := by
  apply Walks.bind (.of_quiet (.ask _))
  intro key
  split
  · exact .error _
  · split
    · exact .deny _
    · split
      · exact .error _
      · apply Walks.bind (.of_quiet (O.userTokenFromOidc_calm _ _).idle.quiet)
        intro r
        apply Walks.bind (.orLeave r)
        intro _
        apply Walks.bind (.of_quiet (.ask _))
        intro data
        split
        · exact .error _
        · exact .of_quiet (.insert _ _)

/-! ## 3. Validating a token -/

theorem tokenValidate_spec (token : OidcTokenResponse) (c : Ctx W) :
    (O.tokenValidate a token : Fn W ρ _).Ensures c
      (HimmelblauProvider.Verdict (Validated a) c) (fun _ _ => False) := by
  have hlog : ∀ (c1 : Ctx W) (t : UserToken), Goes c c1 →
      HimmelblauProvider.Verdict (Validated a) c (.ok (.success t))
        { c1 with provider.trace := .validated a t :: c1.provider.trace } := by
    intro c1 t hgoes
    refine .success t ⟨hgoes.1, hgoes.2.trans (.log rfl rfl)⟩ ?_
    exact Evident.of_grows hgoes.2 ⟨[_], _, rfl, List.mem_singleton_self _, t, rfl⟩
  unfold tokenValidate
  split
  · exact .error _ (Goes.refl c)
  · refine ((O.userTokenFromOidc_calm _ _).idle.quiet.goes c).andThen ?_
    intro r c1 h1
    split
    · exact .error _ h1
    · split
      · exact .denied _ h1
      · split
        · refine ((O.refreshCacheAdd_idle _).quiet.goes c1).andThen ?_
          intro _ c2 h2
          exact hlog c2 _ (h1.trans h2)
        · exact hlog c1 _ h1

theorem tokenValidate_answers {k : Except IdpError AuthResult → Fn W StepAnswer StepAnswer}
    (herror : ∀ e, Answers (Validated a) G F (k (.error e)))
    (hdenied : ∀ msg, Answers (Validated a) G F (k (.ok (.denied msg))))
    (hsuccess : ∀ t, Answers (Validated a) G True (k (.ok (.success t)))) :
    Answers (Validated a) G F (O.tokenValidate a token >>= k) := fun c =>
  (O.tokenValidate_spec token c).andThen fun _ _ h => h.answers herror hdenied hsuccess

/-! ## 4. PINs -/

theorem finishHello_answers (cred : String) (token : OidcTokenResponse) (hG : G) :
    Answers (Validated a) G F (O.finishHello a cred token) := by
  apply tokenValidate_answers
  · intro e
    exact .pureError e
  · intro msg
    exact .pureDenied msg
  · intro t
    exact .of_stops (O.helloTotpOrSuccess_stops t hG)

theorem authAndValidateHelloKey_ensures (keyType : KeyType)
    (hinit : c.provider.initialized = true) (hG : O.Loads cred k → G) :
    (O.authAndValidateHelloKey a oldToken k keyType cred).Gives c (Leaves (Validated a) G F c) := by
  unfold authAndValidateHelloKey
  split
  · exact ⟨.same rfl rfl, .error _ (.refl _)⟩
  · next pin hpin =>
    refine (O.tryPin_spec pin).andThen ?_
    rintro (_ | key) c1 ⟨hgoes, hloads⟩
    · exact hgoes.answers (O.badPin_answers _ c1)
    · obtain ⟨w, hw⟩ := hloads rfl
      have hground : G := hG ⟨pin, w, hpin, hw⟩
      refine (hgoes.walks (O.acquireToken_ensures keyType
        (hgoes.2.2 hinit))).bind ?_
      intro token c2 h2
      have hrest : Answers (Validated a) G F (O.sealRefreshTokenOf a token k pin >>= fun _ =>
          O.finishHello a cred token) :=
        .bind (O.sealRefreshTokenOf_walks pin) fun _ =>
          O.finishHello_answers cred token hground
      exact h2.answers (hrest c2)

theorem pinStep_ensures (oldToken : UserToken) (cred : String) (c : Ctx W)
    (hinit : c.provider.initialized = true)
    (hG : ∀ k kt, O.fetchHelloKey a c.keystore = .ok (k, kt) → O.Loads cred k → G) :
    (O.pinStep a oldToken cred).Gives c (Leaves (Validated a) G F c) := by
  change (Body.orLeave (O.fetchHelloKey a c.keystore) Except.error >>= fun x =>
    O.authAndValidateHelloKey a oldToken x.1 x.2 cred : Fn W _ _).Ensures c _ _
  rcases hk : O.fetchHelloKey a c.keystore with e | ⟨k, kt⟩
  · exact ⟨.same rfl rfl, .error e (.refl _)⟩
  · exact O.authAndValidateHelloKey_ensures kt hinit (hG k kt hk)

theorem setupPinStep_ensures (oldToken : UserToken) (pin : String) (c : Ctx W)
    (hinit : c.provider.initialized = true) (hG : G) :
    (O.setupPinStep a oldToken pin).Gives c (Leaves (Validated a) G F c) := by
  refine ((O.createDecoupledHelloKey_calm pin).idle.quiet.goes c).andThen ?_
  intro key c1 h1
  split
  · exact ⟨h1.2, .error _ h1.1⟩
  · refine ((O.storeHelloKey_quiet a false _).goes c1).andThen ?_
    intro _ c2 h2
    have hgoes : Goes c c2 := h1.trans h2
    exact hgoes.answers
      (O.authAndValidateHelloKey_ensures _ (hgoes.2.2 hinit) fun _ => hG)

/-! ## 5. MFA -/

def Grants (details : DeviceAuthResponse) : Prop :=
  ∃ w token, (O.issuer.deviceCodeGrant details w).1 = .ok token

/-- The orchestrator completes its session with a refresh token, for which the token endpoint
    grants a token. -/
def Completes (state : OrchestratorFlowState) (req : PamAuthRequest) : Prop :=
  ∃ inputs w sessionId refreshToken w' token,
    orchestratorInputsFromPamRequest state.requiredInputs req = some inputs ∧
    (O.issuer.nextStep state.sessionId inputs w).1 =
      some (.sessionComplete sessionId true (some refreshToken)) ∧
    (O.issuer.refreshTokenGrant refreshToken [] w').1 = .ok token

def FlowGives (extraData : Option String) (req : PamAuthRequest) : Prop :=
  ∃ stored, extraData = some stored ∧
    match O.parseOidcMfaExtraData stored with
    | .deviceFlow dagJson => (∃ pollAttempt, req = .mfaPoll pollAttempt) ∧
        ∃ details, O.issuer.dagOfJson dagJson = some details ∧ O.Grants details
    | .orchestrator state =>
        (orchestratorInputsFromPamRequest state.requiredInputs req).isSome = true ∧
        ((∃ raw details, state.dagJson = some raw ∧ O.issuer.dagOfJson raw = some details ∧
          O.Grants details) ∨ state.dagJson = none ∧ O.Completes state req)

theorem finalizeMfaSuccess_answers (hG : G) :
    Answers (Validated a) G F (O.finalizeMfaSuccess a noHelloPin token) := by
  apply tokenValidate_answers
  · intro e
    exact .pureError e
  · intro msg
    exact .pureDenied msg
  · intro t
    dsimp only
    split
    · exact .succeed a t .none hG trivial
    · exact .prompt .none ⟨_, rfl⟩ fun _ => trivial

theorem acquireTokenByDeviceFlow_grants (details : DeviceAuthResponse) :
    (O.acquireTokenByDeviceFlow details : Fn W ρ _).Ensures c
      (fun r _ => ∀ token, r = .ok token → O.Grants details) (fun _ _ => False) := by
  unfold acquireTokenByDeviceFlow
  simp only [Body.ensures_bind, Body.ensures_get]
  split
  · simp only [Body.ensures_bind, ask, Body.ensures_call]
    split
    · next token htoken =>
      intro _ _
      exact ⟨c.provider.world, token, htoken⟩
    · intro token h
      cases h
    · intro token h
      cases h
  · intro token h
    cases h

theorem acquireTokenByRefreshToken_grants (refreshToken : String) :
    (O.acquireTokenByRefreshToken refreshToken [] : Fn W ρ _).Ensures c (fun r _ => ∀ token,
      r = .ok token → ∃ w token, (O.issuer.refreshTokenGrant refreshToken [] w).1 = .ok token)
      (fun _ _ => False) := by
  unfold acquireTokenByRefreshToken
  simp only [Body.ensures_bind, Body.ensures_get]
  split
  · simp only [Body.ensures_bind, ask, Body.ensures_call]
    split
    · next token htoken =>
      intro _ _
      exact ⟨c.provider.world, token, htoken⟩
    · intro token h
      cases h
  · intro token h
    cases h

theorem pollDeviceFlow_ensures (details : DeviceAuthResponse) (hc : isMfa c.credHandler = true)
    (hG : O.Grants details → G) :
    (O.pollDeviceFlow a noHelloPin details).Gives c (Leaves (Validated a) G F c) := by
  refine (((O.acquireTokenByDeviceFlow_calm details).idle.quiet c).both
    (O.acquireTokenByDeviceFlow_grants details)).andThen ?_
  rintro r c1 ⟨⟨hhandler, hgrows⟩, hgrants⟩
  have hgoes : Goes c c1 := ⟨.inl hhandler, hgrows⟩
  split
  · exact hgoes.answers (O.finalizeMfaSuccess_answers (hG (hgrants _ rfl)) c1)
  · obtain ⟨hprompts, hearned⟩ := prompts_of_isMfa hc .mfaPollWait
    refine ⟨hgrows, .next _ _ (hhandler ▸ hprompts) fun he => ?_⟩
    rw [hhandler, hearned] at he
    cases he
  · exact ⟨hgrows, .denied _⟩

theorem deviceFlowStep_ensures (dagJson : String) (hc : isMfa c.credHandler = true)
    (hG : (∃ pollAttempt, req = .mfaPoll pollAttempt) → ∀ details,
      O.issuer.dagOfJson dagJson = some details → O.Grants details → G) :
    (O.deviceFlowStep a noHelloPin flow dagJson req).Gives c (Leaves (Validated a) G F c) := by
  unfold deviceFlowStep
  split
  · split
    · exact ⟨.same rfl rfl, .denied _⟩
    · split
      · exact ⟨.same rfl rfl, .denied _⟩
      · next details hdetails =>
        exact O.pollDeviceFlow_ensures details hc (hG ⟨_, rfl⟩ details hdetails)
  · exact ⟨.same rfl rfl, .denied _⟩

theorem sessionComplete_ensures (success : Bool) (refreshToken : Option String)
    (hc : isMfa c.credHandler = true)
    (hdag : ∀ details, dagFlow = some details → O.Grants details → G)
    (hrefresh : dagFlow = none → ∀ token, success = true → refreshToken = some token →
      (∃ w response, (O.issuer.refreshTokenGrant token [] w).1 = .ok response) → G) :
    (O.sessionComplete a noHelloPin dagFlow success refreshToken).Gives c
      (Leaves (Validated a) G F c) := by
  unfold sessionComplete
  split
  · next hsuccess =>
    split
    · next details => exact O.pollDeviceFlow_ensures details hc (hdag details rfl)
    · split
      · exact ⟨.same rfl rfl, .denied _⟩
      · next token =>
        refine (((O.acquireTokenByRefreshToken_calm token []).idle.quiet.goes c).both
          (O.acquireTokenByRefreshToken_grants token)).andThen ?_
        rintro r c1 ⟨hgoes, hgrants⟩
        split
        · exact hgoes.answers (O.finalizeMfaSuccess_answers
            (hrefresh rfl token hsuccess rfl (hgrants _ rfl)) c1)
        · exact ⟨hgoes.2, .denied _⟩
  · exact ⟨.same rfl rfl, .denied _⟩

theorem keepFlow_ensures (extra : OidcMfaExtraData) (d : AuthRequest) :
    (O.keepFlow flow password reauthPin extra >>= fun _ => next d .none :
      Fn W StepAnswer StepAnswer).Gives c (Leaves ev G F c) := by
  unfold keepFlow serializeOidcMfaExtraData
  rw [Body.Gives, Body.ensures_bind, Body.ensures_bind]
  split
  · exact ⟨.same rfl rfl, .next d .none trivial nofun⟩
  · exact ⟨.same rfl rfl, .error _ (.refl _)⟩

theorem orchestratorContinue_ensures (state : OrchestratorFlowState)
    (hc : isMfa c.credHandler = true)
    (hdag : (orchestratorInputsFromPamRequest state.requiredInputs req).isSome = true →
      ∀ details, dagFlow = some details → O.Grants details → G)
    (hcomplete : dagFlow = none → O.Completes state req → G) :
    (O.orchestratorContinue a noHelloPin flow password reauthPin state dagFlow req).Gives c
      (Leaves (Validated a) G F c) := by
  unfold orchestratorContinue
  split
  · exact ⟨.same rfl rfl, .denied _⟩
  · next inputs hinputs =>
    let answer := O.issuer.nextStep state.sessionId inputs c.provider.world
    let c1 : Ctx W := { c with provider.world := answer.2 }
    have hgoes : Goes c c1 := ⟨.inl rfl, .same rfl rfl⟩
    simp only [Body.ensures_bind, ask, Body.ensures_call]
    split
    · exact hgoes.answers (O.keepFlow_ensures _ _)
    · next sessionId success refreshToken hanswer =>
      refine hgoes.answers (O.sessionComplete_ensures success refreshToken
        hc (hdag (by rw [hinputs]; rfl)) ?_)
      rintro hnone token rfl rfl ⟨w', response, hgrant⟩
      exact hcomplete hnone
        ⟨inputs, c.provider.world, sessionId, token, w', response, hinputs, hanswer, hgrant⟩
    · exact ⟨hgoes.2, .denied _⟩
    · exact ⟨hgoes.2, .denied _⟩
    · exact ⟨hgoes.2, .denied _⟩
    · split
      · exact hgoes.answers (O.keepFlow_ensures _ _)
      · exact ⟨hgoes.2, .denied _⟩

theorem orchestratorStep_ensures (state : OrchestratorFlowState) (hc : isMfa c.credHandler = true)
    (hdag : (orchestratorInputsFromPamRequest state.requiredInputs req).isSome = true →
      ∀ details, dagFlow = some details → O.Grants details → G)
    (hcomplete : dagFlow = none → O.Completes state req → G) :
    (O.orchestratorStep a noHelloPin flow password reauthPin state dagFlow req).Gives c
      (Leaves (Validated a) G F c) := by
  unfold orchestratorStep
  split
  · split
    · exact ⟨.same rfl rfl, .denied _⟩
    · split
      · next details =>
        exact O.pollDeviceFlow_ensures details hc (hdag rfl details rfl)
      · exact O.orchestratorContinue_ensures state hc
          hdag hcomplete
  · exact O.orchestratorContinue_ensures state hc
      hdag hcomplete

theorem mfaStep_ensures (noHelloPin : Bool) (flow : MFAAuthContinue)
    (password extraData reauthPin : Option String) (req : PamAuthRequest) (c : Ctx W)
    (hc : isMfa c.credHandler = true) (hG : O.FlowGives extraData req → G) :
    (O.mfaStep a noHelloPin flow password extraData reauthPin req).Gives c
      (Leaves (Validated a) G F c) := by
  unfold mfaStep
  split
  · exact ⟨.same rfl rfl, .denied _⟩
  · next stored =>
    split
    · next dagJson hparsed =>
      refine O.deviceFlowStep_ensures dagJson hc ?_
      intro hpoll details hdetails hgrants
      refine hG ⟨stored, rfl, ?_⟩
      rw [hparsed]
      exact ⟨hpoll, details, hdetails, hgrants⟩
    · next state hparsed =>
      have hflow : ∀ dagFlow, ((∃ raw details, state.dagJson = some raw ∧
          O.issuer.dagOfJson raw = some details ∧ dagFlow = some details) ∨
          state.dagJson = none ∧ dagFlow = none) →
          (O.orchestratorStep a noHelloPin flow password reauthPin state dagFlow req).Gives c
            (Leaves (Validated a) G F c) := by
        intro dagFlow hdagFlow
        refine O.orchestratorStep_ensures state
          hc ?_ ?_
        · rintro hinputs details rfl hgrants
          rcases hdagFlow with ⟨raw, details', hraw, hdetails, heq⟩ | ⟨-, hnone⟩
          · cases heq
            refine hG ⟨stored, rfl, ?_⟩
            rw [hparsed]
            exact ⟨hinputs, .inl ⟨raw, details, hraw, hdetails, hgrants⟩⟩
          · cases hnone
        · rintro rfl hcompletes
          rcases hdagFlow with ⟨_, _, _, _, heq⟩ | ⟨hnone, -⟩
          · cases heq
          · refine hG ⟨stored, rfl, ?_⟩
            rw [hparsed]
            obtain ⟨inputs, w, sessionId, token, w', response, hinputs, hrest⟩ := hcompletes
            exact ⟨by rw [hinputs]; rfl, .inr ⟨hnone, inputs, w, sessionId, token, w', response,
              hinputs, hrest⟩⟩
      rw [Body.Gives, Body.ensures_bind]
      unfold dagFlowOf
      split
      · next hnone => exact hflow none (.inr ⟨hnone, rfl⟩)
      · next raw hraw =>
        split
        · next details hdetails => exact hflow _ (.inl ⟨raw, details, hraw, hdetails, rfl⟩)
        · exact ⟨.same rfl rfl, .denied _⟩

/-! ## 6. The step -/

def Accepts (a : String) (keystore : KeyStore) : AuthCredHandler → PamAuthRequest → Prop
  | _, .pin cred => ∃ k kt, O.fetchHelloKey a keystore = .ok (k, kt) ∧ O.Loads cred k
  | .mfa _ _ extraData _, req => O.FlowGives extraData req
  | _, _ => False

def Grounds (a : String) (keystore : KeyStore) (h : AuthCredHandler) (req : PamAuthRequest) :
    Prop := Kept h req ∨ O.Accepts a keystore h req

theorem grounds_pin (a : String) (ks : KeyStore) (h : AuthCredHandler) {kt : KeyType}
    (hk : O.fetchHelloKey a ks = .ok (k, kt)) (hloads : O.Loads cred k) :
    O.Grounds a ks h (.pin cred) := by
  cases h <;> exact .inr ⟨k, kt, hk, hloads⟩

theorem grounds_mfa (a : String) (ks : KeyStore) {extraData : Option String}
    (hreq : ∀ cred, req = .pin cred → False) (hgives : O.FlowGives extraData req) :
    O.Grounds a ks (.mfa flow password extraData reauthPin) req := by
  cases req with
  | pin cred => exact (hreq cred rfl).elim
  | _ => exact .inr hgives

theorem stepMatch_ensures (oldToken : UserToken) (noHelloPin : Bool) (req : PamAuthRequest)
    (c : Ctx W) (hinit : c.provider.initialized = true) :
    (O.stepMatch a oldToken noHelloPin c.credHandler req).Gives c
      (Leaves (Validated a) (O.Grounds a c.keystore c.credHandler req) F c) := by
  generalize hc : c.credHandler = h
  unfold stepMatch
  split
  · exact O.setupPinStep_ensures oldToken _ c hinit (.inl trivial)
  · exact O.pinStep_ensures oldToken _ c hinit fun _ _ => O.grounds_pin a c.keystore h
  · next hreq =>
    exact O.mfaStep_ensures noHelloPin _ _ _ _ req c (by rw [hc]; rfl)
      (O.grounds_mfa a c.keystore hreq)
  · exact (O.handleHelloPinTotpAuth_answers _ (.inl trivial)).of_earned
      (by rw [hc]; rfl)
  · exact ⟨.same rfl rfl, .denied _⟩

theorem unixUserOnlineAuthStep_leaves (oldToken : UserToken) (noHelloPin : Bool)
    (req : PamAuthRequest) (c : Ctx W) :
    Leaves (Validated a) (O.Grounds a c.keystore c.credHandler req) False c
      ((O.unixUserOnlineAuthStep a oldToken noHelloPin req).run c).1
      ((O.unixUserOnlineAuthStep a oldToken noHelloPin req).run c).2 := by
  apply Body.Ensures.run
  refine ((O.delayedInit_calm.idle.quiet c).both O.delayedInit_spec).andThen ?_
  rintro ok c1 ⟨⟨hhandler, hgrows⟩, hks, hinit⟩
  have hgoes : Goes c c1 := ⟨.inl hhandler, hgrows⟩
  rw [← hhandler, ← hks]
  split
  · next hok => exact hgoes.answers (O.stepMatch_ensures oldToken noHelloPin req c1 (hinit hok))
  · have hdown : Answers (Validated a) (O.Grounds a c1.keystore c1.credHandler req) False
        (O.netDown >>= fun _ => deny "Network outage detected.") :=
      .of_stops O.netDown_denies.stops
    exact hgoes.answers (hdown c1)

end OidcProvider

end Himmelblau.Oidc
