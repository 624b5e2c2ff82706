/-
  **A network failure in a PIN step of the OpenID Connect provider.**  The step has a branch for
  an outage: `RequestFailed` is answered as if offline.  But `acquire_token_by_refresh_token`
  returns `RequestFailed` only if the client was never initialised, which `delayed_init` excludes;
  a request that cannot be sent is a `GeneralFailure`, as is a refresh token that was rejected.
  So an outage destroys the Hello key and the refresh token.
-/
import Himmelblau.WrongPrincipal

namespace Himmelblau.Oidc

open Interface Config Msal FunctionBody Entra Entra.Ctx Entra.HimmelblauProvider

variable {W : Type}

/-! ## 1. The refresh token grant -/

/-- What the token endpoint answers: whether the status is a success, and the body or why it
    could not be read. -/
structure TokenHttpResponse where
  isSuccess : Bool
  bytes : Except String String

/-- The HTTP client and `serde_json`, as `acquire_token_by_refresh_token` uses them.  An error is
    its text. -/
structure TokenEndpoint (W : Type) where
  /-- the metadata of the issuer has a token endpoint -/
  hasTokenUri : Bool
  /-- `send`: fails if no answer is received -/
  send : (refreshToken scope : String) → Ext W (Except String TokenHttpResponse)
  tokenOfJson : String → Except String OidcTokenResponse
  /-- the field `error` of a refusal -/
  errorOfJson : String → Except String String

namespace TokenEndpoint

/-- The text that is reported for the `error` of a refusal. -/
def refusal : String → String
  | "invalid_grant" => "Refresh token rejected (invalid_grant)"
  | "invalid_client" => "Client authentication failed (invalid_client)"
  | "invalid_scope" => "Requested scope is invalid for refresh (invalid_scope)"
  | other => "Refresh token grant failed with error: " ++ other

def readResponse (E : TokenEndpoint W) (resp : TokenHttpResponse) :
    Except String OidcTokenResponse := do
  let bytes ← resp.bytes.mapError ("Failed to read refresh token response body: " ++ ·)
  if resp.isSuccess then
    (E.tokenOfJson bytes).mapError ("Failed to parse refresh token response: " ++ ·)
  else
    let err ← (E.errorOfJson bytes).mapError ("Failed to parse refresh token error response: " ++ ·)
    .error (refusal err)

/-- `acquire_token_by_refresh_token` of an initialised client: every failure is the text of a
    `GeneralFailure`, also that of a request that could not be sent. -/
def refreshTokenGrant (E : TokenEndpoint W) (refreshToken : String) (scopes : List String) :
    Ext W (Except String OidcTokenResponse) := fun w =>
  if E.hasTokenUri then
    match E.send refreshToken (" ".intercalate scopes) w with
    | (.error e, w) => (.error ("Failed to send refresh token request: " ++ e), w)
    | (.ok resp, w) => (E.readResponse resp, w)
  else (.error "OIDC client missing token endpoint URL", w)

end TokenEndpoint

/-! ## 2. An outage in a PIN step -/

namespace OidcProvider

/-- The account's Hello keys and its refresh token are as they were. -/
def KeepsHello (O : OidcProvider W) (a : String) (ks ks' : KeyStore) : Prop :=
  ∀ t ∈ [HelloTag.hello, .decoupled, .refreshToken], ks' (O.tag a t) = ks (O.tag a t)

/-- The PIN is accepted as it is offline: the old token is returned, or a code asked for. -/
inductive Downgrades (oldToken : UserToken) : StepAnswer → Prop
  | success : Downgrades oldToken (.ok (.success oldToken, .none))
  | code (msg : String) : Downgrades oldToken (.ok (.next (.helloTOTP msg), .none))

/-- In a step with the PIN `cred` the PIN is right, and the request for a token cannot be sent
    to the token endpoint. -/
inductive CutOff (O : OidcProvider W) (E : TokenEndpoint W) (a cred : String) (c : Ctx W) : Prop
  | intro {k : LoadableMsHelloKey} {pin : PinValue} {key : StorageKey} {c1 c2 c3 : Ctx W}
      {refreshToken e : String} {w : W}
      (hgrant : O.issuer.refreshTokenGrant = E.refreshTokenGrant) (huri : E.hasTokenUri = true)
      (hinit : (O.delayedInit : Fn W StepAnswer Bool) c = (.ok true, c1))
      (hkey : O.fetchHelloKey a c1.keystore = .ok (k, .decoupled))
      (hpin : O.outside.pinValueNew cred = some pin)
      (htry : (O.tryPin a k pin : Fn W StepAnswer _) c1 = (.ok (some key), c2))
      (htoken : O.cachedRefreshToken a k cred c2 = (.ok refreshToken, c3))
      (hsend : E.send refreshToken "" c3.provider.world = (.error e, w))

variable {O : OidcProvider W} {E : TokenEndpoint W} {a cred : String} {c : Ctx W}

theorem decoupled_of_fetchHelloKey {k : LoadableMsHelloKey} {ks : KeyStore}
    (h : O.fetchHelloKey a ks = .ok (k, .decoupled)) : ks (O.tag a .decoupled) ≠ none := by
  intro hnone
  have hdecoupled : ks (O.fetchHelloKeyTag a false) = none := hnone
  unfold fetchHelloKey at h
  rw [hdecoupled] at h
  split at h
  · cases h
  · cases h

theorem acquireTokenByRefreshToken_of_send {refreshToken e : String} {w : W}
    (hgrant : O.issuer.refreshTokenGrant = E.refreshTokenGrant) (huri : E.hasTokenUri = true)
    (hinit : c.provider.initialized = true)
    (hsend : E.send refreshToken "" c.provider.world = (.error e, w)) :
    (O.acquireTokenByRefreshToken refreshToken [] : Fn W StepAnswer _) c =
      (.ok (.error (.generalFailure ("Failed to send refresh token request: " ++ e))),
        { c with provider.world := w }) := by
  have hanswer : O.issuer.refreshTokenGrant refreshToken [] c.provider.world =
      (.error ("Failed to send refresh token request: " ++ e), w) := by
    rw [hgrant]
    unfold TokenEndpoint.refreshTokenGrant
    rw [if_pos huri]
    change (match E.send refreshToken "" c.provider.world with
      | (.error e, w) => (Except.error ("Failed to send refresh token request: " ++ e), w)
      | (.ok resp, w) => (E.readResponse resp, w)) = _
    rw [hsend]
  unfold acquireTokenByRefreshToken
  rw [Body.bind_apply]
  dsimp only [Body.get]
  rw [if_pos hinit, Body.bind_apply]
  dsimp only [ask, Body.call]
  rw [hanswer]
  rfl

theorem exchangeRefreshToken_of_generalFailure {refreshToken msg : String} {c' : Ctx W}
    (a : String) (oldToken : UserToken) (cred : String)
    (hanswer : (O.acquireTokenByRefreshToken refreshToken [] : Fn W StepAnswer _) c =
      (.ok (.error (.generalFailure msg)), c')) :
    ∃ c'', O.exchangeRefreshToken a oldToken cred refreshToken c =
        (.error (.ok (.denied "Your session has expired. Please sign in again.", .none)), c'') ∧
      c''.keystore (O.tag a .decoupled) = none := by
  unfold exchangeRefreshToken
  rw [Body.bind_apply, hanswer]
  exact ⟨_, rfl, Function.update_self _ _ _⟩

theorem CutOff.run (h : O.CutOff E a cred c) (oldToken : UserToken) (noHelloPin : Bool) :
    ∃ c', (O.unixUserOnlineAuthStep a oldToken noHelloPin (.pin cred)).run c =
        (.ok (.denied "Your session has expired. Please sign in again.", .none), c') ∧
      c.keystore (O.tag a .decoupled) ≠ none ∧ c'.keystore (O.tag a .decoupled) = none := by
  cases h with
  | @intro k pin _ c1 c2 c3 refreshToken e w hgrant huri hinit hkey hpin htry htoken hsend =>
    have hstep : O.HelloStep a (.pin cred) c k .decoupled cred c1 := .pin hinit rfl hkey
    obtain ⟨hks, hready⟩ := O.delayedInit_spec.goesOn hinit
    -- what is initialised stays so while the PIN is tried and the refresh token looked up
    have hready2 : c2.provider.initialized = true :=
      ((O.tryPin_spec pin).goesOn htry).1.2.2 (hready rfl)
    have hwalks : Goes c2 c3 :=
      ((O.cachedRefreshToken_walks : Walks (Validated a) True True _) c2).goesOn htoken
    obtain ⟨c', hexchange, hgone⟩ := exchangeRefreshToken_of_generalFailure a oldToken
      cred (acquireTokenByRefreshToken_of_send hgrant huri (hwalks.2.2 hready2) hsend)
    refine ⟨c', ?_, hks ▸ decoupled_of_fetchHelloKey hkey, hgone⟩
    rw [(hstep.run oldToken noHelloPin).1]
    unfold authAndValidateHelloKey
    rw [hpin]
    dsimp only
    rw [Body.run_bind htry]
    dsimp only
    apply Body.run_bind_left
    change (O.cachedRefreshToken a k cred >>= fun refreshToken =>
      O.exchangeRefreshToken a oldToken cred refreshToken) c2 = _
    rw [Body.bind_apply, htoken]
    exact hexchange

/-- No outage is answered as one: the step destroys the Hello key and denies. -/
theorem outage_destroys_hello {h : AuthCredHandler} {ks : KeyStore} {client : ProviderState W}
    (hcut : O.CutOff E a cred ⟨ks, client, h⟩) (oldToken : UserToken) (service : String)
    (noHelloPin : Bool) :
    let r := (oidcProvider O).unixUserOnlineAuthStep a oldToken service noHelloPin h (.pin cred)
      ks client
    ¬O.KeepsHello a ks r.2.1 ∧ ¬Downgrades oldToken r.1.1 := by
  obtain ⟨c', hrun, hthere, hgone⟩ := hcut.run oldToken noHelloPin
  simp only [oidcProvider, runStep, hrun]
  constructor
  · intro hkeeps
    have hsame := hkeeps .decoupled (by simp)
    exact hthere (hsame.symm.trans hgone)
  · intro hdown
    cases hdown

end OidcProvider

/-! ## 3. The issuer is out of reach -/

def downEndpoint : TokenEndpoint Unit where
  hasTokenUri := true
  send _ _ w := (.error "connection refused", w)
  tokenOfJson _ := .error "not a token"
  errorOfJson _ := .error "not an error"

def cutOffProvider : OidcProvider Unit :=
  { sampleOidcProvider with
    issuer := { sampleIssuer with refreshTokenGrant := downEndpoint.refreshTokenGrant } }

def aliceEnrolled : KeyStore :=
  sampleKeystore [("alice@example.com/hello_decoupled", .helloKey ⟨"123456"⟩),
    ("alice@example.com/hello_refresh_token", .sealedData ⟨"123456"⟩)]

theorem cutOffProvider_cutOff :
    cutOffProvider.CutOff downEndpoint "alice@example.com" "123456"
      ⟨aliceEnrolled, sampleProviderState .online, .none⟩ :=
  .intro rfl rfl rfl rfl rfl rfl rfl rfl

theorem outage_destroys_hello_alice :
    let r := (oidcProvider cutOffProvider).unixUserOnlineAuthStep "alice@example.com" aliceToken
      "login" false .none (.pin "123456") aliceEnrolled (sampleProviderState .online)
    ¬cutOffProvider.KeepsHello "alice@example.com" aliceEnrolled r.2.1 ∧
      ¬OidcProvider.Downgrades aliceToken r.1.1 :=
  OidcProvider.outage_destroys_hello cutOffProvider_cutOff aliceToken "login" false

/-- The same step, as it runs: both entries are there before, and neither after. -/
theorem outage_is_denied :
    let r := (oidcProvider cutOffProvider).unixUserOnlineAuthStep "alice@example.com" aliceToken
      "login" false .none (.pin "123456") aliceEnrolled (sampleProviderState .online)
    cutOffProvider.CutOff downEndpoint "alice@example.com" "123456"
        ⟨aliceEnrolled, sampleProviderState .online, .none⟩ ∧
      r.1.1 = .ok (.denied "Your session has expired. Please sign in again.", .none) ∧
      (aliceEnrolled "alice@example.com/hello_decoupled").isSome = true ∧
      (aliceEnrolled "alice@example.com/hello_refresh_token").isSome = true ∧
      r.2.1 "alice@example.com/hello_decoupled" = none ∧
      r.2.1 "alice@example.com/hello_refresh_token" = none := by
  intro r
  refine ⟨cutOffProvider_cutOff, ?_⟩
  decide +kernel

end Himmelblau.Oidc
