/-
  **A step of a login with the OpenID Connect provider** (mirror of
  `OidcProvider::unix_user_online_auth_step`), its other methods, and the record of all
  methods that the resolver calls.
-/
import Himmelblau.Oidc
import Himmelblau.Daemon

namespace Himmelblau.Oidc

open Interface Config Msal FunctionBody Entra Entra.Ctx

variable {W ρ α : Type}

namespace OidcProvider

variable (O : OidcProvider W) (accountId : String) (oldToken : UserToken) (noHelloPin : Bool)
  (flow : MFAAuthContinue) (password : Option String)

/-! ## 1. PINs -/

def memCacheRefreshToken : Fn W StepAnswer String := do
  match ← O.refreshToken accountId with
  | .ok (.refreshToken refreshToken) => return refreshToken
  | .ok (.prt _) => deny "Session data corrupted. Please sign in again."
  | .error _ => deny "Your session has expired. Please sign in again."

def cachedRefreshToken (helloKey : LoadableMsHelloKey) (cred : String) :
    Fn W StepAnswer String := do
  match sealedDataOf ((← getKeystore) (O.fetchHelloRefreshTokenKeyTag accountId)) with
  | none => O.memCacheRefreshToken accountId
  | some sealedRefreshToken =>
    match O.outside.pinValueNew cred with
    | none => Body.leave (.error .tpm)
    | some pin =>
      match ← ask (O.outside.msHelloKeyLoad helloKey pin) with
      | none => Body.leave (.error .tpm)
      | some winHelloStorageKey =>
        match ← ask (O.outside.unsealData winHelloStorageKey sealedRefreshToken) with
        | some ⟨some refreshToken⟩ => return refreshToken
        | some ⟨none⟩ => Body.leave (.error .tpm)
        | none => O.memCacheRefreshToken accountId

/-- The refresh token is of no use any more: it goes, and the Hello key with it. -/
def dropHelloKey : Fn W StepAnswer α := do
  deleteTaggedHsmKey (O.fetchHelloRefreshTokenKeyTag accountId)
  deleteTaggedHsmKey (O.fetchHelloKeyTag accountId false)
  HimmelblauProvider.resetBadPinCount accountId
  deny "Your session has expired. Please sign in again."

def exchangeRefreshToken (cred refreshToken : String) : Fn W StepAnswer OidcTokenResponse := do
  let answer ← O.acquireTokenByRefreshToken refreshToken []
  log (.tokenAnswer accountId .refreshToken (HimmelblauProvider.errorOf answer))
  match answer with
  | .ok token =>
    HimmelblauProvider.resetBadPinCount accountId
    return token
  | .error (.requestFailed _) => O.netDownHelloFallback accountId cred oldToken
  | .error _ => O.dropHelloKey accountId

def acquireToken (helloKey : LoadableMsHelloKey)
    (keyType : KeyType) (cred : String) : Fn W StepAnswer OidcTokenResponse := do
  match keyType with
  | .decoupled =>
    let refreshToken ← O.cachedRefreshToken accountId helloKey cred
    O.exchangeRefreshToken accountId oldToken cred refreshToken
  | .hello =>
    deleteTaggedHsmKey (O.fetchHelloKeyTag accountId false)
    deny "Your session has expired. Please sign in again."

/-- Cache the refresh token to disk for offline auth SSO.  The user of the token is looked up
    before, but not compared with the account. -/
def sealRefreshTokenOf (token : OidcTokenResponse)
    (helloKey : LoadableMsHelloKey) (pin : PinValue) : Fn W StepAnswer Unit := do
  match ← ask (O.outside.msHelloKeyLoad helloKey pin) with
  | none => Body.leave (.error .tpm)
  | some winHelloStorageKey =>
    match token.refreshToken with
    | none => deny "Authentication incomplete. Please try again."
    | some refreshToken =>
      match O.tenantId with
      | none => Body.leave (.error .badRequest)
      | some tenantId =>
        let _ ← Body.orLeave (← O.userTokenFromOidc token tenantId) .error
        match ← ask (O.outside.sealData winHelloStorageKey refreshToken) with
        | none => Body.leave (.error .tpm)
        | some sealedRt =>
          insertTaggedHsmKey (O.fetchHelloRefreshTokenKeyTag accountId) (.sealedData sealedRt)

def finishHello (cred : String) (token : OidcTokenResponse) : Fn W StepAnswer StepAnswer := do
  match ← O.tokenValidate accountId token with
  | .ok (.success token) => O.helloTotpOrSuccess accountId cred token
  | .ok (.next _) =>
    return .ok (.denied "Unexpected authentication step. Please try signing in again.", .none)
  | .ok authResult => return .ok (authResult, .none)
  | .error e => return .error e

def authAndValidateHelloKey (helloKey : LoadableMsHelloKey) (keyType : KeyType) (cred : String) :
    Fn W StepAnswer StepAnswer := do
  match O.outside.pinValueNew cred with
  | none => return .error .tpm
  | some pin =>
    match ← O.tryPin accountId helloKey pin with
    | none =>
      O.handleHelloBadPinCount accountId fun msg => .ok (.denied msg, .none)
      deny "Failed to authenticate with Hello PIN."
    | some _ =>
      let token ← O.acquireToken accountId oldToken helloKey keyType cred
      O.sealRefreshTokenOf accountId token helloKey pin
      O.finishHello accountId cred token

def pinStep (cred : String) : Fn W StepAnswer StepAnswer := do
  let (helloKey, keyType) ← Body.orLeave (O.fetchHelloKey accountId (← getKeystore)) .error
  O.authAndValidateHelloKey accountId oldToken helloKey keyType cred

def setupPinStep (cred : String) : Fn W StepAnswer StepAnswer := do
  match ← O.createDecoupledHelloKey cred with
  | none => return .error .tpm
  | some helloKey =>
    O.storeHelloKey accountId false helloKey
    O.authAndValidateHelloKey accountId oldToken helloKey .decoupled cred

/-! ## 2. MFA -/

def finalizeMfaSuccess (token : OidcTokenResponse) : Fn W StepAnswer StepAnswer := do
  match ← O.tokenValidate accountId token with
  | .ok (.success token2) =>
    if !O.config.enableHello || noHelloPin then succeed accountId token2 .none
    else
      setCredHandler (.setupPin none)
      next (.setupPin HimmelblauProvider.mfaSetupPinMessage) .none
  | .ok authResult => return .ok (authResult, .none)
  | .error e => return .error e

/-- The token endpoint is asked whether the device flow has been completed. -/
def pollDeviceFlow (flow : DeviceAuthResponse) : Fn W StepAnswer StepAnswer := do
  match ← O.acquireTokenByDeviceFlow flow with
  | .ok token => O.finalizeMfaSuccess accountId noHelloPin token
  | .error .mfaPollContinue => next .mfaPollWait .none
  | .error e => deny ("Authentication failed: " ++ O.issuer.display e)

def deviceFlowStep (dagJson : String) : PamAuthRequest → Fn W StepAnswer StepAnswer
  | .mfaPoll pollAttempt => do
    if flow.maxPollAttempts.getD 180 < pollAttempt then
      deny "Authentication timed out. Please try again."
    else
      match O.issuer.dagOfJson dagJson with
      | none => deny "Authentication session corrupted. Please try again."
      | some details => O.pollDeviceFlow accountId noHelloPin details
  | _ => deny "Unexpected authentication step. Please try signing in again."

/-- The orchestrator is done: the token comes from the device flow if there is one, else
    from the refresh token. -/
def sessionComplete (dagFlow : Option DeviceAuthResponse)
    (success : Bool) (refreshToken : Option String) : Fn W StepAnswer StepAnswer := do
  if success then
    match dagFlow with
    | some details => O.pollDeviceFlow accountId noHelloPin details
    | none =>
      match refreshToken with
      | none => deny "Authentication did not return a refresh token. Please try again."
      | some refreshToken =>
        match ← O.acquireTokenByRefreshToken refreshToken [] with
        | .ok token => O.finalizeMfaSuccess accountId noHelloPin token
        | .error _ =>
          deny "Authentication flow completed but token exchange failed. Please try again."
  else deny "Authentication failed in browser flow."

def keepFlow (reauthPin : Option String) (extra : OidcMfaExtraData) : Fn W StepAnswer Unit := do
  let raw ← O.serializeOidcMfaExtraData extra .error
  setCredHandler (.mfa { flow with pollingInterval := some O.pollIntervalMillis } password
    (some raw) reauthPin)

def orchestratorContinue (reauthPin : Option String) (state : OrchestratorFlowState)
    (dagFlow : Option DeviceAuthResponse) (req : PamAuthRequest) :
    Fn W StepAnswer StepAnswer := do
  match orchestratorInputsFromPamRequest state.requiredInputs req with
  | none => deny "Unexpected authentication step. Please try signing in again."
  | some providedInputs =>
    match ← ask (O.issuer.nextStep state.sessionId providedInputs) with
    | some (.nextStep sessionId requiredInputs) =>
      O.keepFlow flow password reauthPin
        (.orchestrator ⟨sessionId, requiredInputs, state.dagJson⟩)
      next (authRequestFromOrchestratorInputs requiredInputs O.pollIntervalSecs) .none
    | some (.sessionComplete _ success refreshToken) =>
      O.sessionComplete accountId noHelloPin dagFlow success refreshToken
    | some (.sessionError _ error) => deny ("Authentication failed: " ++ error)
    | some (.error error) => deny ("Authentication failed: " ++ error)
    | some .other =>
      deny "Authentication session returned an unexpected state. Please try again."
    | none =>
      match state.dagJson with
      -- fall back to polling the device flow
      | some dagJson =>
        O.keepFlow flow password reauthPin (.deviceFlow dagJson)
        next .mfaPollWait .none
      | none => deny "Browser authentication backend unavailable. Please try again."

/-- A poll asks the token endpoint first, if there is a device flow. -/
def orchestratorStep (reauthPin : Option String) (state : OrchestratorFlowState)
    (dagFlow : Option DeviceAuthResponse) (req : PamAuthRequest) :
    Fn W StepAnswer StepAnswer := do
  match req with
  | .mfaPoll pollAttempt =>
    if flow.maxPollAttempts.getD 180 < pollAttempt then
      deny "Authentication timed out. Please try again."
    else
      match dagFlow with
      | some details => O.pollDeviceFlow accountId noHelloPin details
      | none => O.orchestratorContinue accountId noHelloPin flow password reauthPin state none req
  | _ => O.orchestratorContinue accountId noHelloPin flow password reauthPin state dagFlow req

def dagFlowOf (state : OrchestratorFlowState) : Fn W StepAnswer (Option DeviceAuthResponse) :=
  match state.dagJson with
  | none => return none
  | some raw =>
    match O.issuer.dagOfJson raw with
    | some details => return some details
    | none => deny "Authentication session corrupted. Please try again."

def mfaStep (extraData reauthPin : Option String) (req : PamAuthRequest) :
    Fn W StepAnswer StepAnswer := do
  match extraData with
  | none => deny "Authentication session data missing. Please try again."
  | some storedState =>
    match O.parseOidcMfaExtraData storedState with
    | .deviceFlow dagJson => O.deviceFlowStep accountId noHelloPin flow dagJson req
    | .orchestrator state =>
      let dagFlow ← O.dagFlowOf state
      O.orchestratorStep accountId noHelloPin flow password reauthPin state dagFlow req

/-! ## 3. The step -/

def stepMatch (credHandler : AuthCredHandler) (req : PamAuthRequest) : Fn W StepAnswer StepAnswer :=
  match credHandler, req with
  | .setupPin _, .setupPin pin => O.setupPinStep accountId oldToken pin
  | _, .pin cred => O.pinStep accountId oldToken cred
  | .mfa flow password extraData reauthPin, req =>
    O.mfaStep accountId noHelloPin flow password extraData reauthPin req
  | .helloTOTP helloPin pendingSealedTotp, .helloTOTP cred =>
    O.handleHelloPinTotpAuth accountId oldToken cred helloPin pendingSealedTotp fun authResult =>
      (authResult, .none)
  | _, _ => deny "Unexpected authentication step. Please try signing in again."

def unixUserOnlineAuthStep (req : PamAuthRequest) : Fn W StepAnswer StepAnswer := do
  if ← O.delayedInit then
    let credHandler := (← Body.get).credHandler
    O.stepMatch accountId oldToken noHelloPin credHandler req
  else
    O.netDown
    deny "Network outage detected."

/-! ## 4. Offline logins, and changing the PIN -/

/-- The `Pin` arm of the offline step: there are no PRTs to load. -/
def offlinePin (token : UserToken) (cred : String) :
    Fn W (Except IdpError AuthResult) (Except IdpError AuthResult) := do
  let (helloKey, _) ← Body.orLeave (O.fetchHelloKey accountId (← getKeystore)) .error
  match O.outside.pinValueNew cred with
  | none => return .error .tpm
  | some pin =>
    match ← O.tryPin accountId helloKey pin with
    | some winHelloStorageKey =>
      O.loadCachedRefreshToken winHelloStorageKey accountId
      if O.checkHelloTotpSetup accountId (← getKeystore) = true ∧
          O.config.enableHelloTotp = true then
        return .ok (.next (.helloTOTP HimmelblauProvider.helloTotpPrompt))
      else
        log (.success accountId)
        HimmelblauProvider.resetBadPinCount accountId
        return .ok (.success token)
    | none =>
      O.handleHelloBadPinCount accountId fun msg => .ok (.denied msg)
      return .ok (.denied "Failed to authenticate with Hello PIN.")

def unixUserOfflineAuthStep (token : UserToken) (req : PamAuthRequest) :
    Fn W (Except IdpError AuthResult) (Except IdpError AuthResult) := do
  match (← Body.get).credHandler, req with
  | _, .pin cred => O.offlinePin accountId token cred
  | .helloTOTP helloPin pendingSealedTotp, .helloTOTP cred =>
    O.handleHelloPinTotpAuth accountId token cred helloPin pendingSealedTotp id
  | _, _ => return .error .badRequest

def changeAuthToken (token : UnixUserToken) (newTok : String) :
    Fn W (Except IdpError Bool) (Except IdpError Bool) := do
  if ← O.delayedInit then
    let now ← ask O.outside.now
    if ← O.checkOnline now then
      match token.spn with
      | none => return .error .badRequest
      | some spn =>
        if O.outside.toLowercase accountId ≠ O.outside.toLowercase spn then
          return .error .badRequest
        else
          match ← O.createDecoupledHelloKey newTok with
          | none => return .error .tpm
          | some helloKey =>
            O.storeHelloKey accountId false helloKey
            return .ok true
    else return .error .badRequest
  else return .error .badRequest

/-! ## 5. The other methods -/

def getAccount : Id → Option UserToken → Option String
  | .name accountId, _ => some accountId
  | .gid _, some token => some token.name
  | .gid _, none => none

def unixUserGet (id : Id) (token : Option UserToken) :
    Fn W (Except IdpError UserTokenState) (Except IdpError UserTokenState) := do
  if ← O.delayedInit then
    match getAccount id token with
    | none => return .ok .useCached
    | some accountId =>
      match O.tenantId with
      | none => return .error .badRequest
      | some tenantId =>
        let objectId ← match token with
          | some token => pure token.uuid
          -- Produce a fake object_id if this user has yet to authenticate
          | none => ask O.outside.newUuid
        match ← O.unixIds tenantId accountId with
        | .error e => return .error e
        | .ok (uid, gid) =>
          let displayname := (token.map (·.displayname)).getD ""
          return .ok (.update (O.userToken accountId displayname objectId tenantId uid gid))
  else
    O.netDown
    return .ok .useCached

def unixUserAccess (id : Id) (scopes : List String) (oldToken : Option UserToken) :
    Fn W ρ (Except IdpError UnixUserToken) := do
  if ← O.delayedInit then
    let now ← ask O.outside.now
    if ← O.checkOnline now then
      match ← O.refreshToken (HimmelblauProvider.accountOf id oldToken) with
      | .error e => return .error e
      | .ok (.prt _) => return .error .badRequest
      | .ok (.refreshToken refreshToken) =>
        let scopes := scopes.filter (· != "https://graph.microsoft.com/.default")
        match ← O.acquireTokenByRefreshToken refreshToken scopes with
        | .error _ => return .error .badRequest
        | .ok token =>
          match O.issuer.intoUnixUserToken token with
          | none => return .error .badRequest
          | some token => return .ok token
    else return .error .badRequest
  else return .error .badRequest

end OidcProvider

def oidcProvider (O : OidcProvider W) : IdProvider (ProviderState W) where
  checkOnline now := runPlain (O.checkOnline now)
  unixUserGet id oldToken := runFn (O.unixUserGet id oldToken)
  unixUserAccess id scopes oldToken _ _ _ := runFn (O.unixUserAccess id scopes oldToken)
  unixUserTgts _ _ keystore p := (HimmelblauProvider.noTgts, keystore, p)
  unixUserPrtCookie _ _ _ keystore p := (.error .badRequest, keystore, p)
  changeAuthToken accountId token newTok := runFn (O.changeAuthToken accountId token newTok)
  unixUserOnlineAuthInit accountId _ service noHelloPin forceReauth :=
    runFn (O.unixUserOnlineAuthInit accountId service noHelloPin forceReauth)
  unixUserOnlineAuthStep accountId oldToken _ noHelloPin credHandler req :=
    runStep (O.unixUserOnlineAuthStep accountId oldToken noHelloPin req) credHandler
  unixUserOfflineAuthInit accountId _ noHelloPin :=
    runFn (O.himmelblauOfflineAuthInit accountId noHelloPin false)
  unixUserOfflineAuthStep accountId token credHandler req _ :=
    runStep (O.unixUserOfflineAuthStep accountId token req) credHandler
  unixGroupGet _ p := (.error .badRequest, p)
  getCachestate _ keystore p := (p.state, keystore, p)
  offlineBreakGlass ttl := runPlain (O.offlineBreakGlass ttl)
  exportBrokerPrts p := (.ok "\x7b\x7d", p)
  importBrokerPrts _ p := (.ok (), p)

/-! ## 6. A small installation -/

def sampleIssuer : OidcOutside W where
  trim text := text
  display _ := "error"
  issuerUuid _ := ⟨2⟩
  subjectUuid _ _ := ⟨1⟩
  addGenDomain _ _ w := (true, w)
  genToUnix _ _ w := (some 5000, w)
  staticIdCache w := (some fun _ => none, w)
  discoverMetadata _ _ w := (true, w)
  probeProvider w := (true, w)
  requestDeviceCode w := (none, w)
  deviceCodeGrant _ w := (.error none, w)
  refreshTokenGrant refreshToken _ w := (.ok ⟨"access token", some refreshToken⟩, w)
  userInfo _ w := (some ⟨some "alice@example.com", none, "alice", none⟩, w)
  intoUnixUserToken _ := none
  startSession _ _ _ _ w := (none, w)
  nextStep _ _ w := (none, w)
  dagToJson _ := none
  dagOfJson _ := none
  extraToJson _ := none
  extraOfJson _ := none

def sampleOidcProvider : OidcProvider W where
  domain := "oidc"
  config := { sampleConfig 3 false with appId := some "client" }
  outside := sampleOutside
  oidcConfig := ⟨some "https://issuer.example.com", false, 5⟩
  issuer := sampleIssuer

end Himmelblau.Oidc
