/-
  **A step of an online login with the Entra provider** (mirror of
  `HimmelblauProvider::unix_user_online_auth_step`).
-/
import Himmelblau.Entra

namespace Himmelblau.Entra

open Interface Config Msal FunctionBody Ctx

variable {W ρ α : Type}

namespace HimmelblauProvider

variable (P : HimmelblauProvider W) (accountId : String) (service : String) (oldToken : UserToken)
  (cred : String) (helloKey : LoadableMsHelloKey) (noHelloPin : Bool) (token : UnixUserToken)
  (prt : SealedData)

/-! ## 1. When the identity provider gave no token -/

/-- `request_reauth`: the cached PRT or refresh token has expired, but the Hello key and the
    PIN are still valid; the PIN is carried through. -/
def requestReauth (reauthPin : String) : Fn W StepAnswer α := do
  let isRemoteService := P.config.isRemoteService service
  if P.config.enableExperimentalMfa then
    match ← ask (P.outside.initiateMfaFlow accountId none
      (P.flowOptions P.config.enablePasswordless isRemoteService) none P.config.mfaMethod) with
    | .ok flow =>
      setCredHandler (.mfa flow none none (some reauthPin))
      next (flowRequest flow) .none
    | .error (.requestFailed _) =>
      P.netDown
      deny "Network outage detected."
    | .error .passwordRequired =>
      setCredHandler (.reauthPassword reauthPin)
      next .password .none
    | .error _ => deny "Your session has expired. Please sign in again."
  else
    match ← ask (P.outside.initiateDeviceFlow (P.deviceFlowOptions isRemoteService)) with
    | .ok flow =>
      setCredHandler (.mfa flow none none (some reauthPin))
      next (pollRequest flow) .none
    | .error (.requestFailed _) =>
      P.netDown
      deny "Network outage detected."
    | .error _ => deny "Your session has expired. Please sign in again."

/-- The PIN is right: a TOTP code is asked for if they are enabled, else the step succeeds
    with `token`. -/
def helloTotpOrSuccess (token : UserToken) : Fn W StepAnswer α := do
  if P.config.enableHelloTotp then
    if P.checkHelloTotpSetup accountId (← getKeystore) = false then
      let answer ← P.setupHelloTotp accountId cred
      Body.leave answer
    else
      setCredHandler (.helloTOTP cred none)
      next (.helloTOTP helloTotpPrompt) .none
  else succeed accountId token .none

/-- The network went down during an online PIN login: downgrade to an offline one. -/
def netDownHelloFallback (oldToken : UserToken) : Fn W StepAnswer α := do
  P.netDown
  P.helloTotpOrSuccess accountId cred oldToken

/-- SSPR was demanded after the PIN succeeded: permit the login, so that the user can fix
    this. -/
def ssprDemandHelloFallback (oldToken : UserToken) : Fn W StepAnswer α :=
  P.helloTotpOrSuccess accountId cred oldToken

/-- No token for the Hello key: the attempt is counted. -/
def helloTokenDenied (e : MsalError) : Fn W StepAnswer α := do
  P.handleHelloBadPinCount accountId fun msg =>
    .ok (.denied (msg ++ " " ++ msalErrorToUserMessage e), .none)
  deny "Failed to authenticate with Hello PIN."

/-! ## 2. A token for a Hello key -/

def errorOf : Except MsalError α → Option MsalError
  | .ok _ => none
  | .error e => some e

/-- A request for a token, whose answer the trace keeps. -/
def askToken (request : TokenRequest)
    (f : Ext W (Except MsalError UnixUserToken)) : Fn W ρ (Except MsalError UnixUserToken) := do
  let answer ← ask f
  log (.tokenAnswer accountId request (errorOf answer))
  return answer

def retryHelloToken (scopes : List String)
    (clientId : Option String) (cred : String) : Fn W StepAnswer UnixUserToken := do
  match ← askToken accountId .helloKey
    (P.outside.acquireTokenByHelloForBusinessKey accountId helloKey scopes clientId cred) with
  | .ok token =>
    resetBadPinCount accountId
    return token
  | .error e => P.helloTokenDenied accountId e

/-- The errors of a token request that are neither the network's nor an SSPR demand. -/
def helloTokenError
    (clientId : Option String) (cred : String) : MsalError → Fn W StepAnswer UnixUserToken
  | .acquireTokenFailed e =>
    -- Consent has not been granted: retry without Graph API scopes.
    if e.errorCodes.contains consentRequired then
      P.retryHelloToken accountId helloKey [] none cred
    else if clientId = some edgeBrowserClientId then
      P.retryHelloToken accountId helloKey ["https://graph.microsoft.com/.default"]
        (some defaultAppId) cred
    else P.checkNewDeviceEnrollmentRequired e
  | .aadstsError err =>
    if clientId = some edgeBrowserClientId then
      P.retryHelloToken accountId helloKey ["https://graph.microsoft.com/.default"]
        (some defaultAppId) cred
    else P.helloTokenDenied accountId (.aadstsError err)
  | e => P.helloTokenDenied accountId e

def acquireHelloToken
    (helloKey : LoadableMsHelloKey) (cred : String) : Fn W StepAnswer UnixUserToken := do
  let (clientId, scopes) := P.clientIdAndScopes
  match ← askToken accountId .helloKey
    (P.outside.acquireTokenByHelloForBusinessKey accountId helloKey scopes clientId cred) with
  | .ok token =>
    resetBadPinCount accountId
    return token
  | .error (.requestFailed _) => P.netDownHelloFallback accountId cred oldToken
  | .error e =>
    if isSsprRequired e then P.ssprDemandHelloFallback accountId cred oldToken
    else P.helloTokenError accountId helloKey clientId cred e

/-! ## 3. A token for a decoupled key -/

def refreshTokenOk : Fn W ρ (Option RefreshCacheEntry) := do
  match ← P.refreshToken accountId with
  | .ok entry => return some entry
  | .error _ => return none

def unsealRefreshToken (cred : String)
    (sealedRefreshToken : SealedData) : Fn W StepAnswer (Option RefreshCacheEntry) := do
  match P.outside.pinValueNew cred with
  | none => Body.leave (.error .tpm)
  | some pin =>
    match ← ask (P.outside.msHelloKeyLoad helloKey pin) with
    | none => Body.leave (.error .tpm)
    | some winHelloStorageKey =>
      match ← ask (P.outside.unsealData winHelloStorageKey sealedRefreshToken) with
      | some ⟨some refreshToken⟩ => return some (.refreshToken refreshToken)
      | some ⟨none⟩ => Body.leave (.error .tpm)
      | none => P.refreshTokenOk accountId

def cachedTokens (cred : String) : Fn W StepAnswer (Option RefreshCacheEntry) := do
  let keystore ← getKeystore
  match sealedDataOf (keystore (P.fetchHelloPrtKeyTag accountId)) with
  | some helloPrt =>
    match ← ask (P.outside.unsealUserPrtWithHelloKey helloPrt helloKey cred) with
    | .ok prt => return some (.prt prt)
    | .error _ => return none
  | none =>
    match sealedDataOf (keystore (P.fetchHelloRefreshTokenKeyTag accountId)) with
    | some sealedRefreshToken =>
      P.unsealRefreshToken accountId helloKey cred sealedRefreshToken
    -- If we just authenticated for the first time, the PRT is instead in the mem cache.
    | none => P.refreshTokenOk accountId

/-- A new PRT is attached to the token if there is one; then the counter is reset. -/
def renewPrt (token : UnixUserToken) : Fn W ρ UnixUserToken := do
  let renewed ← ask (P.outside.exchangePrtForPrt prt)
  resetBadPinCount accountId
  match renewed with
  | .ok newPrt => return { token with prt := some newPrt }
  | .error _ => return token

/-- The stored PRT or refresh token is of no use any more.  The Hello key stays. -/
def dropAndReauth (tag : String) : Fn W StepAnswer α := do
  deleteTaggedHsmKey tag
  resetBadPinCount accountId
  P.requestReauth accountId service cred

def retryPrt : Fn W StepAnswer UnixUserToken := do
  match ← askToken accountId .prt
    (P.outside.exchangePrtForAccessToken prt [] none none none) with
  | .ok token => P.renewPrt accountId prt token
  | .error e => deny ("Authentication failed. Please try signing in again. " ++
      msalErrorToUserMessage e)

def prtError : MsalError → Fn W StepAnswer UnixUserToken
  | .acquireTokenFailed e =>
    if e.errorCodes.contains consentRequired then P.retryPrt accountId prt
    else P.checkNewDeviceEnrollmentRequired e
  | _ => P.dropAndReauth accountId service cred (P.fetchHelloPrtKeyTag accountId)

def exchangePrt : Fn W StepAnswer UnixUserToken := do
  let (clientId, scopes) := P.clientIdAndScopes
  match ← askToken accountId .prt
    (P.outside.exchangePrtForAccessToken prt scopes clientId none none) with
  | .ok token => P.renewPrt accountId prt token
  | .error (.requestFailed _) => P.netDownHelloFallback accountId cred oldToken
  | .error e =>
    if isSsprRequired e then P.ssprDemandHelloFallback accountId cred oldToken
    else P.prtError accountId service cred prt e

def exchangeRefreshToken (refreshToken : String) : Fn W StepAnswer UnixUserToken := do
  match ← ask P.outside.publicClientNew with
  | none => deny "Authentication service unavailable. Please try again later."
  | some () =>
    match ← askToken accountId .refreshToken
      (P.outside.publicClientAcquireTokenByRefreshToken refreshToken []) with
    | .ok token =>
      resetBadPinCount accountId
      return token
    | .error (.requestFailed _) => P.netDownHelloFallback accountId cred oldToken
    | .error e =>
      if isSsprRequired e then P.ssprDemandHelloFallback accountId cred oldToken
      else P.dropAndReauth accountId service cred (P.fetchHelloRefreshTokenKeyTag accountId)

def acquireDecoupledToken
    (helloKey : LoadableMsHelloKey) (cred : String) : Fn W StepAnswer UnixUserToken := do
  match ← P.cachedTokens accountId helloKey cred with
  | some (.prt prt) => P.exchangePrt accountId service oldToken cred prt
  | some (.refreshToken refreshToken) =>
    P.exchangeRefreshToken accountId service oldToken cred refreshToken
  | none => P.requestReauth accountId service cred

/-! ## 4. PINs -/

def acquireToken (keyType : KeyType) (cred : String) : Fn W StepAnswer UnixUserToken :=
  match keyType with
  | .hello => P.acquireHelloToken accountId oldToken helloKey cred
  | .decoupled => P.acquireDecoupledToken accountId service oldToken helloKey cred

def ensureIntuneEnrolled : Fn W StepAnswer Unit := do
  if P.isIntuneEnrolled (← Body.get) = false then P.intuneEnroll token
  else return ()

def finishHello : Fn W StepAnswer StepAnswer := do
  match ← P.tokenValidate accountId token none with
  | .ok (.success token) => P.helloTotpOrSuccess accountId cred token
  | .ok (.next _) =>
    return .ok (.denied "Unexpected authentication step. Please try signing in again.", .none)
  | .ok authResult => return .ok (authResult, .none)
  | .error e => return .error e

/-- `auth_and_validate_hello_key`.  That the key loads is checked first, since a failed
    request for a token may not have checked the PIN. -/
def authAndValidateHelloKey (keyType : KeyType) (cred : String) : Fn W StepAnswer StepAnswer := do
  match P.outside.pinValueNew cred with
  | none => return .error .tpm
  | some pin =>
    match ← P.tryPin accountId helloKey pin with
    | none =>
      P.handleHelloBadPinCount accountId fun msg => .ok (.denied msg, .none)
      deny "Failed to authenticate with Hello PIN."
    | some _ =>
      let token ← P.acquireToken accountId service oldToken helloKey keyType cred
      -- Cache the PRT to disk for offline auth SSO
      P.sealToken accountId token helloKey cred (Body.leave (.error .tpm))
      P.ensureIntuneEnrolled token
      P.finishHello accountId cred token

def pinStep : Fn W StepAnswer StepAnswer := do
  let (helloKey, keyType) ← Body.orLeave (P.fetchHelloKey accountId (← getKeystore)) .error
  P.authAndValidateHelloKey accountId service oldToken helloKey keyType cred

def newHelloKey (amrNgcmfa : Bool) (pin : String) : Fn W StepAnswer LoadableMsHelloKey := do
  if amrNgcmfa then
    P.netDownCheck (← ask (P.outside.provisionHelloForBusinessKey token pin)) fun e =>
      next (.setupPin ("Failed to provision hello key: " ++ P.outside.debug e ++
        "\nCreate a PIN to use in place of passwords.")) .none
  else
    match ← P.createDecoupledHelloKey pin with
    | none => Body.leave (.error .tpm)
    | some helloKey => return helloKey

def setupPinStep (token : Option UnixUserToken) (pin : String) : Fn W StepAnswer StepAnswer := do
  match token with
  | none => deny "PIN setup failed. Please try signing in again."
  | some token =>
    -- Skip Hello enrollment if the token doesn't have the ngcmfa amr
    let amrNgcmfa := token.amrNgcmfa.getD false
    let helloKey ← P.newHelloKey token amrNgcmfa pin
    P.storeHelloKey accountId amrNgcmfa helloKey
    P.authAndValidateHelloKey accountId service oldToken helloKey
      (if amrNgcmfa then .hello else .decoupled) pin

/-! ## 5. Enrolling a PIN after another login -/

/-- A PIN is to be set up: Hello is enabled, the session allows it, and there is no key. -/
def pinEnrolmentDue (keystore : KeyStore) : Bool :=
  P.config.enableHello && !noHelloPin && !(P.fetchHelloKey accountId keystore).isOk

def setupPinMessage : String :=
  "Set up a PIN\n A Hello PIN is a fast, secure way to sign in to your device, apps, and services."

def maybePromptSetupPin (enrollmentToken : UnixUserToken)
    (successToken : UserToken) (action : AuthCacheAction) : Fn W StepAnswer α := do
  if P.pinEnrolmentDue accountId noHelloPin (← getKeystore) then
    setCredHandler (.setupPin (some enrollmentToken))
    next (.setupPin setupPinMessage) action
  else succeed accountId successToken action

/-- Cache the offline password hash for breakglass conditions, if enabled. -/
def breakglassAction : AuthCacheAction :=
  if P.config.offlineBreakglassEnabled then .passwordHashUpdate cred else .none

def finishPasswordOnly (cred : String) : Fn W StepAnswer α := do
  match ← P.tokenValidate accountId token none with
  | .ok (.success userToken) =>
    P.maybePromptSetupPin accountId noHelloPin token userToken (P.breakglassAction cred)
  | .ok authResult => Body.leave (.ok (authResult, .none))
  | .error e => Body.leave (.error e)

def changePasswordMessage : String :=
  "Update your password\nYou need to update your password because this is\n" ++
    "the first time you are signing in, or because your\npassword has expired."

def promptChangePassword (oldCred : String) : Fn W StepAnswer α := do
  setCredHandler (.changePassword oldCred)
  next (.changePassword changePasswordMessage) .none

def nestedAuthHandleMfaResp (resp : MFAAuthContinue) (cred : String)
    (reauthHelloPin : Option String) : Fn W StepAnswer α := do
  match resp.mfaMethod with
  | "FidoKey" =>
    match resp.fidoChallenge, resp.fidoAllowList with
    | some challenge, some allowList =>
      setCredHandler (.mfa resp (some cred) none reauthHelloPin)
      next (.fido challenge allowList false false) (P.breakglassAction cred)
    | _, _ => deny ("FIDO authentication not available. " ++
        "Please try a different authentication method.")
  | "AccessPass" | "PhoneAppOTP" | "OneWaySMS" | "ConsolidatedTelephony" =>
    setCredHandler (.mfa resp (some cred) none reauthHelloPin)
    next (.mfaCode resp.msg) (P.breakglassAction cred)
  | _ =>
    setCredHandler (.mfa resp (some cred) none reauthHelloPin)
    next (pollRequest resp) (P.breakglassAction cred)

/-! ## 6. Passwords -/

/-- The exchange of `try_prt_signin_frequency_check`, with its one retry. -/
def signinFrequencyExchange : Fn W ρ (Except MsalError UnixUserToken) := do
  let (clientId, scopes) := P.clientIdAndScopes
  match ← ask (P.outside.exchangePrtForAccessToken prt scopes clientId none none) with
  | .error (.requestFailed _) =>
    ask (P.outside.exchangePrtForAccessToken prt scopes clientId none none)
  | .error (.acquireTokenFailed errResp) =>
    if errResp.errorCodes.contains consentRequired then
      ask (P.outside.exchangePrtForAccessToken prt [] none none none)
    else if clientId = some edgeBrowserClientId then
      ask (P.outside.exchangePrtForAccessToken prt scopes (some defaultAppId) none none)
    else return .error (.acquireTokenFailed errResp)
  | .error (.aadstsError err) =>
    if clientId = some edgeBrowserClientId then
      ask (P.outside.exchangePrtForAccessToken prt scopes (some defaultAppId) none none)
    else return .error (.aadstsError err)
  | result => return result

def refreshPrt (token : UnixUserToken) : Fn W ρ UnixUserToken := do
  match ← ask (P.outside.exchangePrtForPrt prt) with
  | .ok newPrt =>
    P.refreshCacheAdd accountId (.prt newPrt)
    return { token with prt := some newPrt }
  | .error _ => return token

/-- `try_prt_signin_frequency_check`: a token if the sign-in frequency is satisfied. -/
def tryPrtSigninFrequencyCheck : Fn W ρ (Option UnixUserToken) := do
  match ← P.refreshToken accountId with
  | .ok (.prt prt) =>
    match ← P.signinFrequencyExchange prt with
    | .ok token =>
      let token ← P.refreshPrt accountId prt token
      return some token
    | .error (.requestFailed _) =>
      P.netDown
      return none
    | .error _ => return none
  | _ => return none

def prtSigninFrequencyCheck (cred : String) : Fn W StepAnswer Unit := do
  match ← P.tryPrtSigninFrequencyCheck accountId with
  | some token => P.finishPasswordOnly accountId noHelloPin token cred
  | none => return ()

/-- `AADSTS50072`, `50074` and `50076`: the password is valid but MFA is required. -/
def mfaRequiredCodes : List UInt32 := [50072, 50074, 50076]

/-- The answer to the password alone (ROPC), on an enrolled device. -/
def passwordFirstRopc (cred : String) : Except MsalError UnixUserToken → Fn W StepAnswer Unit
  | .ok token => do
    let token2 ← P.enrollAndObtainEnrolledToken token
    P.finishPasswordOnly accountId noHelloPin token2 cred
  | .error (.aadstsError err) =>
    if mfaRequiredCodes.contains err.code then
      P.prtSigninFrequencyCheck accountId noHelloPin cred
    else deny (msalErrorToUserMessage (.aadstsError err))
  | .error .mfaRequired => P.prtSigninFrequencyCheck accountId noHelloPin cred
  | .error .changePassword => promptChangePassword cred
  | .error e => deny (msalErrorToUserMessage e)

/-- `ForceMFA` is added in place, to the options the session keeps. -/
def forceMfa (authOptions : List AuthOption) (isDomainJoined : Bool) :
    Fn W ρ (List AuthOption) := do
  if authOptions.contains .forceMFA then return authOptions
  else
    setCredHandler (.passwordFirst (authOptions ++ [.forceMFA]) isDomainJoined)
    return authOptions ++ [.forceMFA]

/-- MFA is required: the flow is opened, once more with `ForceMFA` if Azure says so. -/
def passwordFirstFlow (authOptions : List AuthOption)
    (isDomainJoined : Bool) : Fn W StepAnswer MFAAuthContinue := do
  P.netDownCheck
    (← ask (P.outside.initiateMfaFlow accountId (some cred) authOptions none P.config.mfaMethod))
    fun
      | .mfaRequired => do
        let authOptions ← forceMfa authOptions isDomainJoined
        P.netDownCheck
          (← ask (P.outside.initiateMfaFlow accountId (some cred) authOptions none
            P.config.mfaMethod))
          fun e => deny (msalErrorToUserMessage e)
      | .passwordRequired => deny "Authentication failed. Please try again."
      | e => deny (msalErrorToUserMessage e)

def passwordFirstStep (authOptions : List AuthOption)
    (isDomainJoined : Bool) (cred : String) : Fn W StepAnswer StepAnswer := do
  if isDomainJoined then
    let ropcResult ← ask (P.outside.acquireTokenByUsernamePassword accountId cred)
    P.passwordFirstRopc accountId noHelloPin cred ropcResult
    let authOptions ← forceMfa authOptions isDomainJoined
    let flow ← P.passwordFirstFlow accountId cred authOptions isDomainJoined
    P.nestedAuthHandleMfaResp flow cred none
  else
    let flow ← P.passwordFirstFlow accountId cred authOptions isDomainJoined
    P.nestedAuthHandleMfaResp flow cred none

/-- The password to go on with: after a change that failed, the old one. -/
def changedPassword : AuthCredHandler → Fn W StepAnswer String
  | .changePassword oldCred => do
    let res ← ask (P.outside.handlePasswordChange accountId oldCred cred)
    P.netDownCheck (res.map fun _ => cred) fun _ => return oldCred
  | _ => return cred

/-- MFA failed: fall back to the password alone. -/
def sfaFallback (e : MsalError) : Fn W StepAnswer α := do
  -- We can only do a password auth for an enrolled device
  if P.isDomainJoined (← Body.get) then
    let res ← ask (P.outside.acquireTokenByUsernamePassword accountId cred)
    let token ← P.netDownCheck res fun
      | .changePassword => promptChangePassword cred
      | e => deny (msalErrorToUserMessage e)
    let token2 ← P.enrollAndObtainEnrolledToken token
    match ← P.tokenValidate accountId token2 none with
    -- we can't enroll in Hello with an SFA token
    | .ok (.success token) => succeed accountId token (.passwordHashUpdate cred)
    | .ok authResult => Body.leave (.ok (authResult, .none))
    | .error e => Body.leave (.error e)
  else deny (msalErrorToUserMessage e)

def passwordFlowError (sfaEnabled : Bool) (e : MsalError) : Fn W StepAnswer α :=
  if sfaEnabled then
    match e with
    | .aadstsError err =>
      if mfaRequiredCodes.contains err.code then P.sfaFallback accountId cred (.aadstsError err)
      -- the authentication legitimately failed
      else deny ("Authentication failed (AADSTS" ++ toString err.code.toNat ++ ")")
    | e => P.sfaFallback accountId cred e
  else deny (msalErrorToUserMessage e)

def reauthHelloPin : AuthCredHandler → Option String
  | .reauthPassword pin => some pin
  | _ => none

def passwordStep (credHandler : AuthCredHandler) (cred : String) : Fn W StepAnswer StepAnswer := do
  let cred ← P.changedPassword accountId cred credHandler
  let isRemoteService := P.config.isRemoteService service ||
    containsText (P.outside.toLowercase service) "ssh"
  let reauthPin := reauthHelloPin credHandler
  -- no SFA fallback during Hello re-auth
  let sfaEnabled := reauthPin.isNone && P.config.enableSfaFallback
  let opts := P.flowOptions false isRemoteService ++ if sfaEnabled then [.noDAGFallback] else []
  let mresp ← ask (P.outside.initiateMfaFlow accountId (some cred) opts none P.config.mfaMethod)
  let resp ← P.netDownCheck mresp (P.passwordFlowError accountId cred sfaEnabled)
  P.nestedAuthHandleMfaResp resp cred reauthPin

/-! ## 7. MFA -/

/-- The token of a flow; the session keeps the flow as the client left it. -/
def acquireMfaToken (cred : Option String) (pollAttempt : Option UInt32)
    (flow : MFAAuthContinue) (password extraData reauthPin : Option String)
    (onErr : MsalError → Fn W StepAnswer UnixUserToken) : Fn W StepAnswer UnixUserToken := do
  let (res, flow) ← ask (P.outside.acquireTokenByMfaFlow accountId cred pollAttempt flow)
  setCredHandler (.mfa flow password extraData reauthPin)
  P.netDownCheck res onErr

def mfaError (password : Option String) : MsalError → Fn W StepAnswer α
  | .changePassword =>
    match password with
    | some oldCred => promptChangePassword oldCred
    | none => deny (msalErrorToUserMessage .changePassword)
  | e => deny (msalErrorToUserMessage e)

def mfaPollError (password : Option String) : MsalError → Fn W StepAnswer α
  | .mfaPollContinue => next .mfaPollWait .none
  | .mfaRequired =>
    deny "Multi-factor authentication required. Please try signing in again."
  | e => mfaError password e

/-- `reseal_prt_with_existing_hello_key_on_success`: a flow that an expired PRT set off
    ends with the new one sealed under the old PIN. -/
def resealOnSuccess (reauthPin : Option String)
    (successToken : UserToken) : Fn W StepAnswer Unit := do
  match reauthPin, P.fetchHelloKey accountId (← getKeystore) with
  | some pin, .ok (helloKey, _) =>
    P.sealPrtWithExistingHelloKey accountId token helloKey pin
    log (.success accountId)
    resetBadPinCount accountId
    Body.leave (.ok (.success successToken, .none))
  | _, _ => return ()

/-- As the source has it: two parts of the text meet without a space. -/
def mfaSetupPinMessage : String :=
  "Set up a PIN\n A Hello PIN is a fast, secure way to sign" ++
    "in to your device, apps, and services."

/-- What becomes of an MFA token; `token2` is the one of the enrolled device. -/
def finishMfa (token2 : UnixUserToken)
    (reauthPin : Option String) : Fn W StepAnswer StepAnswer := do
  match ← P.tokenValidate accountId token2 none with
  | .ok (.success token3) =>
    P.resealOnSuccess accountId token2 reauthPin token3
    if P.pinEnrolmentDue accountId noHelloPin (← getKeystore) then
      setCredHandler (.setupPin (some token))
      next (.setupPin mfaSetupPinMessage) .none
    else succeed accountId token3 .none
  | .ok authResult => return .ok (authResult, .none)
  | .error e => return .error e

def mfaStep (flow : MFAAuthContinue)
    (password extraData reauthPin : Option String) (cred : String) :
    Fn W StepAnswer StepAnswer := do
  let token ← P.acquireMfaToken accountId (some cred) none flow password extraData reauthPin
    (mfaError password)
  let token2 ← P.enrollAndObtainEnrolledToken token
  P.finishMfa accountId noHelloPin token token2 reauthPin

/-- A personal account's token needs no enrolled device. -/
def enrolledOrMsaToken : Fn W StepAnswer UnixUserToken := do
  match token.tenantId with
  | none => Body.leave (.error (.notFound "tenant_id from token" "unix_user_online_auth_step"))
  | some tenantId =>
    if tenantId = "9188040d-6c67-4c5b-b112-36a304b66dad" then return token
    else P.enrollAndObtainEnrolledToken token

def mfaPollStep (flow : MFAAuthContinue)
    (password extraData reauthPin : Option String) (pollAttempt : UInt32) :
    Fn W StepAnswer StepAnswer := do
  if flow.maxPollAttempts.getD 180 < pollAttempt then
    deny "Authentication timed out. Please try again."
  else
    let token ← P.acquireMfaToken accountId none (some pollAttempt) flow password extraData
      reauthPin (mfaPollError password)
    let token2 ← P.enrolledOrMsaToken token
    P.finishMfa accountId noHelloPin token token2 reauthPin

/-! ## 8. The step -/

def stepMatch (service : String) (noHelloPin : Bool)
    (credHandler : AuthCredHandler) (req : PamAuthRequest) : Fn W StepAnswer StepAnswer :=
  match credHandler, req with
  | .setupPin token, .setupPin pin => P.setupPinStep accountId service oldToken token pin
  | _, .pin cred => P.pinStep accountId service oldToken cred
  | .passwordFirst authOptions isDomainJoined, .password cred =>
    P.passwordFirstStep accountId noHelloPin authOptions isDomainJoined cred
  | credHandler, .password cred => P.passwordStep accountId service credHandler cred
  | .mfa flow password extraData reauthPin, .mfaCode cred =>
    P.mfaStep accountId noHelloPin flow password extraData reauthPin cred
  | .mfa flow password extraData reauthPin, .mfaPoll pollAttempt =>
    P.mfaPollStep accountId noHelloPin flow password extraData reauthPin pollAttempt
  | .mfa .., .fidoUnavailable => do
    setCredHandler .none
    next .password .none
  | .mfa flow password extraData reauthPin, .fido assertion =>
    P.mfaStep accountId noHelloPin flow password extraData reauthPin assertion
  | .helloTOTP helloPin pendingSealedTotp, .helloTOTP cred =>
    P.handleHelloPinTotpAuth accountId oldToken cred helloPin pendingSealedTotp fun authResult =>
      (authResult, .none)
  | _, _ => return .error (.notFound "AuthCredHandler, PamAuthRequest" "cred_handler, pam_next_req")

def unixUserOnlineAuthStep (service : String)
    (noHelloPin : Bool) (req : PamAuthRequest) : Fn W StepAnswer StepAnswer := do
  if ← P.delayedInit then
    let credHandler := (← Body.get).credHandler
    P.stepMatch accountId oldToken service noHelloPin credHandler req
  else
    P.netDown
    deny "Network outage detected."

end HimmelblauProvider

end Himmelblau.Entra
