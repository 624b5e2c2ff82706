/-
  **The online login of the Entra provider** (mirror of `idprovider/himmelblau.rs`):
  `unix_user_online_auth_init` and `unix_user_online_auth_step` with their macros.  Each
  macro is a definition under its name; each arm of the step's final match is one.

  Code that the source repeats word by word is here once: the options of a flow, the
  prompt that opens it, the fall-back to a TOTP code, and what follows an MFA token.
-/
import Himmelblau.Hello

namespace Himmelblau.Entra

open Interface Config Msal FunctionBody Ctx

variable {W ρ α : Type}

abbrev StepAnswer := Except IdpError (AuthResult × AuthCacheAction)

abbrev InitAnswer := Except IdpError (AuthRequest × AuthCredHandler)

def edgeBrowserClientId : String := "d7b530a4-7680-4c23-a8bf-c52c121d2e87"

def defaultAppId : String := "b743a22d-6705-4147-8670-d92fa515ee2b"

/-- `return Ok((AuthResult::Denied(msg), AuthCacheAction::None))`. -/
def deny (msg : String) : Fn W StepAnswer α := Body.leave (.ok (.denied msg, .none))

/-- `return Ok((AuthResult::Next(request), action))`. -/
def next (request : AuthRequest) (action : AuthCacheAction) : Fn W StepAnswer α :=
  Body.leave (.ok (.next request, action))

/-- `return Ok((AuthResult::Success { token }, action))`. -/
def succeed (accountId : String) (token : UserToken) (action : AuthCacheAction) :
    Fn W StepAnswer α := do
  log (.success accountId)
  Body.leave (.ok (.success token, action))

namespace HimmelblauProvider

variable (P : HimmelblauProvider W) (accountId : String) (token : UnixUserToken)

/-! ## 1. The device -/

def isConsumerTenant (p : ProviderState W) : Bool :=
  p.tenantId.getD "" == "9188040d-6c67-4c5b-b112-36a304b66dad" ||
    p.tenantId.getD "" == "9cd80435-793b-4f48-844b-6b3f37d1c1f3"

def isDomainJoined (c : Ctx W) : Bool :=
  isConsumerTenant c.provider ||
    (c.provider.deviceId.isSome && (deviceKeyOf (c.keystore P.fetchTranportKeyTag)).isSome &&
      (deviceKeyOf (c.keystore P.fetchCertKeyTag)).isSome)

def isIntuneEnrolled (c : Ctx W) : Bool :=
  isConsumerTenant c.provider ||
    (c.provider.intuneDeviceId.isSome && (deviceKeyOf (c.keystore P.fetchIntuneKeyTag)).isSome)

/-- The function `intune_enroll`, as far as it is decided here. -/
def intuneEnrollDevice (deviceId : Option String) (token : UnixUserToken) :
    Fn W ρ (Except IdpError (String × String)) := do
  if P.config.applyPolicy then ask (P.outside.intuneEnroll deviceId token)
  else return .error (.notFound "apply_policy" "intune_enroll")

/-- The macro `intune_enroll`: a failed enrolment is retried later. -/
def intuneEnroll : Fn W StepAnswer Unit := do
  match ← P.intuneEnrollDevice none token with
  | .error _ => return ()
  | .ok (intuneKey, intuneDeviceId) =>
    Body.modify fun c => { c with provider.intuneDeviceId := some intuneDeviceId }
    if ← ask P.outside.writeServerConfig then
      insertTaggedHsmKey P.fetchIntuneKeyTag (.other intuneKey)
    else deny "Failed to save device configuration. Please contact your administrator."

/-- The end of `join_domain`: the Intune key is stored if there is one, and the device ids. -/
def storeDevice (deviceId : String) :
    Except IdpError (String × String) → Fn W ρ Unit
  | .ok (intuneKey, intuneDeviceId) => do
    insertTaggedHsmKey P.fetchIntuneKeyTag (.other intuneKey)
    Body.modify fun c => { c with
      provider.intuneDeviceId := some intuneDeviceId
      provider.deviceId := some deviceId }
  | .error _ => Body.modify fun c => { c with provider.deviceId := some deviceId }

/-- `join_domain`: `false` is an error. -/
def joinDomain : Fn W ρ Bool := do
  match ← ask (P.outside.enrollDevice token.refreshToken) with
  | .error _ => return false
  | .ok (transportKey, certKey, deviceId) =>
    insertTaggedHsmKey P.fetchCertKeyTag (.other certKey)
    insertTaggedHsmKey P.fetchTranportKeyTag (.other transportKey)
    let intune ← P.intuneEnrollDevice (some deviceId) token
    P.storeDevice deviceId intune
    ask P.outside.writeServerConfig

/-! ## 2. Errors of the client -/

def checkNewDeviceEnrollmentRequired (e : ErrorResponse) : Fn W StepAnswer α := do
  let msg := msalErrorToUserMessage (.acquireTokenFailed e)
  if e.errorCodes.contains 135011 || e.errorCodes.contains P.outside.deviceAuthFail then
    deleteTaggedHsmKey P.fetchCertKeyTag
    deleteTaggedHsmKey P.fetchIntuneKeyTag
    deny ("Device has been removed from the domain. " ++ msg)
  else deny msg

def netDownCheck (res : Except MsalError α) (onErr : MsalError → Fn W StepAnswer α) :
    Fn W StepAnswer α :=
  match res with
  | .ok a => return a
  | .error (.requestFailed _) => do
    P.netDown
    deny "Network outage detected."
  | .error (.acquireTokenFailed e) => P.checkNewDeviceEnrollmentRequired e
  | .error e => onErr e

/-- If an `app_id` is defined in the config, the app should have the
    `GroupMember.Read.All` API permission. -/
def clientIdAndScopes : Option String × List String :=
  if P.config.appId.isSome then (none, ["GroupMember.Read.All"])
  else (some edgeBrowserClientId, ["https://graph.microsoft.com/.default"])

def enroll : Fn W StepAnswer Unit := do
  let c ← Body.get
  if P.isDomainJoined c = false then
    if ← P.joinDomain token then return ()
    else deny "Failed to join domain. Please contact your administrator."
  else if P.isIntuneEnrolled c = false then P.intuneEnroll token
  else return ()

/-- An AADSTS error with the Edge browser's client id (e.g. a CA policy): fall back to the
    default app id. -/
def retryWithDefaultApp (scopes : List String) (clientId : Option String) :
    MsalError → Fn W StepAnswer UnixUserToken
  | .aadstsError err => do
    if clientId = some edgeBrowserClientId then
      match ← ask (P.outside.acquireTokenByRefreshToken token.refreshToken scopes
        (some defaultAppId)) with
      | .ok token => return token
      | .error e => deny (msalErrorToUserMessage e)
    else deny (msalErrorToUserMessage (.aadstsError err))
  | e => deny (msalErrorToUserMessage e)

/-- The token is exchanged for one of an enrolled device.  `net_down_check` takes every
    `AcquireTokenFailed` before the arms that the source has for it. -/
def enrollAndObtainEnrolledToken : Fn W StepAnswer UnixUserToken := do
  P.enroll token
  let (clientId, scopes) := P.clientIdAndScopes
  let mtoken2 ← ask (P.outside.acquireTokenByRefreshToken token.refreshToken scopes clientId)
  P.netDownCheck mtoken2 (P.retryWithDefaultApp token scopes clientId)

/-! ## 3. Validating a token -/

/-- The token's user is the requested one, up to letter case and aliases of the domain. -/
def matchesRequestedUser (spn : String) : Fn W ρ (Except IdpError Bool) := do
  if P.outside.toLowercase accountId = P.outside.toLowercase spn then return .ok true
  else
    match splitUsername accountId, splitUsername spn with
    | some (local1, domain1), some (local2, domain2) =>
      let domainsMatch ← ask (P.outside.domainsAreAliases domain1 domain2)
      return .ok (P.outside.toLowercase local1 == P.outside.toLowercase local2 && domainsMatch)
    | _, _ => return .error .badRequest

def tokenValidate (oldToken : Option UserToken) : Fn W ρ (Except IdpError AuthResult) := do
  match token.accessToken, token.spn with
  | none, _ => return .error (.notFound "access_token" "token_validate")
  | some _, none => return .error .badRequest
  | some _, some spn =>
    match ← P.matchesRequestedUser accountId spn with
    | .error e => return .error e
    | .ok false =>
      let uuid := (token.uuid.map Uuid.hyphenated).getD "unknown"
      return .ok (.denied ("Authenticated user " ++ uuid ++ " does not match requested user"))
    | .ok true =>
      P.refreshCacheAdd accountId <|
        match token.prt with
        | some prt => .prt prt
        -- MSA Accounts don't have PRTs, so instead cache the refresh token
        | none => .refreshToken token.refreshToken
      match ← ask (P.outside.userTokenFromUnixUserToken accountId token oldToken) with
      | .error e => return .error e
      | .ok userToken =>
        log (.validated accountId userToken)
        return .ok (.success userToken)

/-! ## 4. Opening a flow -/

def flowOptions (passwordless isRemoteService : Bool) : List AuthOption :=
  (if passwordless then [.passwordless] else []) ++
  (if isRemoteService then [] else
    [.fido] ++
    (if P.config.enableExperimentalPasswordlessFido then [.passwordlessFido] else []) ++
    (if P.config.enablePasswordlessSecurityKey then [.passwordlessSecurityKey] else []) ++
    (if P.config.enablePasswordlessQrBluetooth then [.passwordlessQrBluetooth] else [])) ++
  (if isRemoteService || !P.config.allowConsolePasswordOnly then [.forceMFA] else []) ++
  (if isRemoteService then [.remoteSession] else [])

def deviceFlowOptions (isRemoteService : Bool) : List AuthOption :=
  (if isRemoteService || !P.config.allowConsolePasswordOnly then [.forceMFA] else []) ++
  (if isRemoteService then [.remoteSession] else [])

/-- The prompt that polls a flow.  PAM expects the interval in seconds. -/
def pollRequest (flow : MFAAuthContinue) : AuthRequest :=
  .mfaPoll flow.msg (flow.pollingInterval.getD 5000 / 1000)

/-- The prompt of a fresh flow: FIDO if Azure provided credentials, else polling. -/
def flowRequest (flow : MFAAuthContinue) : AuthRequest :=
  match flow.fidoChallenge, flow.fidoAllowList with
  | some challenge, some allowList =>
    .fido challenge allowList flow.hasPhysicalSecurityKey flow.hasCrossDevicePasskey
  | _, _ => pollRequest flow

/-! ## 5. `unix_user_online_auth_init` -/

def initNetDownCheck (res : Except MsalError α) (onErr : MsalError → Fn W InitAnswer α) :
    Fn W InitAnswer α :=
  match res with
  | .ok a => return a
  | .error (.requestFailed _) => do
    P.netDown
    Body.leave (.ok (.initDenied "Network outage detected.", .none))
  | .error e => onErr e

def pinUnavailable (service : String) (noHelloPin forceReauth : Bool) (c : Ctx W) : Bool :=
  !P.isDomainJoined c || !(P.fetchHelloKey accountId c.keystore).isOk || !P.config.enableHello ||
    (P.config.isRemoteService service && !P.config.enableHelloTotp && !P.config.allowRemoteHello) ||
    decide (P.config.helloPinRetryCount < c.provider.badPinCounter accountId) ||
    (P.config.applyPolicy && !P.isIntuneEnrolled c) || noHelloPin || forceReauth

/-- Check if the network is up before prompting for a password. -/
def promptPassword (credHandler : AuthCredHandler) : Fn W InitAnswer InitAnswer := do
  let now ← ask P.outside.now
  if ← P.attemptOnline now then return .ok (.password, credHandler)
  else return .ok (.initDenied "Network outage detected.", .none)

def mfaHandler (flow : MFAAuthContinue) : AuthCredHandler := .mfa flow none none none

/-- The interactive flow (`enable_experimental_mfa`). -/
def initMfa (isRemoteService : Bool) : Fn W InitAnswer InitAnswer := do
  let authOptions := P.flowOptions P.config.enablePasswordless isRemoteService
  let authInit ← P.initNetDownCheck (← ask (P.outside.checkUserExists accountId authOptions))
    fun _ => Body.leave (.error .badRequest)
  if P.config.allowConsolePasswordOnly && !isRemoteService && !authInit.passwordless then
    -- request password first, to check the sign-in frequency
    let isDomainJoined := P.isDomainJoined (← Body.get)
    P.promptPassword (.passwordFirst authOptions isDomainJoined)
  else if !authInit.passwordless then P.promptPassword .none
  else
    let flow ← P.initNetDownCheck
      (← ask (P.outside.initiateMfaFlow accountId none authOptions (some authInit)
        P.config.mfaMethod))
      fun
        | .passwordRequired => Body.leave (.ok (.password, .none))
        | _ => Body.leave (.error .badRequest)
    return .ok (flowRequest flow, mfaHandler flow)

def initDeviceFlow (isRemoteService : Bool) : Fn W InitAnswer InitAnswer := do
  let flow ← P.initNetDownCheck
    (← ask (P.outside.initiateDeviceFlow (P.deviceFlowOptions isRemoteService)))
    fun _ => Body.leave (.error .badRequest)
  return .ok (pollRequest flow, mfaHandler flow)

def unixUserOnlineAuthInit (service : String) (noHelloPin forceReauth : Bool) :
    Fn W InitAnswer InitAnswer := do
  let isRemoteService := P.config.isRemoteService service
  if P.pinUnavailable accountId service noHelloPin forceReauth (← Body.get) then
    if ← P.delayedInit then
      if P.config.enableExperimentalMfa then P.initMfa accountId isRemoteService
      else P.initDeviceFlow isRemoteService
    else
      P.netDown
      return .ok (.initDenied "Network outage detected.", .none)
  else
    let now ← ask P.outside.now
    if ← P.attemptOnline now then return .ok (.pin, .none)
    else return .error .badRequest

end HimmelblauProvider

end Himmelblau.Entra
