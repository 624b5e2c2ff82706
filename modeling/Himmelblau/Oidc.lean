/-
  **The OpenID Connect provider** (mirror of `idprovider/openidconnect.rs`): the dialogue with
  the login orchestrator, the client with its token grants, initialisation and the start of a
  login.  The macros of `common.rs` are those of `Hello`, which work on the part of the
  provider that both providers have.
-/
import Himmelblau.EntraProvider

namespace Himmelblau.Oidc

open Interface Config Msal FunctionBody Entra Entra.Ctx

variable {W ρ α : Type}

/-! ## 1. Device authorization -/

structure DeviceAuthResponse where
  interval : ℕ
  expiresIn : ℕ
  verificationUri : String
  verificationUriComplete : Option String
  userCode : String
  deriving DecidableEq, Repr

structure OidcTokenResponse where
  accessToken : String
  refreshToken : Option String
  deriving DecidableEq, Repr

def defaultFlow : MFAAuthContinue where
  msg := ""
  mfaMethod := ""
  pollingInterval := none
  maxPollAttempts := none
  fidoChallenge := none
  fidoAllowList := none
  hasPhysicalSecurityKey := false
  hasCrossDevicePasskey := false

def deviceMessage (details : DeviceAuthResponse) : String :=
  match details.verificationUriComplete with
  | some complete =>
    "Scan the QR code to continue sign-in, or open this link on another device:\n" ++ complete ++
      "\nIf you cannot scan, visit:\n" ++ details.verificationUri ++ "\nAnd enter the code:\n" ++
      details.userCode
  | none =>
    "Using a browser on another device, visit:\n" ++ details.verificationUri ++
      "\nAnd enter the code:\n" ++ details.userCode

def mfaFromOidcDevice (details : DeviceAuthResponse) : MFAAuthContinue :=
  let pollingInterval := UInt32.ofNat details.interval
  let expiresIn := UInt32.ofNat details.expiresIn
  { defaultFlow with
    msg := deviceMessage details
    maxPollAttempts := some (if pollingInterval = 0 then 0 else expiresIn / pollingInterval)
    pollingInterval := some (pollingInterval * 1000) }

/-! ## 2. The orchestrator -/

inductive OrchestratorInputType where
  | text
  | password
  | otp
  | confirmation
  deriving DecidableEq, Repr

structure OrchestratorProvidedInput where
  name : String
  value : String
  deriving DecidableEq, Repr

/-- `optional` is not read. -/
structure OrchestratorRequiredInput where
  name : String
  inputType : OrchestratorInputType
  prompt : Option String
  deriving DecidableEq, Repr

/-- The answers of the orchestrator.  Of the tokens of a completed session only the refresh
    token is read; `other` is an acknowledgement, a status or a pong. -/
inductive OrchestratorResponse where
  | nextStep (sessionId : String) (requiredInputs : List OrchestratorRequiredInput)
  | sessionComplete (sessionId : String) (success : Bool) (refreshToken : Option String)
  | sessionError (sessionId error : String)
  | error (error : String)
  | other
  deriving DecidableEq, Repr

structure OrchestratorFlowState where
  sessionId : String
  requiredInputs : List OrchestratorRequiredInput
  dagJson : Option String
  deriving DecidableEq, Repr

inductive OidcMfaExtraData where
  | deviceFlow (dagJson : String)
  | orchestrator (state : OrchestratorFlowState)
  deriving DecidableEq, Repr

def OrchestratorInputType.isCode : OrchestratorInputType → Bool
  | .otp | .text => true
  | _ => false

/-- A password comes first, then codes and texts, then confirmations. -/
def authRequestFromOrchestratorInputs (requiredInputs : List OrchestratorRequiredInput)
    (pollIntervalSecs : UInt32) : AuthRequest :=
  if requiredInputs.any (·.inputType = .password) then .password
  else
    match requiredInputs.find? (·.inputType.isCode) with
    | some input => .mfaCode (input.prompt.getD ("Enter value for " ++ input.name))
    | none =>
      match requiredInputs.find? (·.inputType = .confirmation) with
      | some input =>
        .mfaPoll (input.prompt.getD "Approve sign-in in your authenticator app, then wait...")
          pollIntervalSecs
      | none => .mfaPoll "Waiting for browser authentication to complete..." pollIntervalSecs

/-- The input that an answer goes to: the first of its type, or the only one there is. -/
def targetInput (requiredInputs : List OrchestratorRequiredInput)
    (wanted : OrchestratorInputType → Bool) : Option OrchestratorRequiredInput :=
  match requiredInputs.find? (wanted ·.inputType) with
  | some input => some input
  | none =>
    match requiredInputs with
    | [input] => some input
    | _ => none

def orchestratorInputsFromPamRequest (requiredInputs : List OrchestratorRequiredInput) :
    PamAuthRequest → Option (List OrchestratorProvidedInput)
  | .mfaPoll _ => some ((requiredInputs.filter (·.inputType = .confirmation)).map fun input =>
      ⟨input.name, "true"⟩)
  | .password cred => (targetInput requiredInputs (· == .password)).map fun input =>
      [⟨input.name, cred⟩]
  | .mfaCode cred => (targetInput requiredInputs (·.isCode)).map fun input => [⟨input.name, cred⟩]
  | _ => none

/-! ## 3. The provider -/

structure UserInfoClaims where
  preferredUsername : Option String
  email : Option String
  subject : String
  name : Option String
  deriving DecidableEq, Repr

/-- What the provider finds outside this repository, beside what both providers use: the
    endpoints of the issuer, the orchestrator's socket, the id maps and JSON.  An error whose
    content nothing reads is `none`. -/
structure OidcOutside (W : Type) where
  trim : String → String
  /-- `{}` of an error -/
  display : MsalError → String
  /-- `Uuid::new_v5` in the namespace of the issuers -/
  issuerUuid : (issuer : String) → Uuid
  /-- `Uuid::new_v5` in the namespace of a tenant -/
  subjectUuid : (tenantId : Uuid) → (subject : String) → Uuid
  addGenDomain : (domain tenantId : String) → Ext W Bool
  genToUnix : (tenantId accountId : String) → Ext W (Option UInt32)
  staticIdCache : Ext W (Option (String → Option (UInt32 × UInt32)))
  /-- the issuer's URL is parsed, the HTTP client built and the metadata discovered -/
  discoverMetadata : (clientId issuer : String) → Ext W Bool
  /-- a request to the authorization endpoint or the metadata succeeds -/
  probeProvider : Ext W Bool
  requestDeviceCode : Ext W (Option DeviceAuthResponse)
  /-- the device code grant; `none` is "keep polling" -/
  deviceCodeGrant : DeviceAuthResponse → Ext W (Except (Option String) OidcTokenResponse)
  /-- the refresh token grant, with the text of the failure -/
  refreshTokenGrant : (refreshToken : String) → (scopes : List String) →
    Ext W (Except String OidcTokenResponse)
  userInfo : (accessToken : String) → Ext W (Option UserInfoClaims)
  intoUnixUserToken : OidcTokenResponse → Option UnixUserToken
  startSession : (accountId : String) → (issuerUrl : Option String) →
    (dagAuthUrl dagUserCode : String) → Ext W (Option OrchestratorResponse)
  nextStep : (sessionId : String) → List OrchestratorProvidedInput →
    Ext W (Option OrchestratorResponse)
  dagToJson : DeviceAuthResponse → Option String
  dagOfJson : String → Option DeviceAuthResponse
  extraToJson : OidcMfaExtraData → Option String
  extraOfJson : String → Option OidcMfaExtraData

/-- The part of the configuration that only this provider reads. -/
structure OidcConfig where
  oidcIssuerUrl : Option String
  orchestratorEnabled : Bool
  orchestratorPollSecs : UInt32
  deriving DecidableEq, Repr

/-- `OidcProvider`: what its macros use, and what is its own. -/
structure OidcProvider (W : Type) extends HimmelblauProvider W where
  oidcConfig : OidcConfig
  issuer : OidcOutside W

/-- A name as `Last, First` is turned around. -/
def flipDisplaynameComma (trim : String → String) (name : String) : String :=
  match name.toList.splitOn ',' with
  | [] | [_] => name
  | left :: right => trim (String.ofList (List.intercalate [','] right)) ++ " " ++
      trim (String.ofList left)

namespace OidcProvider

variable (O : OidcProvider W) (accountId : String)

def tenantId : Option Uuid := O.oidcConfig.oidcIssuerUrl.map O.issuer.issuerUuid

/-- What is no extra data is taken for the device flow of an older version. -/
def parseOidcMfaExtraData (raw : String) : OidcMfaExtraData :=
  (O.issuer.extraOfJson raw).getD (.deviceFlow raw)

def pollIntervalSecs : UInt32 := max O.oidcConfig.orchestratorPollSecs 1

/-- `cfg.poll_interval_secs.saturating_mul(1000)`. -/
def pollIntervalMillis : UInt32 := UInt32.ofNat (min (O.pollIntervalSecs.toNat * 1000) 4294967295)

/-! ## 4. Initialisation -/

def clientDelayedInit : Fn W ρ Bool := do
  match O.config.appId, O.oidcConfig.oidcIssuerUrl with
  | some clientId, some issuerUrl =>
    if ← ask (O.issuer.discoverMetadata clientId issuerUrl) then
      Body.modify fun c => { c with provider.initialized := true }
      return true
    else return false
  | _, _ => return false

/-- `delayed_init`: the domain is added to the map of ids before the client is asked. -/
def delayedInit : Fn W ρ Bool := do
  if (← Body.get).provider.initialized then return true
  else
    match O.tenantId with
    | none => return false
    | some tenantId =>
      if ← ask (O.issuer.addGenDomain O.domain tenantId.hyphenated) then O.clientDelayedInit
      else return false

def attemptOnline (now : ℕ) : Fn W ρ Bool := do
  if ← O.delayedInit then
    if ← ask O.issuer.probeProvider then
      setState .online
      return true
    else
      setState (.offlineNextCheck (now + 15))
      return false
  else
    O.netDown
    return false

def checkOnline (now : ℕ) : Fn W ρ Bool := do
  match (← Body.get).provider.state with
  | .online => return true
  | .offlineNextCheck atTime => if atTime ≤ now then O.attemptOnline now else return false
  | .offline => return false

/-! ## 5. The client -/

def notInitialized : MsalError := .requestFailed "OIDC client not initialized"

def initiateDeviceFlow : Fn W ρ (Option DeviceAuthResponse) := do
  if (← Body.get).provider.initialized then ask O.issuer.requestDeviceCode else return none

def acquireTokenByDeviceFlow (flow : DeviceAuthResponse) :
    Fn W ρ (Except MsalError OidcTokenResponse) := do
  if (← Body.get).provider.initialized then
    match ← ask (O.issuer.deviceCodeGrant flow) with
    | .ok token => return .ok token
    | .error none => return .error .mfaPollContinue
    | .error (some msg) => return .error (.generalFailure msg)
  else return .error notInitialized

/-- A request that cannot be sent is a `GeneralFailure` too. -/
def acquireTokenByRefreshToken (refreshToken : String) (scopes : List String) :
    Fn W ρ (Except MsalError OidcTokenResponse) := do
  if (← Body.get).provider.initialized then
    match ← ask (O.issuer.refreshTokenGrant refreshToken scopes) with
    | .ok token => return .ok token
    | .error msg => return .error (.generalFailure msg)
  else return .error notInitialized

/-- The uid and gid of a user: those of the static map, or one number for both. -/
def unixIds (tenantId : Uuid) (accountId : String) :
    Fn W ρ (Except IdpError (UInt32 × UInt32)) := do
  match ← ask O.issuer.staticIdCache with
  | none => return .error .badRequest
  | some users =>
    match users accountId with
    | some (uid, gid) => return .ok (uid, gid)
    | none =>
      match ← ask (O.issuer.genToUnix tenantId.hyphenated accountId) with
      | none => return .error .badRequest
      | some gid => return .ok (gid, gid)

def userToken (displayname : String) (objectId tenantId : Uuid) (uid gid : UInt32) : UserToken where
  name := accountId
  spn := accountId
  uuid := objectId
  realGidnumber := some uid
  gidnumber := gid
  displayname := flipDisplaynameComma O.issuer.trim displayname
  shell := some O.config.shell
  groups := [⟨accountId, accountId, objectId, gid⟩]
  tenantId := some tenantId
  valid := true

def userTokenFromOidc (token : OidcTokenResponse) (tenantId : Uuid) :
    Fn W ρ (Except IdpError UserToken) := do
  if (← Body.get).provider.initialized then
    match ← ask (O.issuer.userInfo token.accessToken) with
    | none => return .error .badRequest
    | some userinfo =>
      match userinfo.preferredUsername.or userinfo.email with
      | none => return .error .badRequest
      | some accountId =>
        match ← O.unixIds tenantId accountId with
        | .error e => return .error e
        | .ok (uid, gid) =>
          return .ok (O.userToken accountId (userinfo.name.getD "")
            (O.issuer.subjectUuid tenantId userinfo.subject) tenantId uid gid)
  else return .error .badRequest

/-- The user of the token is the requested one, up to letter case. -/
def tokenValidate (token : OidcTokenResponse) : Fn W ρ (Except IdpError AuthResult) := do
  match O.tenantId with
  | none => return .error .badRequest
  | some tenantId =>
    match ← O.userTokenFromOidc token tenantId with
    | .error e => return .error e
    | .ok token2 =>
      if O.outside.toLowercase accountId ≠ O.outside.toLowercase token2.name then
        return .ok (.denied
          ("Authenticated user " ++ token2.uuid.hyphenated ++ " does not match requested user"))
      else
        match token.refreshToken with
        | some refreshToken =>
          O.refreshCacheAdd accountId (.refreshToken refreshToken)
          log (.validated accountId token2)
          return .ok (.success token2)
        | none =>
          log (.validated accountId token2)
          return .ok (.success token2)

/-! ## 6. `unix_user_online_auth_init` -/

def mfaHandler (flow : MFAAuthContinue) (extraData : String) : AuthCredHandler :=
  .mfa flow none (some extraData) none

def serializeOidcMfaExtraData (extra : OidcMfaExtraData) (e : IdpError → ρ) : Fn W ρ String :=
  match O.issuer.extraToJson extra with
  | some raw => return raw
  | none => Body.leave (e .badRequest)

/-- `orchestrator_try_start`: anything but a first step falls back to the device flow. -/
def orchestratorTryStart (details : DeviceAuthResponse) (dagJson : String) :
    Fn W ρ (Option OrchestratorFlowState) := do
  match ← ask (O.issuer.startSession accountId O.oidcConfig.oidcIssuerUrl
    (details.verificationUriComplete.getD details.verificationUri) details.userCode) with
  | some (.nextStep sessionId requiredInputs) =>
    return some ⟨sessionId, requiredInputs, some dagJson⟩
  | _ => return none

def maybeStartOrchestratorFlow (details : DeviceAuthResponse) : Fn W InitAnswer Unit := do
  if O.oidcConfig.orchestratorEnabled then
    match O.issuer.dagToJson details with
    | none => Body.leave (.error .badRequest)
    | some dagJson =>
      match ← O.orchestratorTryStart accountId details dagJson with
      | none => return ()
      | some state =>
        let serialized ← O.serializeOidcMfaExtraData (.orchestrator state) .error
        Body.leave (.ok
          (authRequestFromOrchestratorInputs state.requiredInputs O.pollIntervalSecs,
            mfaHandler { defaultFlow with pollingInterval := some O.pollIntervalMillis }
              serialized))
  else return ()

/-- The device flow is opened, and the orchestrator asked to take part. -/
def initDeviceFlow : Fn W InitAnswer InitAnswer := do
  match ← O.initiateDeviceFlow with
  | none => return .error .badRequest
  | some details =>
    O.maybeStartOrchestratorFlow accountId details
    match O.issuer.dagToJson details with
    | none => return .error .badRequest
    | some dagJson =>
      let extraData ← O.serializeOidcMfaExtraData (.deviceFlow dagJson) .error
      let flow := mfaFromOidcDevice details
      return .ok (HimmelblauProvider.pollRequest flow, mfaHandler flow extraData)

def pinUnavailable (service : String) (noHelloPin forceReauth : Bool) (c : Ctx W) : Bool :=
  !(O.fetchHelloKey accountId c.keystore).isOk || !O.config.enableHello ||
    (O.config.isRemoteService service && !O.config.enableHelloTotp && !O.config.allowRemoteHello) ||
    decide (O.config.helloPinRetryCount < c.provider.badPinCounter accountId) ||
    noHelloPin || forceReauth

def unixUserOnlineAuthInit (service : String) (noHelloPin forceReauth : Bool) :
    Fn W InitAnswer InitAnswer := do
  if ← O.delayedInit then
    if O.pinUnavailable accountId service noHelloPin forceReauth (← Body.get) then
      O.initDeviceFlow accountId
    else
      let now ← ask O.outside.now
      if ← O.attemptOnline now then return .ok (.pin, .none)
      else return .error .badRequest
  else
    O.netDown
    return .ok (.initDenied "Network outage detected.", .none)

end OidcProvider

end Himmelblau.Oidc
