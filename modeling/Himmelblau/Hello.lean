/-
  **Hello keys, PINs and TOTP codes** (mirror of `idprovider/common.rs`, with the helpers
  of `himmelblau.rs` that its macros call): the tags of the keystore, the caches and the
  counter of the Entra provider, the handling of bad PINs, the offline login, TOTP codes
  and the change of a PIN.  A macro with a `return` in it is a `Body`.

  Next to what the source keeps, the provider's state has a `trace`, newest first: what
  was tried, counted, reset, stored, validated and answered.  No function reads it.
-/
import Himmelblau.Config
import Himmelblau.FunctionBody
import Himmelblau.Msal

namespace Himmelblau.Entra

open Interface Config Msal FunctionBody

/-! ## 1. The state of the provider -/

inductive KeyType where
  | hello
  | decoupled
  deriving DecidableEq, Repr

inductive TokenRequest where
  | helloKey
  | prt
  | refreshToken
  deriving DecidableEq, Repr

inductive Event where
  /-- a PIN was tried on the Hello key, and loaded it or did not -/
  | pinTried (account : String) (loaded : Bool)
  /-- a TOTP code was checked -/
  | codeTried (account : String) (accepted : Bool)
  /-- an attempt was counted, and the counter is now `count` -/
  | counted (account : String) (count : UInt32)
  | reset (account : String)
  /-- the identity provider answered a request for a token (`none`: with the token) -/
  | tokenAnswer (account : String) (request : TokenRequest) (error : Option MsalError)
  | helloKeyStored (account : String)
  /-- `token_validate` accepted a token and built the user token -/
  | validated (account : String) (token : UserToken)
  /-- the step is going to answer `Success` -/
  | success (account : String)
  deriving DecidableEq, Repr

def Event.account : Event → String
  | pinTried account _ | codeTried account _ | counted account _ | reset account
  | tokenAnswer account _ _ | helloKeyStored account | validated account _
  | success account => account

inductive RefreshCacheEntry where
  | prt (prt : SealedData)
  | refreshToken (refreshToken : String)
  deriving DecidableEq, Repr

/-- The mutable parts of `HimmelblauProvider`.  `deviceId` and `intuneDeviceId` are the
    entries of the domain's section that the provider writes itself. -/
structure ProviderState (W : Type) where
  state : CacheState
  initialized : Bool
  tenantId : Option String
  deviceId : Option String
  intuneDeviceId : Option String
  refreshCache : String → Option (SealedData × ℕ)
  refreshTokenCache : String → Option (String × ℕ)
  badPinCounter : String → UInt32
  world : W
  trace : List Event

/-- What a provider function works on: the keystore, the provider and the credential
    handler of the session. -/
structure Ctx (W : Type) where
  keystore : KeyStore
  provider : ProviderState W
  credHandler : AuthCredHandler

abbrev Fn (W ρ α : Type) := Body (Ctx W) ρ α

variable {W ρ α β : Type}

namespace Ctx

def ask (f : Ext W α) : Fn W ρ α :=
  Body.call fun c =>
    ((f c.provider.world).1, { c with provider.world := (f c.provider.world).2 })

def log (e : Event) : Fn W ρ Unit :=
  Body.modify fun c => { c with provider.trace := e :: c.provider.trace }

def setState (state : CacheState) : Fn W ρ Unit :=
  Body.modify fun c => { c with provider.state := state }

def setCredHandler (credHandler : AuthCredHandler) : Fn W ρ Unit :=
  Body.modify fun c => { c with credHandler := credHandler }

def getKeystore : Fn W ρ KeyStore := do return (← Body.get).keystore

def insertTaggedHsmKey (tag : String) (key : StoredKey) : Fn W ρ Unit :=
  Body.modify fun c => { c with keystore := Function.update c.keystore tag (some key) }

def deleteTaggedHsmKey (tag : String) : Fn W ρ Unit :=
  Body.modify fun c => { c with keystore := Function.update c.keystore tag none }

end Ctx

open Ctx

/-! What does not decode as the key that is asked for is not there. -/

def helloKeyOf : Option StoredKey → Option LoadableMsHelloKey
  | some (.helloKey key) => some key
  | _ => none

def sealedDataOf : Option StoredKey → Option SealedData
  | some (.sealedData data) => some data
  | _ => none

def deviceKeyOf : Option StoredKey → Option String
  | some (.other json) => some json
  | _ => none

/-- `HimmelblauProvider`: its domain, its configuration and what it talks to. -/
structure HimmelblauProvider (W : Type) where
  domain : String
  config : HimmelblauConfig
  outside : Outside W

namespace HimmelblauProvider

variable (P : HimmelblauProvider W) (accountId : String) (token : UnixUserToken)
  (helloKey : LoadableMsHelloKey)

/-! ## 2. Tags -/

def fetchHelloKeyTag (amrNgcmfa : Bool) : String :=
  if amrNgcmfa then P.outside.toLowercase accountId ++ "/hello"
  else P.outside.toLowercase accountId ++ "/hello_decoupled"

def fetchHelloPrtKeyTag : String :=
  P.outside.toLowercase accountId ++ "/hello_prt"

def fetchHelloRefreshTokenKeyTag : String :=
  P.outside.toLowercase accountId ++ "/hello_refresh_token"

def fetchHelloTotpKeyTag : String :=
  P.outside.toLowercase accountId ++ "/hello_totp"

def fetchCertKeyTag : String := P.domain ++ "/certificate"

def fetchIntuneKeyTag : String := P.domain ++ "/intune"

def fetchTranportKeyTag : String := P.domain ++ "/transport"

def fetchHelloKey (keystore : KeyStore) : Except IdpError (LoadableMsHelloKey × KeyType) :=
  match helloKeyOf (keystore (P.fetchHelloKeyTag accountId true)) with
  | some helloKey => .ok (helloKey, .hello)
  | none =>
    match helloKeyOf (keystore (P.fetchHelloKeyTag accountId false)) with
    | some helloKey => .ok (helloKey, .decoupled)
    | none => .error .badRequest

/-! ## 3. The caches in memory -/

/-- `RefreshCache::purge`: entries go after 24 h. -/
def purge : Fn W ρ Unit := do
  let now ← ask P.outside.now
  Body.modify fun c => { c with
    provider.refreshCache := fun k => (c.provider.refreshCache k).filter (now ≤ ·.2 + 86400)
    provider.refreshTokenCache := fun k =>
      (c.provider.refreshTokenCache k).filter (now ≤ ·.2 + 86400) }

def refreshToken : Fn W ρ (Except IdpError RefreshCacheEntry) := do
  P.purge
  let c ← Body.get
  match c.provider.refreshCache (P.outside.toLowercase accountId) with
  | some (prt, _) => return .ok (.prt prt)
  | none =>
    match c.provider.refreshTokenCache (P.outside.toLowercase accountId) with
    | some (refreshToken, _) => return .ok (.refreshToken refreshToken)
    | none => return .error (.notFound "account_id" "refresh_cache")

def refreshCacheAdd (entry : RefreshCacheEntry) : Fn W ρ Unit := do
  let now ← ask P.outside.now
  let key := P.outside.toLowercase accountId
  match entry with
  | .prt prt => Body.modify fun c => { c with
      provider.refreshCache := Function.update c.provider.refreshCache key (some (prt, now)) }
  | .refreshToken token => Body.modify fun c => { c with
      provider.refreshTokenCache :=
        Function.update c.provider.refreshTokenCache key (some (token, now)) }

/-! ## 4. Bad PINs -/

/-- `increment_bad_pin_count`: a `u32` that wraps around. -/
def incrementBadPinCount : Fn W ρ Unit :=
  Body.modify fun c =>
    let count := c.provider.badPinCounter accountId + 1
    { c with
      provider.badPinCounter := Function.update c.provider.badPinCounter accountId count
      provider.trace := .counted accountId count :: c.provider.trace }

def resetBadPinCount : Fn W ρ Unit :=
  Body.modify fun c => { c with
    provider.badPinCounter := Function.update c.provider.badPinCounter accountId 0
    provider.trace := .reset accountId :: c.provider.trace }

def handleHelloBadPinCount (retFn : String → ρ) : Fn W ρ Unit := do
  incrementBadPinCount accountId
  let badPinCount := (← Body.get).provider.badPinCounter accountId
  if badPinCount = P.config.helloPinRetryCount then
    Body.leave (retFn ("Failed to authenticate with Hello PIN. One more failed attempt will " ++
      "require multi-factor authentication and resetting your Linux Hello PIN."))
  else if P.config.helloPinRetryCount < badPinCount then
    deleteTaggedHsmKey (P.fetchHelloKeyTag accountId true)
    deleteTaggedHsmKey (P.fetchHelloKeyTag accountId false)
    deleteTaggedHsmKey (P.fetchHelloPrtKeyTag accountId)
    deleteTaggedHsmKey (P.fetchHelloRefreshTokenKeyTag accountId)
    Body.leave (retFn
      "Too many incorrect PIN attempts. You will need to enroll a new Linux Hello PIN.")
  else return ()

def tryPin (pin : PinValue) : Fn W ρ (Option StorageKey) := do
  let winHelloStorageKey ← ask (P.outside.msHelloKeyLoad helloKey pin)
  log (.pinTried accountId winHelloStorageKey.isSome)
  return winHelloStorageKey

/-! ## 5. Being online -/

/-- Back off and wait a bit: `OFFLINE_NEXT_CHECK` is 15 s. -/
def netDown : Fn W ρ Unit := do
  let now ← ask P.outside.now
  setState (.offlineNextCheck (now + 15))

def delayedInit : Fn W ρ Bool := do
  if (← Body.get).provider.initialized then return true
  else
    match ← ask P.outside.discoverTenant with
    | none => return false
    | some tenantId =>
      Body.modify fun c => { c with
        provider.initialized := true
        provider.tenantId := some tenantId }
      let _ ← ask P.outside.writeServerConfig
      return true

def attemptOnline (now : ℕ) : Fn W ρ Bool := do
  if ← ask P.outside.probeAuthorityHost then
    setState .online
    return true
  else
    setState (.offlineNextCheck (now + 15))
    return false

def checkOnline (now : ℕ) : Fn W ρ Bool := do
  match (← Body.get).provider.state with
  | .online => return true
  | .offlineNextCheck atTime => if atTime ≤ now then P.attemptOnline now else return false
  | .offline => return false

/-! ## 6. Offline logins -/

def himmelblauOfflineAuthInit (noHelloPin passwordAuth : Bool) :
    Fn W ρ (Except IdpError (AuthRequest × AuthCredHandler)) := do
  let c ← Body.get
  let helloKey := P.fetchHelloKey accountId c.keystore
  if helloKey.isOk ∧ c.provider.badPinCounter accountId ≤ P.config.helloPinRetryCount ∧
      noHelloPin = false then
    return .ok (.pin, .none)
  else if passwordAuth = true ∧
      (P.config.enableSfaFallback = true ∨ P.config.offlineBreakglassEnabled = true) then
    return .ok (.password, .none)
  else return .ok (.initDenied "Network outage detected.", .none)

/-- Check for and decrypt any cached PRT.  It expires after 14 days without contact. -/
def loadCachedPrt (accountId cred : String) : Fn W (Except IdpError AuthResult) Unit := do
  match sealedDataOf ((← getKeystore) (P.fetchHelloPrtKeyTag accountId)) with
  | none => return ()
  | some helloPrt =>
    match ← ask (P.outside.unsealUserPrtWithHelloKey helloPrt helloKey cred) with
    | .error _ => Body.leave (.error .tpm)
    | .ok prt =>
      match ← ask (P.outside.isPrtExpired prt) with
      | none => Body.leave (.error .tpm)
      | some true => Body.leave (.ok (.denied
          "Offline auth has expired. Please connect to the network to continue."))
      | some false => P.refreshCacheAdd accountId (.prt prt)

/-- `unseal_data` and `String::from_utf8`, where both fail alike. -/
def unsealText (winHelloStorageKey : StorageKey) (data : SealedData) : Fn W ρ (Option String) := do
  match ← ask (P.outside.unsealData winHelloStorageKey data) with
  | none => return none
  | some bytes => return bytes.text

def loadCachedRefreshToken (winHelloStorageKey : StorageKey) (accountId : String) :
    Fn W (Except IdpError AuthResult) Unit := do
  match sealedDataOf ((← getKeystore) (P.fetchHelloRefreshTokenKeyTag accountId)) with
  | none => return ()
  | some sealedRefreshToken =>
    match ← P.unsealText winHelloStorageKey sealedRefreshToken with
    | none => Body.leave (.error .tpm)
    | some refreshToken => P.refreshCacheAdd accountId (.refreshToken refreshToken)

def checkHelloTotpSetup (keystore : KeyStore) : Bool :=
  (sealedDataOf (keystore (P.fetchHelloTotpKeyTag accountId))).isSome

def helloTotpPrompt : String := "Please enter your Hello TOTP code from your Authenticator: "

def offlinePin (token : UserToken) (cred : String) :
    Fn W (Except IdpError AuthResult) (Except IdpError AuthResult) := do
  let (helloKey, _) ← Body.orLeave (P.fetchHelloKey accountId (← getKeystore)) .error
  match P.outside.pinValueNew cred with
  | none => return .error .tpm
  | some pin =>
    match ← P.tryPin accountId helloKey pin with
    | some winHelloStorageKey =>
      P.loadCachedPrt helloKey accountId cred
      P.loadCachedRefreshToken winHelloStorageKey accountId
      if P.checkHelloTotpSetup accountId (← getKeystore) = true ∧
          P.config.enableHelloTotp = true then
        return .ok (.next (.helloTOTP helloTotpPrompt))
      else
        log (.success accountId)
        resetBadPinCount accountId
        return .ok (.success token)
    | none =>
      P.handleHelloBadPinCount accountId fun msg => .ok (.denied msg)
      return .ok (.denied "Failed to authenticate with Hello PIN.")

/-- The sealed secret a TOTP code is checked against: a pending one, or the stored one. -/
def sealedTotpSecret (pendingSealedTotp : Option SealedData)
    (keystore : KeyStore) : Except IdpError SealedData :=
  match pendingSealedTotp with
  | some pending => .ok pending
  | none =>
    match sealedDataOf (keystore (P.fetchHelloTotpKeyTag accountId)) with
    | some stored => .ok stored
    | none => .error .badRequest

/-- `TOTP::check_current`; `none` is an error on the way. -/
def tryCode (record cred : String) : Fn W ρ (Option Bool) := do
  match ← ask (P.outside.totpCheckCurrent record cred) with
  | none => return none
  | some accepted =>
    log (.codeTried accountId accepted)
    return some accepted

/-- A correct code: a pending secret is stored only now. -/
def totpAccepted (token : UserToken) (pending : Bool) (secret : SealedData)
    (authCacheAction : AuthResult → β) : Fn W (Except IdpError β) (Except IdpError β) := do
  if pending then insertTaggedHsmKey (P.fetchHelloTotpKeyTag accountId) (.sealedData secret)
  log (.success accountId)
  resetBadPinCount accountId
  return .ok (authCacheAction (.success token))

def totpDenied (authCacheAction : AuthResult → β) :
    Fn W (Except IdpError β) (Except IdpError β) := do
  P.handleHelloBadPinCount accountId fun msg => .ok (authCacheAction (.denied msg))
  return .ok (authCacheAction (.denied "Failed to authenticate with Hello TOTP code."))

def handleHelloPinTotpAuth (token : UserToken) (cred helloPin : String)
    (pendingSealedTotp : Option SealedData) (authCacheAction : AuthResult → β) :
    Fn W (Except IdpError β) (Except IdpError β) := do
  let secret ← Body.orLeave (P.sealedTotpSecret accountId pendingSealedTotp (← getKeystore)) .error
  let (helloKey, _) ← Body.orLeave (P.fetchHelloKey accountId (← getKeystore)) .error
  match P.outside.pinValueNew helloPin with
  | none => return .error .tpm
  | some pin =>
    match ← P.tryPin accountId helloKey pin with
    | none => P.totpDenied accountId authCacheAction
    | some winHelloStorageKey =>
      match ← P.unsealText winHelloStorageKey secret with
      | none => return .error .tpm
      | some record =>
        match ← P.tryCode accountId record cred with
        | none => return .error .tpm
        | some true =>
          P.totpAccepted accountId token pendingSealedTotp.isSome secret authCacheAction
        | some false => P.totpDenied accountId authCacheAction

def himmelblauOfflineAuthStep (token : UserToken) (req : PamAuthRequest) :
    Fn W (Except IdpError AuthResult) (Except IdpError AuthResult) := do
  match (← Body.get).credHandler, req with
  | _, .pin cred => P.offlinePin accountId token cred
  | .helloTOTP helloPin pendingSealedTotp, .helloTOTP cred =>
    P.handleHelloPinTotpAuth accountId token cred helloPin pendingSealedTotp id
  | _, _ => return .error .badRequest

/-! ## 7. Changing the PIN -/

def createDecoupledHelloKey (cred : String) : Fn W ρ (Option LoadableMsHelloKey) := do
  match P.outside.pinValueNew cred with
  | none => return none
  | some pin => ask (P.outside.msHelloKeyCreate pin)

def provisionOrCreateHelloKey (amrNgcmfa : Bool) (cred : String) :
    Fn W ρ (Option LoadableMsHelloKey) := do
  if amrNgcmfa then
    match ← ask (P.outside.provisionHelloForBusinessKey token cred) with
    | .error _ => return none
    | .ok helloKey => return some helloKey
  else P.createDecoupledHelloKey cred

def storeHelloKey (amrNgcmfa : Bool) (helloKey : LoadableMsHelloKey) : Fn W ρ Unit := do
  insertTaggedHsmKey (P.fetchHelloKeyTag accountId amrNgcmfa) (.helloKey helloKey)
  log (.helloKeyStored accountId)

def changeAuthToken (newTok : String) : Fn W (Except IdpError Bool) (Except IdpError Bool) := do
  if ← P.delayedInit then
    let now ← ask P.outside.now
    if ← P.checkOnline now then
      match token.amrNgcmfa with
      | none => return .error (.notFound "NGC MFA authorization in UnixUserToken"
          ("access token (" ++ token.tokenType ++ ")"))
      | some amrNgcmfa =>
        match token.spn with
        | none => return .error .badRequest
        | some spn =>
          -- Ensure the user is setting the token for the account it has authenticated to
          if P.outside.toLowercase accountId ≠ P.outside.toLowercase spn then
            return .error .badRequest
          else
            match ← P.provisionOrCreateHelloKey token amrNgcmfa newTok with
            | none => return .error .tpm
            | some helloKey =>
              P.storeHelloKey accountId amrNgcmfa helloKey
              return .ok true
    else return .error .badRequest
  else return .error .badRequest

/-! ## 8. Enrolling a TOTP secret, and sealing -/

/-- `impl_setup_hello_totp`: the secret stays with the session until a code is checked. -/
def setupHelloTotp (helloPin : String) :
    Fn W ρ (Except IdpError (AuthResult × AuthCacheAction)) := do
  let issuer := "Himmelblau " ++ P.outside.hostname
  match ← ask (P.outside.totpGenerate issuer accountId) with
  | none => return .error .tpm
  | some totp =>
    match P.outside.pinValueNew helloPin with
    | none => return .error .tpm
    | some pin =>
      match P.fetchHelloKey accountId (← getKeystore) with
      | .error e => return .error e
      | .ok (helloKey, _) =>
        match ← ask (P.outside.msHelloKeyLoad helloKey pin) with
        | none => return .error .tpm
        | some winHelloStorageKey =>
          match ← ask (P.outside.sealData winHelloStorageKey totp.recordJson) with
          | none => return .error .tpm
          | some sealedTotpSecret =>
            setCredHandler (.helloTOTP helloPin (some sealedTotpSecret))
            let issuer := P.outside.urlencode issuer
            return .ok (.next (.helloTOTP ("otpauth://totp/" ++ issuer ++ ":" ++
              P.outside.urlencode accountId ++ "?secret=" ++ totp.secretB32 ++ "&issuer=" ++
              issuer ++ "&algorithm=SHA1&digits=6&period=30")), .none)

def sealRefreshToken (pin refreshToken : String) : Fn W ρ (Option SealedData) := do
  match P.outside.pinValueNew pin with
  | none => return none
  | some pin =>
    match ← ask (P.outside.msHelloKeyLoad helloKey pin) with
    | none => return none
    | some winHelloStorageKey => ask (P.outside.sealData winHelloStorageKey refreshToken)

/-- The PRT of a token is sealed with the Hello key and stored, if it can be sealed.  Of a
    token without one it is the refresh token, and a failure is up to the caller. -/
def sealToken (pin : String) (onRefreshTokenError : Fn W ρ Unit) : Fn W ρ Unit := do
  match token.prt with
  | some prt =>
    match ← ask (P.outside.sealUserPrtWithHelloKey prt helloKey pin) with
    | .ok helloPrt => insertTaggedHsmKey (P.fetchHelloPrtKeyTag accountId) (.sealedData helloPrt)
    | .error _ => return ()
  | none =>
    match ← P.sealRefreshToken helloKey pin token.refreshToken with
    | some sealedRt =>
      insertTaggedHsmKey (P.fetchHelloRefreshTokenKeyTag accountId) (.sealedData sealedRt)
    | none => onRefreshTokenError

/-- `seal_prt_with_existing_hello_key`: failures are only logged. -/
def sealPrtWithExistingHelloKey (pin : String) : Fn W ρ Unit :=
  P.sealToken accountId token helloKey pin (return ())

end HimmelblauProvider

end Himmelblau.Entra
