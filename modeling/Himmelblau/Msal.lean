/-
  **What the Entra provider finds outside this repository**: the broker client of
  `libhimmelblau`, the TPM, the TOTP library, the clock and the host.  They are one
  record of functions over a state `W` of the world, which every answer may depend on
  and change, so that nothing is assumed of them.

  The errors of the client keep the parts that the provider reads.
-/
import Himmelblau.Interface

namespace Himmelblau.Msal

open Interface

/-! ## 1. Errors -/

structure ErrorResponse where
  errorDescription : String
  errorCodes : List UInt32
  deriving DecidableEq, Repr

/-- `text` is what the error displays as. -/
structure AADSTSError where
  code : UInt32
  text : String
  deriving DecidableEq, Repr

inductive MsalError where
  | invalidJson (msg : String)
  | invalidBase64 (msg : String)
  | invalidParse (msg : String)
  | invalidRegex (msg : String)
  | formatError (msg : String)
  | acquireTokenFailed (errorResponse : ErrorResponse)
  | requestFailed (msg : String)
  | authTypeUnsupported
  | tpmFail (msg : String)
  | urlFormatFailed (msg : String)
  | deviceEnrollmentFail (msg : String)
  | cryptoFail (msg : String)
  | configError (msg : String)
  | mfaPollContinue
  | aadstsError (err : AADSTSError)
  | missing (msg : String)
  | changePassword
  | passwordRequired
  | consentRequested (msg : String)
  | authCodeReceived (msg : String)
  | mfaRequired
  | generalFailure (msg : String)
  deriving DecidableEq, Repr

/-- AADSTS65002: consent between first party application and resource is required. -/
def consentRequired : UInt32 := 65002

/-- AADSTS50125: `PasswordResetRegistrationRequiredInterrupt`. -/
def passwordResetRegistrationRequired : UInt32 := 50125

def ssprMessage : String :=
  "Password reset registration required. Complete setup at https://aka.ms/ssprsetup from " ++
    "another device, then try again."

def msalErrorToUserMessage : MsalError → String
  | .invalidJson _ | .invalidBase64 _ | .invalidParse _ | .invalidRegex _ | .formatError _ =>
    "Authentication failed: Invalid server response."
  | .acquireTokenFailed errorResponse =>
    if errorResponse.errorCodes.contains passwordResetRegistrationRequired then ssprMessage
    else errorResponse.errorDescription
  | .requestFailed _ => "Authentication failed: Unable to reach authentication server."
  | .authTypeUnsupported => "Authentication failed: Authentication method not supported."
  | .tpmFail _ => "Authentication failed: Security hardware error."
  | .urlFormatFailed _ => "Authentication failed: Configuration error."
  | .deviceEnrollmentFail _ => "Device enrollment failed. Please contact your administrator."
  | .cryptoFail _ => "Authentication failed: Cryptographic error."
  | .configError _ => "Authentication failed: Configuration error."
  | .mfaPollContinue => "Authentication in progress."
  | .aadstsError err =>
    if err.code = passwordResetRegistrationRequired then ssprMessage else err.text
  | .missing _ => "Authentication failed: Missing required data."
  | .changePassword => "Password change required. Please contact your administrator."
  | .passwordRequired => "Password entry required."
  | .consentRequested _ => "Consent required. Please contact your administrator."
  | .authCodeReceived _ => "Authentication in progress."
  | .mfaRequired => "Multi-factor authentication required."
  | .generalFailure _ => "Authentication failed. Please contact your administrator."

def isSsprRequired : MsalError → Bool
  | .acquireTokenFailed resp => resp.errorCodes.contains passwordResetRegistrationRequired
  | .aadstsError err => err.code == passwordResetRegistrationRequired
  | _ => false

/-! ## 2. The world -/

abbrev Ext (W α : Type) := W → α × W

structure PinValue where
  value : String
  deriving DecidableEq, Repr

structure StorageKey where
  handle : String
  deriving DecidableEq, Repr

/-- Unsealed bytes: the text they are, if they are UTF-8. -/
structure Unsealed where
  text : Option String
  deriving DecidableEq, Repr

/-- The parts of `check_user_exists`'s answer that are read. -/
structure AuthInit where
  userExists : Bool
  passwordless : Bool
  deriving DecidableEq, Repr

/-- A TOTP enrolment: the record that is sealed, and its secret in base 32. -/
structure TotpEnrollment where
  recordJson : String
  secretB32 : String
  deriving DecidableEq, Repr

/-- The answers of the outside.  The machine key, the TPM handle and constant
    arguments (`None` for a resource, `true` for a renewal) are left out of the
    arguments; an error whose content nothing reads is `none`. -/
structure Outside (W : Type) where
  toLowercase : String → String
  now : Ext W ℕ
  hostname : String
  urlencode : String → String
  /-- `{:?}` of an error -/
  debug : MsalError → String
  deviceAuthFail : UInt32
  pinValueNew : String → Option PinValue
  msHelloKeyCreate : PinValue → Ext W (Option LoadableMsHelloKey)
  msHelloKeyLoad : LoadableMsHelloKey → PinValue → Ext W (Option StorageKey)
  sealData : StorageKey → String → Ext W (Option SealedData)
  unsealData : StorageKey → SealedData → Ext W (Option Unsealed)
  totpGenerate : (issuer accountName : String) → Ext W (Option TotpEnrollment)
  /-- parse the record, build the TOTP and check the code; `none` is an error on the way -/
  totpCheckCurrent : (recordJson cred : String) → Ext W (Option Bool)
  checkUserExists : (accountId : String) → List AuthOption → Ext W (Except MsalError AuthInit)
  provisionHelloForBusinessKey : UnixUserToken → (pin : String) →
    Ext W (Except MsalError LoadableMsHelloKey)
  acquireTokenByHelloForBusinessKey : (accountId : String) → LoadableMsHelloKey →
    (scopes : List String) → (clientId : Option String) → (pin : String) →
    Ext W (Except MsalError UnixUserToken)
  sealUserPrtWithHelloKey : (prt : SealedData) → LoadableMsHelloKey → (pin : String) →
    Ext W (Except MsalError SealedData)
  unsealUserPrtWithHelloKey : (helloPrt : SealedData) → LoadableMsHelloKey → (pin : String) →
    Ext W (Except MsalError SealedData)
  isPrtExpired : (prt : SealedData) → Ext W (Option Bool)
  exchangePrtForAccessToken : (prt : SealedData) → (scopes : List String) →
    (clientId redirectUri reqCnf : Option String) → Ext W (Except MsalError UnixUserToken)
  /-- with the ten second time-out where the source has one, which is an error too -/
  exchangePrtForPrt : (prt : SealedData) → Ext W (Except MsalError SealedData)
  acquireTokenByRefreshToken : (refreshToken : String) → (scopes : List String) →
    (clientId : Option String) → Ext W (Except MsalError UnixUserToken)
  acquireTokenByUsernamePassword :
    (accountId cred : String) → Ext W (Except MsalError UnixUserToken)
  initiateMfaFlow : (accountId : String) → (cred : Option String) → List AuthOption →
    Option AuthInit → (mfaMethod : Option String) → Ext W (Except MsalError MFAAuthContinue)
  initiateDeviceFlow : List AuthOption → Ext W (Except MsalError MFAAuthContinue)
  /-- the flow is updated in place -/
  acquireTokenByMfaFlow : (accountId : String) → (cred : Option String) →
    (pollAttempt : Option UInt32) → MFAAuthContinue →
    Ext W (Except MsalError UnixUserToken × MFAAuthContinue)
  handlePasswordChange : (accountId oldCred cred : String) → Ext W (Except MsalError Unit)
  /-- the transport key, the certificate key and the device id -/
  enrollDevice : (refreshToken : String) → Ext W (Except MsalError (String × String × String))
  acquirePrtSsoCookieWithNonce : (prt : SealedData) → (nonce : Option String) →
    Ext W (Option String)
  fetchTgts : (prt : SealedData) → Ext W (Option String × Option String × Option String)
  publicClientNew : Ext W (Option Unit)
  publicClientAcquireTokenByRefreshToken : (refreshToken : String) → (scopes : List String) →
    Ext W (Except MsalError UnixUserToken)
  probeAuthorityHost : Ext W Bool
  discoverTenant : Ext W (Option String)
  domainsAreAliases : (domain1 domain2 : String) → Ext W Bool
  intuneEnroll :
    (deviceId : Option String) → UnixUserToken → Ext W (Except IdpError (String × String))
  writeServerConfig : Ext W Bool
  userTokenFromUnixUserToken : (spn : String) → UnixUserToken → Option UserToken →
    Ext W (Except IdpError UserToken)
  confidentialUser :
    (accountId : String) → Option UserToken → Ext W (Except IdpError (Option UserToken))
  /-- the uid and gid of a user that never logged in -/
  placeholderIds : (accountId : String) → Ext W (Except IdpError (UInt32 × UInt32))
  staticIdCacheOpens : Ext W Bool
  newUuid : Ext W Uuid
  graphTenantId : Ext W (Option Uuid)
  serializePrts : (String → Option (SealedData × ℕ)) → Option String
  deserializePrts : String → Option (List (String × SealedData × ℕ))

end Himmelblau.Msal
