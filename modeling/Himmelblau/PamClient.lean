/-
  **The PAM side of a login** (mirror of `authenticate` and of the `handle_pam_auth_response_*` of
  `common/src/auth.rs`).  The client sends a request, and what the daemon answers decides what the
  user is asked and which request is sent next, until a PAM code is returned.

  What is outside comes with each answer: the radio, and how a ceremony with a security key ends.
  What the user types is a list, used up from its front; a prompt for which nothing is left is one
  that was not answered.
-/
import Himmelblau.Daemon
import Himmelblau.PinPolicy
import Himmelblau.Sids

namespace Himmelblau.PamClient

open Interface Config Sids FunctionBody PinPolicy

/-! ## 1. The state of a conversation -/

inductive PamResultCode where
  | success
  | serviceErr
  | systemErr
  | authErr
  | credInsufficient
  | userUnknown
  | ignore
  | abort
  deriving DecidableEq, Repr

def PamResultCode.text : PamResultCode → String
  | .success => "PAM_SUCCESS"
  | .serviceErr => "PAM_SERVICE_ERR"
  | .systemErr => "PAM_SYSTEM_ERR"
  | .authErr => "PAM_AUTH_ERR"
  | .credInsufficient => "PAM_CRED_INSUFFICIENT"
  | .userUnknown => "PAM_USER_UNKNOWN"
  | .ignore => "PAM_IGNORE"
  | .abort => "PAM_ABORT"

structure Options where
  ignoreUnknownUser : Bool
  mfaPollPrompt : Bool
  noHelloPin : Bool
  forceReauth : Bool
  deriving DecidableEq, Repr

/-- What does not change in a conversation: its account, service and options, what the client reads
    of the configuration, the policies on the device, and the QR codes, which other libraries
    render. -/
structure Client where
  accountId : String
  service : String
  opts : Options
  oidcIssuerUrl : Option String
  entraIdPasswordPrompt : String
  helloPinPrompt : String
  helloPinMinLength : ℕ
  policyCache : PolicyCache
  generateUnicodeQr : String → Option String
  /-- The QR code of the first URL in a text. -/
  urlQr : String → Option String
  helloTotpEnrollFallbackMsg : String → Except String String

inductive PamEvent where
  | text (msg : String)
  | prompt (text : String) (answer : Option String)
  | slept (secs : ℕ)
  | ceremony (succeeds : Bool)
  deriving DecidableEq, Repr

/-- The fields of `AuthenticateState` that change, with what the user is going to type and what has
    happened. -/
structure AuthenticateState where
  authtok : Option String
  pollAttempt : Int32
  pollingInterval : UInt32
  input : List String
  transcript : List PamEvent
  deriving DecidableEq, Repr

inductive PamWhatNext where
  | next (req : ClientRequest)
  | finish (code : PamResultCode)
  deriving DecidableEq, Repr

inductive BluetoothState where
  | poweredOn
  | poweredOff
  | noAdapter
  deriving DecidableEq, Repr

/-- An answer of the daemon (`none` if the call fails or the answer is of another kind), and what
    the client finds outside while it handles it. -/
structure Turn where
  response : Option PamAuthResponse
  bluetooth : BluetoothState := .noAdapter
  /-- The first of the later checks that finds Bluetooth switched on. -/
  bluetoothEnabledAt : Option ℕ := none
  assertion : Except PamResultCode String := .error .authErr

abbrev Handler (α : Type) := Body AuthenticateState PamWhatNext α

/-! ## 2. The terminal -/

def record (e : PamEvent) : Handler Unit :=
  Body.modify fun s => { s with transcript := s.transcript ++ [e] }

def printText (msg : String) : Handler Unit := record (.text msg)

def sleep (secs : ℕ) : Handler Unit := record (.slept secs)

def asked (prompt : String) (answer : Option String) (rest : List String) : Handler Unit :=
  Body.modify fun s =>
    { s with input := rest, transcript := s.transcript ++ [.prompt prompt answer] }

def promptEchoOff (prompt : String) : Handler (Option String) := do
  match (← Body.get).input with
  | [] => do
    asked prompt none []
    return none
  | cred :: rest => do
    asked prompt (some cred) rest
    return some cred

/-- Abort the auth attempt, and don't continue executing the stack -/
def pamFail {α : Type} (msg : String) (ret : PamResultCode) : Handler α := do
  printText (ret.text ++ ": " ++ msg ++
    " \nIf you are now prompted for a password from pam_unix, " ++
    "please disregard the prompt, go back and try again.")
  sleep 2
  Body.leave (.finish .abort)

def promptOrFail (prompt missing : String) : Handler String := do
  match ← promptEchoOff prompt with
  | some cred => return cred
  | none => pamFail missing .credInsufficient

structure SecretTexts where
  msg : String
  new : String
  confirm : String
  noNew : String
  noConfirm : String

/-- A new secret, until it is not refused and typed twice.  A refusal has a text, and a pause or
    not. -/
def newSecretLoop (t : SecretTexts) (refuse : String → Option (String × Bool)) :
    List String → Handler String
  | [] => do
    printText t.msg
    asked t.new none []
    pamFail t.noNew .credInsufficient
  | cred :: rest => do
    printText t.msg
    asked t.new (some cred) rest
    match refuse cred with
    | some (why, pause) => do
      printText why
      if pause then sleep 2
      newSecretLoop t refuse rest
    | none => do
      printText t.msg
      match rest with
      | [] => do
        asked t.confirm none []
        pamFail t.noConfirm .credInsufficient
      | confirm :: rest => do
        asked t.confirm (some confirm) rest
        if cred = confirm then return cred
        else do
          printText "Inputs did not match. Try again."
          sleep 2
          newSecretLoop t refuse rest

/-! ## 3. The handlers -/

namespace Client

variable (C : Client) (msg : String)

def isGraphical : Bool := containsText C.service "gdm"

def pollText : String :=
  if !containsText msg "https://microsoft.com/devicelogin" && trim msg != "" then
    msg ++ "\nNo push? Check your mobile device's internet connection."
  else if C.service != "gdm-password" then
    match C.urlQr msg with
    | some qr => msg ++ "\n" ++ qr
    | none => msg
  else msg

/-- The message of a poll is shown, and confirmed where SSH would not show it otherwise. -/
def showPoll : Handler Unit := do
  if trim msg != "" then printText msg
  -- Necessary because of OpenSSH bug
  if C.opts.mfaPollPrompt && containsText C.service "ssh" && trim msg != "" then
    let _ ← promptEchoOff "Press enter to continue"

def startPoll (pollingInterval : UInt32) : Handler PamWhatNext := do
  -- Do not allow concurrent MFA polling
  if 0 ≤ (← Body.get).pollAttempt then pamFail "Unexpected error occurred." .systemErr
  else
    Body.modify fun s => { s with pollAttempt := 0 }
    Body.modify fun s => { s with pollingInterval := pollingInterval }
    sleep pollingInterval.toNat
    return .next (.pamAuthenticateStep (.mfaPoll (0 : Int32).toUInt32))

def handlePamAuthResponseMfapoll (pollingInterval : UInt32) : Handler PamWhatNext := do
  C.showPoll (C.pollText msg)
  startPoll pollingInterval

def handlePamAuthResponseMfapollwait : Handler PamWhatNext := do
  let s ← Body.get
  -- MFAPollWait received before MFAPoll; starting polling loop from attempt 0
  let nextPollAttempt := if s.pollAttempt < 0 then 0 else s.pollAttempt + 1
  sleep s.pollingInterval.toNat
  Body.modify fun s => { s with pollAttempt := nextPollAttempt }
  return .next (.pamAuthenticateStep (.mfaPoll nextPollAttempt.toUInt32))

def handlePamAuthResponseUnknown : Handler PamWhatNext :=
  return .finish (if C.opts.ignoreUnknownUser then .ignore else .userUnknown)

def handlePamAuthResponseSuccess : Handler PamWhatNext := return .finish .success

def init : ClientRequest :=
  .pamAuthenticateInit C.accountId C.service C.opts.noHelloPin C.opts.forceReauth

def handlePamAuthResponseDenied : Handler PamWhatNext := do
  printText msg
  sleep 2
  return .next C.init

/-- Swap the authtok out with a None, so it can only be consumed once. -/
def takeAuthtok : Handler (Option String) :=
  Body.call fun s => (s.authtok, { s with authtok := none })

def handlePamAuthResponsePassword : Handler PamWhatNext := do
  match ← takeAuthtok with
  | some cred => return .next (.pamAuthenticateStep (.password cred))
  | none => do
    if C.oidcIssuerUrl.isNone then printText C.entraIdPasswordPrompt
    let cred ← promptOrFail
      (if C.oidcIssuerUrl.isSome then "Cloud Password:" else "Entra Id Password:")
      "No Entra Id password was supplied."
    return .next (.pamAuthenticateStep (.password cred))

def handlePamAuthResponseMfacode : Handler PamWhatNext := do
  printText msg
  let cred ← promptOrFail "Code: " "No Entra Id auth code was supplied."
  return .next (.pamAuthenticateStep (.mfaCode cred))

def handlePamAuthResponseHellototp : Handler PamWhatNext := do
  -- GDM will render its own QR code if qr-greeter is installed.
  if "otpauth://".toList.isPrefixOf msg.toList && C.service != "gdm-password" then
    match C.generateUnicodeQr msg with
    | some qr =>
      printText ("Open your authenticator app and scan this QR code to enroll. " ++
        "Then enter the generated code.\n" ++ qr)
    | none =>
      match C.helloTotpEnrollFallbackMsg msg with
      | .ok msg => printText msg
      | .error msg => pamFail msg .systemErr
  else printText msg
  let cred ← promptOrFail "TOTP Code: " "No Hello TOTP code was supplied."
  return .next (.pamAuthenticateStep (.helloTOTP cred))

def refusePin (cred : String) : Option (String × Bool) :=
  if cred.utf8ByteSize < C.helloPinMinLength then
    some ("Chosen pin is too short! " ++ toString C.helloPinMinLength ++ " chars required.", true)
  else if isSimplePin cred then
    some ("PIN must not use repeating or predictable sequences. " ++
      "Avoid patterns like '111111', '123456', or '135791'.", true)
  else
    match meetsIntunePinPolicy C.policyCache cred with
    | .error msg => some (msg, true)
    | .ok () => none

def handlePamAuthResponseSetupPin : Handler PamWhatNext := do
  let msg := msg ++ "\nThe minimum PIN length is " ++ toString C.helloPinMinLength ++ " characters."
  let pin ← newSecretLoop
    ⟨msg, "New PIN: ", "Confirm PIN: ", "No Entra Id Hello PIN was supplied.",
      "No Entra Id Hello confirmation PIN was supplied."⟩ C.refusePin (← Body.get).input
  printText "Enrolling the Hello PIN. Please wait..."
  return .next (.pamAuthenticateStep (.setupPin pin))

def handlePamAuthResponsePin : Handler PamWhatNext := do
  match ← takeAuthtok with
  | some cred => return .next (.pamAuthenticateStep (.pin cred))
  | none => do
    printText C.helloPinPrompt
    let cred ← promptOrFail "PIN: " "No Entra Id Hello PIN was supplied."
    return .next (.pamAuthenticateStep (.pin cred))

def securityKeyCeremony (t : Turn) (failure : String) : Handler String := do
  match t.assertion with
  | .ok assertion =>
    record (.ceremony true)
    return assertion
  | .error e =>
    record (.ceremony false)
    pamFail failure e

/-- The client waits for Bluetooth only where the user can be told to switch it on. -/
def awaitsBluetooth (t : Turn) (hasCrossDevice : Bool) : Bool :=
  hasCrossDevice && t.bluetooth == .poweredOff && C.isGraphical

/-- Whether the phone can be used, after the client has waited for Bluetooth if it has to. -/
def canQrBluetooth (t : Turn) (hasPhysicalSecurityKey hasCrossDevice : Bool) : Handler Bool := do
  let canQrBluetooth := hasCrossDevice && t.bluetooth == .poweredOn
  if !hasPhysicalSecurityKey && !canQrBluetooth && C.awaitsBluetooth t hasCrossDevice then
    printText "Enable Bluetooth to sign in with your phone."
    match t.bluetoothEnabledAt.filter (· < 30) with
    | some i => do
      sleep (i + 1)
      return true
    | none => do
      sleep 30
      return false
  else return canQrBluetooth

def handlePamAuthResponseFido (t : Turn) (hasPhysicalSecurityKey hasCrossDevice : Bool) :
    Handler PamWhatNext := do
  let canQrBluetooth ← C.canQrBluetooth t hasPhysicalSecurityKey hasCrossDevice
  if !hasPhysicalSecurityKey && !canQrBluetooth then
    -- no usable FIDO hardware, requesting fallback to password
    return .next (.pamAuthenticateStep .fidoUnavailable)
  else
    let assertion ← securityKeyCeremony t
      (if hasPhysicalSecurityKey && canQrBluetooth && C.isGraphical then
        "Security key and QR/Bluetooth authentication failed."
      else if canQrBluetooth && C.isGraphical then "QR/Bluetooth authentication failed."
      else "Security key authentication failed.")
    return .next (.pamAuthenticateStep (.fido assertion))

/-- Entra Id requires a minimum password length of 8 characters -/
def refusePassword (cred : String) : Option (String × Bool) :=
  if cred.utf8ByteSize < 8 then some ("Chosen password is too short! 8 chars required.", false)
  else none

def handlePamAuthResponseChangePassword : Handler PamWhatNext := do
  let password ← newSecretLoop
    ⟨msg, "New password: ", "Confirm password: ", "No Entra Id password was supplied.",
      "No Entra Id confirmation password was supplied."⟩ refusePassword (← Body.get).input
  printText "Changing the password. Please wait..."
  return .next (.pamAuthenticateStep (.password password))

def handlePamAuthInitDenied : Handler PamWhatNext := pamFail msg .abort

def authenticateRequestResponse (t : Turn) : Handler PamWhatNext :=
  match t.response with
  | none => pamFail "An unexpected error occurred." .ignore
  | some .unknown => C.handlePamAuthResponseUnknown
  | some .success => handlePamAuthResponseSuccess
  | some (.denied msg) => C.handlePamAuthResponseDenied msg
  | some (.initDenied msg) => handlePamAuthInitDenied msg
  | some .password => C.handlePamAuthResponsePassword
  | some (.mfaCode msg) => handlePamAuthResponseMfacode msg
  | some (.helloTOTP msg) => C.handlePamAuthResponseHellototp msg
  | some (.mfaPoll msg pollingInterval) => C.handlePamAuthResponseMfapoll msg pollingInterval
  | some .mfaPollWait => handlePamAuthResponseMfapollwait
  | some (.setupPin msg) => C.handlePamAuthResponseSetupPin msg
  | some .pin => C.handlePamAuthResponsePin
  | some (.fido _ _ hasPhysicalSecurityKey hasCrossDevice) =>
    C.handlePamAuthResponseFido t hasPhysicalSecurityKey hasCrossDevice
  | some (.changePassword msg) => handlePamAuthResponseChangePassword msg

end Client

/-! ## 4. The loop of `authenticate` -/

/-- A conversation: the requests sent so far, the last of which waits for its answer, or the code
    that was returned. -/
structure Conversation where
  sent : List ClientRequest
  state : AuthenticateState
  last : Option Turn
  result : Option PamResultCode

def Conversation.start (C : Client) (authtok : Option String) (input : List String) :
    Conversation :=
  ⟨[C.init], ⟨authtok, -1, 2, input, []⟩, none, none⟩

def Conversation.step (C : Client) (x : Conversation) (t : Turn) : Conversation :=
  match x.result with
  | some _ => x
  | none =>
    match (C.authenticateRequestResponse t).run x.state with
    | (.next req, s) => ⟨x.sent ++ [req], s, some t, none⟩
    | (.finish code, s) => ⟨x.sent, s, some t, some code⟩

end Himmelblau.PamClient
