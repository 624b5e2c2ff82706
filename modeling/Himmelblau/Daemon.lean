/-
  **The daemon's side of a connection** (mirror of `handle_client` in `daemon.rs`): which
  operations of the resolver a request sets off, with account names in lower case, and the
  authentication session that the connection keeps between requests.

  What goes back to the client is the answer of the operation, and what the task daemon is
  asked to do follows from it; both are left out here.
-/
import Himmelblau.EntraProvider
import Himmelblau.ResolverAuth

namespace Himmelblau

open Interface Db LockProgram Config Entra

variable {W : Type}

/-! ## 1. Requests -/

inductive ClientRequest where
  | nssAccounts
  | nssAccountByUid (gid : UInt32)
  | nssAccountByName (accountId : String)
  | nssGroups
  | nssGroupByGid (gid : UInt32)
  | nssGroupByName (grpId : String)
  | nssInitgroups (accountId : String)
  | pamAuthenticateInit (accountId service : String) (noHelloPin forceReauth : Bool)
  | pamAuthenticateStep (req : PamAuthRequest)
  | pamAccountAllowed (accountId : String)
  | pamAccountBeginSession (accountId : String)
  | pamChangeAuthToken (accountId accessToken refreshToken newPin : String)
  | invalidateCache
  | clearCache
  | offlineBreakGlass (ttl : Option ℕ)
  | status
  | complianceCheck
  | pamTryUnseal (accountId cred : String)
  deriving DecidableEq, Repr

def ResolverOp.isAuth : ResolverOp → Bool
  | .changeAuthToken .. | .pamAccountAuthenticateInit .. | .pamAccountAuthenticateStep ..
  | .pamTryUnseal .. => true
  | _ => false

/-- What the daemon is asked to do: a request of a client with user id `uid` on a
    connection, or an operation that the broker, the watcher of `/etc/passwd`, the start or
    the shutdown of the daemon runs. -/
inductive Input where
  | client (conn : ℕ) (uid : UInt32) (req : ClientRequest)
  | other (op : ResolverOp) (h : op.isAuth = false)

/-! ## 2. The daemon -/

/-- A resolver over the Entra provider, and the configuration that the handler reads.
    `tokenOf` is the token that is made of the two texts of a `PamChangeAuthToken`, with
    the claims that the client library finds in them. -/
structure Daemon (W : Type) where
  provider : HimmelblauProvider W
  resolver : Resolver (ProviderState W)
  client_eq : resolver.client = entraProvider provider
  tokenOf : (accessToken refreshToken : String) → UnixUserToken
  logonScript : Bool
  logonTokenScopes : List String
  logonTokenAppId : (domain : String) → Option String
  sudoGroups : List Uuid

structure DaemonState (W : Type) where
  resolver : ResolverState (ProviderState W)
  sessions : ℕ → Option AuthSession

namespace Daemon

variable (D : Daemon W) (s : DaemonState W)

def toLowercase (text : String) : String := D.provider.outside.toLowercase text

/-- The tokens of `apply_intune_policy_for_account`: for Graph, Intune and IWService. -/
def applyIntunePolicyForAccount (accountId : String) : Op (ProviderState W) Unit := do
  let _ ← D.resolver.getUserAccesstoken (.name accountId)
    ["00000003-0000-0000-c000-000000000000/.default"] (some defaultAppId) none none
  let _ ← D.resolver.getUserAccesstoken (.name accountId)
    ["0000000a-0000-0000-c000-000000000000/.default"] (some defaultAppId) none none
  let _ ← D.resolver.getUserAccesstoken (.name accountId)
    ["b8066b99-6e67-41be-abfa-75db1a2c8809/.default"] (some defaultAppId) none none

def logonScriptToken (accountId : String) : Op (ProviderState W) Unit := do
  if D.logonScript then
    let clientId := (splitUsername accountId).bind fun (_, domain) => D.logonTokenAppId domain
    let _ ← D.resolver.getUserAccesstoken (.name accountId) D.logonTokenScopes clientId none none
  else return ()

/-- What a login sets off: tokens for the logon script, the Kerberos caches, the profile
    picture and the Intune policies. -/
def afterLogin (accountId : String) : Op (ProviderState W) Unit := do
  D.logonScriptToken accountId
  let _ ← D.resolver.getUserTgts (.name accountId)
  let _ ← D.resolver.getUserAccesstoken (.name accountId) [] none none none
  if D.provider.config.applyPolicy then D.applyIntunePolicyForAccount accountId

def ifLoggedIn (resp : Except Unit PamAuthResponse) (session : AuthSession) :
    Op (ProviderState W) Unit :=
  match resp, session with
  | .ok .success, .success spn => D.afterLogin (D.toLowercase spn)
  | _, _ => return ()

def authenticateStep (req : PamAuthRequest) :
    Option AuthSession → Op (ProviderState W) (Option AuthSession)
  | none => return none
  | some session => do
    let (resp, session) ← D.resolver.pamAccountAuthenticateStep session req
    D.ifLoggedIn resp session
    return some session

/-- The membership of the sudo groups is looked up for the task daemon. -/
def beginSession (accountId : String) : Op (ProviderState W) Unit := do
  match ← D.resolver.pamAccountBeginsession accountId with
  | .ok (some _) => D.sudoGroups.forM fun g => do let _ ← D.resolver.getGroupmembers g
  | _ => return ()

def clearCache (uid : UInt32) : Op (ProviderState W) Unit := do
  if uid = 0 then let _ ← D.resolver.clearCache
  else return ()

def offlineBreakGlass (uid : UInt32) (ttl : Option ℕ) : Op (ProviderState W) Unit := do
  if uid = 0 then let _ ← D.resolver.offlineBreakGlass ttl
  else return ()

/-- The client's user id is looked up as a `gidnumber`, which is used as the NSS uid. -/
def complianceCheck (uid : UInt32) : Op (ProviderState W) Unit := do
  if D.provider.config.applyPolicy then
    match ← D.resolver.getNssaccountGid uid with
    | .ok (some nssUser) => D.applyIntunePolicyForAccount nssUser.name
    | _ => return ()
  else return ()

/-- The body of the loop of `handle_client`: the session after the request. -/
def handleClient (uid : UInt32) (session : Option AuthSession) :
    ClientRequest → Op (ProviderState W) (Option AuthSession)
  | .nssAccounts => do
    let _ ← D.resolver.getNssaccounts
    return session
  | .nssAccountByUid gid => do
    let _ ← D.resolver.getNssaccountGid gid
    return session
  | .nssAccountByName accountId => do
    let _ ← D.resolver.getNssaccountName (D.toLowercase accountId)
    return session
  | .nssGroups => do
    let _ ← D.resolver.getNssgroups
    return session
  | .nssGroupByGid gid => do
    let _ ← D.resolver.getNssgroupGid gid
    return session
  | .nssGroupByName grpId => do
    let _ ← D.resolver.getNssgroupName grpId
    return session
  | .nssInitgroups accountId => do
    let _ ← D.resolver.getInitgroups (D.toLowercase accountId)
    return session
  | .pamAuthenticateInit accountId service noHelloPin forceReauth => do
    -- We may re-init upon auth failure, and disregard the previous state then.
    match ← D.resolver.pamAccountAuthenticateInit (D.toLowercase accountId) service noHelloPin
      forceReauth with
    | .ok (authSession, _) => return some authSession
    | .error () => return session
  | .pamAuthenticateStep req => D.authenticateStep req session
  | .pamAccountAllowed accountId => do
    let _ ← D.resolver.pamAccountAllowed (D.toLowercase accountId)
    return session
  | .pamAccountBeginSession accountId => do
    D.beginSession (D.toLowercase accountId)
    return session
  | .pamChangeAuthToken accountId accessToken refreshToken newPin => do
    let _ ← D.resolver.changeAuthToken (D.toLowercase accountId)
      (D.tokenOf accessToken refreshToken) newPin
    return session
  | .invalidateCache => do
    let _ ← (Resolver.invalidate : Op (ProviderState W) _)
    return session
  | .clearCache => do
    D.clearCache uid
    return session
  | .offlineBreakGlass ttl => do
    D.offlineBreakGlass uid ttl
    return session
  | .status => do
    let _ ← D.resolver.testConnection
    return session
  | .complianceCheck => do
    D.complianceCheck uid
    return session
  | .pamTryUnseal accountId cred => do
    let _ ← D.resolver.pamTryUnseal (D.toLowercase accountId) cred
    return session

/-! ## 3. Runs -/

def step : Input → DaemonState W
  | .client conn uid req =>
    let r := (D.handleClient uid (s.sessions conn) req).exec s.resolver
    { resolver := r.2, sessions := Function.update s.sessions conn r.1 }
  | .other op _ => { s with resolver := ((op.prog D.resolver).exec s.resolver).2 }

def run (inputs : List Input) : DaemonState W := inputs.foldl D.step s

@[simp] theorem run_nil : D.run s [] = s := rfl

theorem run_cons (input : Input) (inputs : List Input) :
    D.run s (input :: inputs) = D.run (D.step s input) inputs := rfl

theorem run_append (inputs inputs' : List Input) :
    D.run s (inputs ++ inputs') = D.run (D.run s inputs) inputs' := List.foldl_append

/-- The daemon has just started: no client is connected, no transaction is open, and no PIN
    has been counted. -/
structure Started (s : DaemonState W) : Prop where
  sessions : s.sessions = fun _ => none
  txn : s.resolver.txn = none
  counters : s.resolver.client.badPinCounter = fun _ => 0
  trace : s.resolver.client.trace = []

end Daemon

/-! ## 4. A small installation -/

def sampleFlow : MFAAuthContinue where
  msg := "Approve the sign-in request"
  mfaMethod := "PhoneAppNotification"
  pollingInterval := some 5000
  maxPollAttempts := some 10
  fidoChallenge := none
  fidoAllowList := none
  hasPhysicalSecurityKey := false
  hasCrossDevicePasskey := false

def sampleToken (amrNgcmfa : Bool) : UnixUserToken where
  tokenType := "Bearer"
  spn := some "alice@example.com"
  uuid := some ⟨1⟩
  amrNgcmfa := some amrNgcmfa
  tenantId := some "tenant"
  prt := some ⟨"prt"⟩
  refreshToken := "refresh token"
  accessToken := some "access token"

def aliceFresh : UserToken :=
  { aliceToken with groups := [⟨"staff", "staff@example.com", ⟨7⟩, 7000⟩] }

/-- A world in which everything works and nothing changes.  A Hello key is its PIN, and what
    is sealed is the key it was sealed with. -/
def sampleOutside {W : Type} : Msal.Outside W where
  toLowercase text := text
  now w := (2000, w)
  hostname := "host"
  urlencode text := text
  debug _ := "error"
  deviceAuthFail := 50155
  pinValueNew cred := some ⟨cred⟩
  msHelloKeyCreate pin w := (some ⟨pin.value⟩, w)
  msHelloKeyLoad key pin w := (if key.blob = pin.value then some ⟨key.blob⟩ else none, w)
  sealData key _ w := (some ⟨key.handle⟩, w)
  unsealData key data w := (if data.blob = key.handle then some ⟨some "secret"⟩ else none, w)
  totpGenerate _ _ w := (some ⟨"secret", "SECRET"⟩, w)
  totpCheckCurrent _ cred w := (some (cred == "424242"), w)
  checkUserExists _ _ w := (.ok ⟨true, false⟩, w)
  provisionHelloForBusinessKey _ pin w := (.ok ⟨pin⟩, w)
  acquireTokenByHelloForBusinessKey _ _ _ _ _ w := (.ok (sampleToken true), w)
  sealUserPrtWithHelloKey _ key _ w := (.ok ⟨key.blob⟩, w)
  unsealUserPrtWithHelloKey data key _ w :=
    (if data.blob = key.blob then .ok ⟨"prt"⟩ else .error (.tpmFail "unseal"), w)
  isPrtExpired _ w := (some false, w)
  exchangePrtForAccessToken _ _ _ _ _ w := (.ok (sampleToken false), w)
  exchangePrtForPrt _ w := (.ok ⟨"prt"⟩, w)
  acquireTokenByRefreshToken _ _ _ w := (.ok (sampleToken false), w)
  acquireTokenByUsernamePassword _ _ w := (.ok (sampleToken false), w)
  initiateMfaFlow _ _ _ _ _ w := (.ok sampleFlow, w)
  initiateDeviceFlow _ w := (.ok sampleFlow, w)
  acquireTokenByMfaFlow _ _ _ flow w := ((.ok (sampleToken true), flow), w)
  handlePasswordChange _ _ _ w := (.ok (), w)
  enrollDevice _ w := (.ok ("transport", "certificate", "device"), w)
  acquirePrtSsoCookieWithNonce _ _ w := (none, w)
  fetchTgts _ w := ((none, none, none), w)
  publicClientNew w := (some (), w)
  publicClientAcquireTokenByRefreshToken _ _ w := (.ok (sampleToken false), w)
  probeAuthorityHost w := (true, w)
  discoverTenant w := (some "tenant", w)
  domainsAreAliases _ _ w := (false, w)
  intuneEnroll _ _ w := (.ok ("intune", "device"), w)
  writeServerConfig w := (true, w)
  userTokenFromUnixUserToken _ _ _ w := (.ok aliceFresh, w)
  confidentialUser _ _ w := (.ok none, w)
  placeholderIds _ w := (.ok (1000, 1000), w)
  staticIdCacheOpens w := (true, w)
  newUuid w := (⟨9⟩, w)
  graphTenantId w := (none, w)
  serializePrts _ := none
  deserializePrts _ := none

def sampleConfig (helloPinRetryCount : UInt32) (enableHelloTotp : Bool) : HimmelblauConfig where
  appId := none
  applyPolicy := false
  allowConsolePasswordOnly := false
  allowRemoteHello := false
  enableExperimentalMfa := true
  enableExperimentalPasswordlessFido := false
  enableHello := true
  enableHelloTotp := enableHelloTotp
  enablePasswordless := false
  enablePasswordlessQrBluetooth := false
  enablePasswordlessSecurityKey := false
  enableSfaFallback := false
  helloPinRetryCount := helloPinRetryCount
  mfaMethod := none
  offlineBreakglassEnabled := false
  offlineBreakglassTtl := 0
  passwordOnlyRemoteServicesDenyList := []
  shell := "/bin/bash"

def sampleProvider (helloPinRetryCount : UInt32) (enableHelloTotp : Bool) :
    HimmelblauProvider Unit where
  domain := "example.com"
  config := sampleConfig helloPinRetryCount enableHelloTotp
  outside := sampleOutside

def sampleDaemon (helloPinRetryCount : UInt32) (enableHelloTotp : Bool) : Daemon Unit where
  provider := sampleProvider helloPinRetryCount enableHelloTotp
  resolver := { outageResolver with
    client := entraProvider (sampleProvider helloPinRetryCount enableHelloTotp) }
  client_eq := rfl
  tokenOf accessToken _ := sampleToken (accessToken == "mfa")
  logonScript := false
  logonTokenScopes := []
  logonTokenAppId _ := none
  sudoGroups := []

def sampleProviderState (state : CacheState) : ProviderState Unit where
  state := state
  initialized := true
  tenantId := some "tenant"
  deviceId := some "device"
  intuneDeviceId := some "device"
  refreshCache _ := none
  refreshTokenCache _ := none
  badPinCounter _ := 0
  world := ()
  trace := []

def sampleKeystore (keys : List (String × StoredKey)) : KeyStore :=
  let device : List (String × StoredKey) := [("example.com/transport", .other "transport"),
    ("example.com/certificate", .other "certificate"), ("example.com/intune", .other "intune")]
  fun tag => (keys ++ device).lookup tag

def sampleState (state : CacheState) (keystore : KeyStore) : DaemonState Unit where
  resolver :=
    { db := { aliceState.db with hsmDataT := keystore }
      txn := none
      nxset := [.name "root", .gid 0]
      nxcache := []
      client := sampleProviderState state
      clock := fun n => 1000 + n
      ticks := 0
      entropy := 0
      serverConfig := true }
  sessions _ := none

theorem sampleState_started (state : CacheState) (keystore : KeyStore) :
    Daemon.Started (sampleState state keystore) := ⟨rfl, rfl, rfl, rfl⟩

def aliceKeystore : KeyStore :=
  sampleKeystore [("alice@example.com/hello", .helloKey ⟨"123456"⟩)]

def aliceTotpKeystore : KeyStore :=
  sampleKeystore [("alice@example.com/hello", .helloKey ⟨"123456"⟩),
    ("alice@example.com/hello_totp", .sealedData ⟨"123456"⟩)]

def sampleLogin (reqs : List PamAuthRequest) : List Input :=
  .client 0 1000 (.pamAuthenticateInit "alice@example.com" "login" false false) ::
    reqs.map fun req => .client 0 1000 (.pamAuthenticateStep req)

def aliceSession : InProgress where
  accountId := "alice@example.com"
  service := "login"
  id := .name "alice@example.com"
  token := some aliceToken
  onlineAtInit := true
  credHandler := .none
  noHelloPin := false
  forceReauth := false

end Himmelblau
