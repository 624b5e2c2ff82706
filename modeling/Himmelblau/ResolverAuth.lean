/-
  **The PAM side of the resolver** (mirror of the second half of `resolver.rs`):
  access decisions, authentication sessions, and the list of all operations a
  client can run.

  The two long functions are cut where the source has its blocks:
  `pam_account_authenticate_init` into what it finds out first, the online and the
  offline branch and the final match, `pam_account_authenticate_step` into its two
  branches, the cache action and the final match.
-/
import Himmelblau.Resolver

namespace Himmelblau

open Interface Db LockProgram

/-! ## 1. Sessions -/

structure InProgress where
  accountId : String
  service : String
  id : Id
  token : Option UserToken
  onlineAtInit : Bool
  credHandler : AuthCredHandler
  noHelloPin : Bool
  forceReauth : Bool
  deriving DecidableEq, Repr

inductive AuthSession where
  | inProgress (session : InProgress)
  | success (spn : String)
  | denied
  deriving DecidableEq, Repr

/-- The account whose cache state a step reads. -/
def AuthSession.account : AuthSession → Option String
  | .inProgress session => some session.accountId
  | _ => none

namespace Resolver

variable {P : Type}

section Authentication

variable (R : Resolver P) (accountId : String)

/-! ## 2. Access decisions -/

def pamAccountAllowed : Op P (Except Unit (Option Bool)) := do
  match ← getUsertoken R (.name accountId) with
  | .error () => return .error ()
  | .ok token =>
    if R.pamAllowGroups.isEmpty then
      return .ok (some true)
    else
      return .ok (token.map fun tok =>
        let userSet := tok.groups.map (·.uuid.hyphenated) ++ [accountId]
        (userSet.any fun g => R.pamAllowGroups.contains g) && tok.valid)

def pamAccountBeginsession : Op P (Except Unit (Option HomeDirectoryInfo)) := do
  match ← getUsertoken R (.name accountId) with
  | .error () => return .error ()
  | .ok token =>
    return .ok (token.map fun tok =>
      { uid := tok.gidnumber
        gid := tok.realGidnumber.getD tok.gidnumber
        name := tokenHomedirectoryAttr R tok
        aliases := (tokenHomedirectoryAlias R tok).toList })

/-! ## 3. Opening a session -/

/-- If we don't have a token here, then NSS has yet to be called: request one now. -/
def cachedOrRefresh : Option UserToken → Op P (Except Unit (Option UserToken))
  | some token => return .ok (some token)
  | none => refreshUsertoken R (.name accountId) none

/-- What `pam_account_authenticate_init` finds out before it asks the provider: nothing
    for an account of the `nxset`, else the account's token and whether the provider
    is online. -/
def authInitPrelude : Op P (Except Unit (Option (Option UserToken × Bool))) := do
  if ← checkNxset (some accountId) none then return .ok none
  match ← getCachedUsertoken (.name accountId) with
  | .error () => return .error ()
  | .ok (_, token) =>
    match ← cachedOrRefresh R accountId token with
    | .error () => return .error ()
    | .ok token =>
      match ← getCachestate R (some accountId) with
      | .online => return .ok (some (token, true))
      | _ =>
        let online ← testConnection R
        return .ok (some (token, online))

/-- What follows a provider that failed to open the session online.  Both guards are
    still held. -/
def authInitFallback (token : Option UserToken) (noHelloPin forceReauth : Bool) (e : IdpError) :
    Op P (Except IdpError (AuthRequest × AuthCredHandler)) := do
  if forceReauth then return .error e
  else
    match ← getCachestate R (some accountId) with
    | .online => return .error e
    | _ => callKeystore (R.client.unixUserOfflineAuthInit accountId token noHelloPin)

/-- The provider's answer, or what the fallback makes of its error. -/
def authInitOnlineResult (token : Option UserToken) (noHelloPin forceReauth : Bool) :
    Except IdpError (AuthRequest × AuthCredHandler) →
      Op P (Except IdpError (AuthRequest × AuthCredHandler))
  | .ok res => return .ok res
  | .error e => authInitFallback R accountId token noHelloPin forceReauth e

/-- The online branch; the guards go at its end, uncommitted. -/
def authInitOnline (service : String) (token : Option UserToken)
    (noHelloPin forceReauth : Bool) : Op P (Except IdpError (AuthRequest × AuthCredHandler)) := do
  Prog.lock .hsm
  dbWrite
  let res ← callKeystore
    (R.client.unixUserOnlineAuthInit accountId token service noHelloPin forceReauth)
  let maybeErr ← authInitOnlineResult R accountId token noHelloPin forceReauth res
  dbDrop
  Prog.unlock .hsm
  return maybeErr

def authInitOffline (token : Option UserToken) (noHelloPin : Bool) :
    Op P (Except IdpError (AuthRequest × AuthCredHandler)) := do
  dbWrite
  let res ← callKeystore (R.client.unixUserOfflineAuthInit accountId token noHelloPin)
  dbDrop
  return res

def authInitFinish (service : String) (token : Option UserToken) (online : Bool)
    (noHelloPin forceReauth : Bool) :
    Except IdpError (AuthRequest × AuthCredHandler) → Except Unit (AuthSession × PamAuthResponse)
  | .ok (nextReq, credHandler) =>
    .ok (.inProgress
      { accountId := accountId, service := service, id := .name accountId, token := token,
        onlineAtInit := online, credHandler := credHandler, noHelloPin := noHelloPin,
        forceReauth := forceReauth }, nextReq.into)
  | .error (.notFound what where_) =>
    .ok (.denied, .denied ("NotFound: " ++ what ++ " in " ++ where_))
  | .error _ => .error ()

def pamAccountAuthenticateInit (service : String) (noHelloPin forceReauth : Bool) :
    Op P (Except Unit (AuthSession × PamAuthResponse)) := do
  match ← authInitPrelude R accountId with
  | .error () => return .error ()
  | .ok none => return .ok (.denied, .unknown)
  | .ok (some (token, online)) =>
    if online then
      let maybeErr ← authInitOnline R accountId service token noHelloPin forceReauth
      return authInitFinish accountId service token true noHelloPin forceReauth maybeErr
    else if forceReauth then
      return .ok (.denied, .initDenied "Re-authentication requires network connectivity.")
    else
      let maybeErr ← authInitOffline R accountId token noHelloPin
      return authInitFinish accountId service token false noHelloPin forceReauth maybeErr

/-! ## 4. A step of a session -/

/-- The online branch of `pam_account_authenticate_step`: the provider's answer, and the
    session with the credential handler it left. -/
def authStepOnline (session : InProgress) (token : UserToken) (req : PamAuthRequest) :
    Op P (Except IdpError (AuthResult × AuthCacheAction) × InProgress) := do
  let (maybeCacheAction, credHandler) ← callWithHsm
    (R.client.unixUserOnlineAuthStep session.accountId token session.service session.noHelloPin
      session.credHandler req)
  return (maybeCacheAction, { session with credHandler := credHandler })

/-- The cache action of an online step is carried out; `token` is the session's. -/
def applyCacheAction (token : UserToken) :
    Except IdpError (AuthResult × AuthCacheAction) → Op P (Except Unit (Except IdpError AuthResult))
  | .ok (res, .none) => return .ok (.ok res)
  | .ok (.success newToken, .passwordHashUpdate cred) => do
    match ← setCacheUserpassword R newToken.uuid cred with
    | .error () => return .error ()
    | .ok () => return .ok (.ok (.success newToken))
  | .ok (.next next, .passwordHashUpdate cred) => do
    match ← setCacheUserpassword R token.uuid cred with
    | .error () => return .error ()
    | .ok () => return .ok (.ok (.next next))
  -- I think this state is actually invalid?
  | .ok (.denied _, .passwordHashUpdate _) => return .ok (.error .badRequest)
  | .error e => return .ok (.error e)

/-- The offline branch.  An `.error` is an early return of the whole step. -/
def authStepOffline (session : InProgress) (token : UserToken) (req : PamAuthRequest) :
    Op P (Except (Except Unit PamAuthResponse) (Except IdpError AuthResult) × InProgress) := do
  -- force_reauth requires online auth, refuse offline fallback.
  if session.forceReauth then
    return (.error (.ok (.denied "Re-authentication requires network connectivity.")), session)
  match req, session.credHandler with
  | .password cred, _ =>
    match ← checkCacheUserpassword R token.uuid cred with
    | .ok true => return (.ok (.ok (.success token)), session)
    | .ok false => return (.ok (.ok (.denied "Offline auth failed")), session)
    | .error () => return (.error (.error ()), session)
  | _, .mfa .. => return (.error (.error ()), session)
  | _, .setupPin _ => return (.error (.error ()), session)
  | _, .changePassword _ => return (.error (.error ()), session)
  | .pin _, _ | .helloTOTP _, _ =>
    let (authResult, credHandler) ← callWithHsm
      (R.client.unixUserOfflineAuthStep session.accountId token session.credHandler req
        session.onlineAtInit)
    return (.ok authResult, { session with credHandler := credHandler })
  | _, _ => return (.error (.error ()), session)

def authStepFinish (session : AuthSession) :
    Except IdpError AuthResult → Op P (Except Unit PamAuthResponse × AuthSession)
  | .ok (.success token) => do
    if ← checkNxset (some token.name) (some token.gidnumber) then
      match ← deleteCacheUsertoken token.uuid with
      | .error () => return (.error (), session)
      | .ok () => return (.ok .unknown, .denied)
    else
      match ← setCacheUsertoken R token with
      | .error () => return (.error (), session)
      | .ok token => return (.ok .success, .success token.spn)
  | .ok (.denied msg) => return (.ok (.denied msg), .denied)
  | .ok (.next req) => return (.ok req.into, session)
  | .error (.notFound what where_) =>
    return (.ok (.denied ("NotFound: " ++ what ++ " in " ++ where_)), session)
  | .error _ => return (.error (), session)

/-- `?` on a `Result<_, ()>`: the error is the answer of the whole step. -/
def earlyReturn {α : Type} : Except Unit α → Except (Except Unit PamAuthResponse) α
  | .error () => .error (.error ())
  | .ok a => .ok a

/-- The first half of `pam_account_authenticate_step`: one branch or the other, and the
    session with the credential handler it left. -/
def authStepBranch (session : AuthSession) (req : PamAuthRequest) (state : CacheState) :
    Op P (Except (Except Unit PamAuthResponse) (Except IdpError AuthResult) × AuthSession) := do
  match session with
  | .inProgress session =>
    match session.token with
    | none => return (.ok (.error (.notFound "token" "AuthSession")), .inProgress session)
    | some token =>
      if session.onlineAtInit = true ∧ state = .online then
        let (maybeCacheAction, session) ← authStepOnline R session token req
        let res ← applyCacheAction R token maybeCacheAction
        return (earlyReturn res, .inProgress session)
      else
        let (res, session) ← authStepOffline R session token req
        return (res, .inProgress session)
  | session => return (.ok (.error .badRequest), session)

def pamAccountAuthenticateStep (session : AuthSession) (req : PamAuthRequest) :
    Op P (Except Unit PamAuthResponse × AuthSession) := do
  let state ← getCachestate R session.account
  let (maybeErr, session) ← authStepBranch R session req state
  match maybeErr with
  | .error early => return (early, session)
  | .ok maybeErr => authStepFinish R session maybeErr

def pamTryUnseal (cred : String) : Op P (Except Unit Bool) := do
  match ← pamAccountAuthenticateInit R accountId "try_unseal" false false with
  | .error () => return .error ()
  -- Only proceed if the daemon is asking for a PIN.
  | .ok (session, .pin) =>
    match ← pamAccountAuthenticateStep R session (.pin cred) with
    | (.error (), _) => return .error ()
    | (.ok .success, _) => return .ok true
    | (.ok _, _) => return .ok false
  | .ok (_, .success) => return .ok true
  | .ok _ => return .ok false

end Authentication

end Resolver

/-! ## 5. The operations of a shared resolver -/

/-- An operation with its arguments.  `refresh_usertoken`, `refresh_grouptoken`,
    `get_cached_usertoken` and `get_cached_grouptoken` are reached through others, and
    listed on their own too. -/
inductive ResolverOp where
  | exportBrokerPrts
  | importBrokerPrts (data : String)
  | clearCache
  | invalidate
  | checkNxcache (id : Id)
  | reloadNxset (entries : List (String × UInt32))
  | checkNxset (name : Option String) (idnumber : Option UInt32)
  | getCachedUsertoken (accountId : Id)
  | getCachedGrouptoken (grpId : Id)
  | refreshUsertoken (accountId : Id) (token : Option UserToken)
  | refreshGrouptoken (grpId : Id) (token : Option GroupToken)
  | getUserAccesstoken (accountId : Id) (scopes : List String)
      (clientId redirectUri reqCnf : Option String)
  | getUserTgts (accountId : Id)
  | getUserPrtCookie (accountId : Id) (ssoNonce : Option String)
  | changeAuthToken (accountId : String) (token : UnixUserToken) (newTok : String)
  | offlineBreakGlass (ttl : Option ℕ)
  | getUsertoken (accountId : Id)
  | getGroupmembers (gUuid : Uuid)
  | getNssaccounts
  | getNssaccountName (accountId : String)
  | getNssaccountGid (gid : UInt32)
  | getNssgroups
  | getNssgroupName (grpId : String)
  | getNssgroupGid (gid : UInt32)
  | getInitgroups (accountId : String)
  | pamAccountAllowed (accountId : String)
  | pamAccountAuthenticateInit (accountId service : String) (noHelloPin forceReauth : Bool)
  | pamAccountAuthenticateStep (session : AuthSession) (req : PamAuthRequest)
  | pamTryUnseal (accountId cred : String)
  | pamAccountBeginsession (accountId : String)
  | testConnection

variable {P : Type}

def ResolverOp.prog (R : Resolver P) : ResolverOp → Op P Unit
  | .exportBrokerPrts => do let _ ← R.exportBrokerPrts
  | .importBrokerPrts data => do let _ ← R.importBrokerPrts data
  | .clearCache => do let _ ← R.clearCache
  | .invalidate => do let _ ← Resolver.invalidate
  | .checkNxcache id => do let _ ← Resolver.checkNxcache id
  | .reloadNxset entries => R.reloadNxset entries
  | .checkNxset name idnumber => do let _ ← Resolver.checkNxset name idnumber
  | .getCachedUsertoken accountId => do let _ ← Resolver.getCachedUsertoken accountId
  | .getCachedGrouptoken grpId => do let _ ← Resolver.getCachedGrouptoken grpId
  | .refreshUsertoken accountId token => do let _ ← R.refreshUsertoken accountId token
  | .refreshGrouptoken grpId token => do let _ ← R.refreshGrouptoken grpId token
  | .getUserAccesstoken accountId scopes clientId redirectUri reqCnf => do
    let _ ← R.getUserAccesstoken accountId scopes clientId redirectUri reqCnf
  | .getUserTgts accountId => do let _ ← R.getUserTgts accountId
  | .getUserPrtCookie accountId ssoNonce => do let _ ← R.getUserPrtCookie accountId ssoNonce
  | .changeAuthToken accountId token newTok => do
    let _ ← R.changeAuthToken accountId token newTok
  | .offlineBreakGlass ttl => do let _ ← R.offlineBreakGlass ttl
  | .getUsertoken accountId => do let _ ← R.getUsertoken accountId
  | .getGroupmembers gUuid => do let _ ← R.getGroupmembers gUuid
  | .getNssaccounts => do let _ ← R.getNssaccounts
  | .getNssaccountName accountId => do let _ ← R.getNssaccountName accountId
  | .getNssaccountGid gid => do let _ ← R.getNssaccountGid gid
  | .getNssgroups => do let _ ← R.getNssgroups
  | .getNssgroupName grpId => do let _ ← R.getNssgroupName grpId
  | .getNssgroupGid gid => do let _ ← R.getNssgroupGid gid
  | .getInitgroups accountId => do let _ ← R.getInitgroups accountId
  | .pamAccountAllowed accountId => do let _ ← R.pamAccountAllowed accountId
  | .pamAccountAuthenticateInit accountId service noHelloPin forceReauth => do
    let _ ← R.pamAccountAuthenticateInit accountId service noHelloPin forceReauth
  | .pamAccountAuthenticateStep session req => do
    let _ ← R.pamAccountAuthenticateStep session req
  | .pamTryUnseal accountId cred => do let _ ← R.pamTryUnseal accountId cred
  | .pamAccountBeginsession accountId => do let _ ← R.pamAccountBeginsession accountId
  | .testConnection => do let _ ← R.testConnection

/-! ## 6. A small instance -/

/-- A provider that still reports itself online when its network has just gone: it opens
    no session online (`HimmelblauProvider` answers `BadRequest` to an account with a
    PIN then). -/
def outageProvider : IdProvider Unit where
  checkOnline _ p := (true, p)
  unixUserGet _ _ ks p := (.ok .useCached, ks, p)
  unixUserAccess _ _ _ _ _ _ ks p := (.error .badRequest, ks, p)
  unixUserTgts _ _ ks p := (⟨none, none, none, none⟩, ks, p)
  unixUserPrtCookie _ _ _ ks p := (.error .badRequest, ks, p)
  changeAuthToken _ _ _ ks p := (.error .badRequest, ks, p)
  unixUserOnlineAuthInit _ _ _ _ _ ks p := (.error .badRequest, ks, p)
  unixUserOnlineAuthStep _ _ _ _ handler _ ks p := ((.error .badRequest, handler), ks, p)
  unixUserOfflineAuthInit _ _ _ ks p := (.ok (.pin, .none), ks, p)
  unixUserOfflineAuthStep _ _ handler _ _ ks p := ((.error .badRequest, handler), ks, p)
  unixGroupGet _ p := (.error .badRequest, p)
  getCachestate _ ks p := (.online, ks, p)
  offlineBreakGlass _ p := (.ok (), p)
  exportBrokerPrts p := (.ok "{}", p)
  importBrokerPrts _ p := (.ok (), p)

def outageResolver : Resolver Unit where
  client := outageProvider
  crypto := { newArgon2idHsm := fun _ cred => some cred, decodes := fun _ => true,
              verifyCtx := fun blob cred => some (blob == cred) }
  pamAllowGroups := []
  timeoutSeconds := 300
  defaultShell := "/bin/bash"
  homePrefix := "/home/"
  homeAttr := .uuid
  homeAlias := none
  uidAttrMap := .name
  gidAttrMap := .name
  allowIdOverrides := []
  pathExists := fun _ => true
  configRemovable := true

def aliceToken : UserToken where
  name := "alice@example.com"
  spn := "alice@example.com"
  uuid := ⟨1⟩
  realGidnumber := some 1000
  gidnumber := 1000
  displayname := "Alice"
  shell := none
  groups := []
  tenantId := none
  valid := true

def aliceRow : AccountRow where
  uuid := aliceToken.uuid
  name := aliceToken.name
  spn := aliceToken.spn
  gidnumber := aliceToken.gidnumber
  password := none
  token := some aliceToken
  expiry := 0

def aliceState : ResolverState Unit where
  db := { Database.new with accountT := ⟨[aliceRow], List.pairwise_singleton _ _⟩ }
  txn := none
  nxset := [.name "root", .gid 0]
  nxcache := []
  client := ()
  clock := fun n => 1000 + n
  ticks := 0
  entropy := 0
  serverConfig := true

end Himmelblau
