/-
  **The resolver** (mirror of `resolver.rs`): every operation as a lock program
  over the four mutexes `db`, `hsm`, `nxset` and `nxcache`, generic in the
  identity provider as the source is in `I: IdProvider`.

  Guards are dropped where the source drops them: at a `drop`, at a `commit` (which
  consumes the transaction) or at the end of the scope that holds them.  A transaction
  keeps the tables as they were at `BEGIN`; dropping it without a commit brings
  them back.  `clock` gives the answers of successive `SystemTime::now()` calls,
  whatever they are.
-/
import Himmelblau.Db
import Himmelblau.LockProgram

namespace Himmelblau

open Interface Db LockProgram

/-! ## 1. State -/

inductive Mutex where
  | db
  | hsm
  | nxset
  | nxcache
  deriving DecidableEq, Repr

inductive HomeAttr where
  | uuid
  | spn
  | name
  | cn
  deriving DecidableEq, Repr

inductive UidAttr where
  | name
  | spn
  deriving DecidableEq, Repr

/-- The parts of a `Resolver` that never change, and the machine it runs on: the
    identity provider's code, the password hash, the configuration, which shell
    paths exist, and whether the generated configuration file can be removed. -/
structure Resolver (P : Type) where
  client : IdProvider P
  crypto : PasswordCrypto
  pamAllowGroups : List String
  timeoutSeconds : ℕ
  defaultShell : String
  homePrefix : String
  homeAttr : HomeAttr
  homeAlias : Option HomeAttr
  uidAttrMap : UidAttr
  gidAttrMap : UidAttr
  allowIdOverrides : List Id
  pathExists : String → Bool
  configRemovable : Bool

/-- What the mutexes protect, the provider's own state, the clock and the source of
    randomness.  `nxcache` lists its most recently used entry first; `txn` holds
    the tables as they were when the open transaction began. -/
structure ResolverState (P : Type) where
  db : Database
  txn : Option Database
  nxset : List Id
  nxcache : List (Id × ℕ)
  client : P
  clock : ℕ → ℕ
  ticks : ℕ
  entropy : ℕ
  serverConfig : Bool

def NXCACHE_SIZE : ℕ := 128

abbrev Op (P α : Type) := Prog Mutex (ResolverState P) α

namespace Resolver

variable {P α : Type}

def now : Op P ℕ := Prog.call fun s => (s.clock s.ticks, { s with ticks := s.ticks + 1 })

/-! ## 2. Transactions and provider calls -/

/-- `self.db.write().await`: take the connection and `BEGIN`. -/
def dbWrite : Op P Unit := do
  Prog.lock .db
  Prog.modify fun s => { s with txn := some s.db }

/-- `dbtxn.commit()`: `COMMIT`, and the guard goes. -/
def dbCommit : Op P Unit := do
  Prog.modify fun s => { s with txn := none }
  Prog.unlock .db

/-- The transaction is dropped uncommitted: `ROLLBACK`, and the guard goes. -/
def dbDrop : Op P Unit := do
  Prog.modify fun s => { s with db := s.txn.getD s.db, txn := none }
  Prog.unlock .db

def dbGet (f : Database → α) : Op P α := Prog.call fun s => (f s.db, s)

/-- A statement of the open transaction; one that fails changes nothing. -/
def dbExec (f : Database → Except CacheError Database) : Op P (Except CacheError Unit) :=
  Prog.call fun s =>
    match f s.db with
    | .ok db => (.ok (), { s with db := db })
    | .error e => (.error e, s)

/-- `.and_then(|_| dbtxn.commit()).map_err(|_| ())`. -/
def commitOrDrop (res : Except CacheError Unit) : Op P (Except Unit Unit) := do
  match res with
  | .ok () =>
    dbCommit
    return .ok ()
  | .error _ =>
    dbDrop
    return .error ()

/-- A call of the provider that is given the transaction as its keystore. -/
def callKeystore (f : KeyStore → P → α × KeyStore × P) : Op P α :=
  Prog.call fun s =>
    let r := f s.db.hsmDataT s.client
    (r.1, { s with db := { s.db with hsmDataT := r.2.1 }, client := r.2.2 })

/-- A call of the provider without a keystore. -/
def callClient (f : P → α × P) : Op P α :=
  Prog.call fun s => ((f s.client).1, { s with client := (f s.client).2 })

/-- The provider under both guards: `hsm` first, then `db`; `hsm` is dropped before the
    commit. -/
def callWithHsm (f : KeyStore → P → α × KeyStore × P) : Op P α := do
  Prog.lock .hsm
  dbWrite
  let res ← callKeystore f
  Prog.unlock .hsm
  dbCommit
  return res

/-! ## 3. The caches -/

section Operations

variable (R : Resolver P) (token : UserToken) (accountId : Id)

def exportBrokerPrts : Op P (Except Unit String) := callClient R.client.exportBrokerPrts

def importBrokerPrts (data : String) : Op P (Except Unit Unit) :=
  callClient (R.client.importBrokerPrts data)

def getCachestate (accountId : Option String) : Op P CacheState := do
  dbWrite
  let res ← callKeystore (R.client.getCachestate accountId)
  dbCommit
  return res

def clearCache : Op P (Except Unit Unit) := do
  Prog.lock .nxcache
  Prog.modify fun s => { s with nxcache := [] }
  dbWrite
  let res ← dbExec fun db => .ok db.clear.clearHelloKeys
  match ← commitOrDrop res with
  | .error () =>
    Prog.unlock .nxcache
    return .error ()
  | .ok () =>
    -- Also delete the generated himmelblau.conf. This unjoins the host!
    let removed ← Prog.call fun s =>
      if s.serverConfig then
        if R.configRemovable then (.ok (), { s with serverConfig := false }) else (.error (), s)
      else (.ok (), s)
    Prog.unlock .nxcache
    return removed

def invalidate : Op P (Except Unit Unit) := do
  Prog.lock .nxcache
  Prog.modify fun s => { s with nxcache := [] }
  dbWrite
  let res ← dbExec fun db => .ok db.invalidate
  let res ← commitOrDrop res
  Prog.unlock .nxcache
  return res

def getCachedUsertokens : Op P (List UserToken) := do
  dbWrite
  let res ← dbGet Database.getAccounts
  dbDrop
  return res

def getCachedGrouptokens : Op P (List GroupToken) := do
  dbWrite
  let res ← dbGet Database.getGroups
  dbDrop
  return res

/-- `LruCache::put` on a cache of `NXCACHE_SIZE` entries. -/
def lruPut (cache : List (Id × ℕ)) (id : Id) (time : ℕ) : List (Id × ℕ) :=
  ((id, time) :: cache.filter fun e => e.1 != id).take NXCACHE_SIZE

/-- `LruCache::get`: the entry found becomes the most recent one. -/
def lruGet (cache : List (Id × ℕ)) (id : Id) : Option ℕ × List (Id × ℕ) :=
  match cache.find? fun e => e.1 == id with
  | some e => (some e.2, e :: cache.filter fun e => e.1 != id)
  | none => (none, cache)

def setNxcache (id : Id) : Op P Unit := do
  Prog.lock .nxcache
  let exTime := (← now) + R.timeoutSeconds
  Prog.modify fun s => { s with nxcache := lruPut s.nxcache id exTime }
  Prog.unlock .nxcache

def checkNxcache (id : Id) : Op P (Option ℕ) := do
  Prog.lock .nxcache
  let res ← Prog.call fun s =>
    ((lruGet s.nxcache id).1, { s with nxcache := (lruGet s.nxcache id).2 })
  Prog.unlock .nxcache
  return res

/-- The set `reload_nxset` builds: both ids of every local entry, unless the admin
    opted in to one of them. -/
def nxsetOf (allowIdOverrides : List Id) (entries : List (String × UInt32)) : List Id :=
  entries.flatMap fun (name, gid) =>
    if allowIdOverrides.contains (.gid gid) || allowIdOverrides.contains (.name name) then []
    else [.name name, .gid gid]

def reloadNxset (entries : List (String × UInt32)) : Op P Unit := do
  Prog.lock .nxset
  Prog.modify fun s => { s with nxset := nxsetOf R.allowIdOverrides entries }
  Prog.unlock .nxset

def inNxset (nxset : List Id) (name : Option String) (idnumber : Option UInt32) : Bool :=
  (name.any fun n => nxset.contains (.name n)) || idnumber.any fun g => nxset.contains (.gid g)

def checkNxset (name : Option String) (idnumber : Option UInt32) : Op P Bool := do
  Prog.lock .nxset
  let s ← Prog.get
  Prog.unlock .nxset
  return inNxset s.nxset name idnumber

def checkNxsetId (id : Id) : Op P Bool :=
  match id with
  | .name name => checkNxset (some name) none
  | .gid idnumber => checkNxset none (some idnumber)

/-- The row found and whether it has expired, or else what the `nxcache` says.  The
    caller still holds the transaction. -/
def cachedOrNx {T : Type} (id : Id) (row : Option (T × ℕ)) : Op P (Bool × Option T) := do
  match row with
  | some (token, exTime) =>
    let now ← now
    return (decide (exTime ≤ now), some token)
  | none =>
    -- it wasn't in the DB - lets see if it's in the nxcache.
    match ← checkNxcache id with
    | some exTime =>
      let now ← now
      return (decide (exTime ≤ now), none)
    | none => return (true, none)

def getCached {T : Type} (query : Database → Except CacheError (Option (T × ℕ))) (id : Id) :
    Op P (Except Unit (Bool × Option T)) := do
  dbWrite
  match ← dbGet query with
  | .error _ =>
    dbDrop
    return .error ()
  | .ok row =>
    let res ← cachedOrNx id row
    dbDrop
    return .ok res

def getCachedUsertoken : Op P (Except Unit (Bool × Option UserToken)) :=
  getCached (·.getAccount accountId) accountId

def getCachedGrouptoken (grpId : Id) : Op P (Except Unit (Bool × Option GroupToken)) :=
  getCached (·.getGroup grpId) grpId

/-- The token as `set_cache_usertoken` writes it: a shell that exists, and no group
    of the `nxset`. -/
def tokenToCache (nxset : List Id) (token : UserToken) : UserToken :=
  { token with
    shell := if token.shell.any R.pathExists then token.shell else some R.defaultShell
    groups := token.groups.filter fun g =>
      !(nxset.contains (.gid g.gidnumber) || nxset.contains (.name g.name)) }

def cacheToken (expire : ℕ) (db : Database) : Except CacheError Database :=
  match db.updateGroups token.groups expire with
  | .error e => .error e
  | .ok db => db.updateAccount token expire

/-- The new token is returned, as the source changes it in place. -/
def setCacheUsertoken : Op P (Except Unit UserToken) := do
  let offset := (← now) + R.timeoutSeconds
  Prog.lock .nxset
  let s ← Prog.get
  Prog.unlock .nxset
  let token := tokenToCache R s.nxset token
  dbWrite
  let res ← dbExec (cacheToken token offset)
  match ← commitOrDrop res with
  | .error () => return .error ()
  | .ok () => return .ok token

def setCacheGrouptoken (token : GroupToken) : Op P (Except Unit Unit) := do
  let offset := (← now) + R.timeoutSeconds
  dbWrite
  let res ← dbExec fun db => db.updateGroup token offset
  commitOrDrop res

def deleteCacheUsertoken (aUuid : Uuid) : Op P (Except Unit Unit) := do
  dbWrite
  let res ← dbExec fun db => .ok (db.deleteAccount aUuid)
  commitOrDrop res

def deleteCacheGrouptoken (gUuid : Uuid) : Op P (Except Unit Unit) := do
  dbWrite
  let res ← dbExec fun db => .ok (db.deleteGroup gUuid)
  commitOrDrop res

def setCacheUserpassword (aUuid : Uuid) (cred : String) : Op P (Except Unit Unit) := do
  dbWrite
  Prog.lock .hsm
  let s ← Prog.get
  Prog.modify fun s => { s with entropy := s.entropy + 1 }
  let res ← dbExec fun db => db.updateAccountPassword R.crypto s.entropy aUuid cred
  let res ← commitOrDrop res
  Prog.unlock .hsm
  return res

def checkCacheUserpassword (aUuid : Uuid) (cred : String) : Op P (Except Unit Bool) := do
  dbWrite
  Prog.lock .hsm
  match ← dbGet fun db => db.checkAccountPassword R.crypto aUuid cred with
  | .ok ok =>
    dbCommit
    Prog.unlock .hsm
    return .ok ok
  | .error _ =>
    dbDrop
    Prog.unlock .hsm
    return .error ()

/-! ## 4. Refreshing tokens -/

def refreshUsertoken (token : Option UserToken) : Op P (Except Unit (Option UserToken)) := do
  match ← callWithHsm (R.client.unixUserGet accountId token) with
  | .ok (.update nTok) =>
    match ← setCacheUsertoken R nTok with
    | .error () => return .error ()
    | .ok nTok => return .ok (some nTok)
  | .ok .notFound =>
    match token with
    | some tok =>
      match ← deleteCacheUsertoken tok.uuid with
      | .error () => return .error ()
      | .ok () =>
        setNxcache R accountId
        return .ok none
    | none =>
      setNxcache R accountId
      return .ok none
  | .ok .useCached => return .ok token
  | .error _ =>
    return .ok token

def refreshGrouptoken (grpId : Id) (token : Option GroupToken) :
    Op P (Except Unit (Option GroupToken)) := do
  Prog.lock .hsm
  let res ← callClient (R.client.unixGroupGet grpId)
  Prog.unlock .hsm
  match res with
  | .ok nTok =>
    if ← checkNxset (some nTok.name) (some nTok.gidnumber) then
      match ← deleteCacheGrouptoken nTok.uuid with
      | .error () => return .error ()
      | .ok () => return .ok none
    else
      match ← setCacheGrouptoken R nTok with
      | .error () => return .error ()
      | .ok () => return .ok (some nTok)
  | .error _ => return .ok token

def testConnection : Op P Bool := do
  match ← getCachestate R none with
  | .offline => return false
  | .offlineNextCheck _ =>
    Prog.lock .hsm
    let now ← now
    let res ← callClient (R.client.checkOnline now)
    Prog.unlock .hsm
    return res
  | .online => return true

/-- The account whose cache state decides: the name asked for, or the cached token's. -/
def stateAccount (item : Option UserToken) : Option String :=
  match accountId with
  | .name name => some name
  | .gid _ => item.map (·.spn)

def getUsertoken : Op P (Except Unit (Option UserToken)) := do
  -- Validate the user isn't in the nxset (aka, it's a local user or group).
  if ← checkNxsetId accountId then return .ok none
  match ← getCachedUsertoken accountId with
  | .error () => return .error ()
  | .ok (expired, item) =>
    let state ← getCachestate R (stateAccount accountId item)
    match expired, state with
    | _, .offline => return .ok item
    | false, .offlineNextCheck _ => return .ok item
    | false, .online => return .ok item
    | true, .offlineNextCheck time =>
      if time ≤ (← now) then
        if ← testConnection R then refreshUsertoken R accountId item
        else return .ok item
      else return .ok item
    | true, .online => refreshUsertoken R accountId item

def getGrouptoken (grpId : Id) : Op P (Except Unit (Option GroupToken)) := do
  match ← getCachedGrouptoken grpId with
  | .error () => return .error ()
  | .ok (expired, item) =>
    -- In Himmelblau, we only ever utilize cached group tokens
    let state := CacheState.offline
    match expired, state with
    | _, .offline => return .ok item
    | false, .offlineNextCheck _ => return .ok item
    | false, .online => return .ok item
    | true, .offlineNextCheck time =>
      if time ≤ (← now) then
        if ← testConnection R then refreshGrouptoken R grpId item
        else return .ok item
      else return .ok item
    | true, .online => refreshGrouptoken R grpId item

/-! ## 5. NSS -/

def cnOf (spn : String) : String := String.ofList (spn.toList.takeWhile (· != '@'))

def homeAttrOf : HomeAttr → String
  | .uuid => token.uuid.hyphenated
  | .spn => token.spn
  | .name => token.name
  | .cn => cnOf token.spn

def tokenHomedirectoryAlias : Option String :=
  R.homeAlias.map (homeAttrOf token)

def tokenHomedirectoryAttr : String := homeAttrOf token R.homeAttr

def tokenHomedirectory : String :=
  (tokenHomedirectoryAlias R token).getD (tokenHomedirectoryAttr R token)

def tokenAbsHomedirectory : String := R.homePrefix ++ tokenHomedirectory R token

def tokenUidattr : String :=
  match R.uidAttrMap with
  | .spn => token.spn
  | .name => token.name

def tokenGidattr (token : GroupToken) : String :=
  match R.gidAttrMap with
  | .spn => token.spn
  | .name => token.name

def nssUserOf (tok : UserToken) : NssUser :=
  { homedir := tokenAbsHomedirectory R tok
    name := tokenUidattr R tok
    uid := tok.gidnumber
    gid := tok.realGidnumber.getD tok.gidnumber
    gecos := tok.displayname
    shell := tok.shell.getD R.defaultShell }

def getGroupmembers (gUuid : Uuid) : Op P (List String) := do
  dbWrite
  let res ← dbGet (·.getGroupMembers gUuid)
  dbDrop
  return match res with
    | .ok tokens => tokens.map (tokenUidattr R)
    | .error _ => []

def getNssaccounts : Op P (List NssUser) := do
  let l ← getCachedUsertokens
  return l.map (nssUserOf R)

def getNssaccount : Op P (Except Unit (Option NssUser)) := do
  match ← getUsertoken R accountId with
  | .error () => return .error ()
  | .ok token => return .ok (token.map (nssUserOf R))

def getNssaccountName (accountId : String) : Op P (Except Unit (Option NssUser)) :=
  getNssaccount R (.name accountId)

def getNssaccountGid (gid : UInt32) : Op P (Except Unit (Option NssUser)) :=
  getNssaccount R (.gid gid)

def nssGroupOf (tok : GroupToken) : Op P NssGroup := do
  let members ← getGroupmembers R tok.uuid
  return { name := tokenGidattr R tok, gid := tok.gidnumber, members := members }

def nssGroupsOf : List GroupToken → Op P (List NssGroup)
  | [] => return []
  | tok :: l => do
    let g ← nssGroupOf R tok
    let r ← nssGroupsOf l
    return g :: r

def getNssgroups : Op P (List NssGroup) := do
  let l ← getCachedGrouptokens
  nssGroupsOf R l

def getNssgroup (grpId : Id) : Op P (Except Unit (Option NssGroup)) := do
  match ← getGrouptoken R grpId with
  | .error () => return .error ()
  | .ok none => return .ok none
  | .ok (some tok) =>
    let g ← nssGroupOf R tok
    return .ok (some g)

def getNssgroupName (grpId : String) : Op P (Except Unit (Option NssGroup)) :=
  getNssgroup R (.name grpId)

def getNssgroupGid (gid : UInt32) : Op P (Except Unit (Option NssGroup)) :=
  getNssgroup R (.gid gid)

def getInitgroups (accountId : String) : Op P (Except Unit (Option (List UInt32))) := do
  match ← getUsertoken R (.name accountId) with
  | .error () => return .error ()
  | .ok token => return .ok (token.map fun tok => tok.groups.map (·.gidnumber))

/-! ## 6. Access for an authenticated user -/

/-- The shared shape of `get_user_accesstoken`, `get_user_tgts` and
    `get_user_prt_cookie`: the id is checked, the user's token is fetched, and the
    provider is asked under both guards. -/
def withUsertoken {β : Type} (accountId : Id) (ask : UserToken → KeyStore → P → β × KeyStore × P) :
    Op P (Option (UserToken × β)) := do
  if ← checkNxsetId accountId then return none
  match ← getUsertoken R accountId with
  | .ok (some token) =>
    let res ← callWithHsm (ask token)
    return some (token, res)
  | _ => return none

def getUserAccesstoken (scopes : List String)
    (clientId redirectUri reqCnf : Option String) : Op P (Option UnixUserToken) := do
  let res ← withUsertoken R accountId fun token =>
    R.client.unixUserAccess accountId scopes (some token) clientId redirectUri reqCnf
  return match res with
    | some (_, .ok token) => some token
    | _ => none

def getUserTgts : Op P (Option (UInt32 × UInt32 × UserTgts)) := do
  let res ← withUsertoken R accountId fun token => R.client.unixUserTgts accountId (some token)
  return res.map fun (token, tgts) =>
    (token.gidnumber, token.realGidnumber.getD token.gidnumber, tgts)

def getUserPrtCookie (ssoNonce : Option String) : Op P (Option String) := do
  let res ← withUsertoken R accountId fun token =>
    R.client.unixUserPrtCookie accountId (some token) ssoNonce
  return match res with
    | some (_, .ok cookie) => some cookie
    | _ => none

def changeAuthToken (accountId : String) (token : UnixUserToken) (newTok : String) :
    Op P (Except Unit Bool) := do
  if ← checkNxset (some accountId) none then return .ok false
  match ← callWithHsm (R.client.changeAuthToken accountId token newTok) with
  | .ok res => return .ok res
  | .error _ => return .error ()

def offlineBreakGlass (ttl : Option ℕ) : Op P (Except Unit Unit) := do
  match ← callClient (R.client.offlineBreakGlass ttl) with
  | .ok () => return .ok ()
  | .error _ => return .error ()

end Operations

end Resolver

end Himmelblau
