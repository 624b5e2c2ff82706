/-
  **The users of the NSS module**, mirror of `HimmelblauPasswd` of `nss/src/implementation.rs` and
  of the cache that it falls back on (`common/src/nss_cache.rs`).

  The module asks the daemon and gives its users back to the system.  A user gets the local name
  that the user map has for the request, or else the name that `map_upn_to_name` makes of the UPN.
-/
import Himmelblau.Nss
import Himmelblau.UserMaps

namespace Himmelblau.NssUsers

open Interface NameMapping Nss UserTokens Sids

/-! ## 1. The cache -/

/-- The table `nss_passwd`, each row with the time it was written. -/
structure NssCache where
  nssPasswd : List (NssUser × ℤ)
  writable : Bool

namespace NssCache

def maxAgeSecs : ℤ := 48 * 3600

def insertUser (cache : NssCache) (now : ℤ) (user : NssUser) : NssCache :=
  if cache.writable then
    -- INSERT OR REPLACE: the new row is the last one that a scan of the table comes to
    { cache with
      nssPasswd := (cache.nssPasswd.filter fun row => row.1.name != user.name) ++ [(user, now)] }
  else cache

def getUser (cache : NssCache) (now : ℤ) (id : Id) : Option NssUser :=
  let row := cache.nssPasswd.find? fun row =>
    match id with
    | .name n => row.1.name == n
    | .gid uid => row.1.uid == uid
  match row with
  | some (user, lastUpdated) => if now - lastUpdated > maxAgeSecs then none else some user
  | none => none

def getUsers (cache : NssCache) (now : ℤ) : List NssUser :=
  cache.nssPasswd.filterMap fun (user, lastUpdated) =>
    if now - lastUpdated ≤ maxAgeSecs then some user else none

theorem mem_of_getUser {cache : NssCache} {now : ℤ} {id : Id} {user : NssUser}
    (h : cache.getUser now id = some user) : ∃ lastUpdated, (user, lastUpdated) ∈ cache.nssPasswd ∧
      (∀ n, id = .name n → user.name = n) := by
  unfold getUser at h
  dsimp only at h
  split at h
  · rename_i user' lastUpdated hfind
    split at h
    · cases h
    · cases h
      refine ⟨lastUpdated, List.mem_of_find?_eq_some hfind, ?_⟩
      rintro n rfl
      simpa using List.find?_some hfind
  · cases h

theorem mem_of_getUsers {cache : NssCache} {now : ℤ} {user : NssUser}
    (h : user ∈ cache.getUsers now) : ∃ lastUpdated, (user, lastUpdated) ∈ cache.nssPasswd := by
  obtain ⟨⟨user', lastUpdated⟩, hmem, hsome⟩ := List.mem_filterMap.mp h
  dsimp only at hsome
  split at hsome
  · cases hsome
    exact ⟨lastUpdated, hmem⟩
  · cases hsome

end NssCache

/-! ## 2. The module -/

inductive UserRequest where
  | nssAccounts
  | nssAccountByUid (uid : UInt32)
  | nssAccountByName (accountId : String)
  deriving DecidableEq, Repr

inductive UserResponse where
  | nssAccounts (users : List NssUser)
  | nssAccount (user : Option NssUser)
  deriving DecidableEq, Repr

structure Passwd where
  name : String
  passwd : String
  uid : UInt32
  gid : UInt32
  gecos : String
  dir : String
  shell : String
  deriving DecidableEq, Repr

def passwdFromNssuser (nu : NssUser) : Passwd where
  name := nu.name
  passwd := "x"
  uid := nu.uid
  gid := nu.gid
  gecos := nu.gecos
  dir := nu.homedir
  shell := nu.shell

/-- What the module finds on the machine: whether it runs for the daemon itself, the configuration
    with its user map, the daemon (if it can be reached, and for a request, if it answers), the
    cache of users, the time and the cache of mapped names. -/
structure UserMachine where
  shouldSkipDaemonCall : Bool
  config : Option NameConfig
  userMapFile : Option String
  daemon : Option (UserRequest → Option UserResponse)
  nssCache : Option NssCache
  now : ℤ
  nameCache : Option MappedNameCache

namespace UserMachine

variable (M : UserMachine) (cfg : NameConfig)

def userMap : UserMap := .new cfg.toLowercase M.userMapFile

def renamed (cache : Option MappedNameCache) (localName : Option String) (nu : NssUser) : Passwd :=
  let passwd := passwdFromNssuser nu
  { passwd with name := localName.getD (cfg.mapUpnToName cache passwd.name) }

def fetchCachedUser (cache : Option MappedNameCache) (id : Id)
    (ret : Response Passwd) (localName : Option String) : Response Passwd :=
  match M.nssCache with
  | some c =>
    match c.getUser M.now id with
    | some nu => .success (renamed cfg cache localName nu)
    | none => ret
  | none => ret

def insertCachedUser (nssCache : Option NssCache) (nu : NssUser) : Option NssCache :=
  nssCache.map (·.insertUser M.now nu)

def unmapped (users : List NssUser) : List NssUser :=
  users.filter fun nu => ((M.userMap cfg).getLocalFromUpn (cfg.toLowercase nu.name)).isNone

def fetchAllCachedUsers : List Passwd :=
  match M.nssCache with
  | some c => (M.unmapped cfg (c.getUsers M.now)).map (renamed cfg M.nameCache none)
  | none => []

def getAllEntries : Response (List Passwd) × Option NssCache :=
  if M.shouldSkipDaemonCall then (.unavail, M.nssCache)
  else
    match M.config with
    | none => (.unavail, M.nssCache)
    | some cfg =>
      match M.daemon.bind (· .nssAccounts) with
      | some (.nssAccounts l) =>
        let l := M.unmapped cfg l
        (.success (l.map (renamed cfg M.nameCache none)), l.foldl M.insertCachedUser M.nssCache)
      | _ => (.success (M.fetchAllCachedUsers cfg), M.nssCache)

def lookup (cache : Option MappedNameCache) (req : UserRequest) (id : Id)
    (localName : Option String) : Response Passwd × Option NssCache :=
  match M.daemon with
  | none => (M.fetchCachedUser cfg cache id .unavail localName, M.nssCache)
  | some callAndWait =>
    match callAndWait req with
    | some (.nssAccount (some nu)) =>
      (.success (renamed cfg cache localName nu), M.insertCachedUser M.nssCache nu)
    | _ => (M.fetchCachedUser cfg cache id .notFound localName, M.nssCache)

def getEntryByUid (uid : UInt32) : Response Passwd × Option NssCache :=
  if M.shouldSkipDaemonCall then (.unavail, M.nssCache)
  else
    match M.config with
    | none => (.unavail, M.nssCache)
    | some cfg => M.lookup cfg M.nameCache (.nssAccountByUid uid) (.gid uid) none

/-- The UPN of a name, the local name it is answered with, and the cache of mapped names. -/
def resolveName (name : String) : String × Option String × Option MappedNameCache :=
  match (M.userMap cfg).getUpnFromLocal name with
  | some mappedUpn => (mappedUpn, some name, M.nameCache)
  | none =>
    match (M.userMap cfg).getLocalFromUpn (cfg.toLowercase name) with
    | some localName => (cfg.toLowercase name, some localName, M.nameCache)
    | none =>
      let (upn, cache) := cfg.mapNameToUpn M.nameCache name
      (upn, none, cache)

theorem resolveName_cases (name : String) :
    (∃ upn, (M.userMap cfg).getUpnFromLocal name = some upn ∧
        M.resolveName cfg name = (upn, some name, M.nameCache)) ∨
      (∃ localName, (M.userMap cfg).getUpnFromLocal localName = some (cfg.toLowercase name) ∧
        M.resolveName cfg name = (cfg.toLowercase name, some localName, M.nameCache)) ∨
      ∃ upn cache, M.resolveName cfg name = (upn, none, cache) := by
  unfold resolveName
  split
  · rename_i upn hupn
    exact .inl ⟨upn, hupn, rfl⟩
  · split
    · rename_i localName hlocal
      obtain ⟨lines, hpaired⟩ := UserMap.paired_new cfg.toLowercase M.userMapFile
      exact .inr (.inl ⟨localName, (hpaired.inverse _ _).mpr hlocal, rfl⟩)
    · exact .inr (.inr ⟨_, _, rfl⟩)

def getEntryByName (name : String) : Response Passwd × Option NssCache :=
  if M.shouldSkipDaemonCall then (.unavail, M.nssCache)
  else
    match M.config with
    | none => (.unavail, M.nssCache)
    | some cfg =>
      let (upn, localName, cache) := M.resolveName cfg name
      M.lookup cfg cache (.nssAccountByName upn) (.name upn) localName

end UserMachine

end Himmelblau.NssUsers
