/-
  **The work of the tasks daemon**, mirror of `handle_tasks` of `daemon/src/tasks_daemon.rs`: every
  request is answered once, after its work has been done on the machine.
-/
import Himmelblau.HomeDirectory
import Himmelblau.LocalGroups

namespace Himmelblau.TaskDaemon

open Interface Config HomeDirectory LocalGroups NameMapping

variable {F : Type}

/-! ## 1. The messages -/

abbrev NoncompliantRule := String

inductive TaskRequest where
  | homeDirectory (info : HomeDirectoryInfo)
  | localGroups (accountId : String) (isSudoer : Bool)
  | logonScript (accountId accessToken : String)
  | kerberosConfig (topLevelNames tenantId : Option String)
  | kerberosTGTs (uid gid : UInt32) (tgtCloud tgtAd : Option String)
  | loadProfilePhoto (accountId accessToken : String)
  | applyPolicy (intuneDeviceId : Option String)
      (accountId graphToken intuneToken iwserviceToken : String)
  | subordinateIds (username : String) (start count : UInt32)
  deriving DecidableEq, Repr

inductive TaskResponse where
  | success (status : Int32)
  | error (msg : String)
  | nonCompliant (rules : List NoncompliantRule)
  deriving DecidableEq, Repr

/-! ## 2. The work -/

structure TasksConfig where
  getHomePrefix : (domain : Option String) → String
  useEtcSkel : Bool
  selinux : Bool
  logonScript : Option String
  groups : LocalGroupsConfig
  nameCache : Option MappedNameCache

structure TaskTools (F : Type) where
  files : FileTools F
  groups : GroupTools F
  executeUserScript : (accountId script accessToken : String) → F → Int32 × F
  writeKerberosConfigSnippet : (topLevelNames : Option String) → (tenantId : String) → F →
    Except String Unit × F
  storeTgt : (tgt : String) → (uid gid : UInt32) → F → Except String Unit × F
  loadProfilePhoto : (accountId accessToken : String) → F → F
  applyIntunePolicy : (intuneDeviceId accountId graphToken intuneToken iwserviceToken : String) →
    F → Except String (List NoncompliantRule) × F
  setupSubordinateIds : (username : String) → (start count : UInt32) → F → Except String Unit × F

def TaskResponse.ofResult : Except String Unit → TaskResponse
  | .ok () => .success 0
  | .error msg => .error msg

variable (T : TaskTools F) (cfg : TasksConfig)

def handleHomeDirectory (info : HomeDirectoryInfo) (f : F) : Except String Unit × F :=
  let domain := (splitUsername info.name).map fun (_, domain) => domain
  createHomeDirectory T.files info (cfg.getHomePrefix domain) cfg.useEtcSkel cfg.selinux f

/-- A cache that is not there has been stored. -/
def storeTgtIfAny (uid gid : UInt32) (tgt : Option String) (f : F) : Except String Unit × F :=
  match tgt with
  | some tgt => T.storeTgt tgt uid gid f
  | none => (.ok (), f)

/-- One turn of the loop of `handle_tasks`: the response that is sent. -/
def handleTask : TaskRequest → F → TaskResponse × F
  | .homeDirectory info, f =>
    let (res, f) := handleHomeDirectory T cfg info f
    (.ofResult res, f)
  | .localGroups accountId isSudoer, f =>
    (.success 0, handleLocalGroups T.groups cfg.groups cfg.nameCache accountId isSudoer f)
  | .logonScript accountId accessToken, f =>
    match cfg.logonScript with
    | some script =>
      let (status, f) := T.executeUserScript accountId script accessToken f
      (.success status, f)
    | none => (.success 0, f)
  | .kerberosConfig topLevelNames (some tenantId), f =>
    let (res, f) := T.writeKerberosConfigSnippet topLevelNames tenantId f
    (.ofResult res, f)
  | .kerberosConfig _ none, f =>
    (.error "Failed to write Kerberos config snippet, no tenant_id", f)
  | .kerberosTGTs uid gid tgtCloud tgtAd, f =>
    let (cloudRet, f) := storeTgtIfAny T uid gid tgtCloud f
    let (adRet, f) := storeTgtIfAny T uid gid tgtAd f
    (.ofResult (do cloudRet; adRet), f)
  | .loadProfilePhoto accountId accessToken, f =>
    (.success 0, T.loadProfilePhoto accountId accessToken f)
  | .applyPolicy none _ _ _ _, f =>
    (.success 0, f)
  | .applyPolicy (some deviceId) accountId graphToken intuneToken iwserviceToken, f =>
    match T.applyIntunePolicy deviceId accountId graphToken intuneToken iwserviceToken f with
    | (.ok rules, f) => (if rules.isEmpty then .success 0 else .nonCompliant rules, f)
    | (.error e, f) => (.error ("Failed to apply Intune policies: " ++ e), f)
  | .subordinateIds username start count, f =>
    let (res, f) := T.setupSubordinateIds username start count f
    (.ofResult res, f)

theorem handleTask_homeDirectory (info : HomeDirectoryInfo) (f : F) :
    (handleTask T cfg (.homeDirectory info) f).1 = .ofResult (handleHomeDirectory T cfg info f).1 :=
  rfl

theorem handleTask_localGroups (accountId : String) (isSudoer : Bool) (f : F) :
    (handleTask T cfg (.localGroups accountId isSudoer) f).1 = .success 0 := rfl

end Himmelblau.TaskDaemon
