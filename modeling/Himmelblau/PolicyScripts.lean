/-
  **The scripts of Intune policies**, mirror of `policies/src/scripts_ext.rs`.

  A script policy installs a script, a wrapper and a cron job.  The policies of a run are written
  into a cache when all of them are installed, and the next run removes the files of those that
  have gone.  A run that fails half-way leaves the files that it has installed without a record:
  no later run removes them.
-/
import Himmelblau.Compliance
import Himmelblau.FunctionBody
import Himmelblau.Runs

namespace Himmelblau.PolicyScripts

open DirectoryGroups Compliance FunctionBody Runs

/-! ## 1. The files and the cache -/

inductive FileKind where
  | cron
  | script
  | wrapper
  deriving DecidableEq, Repr

inductive CacheFile where
  | missing
  | garbled
  | saved (userPolicies : List (String × List String))
  deriving DecidableEq, Repr

/-- The files by their kind and policy id, with their content, and the cache of the user. -/
structure Disk where
  files : FileKind → String → Option String
  cache : CacheFile

def Disk.fresh : Disk := ⟨fun _ _ => none, .missing⟩

def Disk.put (s : Disk) (kind : FileKind) (policyId content : String) : Disk :=
  { s with files := fun k id => if k = kind ∧ id = policyId then some content else s.files k id }

/-- The configuration and the libraries: base64 and UTF-8. -/
structure Settings where
  username : String
  policiesDbPath : String
  decode : String → Except String (List UInt8)
  fromUtf8 : List UInt8 → Except String String

variable (cfg : Settings) (faults : Faults)

def Settings.scriptDirectory : String := cfg.policiesDbPath ++ "/bin"

def Settings.path (policyId : String) : FileKind → String
  | .cron => "/etc/cron.d/policy_" ++ policyId
  | .script => cfg.scriptDirectory ++ "/policy_" ++ policyId ++ "_script.sh"
  | .wrapper => cfg.scriptDirectory ++ "/policy_" ++ policyId ++ "_wrapper.sh"

structure Faults where
  readsCache : Bool
  createDir : Option String
  remove : FileKind → String → Bool
  create : FileKind → String → Option String
  write : FileKind → String → Option String
  chmod : FileKind → String → Option String
  /-- The error of the save, and what it leaves in the file. -/
  save : Option (String × CacheFile)

def Faults.none : Faults where
  readsCache := true
  createDir := .none
  remove _ _ := false
  create _ _ := .none
  write _ _ := .none
  chmod _ _ := .none
  save := .none

/-! ## 2. The settings of a policy -/

structure ScriptSettings where
  executionContext : String
  frequency : String
  retries : UInt32
  scriptB64 : Option String
  deriving DecidableEq, Repr

def ScriptSettings.new : ScriptSettings := ⟨"root", "1hour", 0, none⟩

def readSetting (settings : ScriptSettings) (detail : PolicyDetails) :
    Except String ScriptSettings :=
  match detail.settingDefinitionItemId with
  | "linux_customconfig_executioncontext" =>
    match detail.expectedValue with
    | "root" => .ok { settings with executionContext := "root" }
    | "user" => .ok { settings with executionContext := cfg.username }
    | other => .error ("Unrecognized execution context '" ++ other ++ "'")
  | "linux_customconfig_executionfrequency" =>
    .ok { settings with frequency := detail.expectedValue }
  | "linux_customconfig_executionretries" =>
    match parseU32 detail.expectedValue with
    | some val => .ok { settings with retries := val }
    | none => .error "Failed to parse script execution retries"
  | "linux_customconfig_script" =>
    .ok { settings with scriptB64 := some detail.expectedValue }
  | _ => .ok settings

def readSettings (details : List PolicyDetails) : Except String ScriptSettings :=
  details.foldlM (readSetting cfg) .new

def cronSchedule : String → Option String
  | "15" => some "*/15 * * * *"
  | "30" => some "*/30 * * * *"
  | "60" => some "0 * * * *"
  | "120" => some "0 */2 * * *"
  | "180" => some "0 */3 * * *"
  | "360" => some "0 */6 * * *"
  | "720" => some "0 */12 * * *"
  | "1440" => some "0 0 * * *"
  | "10080" => some "0 0 * * 0"
  | _ => none

def wrapperScript (retries : UInt32) (scriptFilePath : String) : String :=
  "#!/bin/bash\n# Wrapper script for policy execution with retry logic.\nretries=" ++
    toString retries.toNat ++ "\nattempts=0\nwhile [ $attempts -le $retries ]; do\n    " ++
    scriptFilePath ++ "\n    exit_code=$?\n    if [ $exit_code -eq 0 ]; then\n        exit 0\n" ++
    "    fi\n    attempts=$((attempts+1))\ndone\nexit $exit_code\n"

/-! ## 3. A run -/

abbrev Cse (α : Type) := Body Disk (Except String Unit) α

def fail {α : Type} (msg : String) : Cse α := Body.leave (.error msg)

structure FileErrors where
  create : String
  write : String
  chmod : String

/-- `File::create`, `write_all` and `chmod`. -/
def installFile (errors : FileErrors) (kind : FileKind) (policyId content : String) : Cse Unit := do
  match faults.create kind policyId with
  | some e => fail (errors.create ++ e)
  | none =>
    Body.modify (·.put kind policyId "")
    match faults.write kind policyId with
    | some e => fail (errors.write ++ e)
    | none =>
      Body.modify (·.put kind policyId content)
      match faults.chmod kind policyId with
      | some e => fail (errors.chmod ++ e)
      | none => return ()

def scriptPath : Cse String :=
  match faults.createDir with
  | some e => fail ("Failed to determine script path: Failed to create script path " ++
      cfg.scriptDirectory ++ ": " ++ e)
  | none => return cfg.scriptDirectory

def installPolicy (policyId scriptB64 : String) (settings : ScriptSettings) : Cse Unit := do
  match cfg.decode scriptB64 with
  | .error e => fail ("Failed to decode script: " ++ e)
  | .ok bytes =>
    match cfg.fromUtf8 bytes with
    | .error e => fail ("Failed to convert script to utf8 string: " ++ e)
    | .ok scriptContent =>
      installFile faults ⟨"Failed to create script file: ", "Failed to write script to file: ",
        "Failed to set script permissions: "⟩ .script policyId scriptContent
      installFile faults ⟨"Failed to create wrapper file " ++ cfg.path policyId .wrapper ++ ": ",
        "Failed to write wrapper script to file: ", "Failed to set wrapper script permissions: "⟩
        .wrapper policyId (wrapperScript settings.retries (cfg.path policyId .script))
      match cronSchedule settings.frequency with
      | none => fail ("Unknown script application frequency '" ++ settings.frequency ++
          "' for policy " ++ policyId ++ ".")
      | some schedule =>
        installFile faults ⟨"Failed to create cron file: ", "Failed to write cron job to file: ",
          "Failed to set cron file permissions: "⟩ .cron policyId
          (schedule ++ " " ++ settings.executionContext ++ " " ++ cfg.path policyId .wrapper ++
            "\n")

def applyPolicy (policy : PolicyStatus) : Cse Unit := do
  match readSettings cfg policy.details with
  | .error e => fail e
  | .ok settings =>
    let _ ← scriptPath cfg faults
    match settings.scriptB64 with
    | none => return ()
    | some scriptB64 => installPolicy cfg faults policy.policyId scriptB64 settings

def isScriptPolicy (policy : PolicyStatus) : Bool :=
  policy.details.any fun d => d.settingDefinitionItemId == "linux_customconfig_script"

def recorded (s : Disk) : List String :=
  match s.cache with
  | .saved userPolicies => (userPolicies.lookup cfg.username).getD []
  | _ => []

/-- `PolicyCache::load`: a file that cannot be read is an empty cache. -/
def loadCache : Cse (List (String × List String)) := do
  match (← Body.get).cache with
  | .missing => return []
  | .garbled => if faults.readsCache then fail "Failed to load policy cache: " else return []
  | .saved userPolicies => if faults.readsCache then return userPolicies else return []

/-- Without the files of the policies that have gone; errors are ignored. -/
def Disk.without (s : Disk) (faults : Faults) (gone : List String) : Disk :=
  { s with files := fun kind id =>
      if id ∈ gone ∧ faults.remove kind id = false then none else s.files kind id }

def applyPolicies (faults : Faults) : List PolicyStatus → Cse Unit
  | [] => return ()
  | policy :: policies => do
    if isScriptPolicy policy then applyPolicy cfg faults policy
    applyPolicies faults policies

def saveCache (userPolicies : List (String × List String)) : Cse Unit := do
  match faults.save with
  | some (e, left) =>
    Body.modify fun s => { s with cache := left }
    fail ("Failed to save policy cache: " ++ e)
  | none => Body.modify fun s => { s with cache := .saved userPolicies }

structure Run where
  policies : List PolicyStatus
  faults : Faults

def processGroupPolicy (run : Run) : Cse (Except String Unit) := do
  let userPolicies ← loadCache run.faults
  let cachedPolicyIds := (userPolicies.lookup cfg.username).getD []
  let newPolicyIds := run.policies.map (·.policyId)
  let gone := cachedPolicyIds.filter fun id => !newPolicyIds.contains id
  -- the directory is created before the first removal
  if gone ≠ [] then let _ ← scriptPath cfg run.faults
  Body.modify (·.without run.faults gone)
  applyPolicies cfg run.faults run.policies
  saveCache run.faults
    ((cfg.username, newPolicyIds) :: userPolicies.filter fun row => row.1 != cfg.username)
  return .ok ()

def step (s : Disk) (run : Run) : Disk := ((processGroupPolicy cfg run).run s).2

/-! ## 4. Well-formed policies -/

def lastValue (setting : String) (details : List PolicyDetails) : Option String :=
  details.foldl (fun v d => if d.settingDefinitionItemId = setting then some d.expectedValue else v)
    none

/-- A script policy that can be installed: its execution contexts and retries are understood, and
    so are the last frequency and the last script. -/
structure WellFormed (policy : PolicyStatus) : Prop where
  context : ∀ d ∈ policy.details,
    d.settingDefinitionItemId = "linux_customconfig_executioncontext" →
      d.expectedValue = "root" ∨ d.expectedValue = "user"
  retries : ∀ d ∈ policy.details,
    d.settingDefinitionItemId = "linux_customconfig_executionretries" →
      (parseU32 d.expectedValue).isSome
  frequency : ∃ frequency,
    lastValue "linux_customconfig_executionfrequency" policy.details = some frequency ∧
      (cronSchedule frequency).isSome
  script : ∃ scriptB64 bytes content,
    lastValue "linux_customconfig_script" policy.details = some scriptB64 ∧
      cfg.decode scriptB64 = .ok bytes ∧ cfg.fromUtf8 bytes = .ok content

variable {cfg}

theorem readSetting_ok (settings : ScriptSettings) {d : PolicyDetails}
    (hcontext : d.settingDefinitionItemId = "linux_customconfig_executioncontext" →
      d.expectedValue = "root" ∨ d.expectedValue = "user")
    (hretries : d.settingDefinitionItemId = "linux_customconfig_executionretries" →
      (parseU32 d.expectedValue).isSome) :
    ∃ settings', readSetting cfg settings d = .ok settings' ∧
      settings'.frequency =
        (if d.settingDefinitionItemId = "linux_customconfig_executionfrequency" then d.expectedValue
          else settings.frequency) ∧
      settings'.scriptB64 =
        (if d.settingDefinitionItemId = "linux_customconfig_script" then some d.expectedValue
          else settings.scriptB64) := by
  unfold readSetting
  split
  · rename_i hid
    rcases hcontext hid with hroot | huser
    · rw [hroot]
      exact ⟨_, rfl, by simp [hid], by simp [hid]⟩
    · rw [huser]
      exact ⟨_, rfl, by simp [hid], by simp [hid]⟩
  · rename_i hid
    exact ⟨_, rfl, by simp [hid], by simp [hid]⟩
  · rename_i hid
    obtain ⟨val, hval⟩ := Option.isSome_iff_exists.mp (hretries hid)
    rw [hval]
    exact ⟨_, rfl, by simp [hid], by simp [hid]⟩
  · rename_i hid
    exact ⟨_, rfl, by simp [hid], by simp [hid]⟩
  · rename_i hfrequency _ hscript
    exact ⟨_, rfl, (if_neg hfrequency).symm, (if_neg hscript).symm⟩

theorem readSettings_ok (details : List PolicyDetails) (settings : ScriptSettings)
    (hcontext : ∀ d ∈ details, d.settingDefinitionItemId = "linux_customconfig_executioncontext" →
      d.expectedValue = "root" ∨ d.expectedValue = "user")
    (hretries : ∀ d ∈ details, d.settingDefinitionItemId = "linux_customconfig_executionretries" →
      (parseU32 d.expectedValue).isSome) :
    ∃ settings', details.foldlM (readSetting cfg) settings = .ok settings' ∧
      settings'.frequency = (details.foldl (fun v d =>
        if d.settingDefinitionItemId = "linux_customconfig_executionfrequency" then d.expectedValue
          else v) settings.frequency) ∧
      settings'.scriptB64 = (details.foldl (fun v d =>
        if d.settingDefinitionItemId = "linux_customconfig_script" then some d.expectedValue
          else v) settings.scriptB64) := by
  induction details generalizing settings with
  | nil => exact ⟨settings, rfl, rfl, rfl⟩
  | cons d details ih =>
    obtain ⟨hc, hcontext⟩ := List.forall_mem_cons.mp hcontext
    obtain ⟨hr, hretries⟩ := List.forall_mem_cons.mp hretries
    obtain ⟨settings1, hone, hfrequency, hscript⟩ := readSetting_ok settings hc hr
    obtain ⟨settings', hrest, hfrequency', hscript'⟩ := ih settings1 hcontext hretries
    refine ⟨settings', ?_, ?_, ?_⟩
    · rw [List.foldlM_cons, hone]
      exact hrest
    · rw [hfrequency', hfrequency, List.foldl_cons]
    · rw [hscript', hscript, List.foldl_cons]

theorem foldl_getD (setting first : String) (details : List PolicyDetails) (v : Option String) :
    details.foldl (fun v d => if d.settingDefinitionItemId = setting then d.expectedValue else v)
        (v.getD first) =
      (details.foldl (fun v d =>
        if d.settingDefinitionItemId = setting then some d.expectedValue else v) v).getD first := by
  induction details generalizing v with
  | nil => rfl
  | cons d details ih =>
    rw [List.foldl_cons, List.foldl_cons]
    split
    · exact ih (some d.expectedValue)
    · exact ih v

variable {policy : PolicyStatus} {policyId : String} {policies : List PolicyStatus} {s : Disk}
  {faults : Faults} {kind : FileKind} {run : Run} {userPolicies : List (String × List String)}

theorem WellFormed.settings (h : WellFormed cfg policy) :
    ∃ settings schedule scriptB64 bytes content,
      readSettings cfg policy.details = .ok settings ∧
        cronSchedule settings.frequency = some schedule ∧ settings.scriptB64 = some scriptB64 ∧
        cfg.decode scriptB64 = .ok bytes ∧ cfg.fromUtf8 bytes = .ok content := by
  obtain ⟨settings, hread, hfrequency, hscript⟩ :=
    readSettings_ok policy.details .new h.context h.retries
  obtain ⟨frequency, hlast, hschedule⟩ := h.frequency
  obtain ⟨scriptB64, bytes, content, hlast', hdecode, hutf8⟩ := h.script
  obtain ⟨schedule, hschedule⟩ := Option.isSome_iff_exists.mp hschedule
  refine ⟨settings, schedule, scriptB64, bytes, content, hread, ?_, hscript.trans hlast', hdecode,
    hutf8⟩
  have hvalue : settings.frequency = frequency := by
    have heq := hfrequency.trans
      (foldl_getD "linux_customconfig_executionfrequency" "1hour" policy.details none)
    unfold lastValue at hlast
    rw [heq, hlast]
    rfl
  rw [hvalue, hschedule]

/-! ## 5. What a run leaves -/

def SameFiles (id : String) (s s' : Disk) : Prop := ∀ kind, s'.files kind id = s.files kind id

instance (id : String) : Std.Refl (SameFiles id) := ⟨fun _ _ => rfl⟩

instance (id : String) : IsTrans Disk (SameFiles id) :=
  ⟨fun _ _ _ h h' kind => (h' kind).trans (h kind)⟩

/-- The cache stays, and so do the files of the policies that are not in the list. -/
structure Touches (ids : List String) (s s' : Disk) : Prop where
  cache : s'.cache = s.cache
  files : ∀ id, id ∉ ids → SameFiles id s s'

theorem Touches.refl (ids : List String) (s : Disk) : Touches ids s s :=
  ⟨rfl, fun _ _ _ => rfl⟩

variable {ids : List String} {s' : Disk}

theorem Touches.trans {s'' : Disk} (h : Touches ids s s') (h' : Touches ids s' s'') :
    Touches ids s s'' where
  cache := h'.cache.trans h.cache
  files := fun id hid => IsTrans.trans _ _ _ (h.files id hid) (h'.files id hid)

theorem Touches.put (h : policyId ∈ ids) (s : Disk) (kind : FileKind) (content : String) :
    Touches ids s (s.put kind policyId content) where
  cache := rfl
  files := fun _ hid _ => if_neg fun ⟨_, hsame⟩ => hid (hsame ▸ h)

theorem Touches.isSome {id : String} (h : Touches ids s s') (hfile : (s'.files kind id).isSome) :
    (s.files kind id).isSome ∨ id ∈ ids := by
  by_cases hid : id ∈ ids
  · exact .inr hid
  · rw [h.files id hid kind] at hfile
    exact .inl hfile

/-- Nothing fails that a policy needs to be installed. -/
structure Faults.Installs (faults : Faults) : Prop where
  createDir : faults.createDir = .none
  create : ∀ kind id, faults.create kind id = .none
  write : ∀ kind id, faults.write kind id = .none
  chmod : ∀ kind id, faults.chmod kind id = .none

/-- The part of a run installs policies of the list, and fails only if `P` does not hold. -/
def Installing {α : Type} (ids : List String) (P : Prop) (p : Cse α) : Prop :=
  ∀ s, p.Ensures s (fun _ s' => Touches ids s s')
    fun r s' => Touches ids s s' ∧ ¬P ∧ ∃ e, r = .error e

namespace Installing

variable {α β : Type} {ids : List String} {P : Prop} {faults : Faults}

theorem pure (a : α) : Installing ids P (pure a : Cse α) := fun s => .refl ids s

theorem fail {msg : String} (h : ¬P) : Installing ids P (PolicyScripts.fail msg : Cse α) :=
  fun s => ⟨.refl ids s, h, msg, rfl⟩

theorem put (h : policyId ∈ ids) (kind : FileKind) (content : String) :
    Installing ids P (Body.modify (·.put kind policyId content) : Cse Unit) :=
  fun s => .put h s kind content

theorem bind {p : Cse α} {f : α → Cse β} (hp : Installing ids P p)
    (hf : ∀ a, Installing ids P (f a)) : Installing ids P (p >>= f) := fun s =>
  (hp s).bind fun a s' h =>
    (hf a s').mono (fun _ _ h' => h.trans h') fun _ _ h' => ⟨h.trans h'.1, h'.2⟩

theorem within {p : Cse α} (hp : Installing ids P p) {id : String} (hid : id ∉ ids) :
    p.Within (SameFiles id) := fun s =>
  (hp s).mono (fun _ _ h => h.files id hid) fun _ _ h => h.1.files id hid

theorem installFile (h : policyId ∈ ids) (hP : P → faults.Installs) (errors : FileErrors)
    (kind : FileKind) (content : String) :
    Installing ids P (PolicyScripts.installFile faults errors kind policyId content) := by
  unfold PolicyScripts.installFile
  split
  · rename_i e he
    exact .fail fun hp => nomatch ((hP hp).create kind policyId).symm.trans he
  · refine (Installing.put h kind "").bind fun _ => ?_
    split
    · rename_i e he
      exact .fail fun hp => nomatch ((hP hp).write kind policyId).symm.trans he
    · refine (Installing.put h kind content).bind fun _ => ?_
      split
      · rename_i e he
        exact .fail fun hp => nomatch ((hP hp).chmod kind policyId).symm.trans he
      · exact .pure ()

theorem scriptPath (hP : P → faults.Installs) :
    Installing ids P (PolicyScripts.scriptPath cfg faults) := by
  unfold PolicyScripts.scriptPath
  split
  · rename_i e he
    exact .fail fun hp => nomatch (hP hp).createDir.symm.trans he
  · exact .pure _

theorem applyPolicy (h : policy.policyId ∈ ids) (hP : P → faults.Installs)
    (hwell : P → WellFormed cfg policy) :
    Installing ids P (PolicyScripts.applyPolicy cfg faults policy) := by
  unfold PolicyScripts.applyPolicy
  split
  · rename_i e he
    refine .fail fun hp => ?_
    obtain ⟨settings, _, _, _, _, hread, -⟩ := (hwell hp).settings
    exact nomatch hread.symm.trans he
  · rename_i settings hsettings
    refine (Installing.scriptPath hP).bind fun _ => ?_
    split
    · exact .pure ()
    · rename_i scriptB64 hscript
      unfold installPolicy
      -- what a well-formed policy names, where a step needs it
      have hnames : P → ∃ schedule bytes content, cronSchedule settings.frequency = some schedule ∧
          cfg.decode scriptB64 = .ok bytes ∧ cfg.fromUtf8 bytes = .ok content := by
        intro hp
        obtain ⟨settings', schedule, scriptB64', bytes, content, hread, hschedule, hlast, hdecode,
          hutf8⟩ := (hwell hp).settings
        cases hread.symm.trans hsettings
        cases hlast.symm.trans hscript
        exact ⟨schedule, bytes, content, hschedule, hdecode, hutf8⟩
      split
      · rename_i e he
        refine .fail fun hp => ?_
        obtain ⟨_, _, _, -, hdecode, -⟩ := hnames hp
        exact nomatch hdecode.symm.trans he
      · rename_i bytes hbytes
        split
        · rename_i e he
          refine .fail fun hp => ?_
          obtain ⟨_, bytes', _, -, hdecode, hutf8⟩ := hnames hp
          cases hdecode.symm.trans hbytes
          exact nomatch hutf8.symm.trans he
        · refine (Installing.installFile h hP _ _ _).bind fun _ => ?_
          refine (Installing.installFile h hP _ _ _).bind fun _ => ?_
          split
          · rename_i hnone
            refine .fail fun hp => ?_
            obtain ⟨_, _, _, hschedule, -⟩ := hnames hp
            exact nomatch hschedule.symm.trans hnone
          · exact .installFile h hP _ _ _

variable {policies : List PolicyStatus}

theorem applyPolicies (h : ∀ p ∈ policies, isScriptPolicy p = true → p.policyId ∈ ids)
    (hP : P → faults.Installs)
    (hwell : P → ∀ p ∈ policies, isScriptPolicy p = true → WellFormed cfg p) :
    Installing ids P (PolicyScripts.applyPolicies cfg faults policies) := by
  induction policies with
  | nil => exact .pure ()
  | cons policy policies ih =>
    have hrest := ih (fun p hp => h p (List.mem_cons_of_mem _ hp))
      fun hp p hmem => hwell hp p (List.mem_cons_of_mem _ hmem)
    rw [PolicyScripts.applyPolicies]
    split
    · rename_i hscript
      exact (Installing.applyPolicy (h policy List.mem_cons_self hscript) hP fun hp =>
        hwell hp policy List.mem_cons_self hscript).bind fun _ => hrest
    · exact hrest

end Installing

/-! ## 6. No orphans -/

/-- Every policy that has a file is recorded in the cache. -/
def Recorded (cfg : Settings) (s : Disk) : Prop :=
  ∀ kind id, (s.files kind id).isSome → id ∈ recorded cfg s

def scriptIds (policies : List PolicyStatus) : List String :=
  (policies.filter isScriptPolicy).map (·.policyId)

def Sound (cfg : Settings) (run : Run) : Prop :=
  run.faults.Installs ∧ ∀ p ∈ run.policies, isScriptPolicy p = true → WellFormed cfg p

/-- The cache can be read and saved and files can be removed, and either the script policies of the
    run can be installed, or they are all recorded already. -/
structure Orderly (cfg : Settings) (s : Disk) (run : Run) : Prop where
  readsCache : run.faults.readsCache = true
  removes : ∀ kind id, run.faults.remove kind id = false
  saves : run.faults.save = none
  installs : Sound cfg run ∨ ∀ id ∈ scriptIds run.policies, id ∈ recorded cfg s

theorem mem_scriptIds {p : PolicyStatus} (hp : p ∈ policies) (hscript : isScriptPolicy p = true) :
    p.policyId ∈ scriptIds policies :=
  List.mem_map.mpr ⟨p, List.mem_filter.mpr ⟨hp, hscript⟩, rfl⟩

theorem mem_policyIds_of_mem_scriptIds {id : String} (h : id ∈ scriptIds policies) :
    id ∈ policies.map (·.policyId) := by
  obtain ⟨p, hp, rfl⟩ := List.mem_map.mp h
  exact List.mem_map.mpr ⟨p, (List.mem_filter.mp hp).1, rfl⟩

theorem loadCache_ensures (cfg : Settings) : (loadCache faults).Ensures s
      (fun userPolicies s' => s' = s ∧
        (∀ id ∈ (userPolicies.lookup cfg.username).getD [], id ∈ recorded cfg s) ∧
        (faults.readsCache = true → (userPolicies.lookup cfg.username).getD [] = recorded cfg s))
      fun r s' => s' = s ∧ ∃ e, r = .error e := by
  unfold loadCache recorded
  rw [Body.ensures_bind, Body.ensures_get]
  cases hcache : s.cache with
  | missing => exact ⟨rfl, nofun, fun _ => rfl⟩
  | garbled =>
    dsimp only
    split
    · exact ⟨rfl, _, rfl⟩
    · exact ⟨rfl, nofun, fun _ => rfl⟩
  | saved userPolicies =>
    dsimp only
    split
    · exact ⟨rfl, fun _ h => h, fun _ => rfl⟩
    · rename_i hread
      exact ⟨rfl, nofun, fun h => absurd h hread⟩

theorem scriptPath_ensures (cfg : Settings) : (scriptPath cfg faults).Ensures s (fun _ s' => s' = s)
      fun r s' => s' = s ∧ ∃ e, r = .error e := by
  unfold scriptPath
  split
  · exact ⟨rfl, _, rfl⟩
  · rfl

theorem mem_of_kept {newPolicyIds : List String} (hs : Recorded cfg s)
    (hremove : ∀ kind id, faults.remove kind id = false) {id : String}
    (h : ((s.without faults ((recorded cfg s).filter fun id =>
      !newPolicyIds.contains id)).files kind id).isSome) :
    id ∈ recorded cfg s ∧ id ∈ newPolicyIds := by
  unfold Disk.without at h
  dsimp only at h
  split at h
  · cases h
  · rename_i hkept
    have hold := hs kind id h
    refine ⟨hold, ?_⟩
    by_contra hnew
    exact hkept ⟨List.mem_filter.mpr ⟨hold, by simpa using hnew⟩, hremove kind id⟩

/-- The files are those of the policies of the run, and these are recorded. -/
structure EndsWell (cfg : Settings) (run : Run) (s' : Disk) : Prop where
  recorded : recorded cfg s' = run.policies.map (·.policyId)
  files : ∀ kind id, (s'.files kind id).isSome → id ∈ run.policies.map (·.policyId)

/-- The run returns an error.  If the cache could be saved, then the script policies of the run may
    have got files while the cache is as it was, because one of them could not be installed. -/
structure EndsEarly (cfg : Settings) (run : Run) (s : Disk) (r : Except String Unit) (s' : Disk) :
    Prop where
  error : ∃ e, r = .error e
  cache : run.faults.save = none → s'.cache = s.cache
  files : ∀ kind id, (s'.files kind id).isSome →
    id ∈ PolicyScripts.recorded cfg s ∨ id ∈ scriptIds run.policies
  unsound : run.faults.save = none → s' = s ∨ ¬Sound cfg run

theorem applyAndSave_ensures {s1 : Disk} (hcache : s1.cache = s.cache)
    (hfiles : ∀ kind id, (s1.files kind id).isSome →
      id ∈ recorded cfg s ∧ id ∈ run.policies.map (·.policyId)) :
    (do
      applyPolicies cfg run.faults run.policies
      saveCache run.faults ((cfg.username, run.policies.map (·.policyId)) ::
        userPolicies.filter fun row => row.1 != cfg.username)
      return .ok () : Cse (Except String Unit)).Ensures s1 (fun _ s' => EndsWell cfg run s')
        (EndsEarly cfg run s) := by
  have happly : Installing (scriptIds run.policies) (Sound cfg run)
      (applyPolicies cfg run.faults run.policies) :=
    .applyPolicies (fun p hp hscript => mem_scriptIds hp hscript) And.left And.right
  rw [Body.ensures_bind]
  refine (happly s1).mono ?_ ?_
  · intro _ s2 hinstalls
    rw [Body.ensures_bind]
    unfold saveCache
    split
    · rename_i e left hsave
      have hsaved : run.faults.save ≠ none := hsave ▸ nofun
      refine ⟨⟨_, rfl⟩, fun h => absurd h hsaved, ?_, fun h => absurd h hsaved⟩
      intro kind id hfile
      exact (hinstalls.isSome hfile).imp_left fun h => (hfiles kind id h).1
    · refine ⟨?_, ?_⟩
      · simp [recorded]
      · intro kind id hfile
        exact (hinstalls.isSome hfile).elim (fun h => (hfiles kind id h).2)
          mem_policyIds_of_mem_scriptIds
  · rintro r s2 ⟨hinstalls, hunsound, herror⟩
    refine ⟨herror, fun _ => hinstalls.cache.trans hcache, ?_, fun _ => .inr hunsound⟩
    intro kind id hfile
    exact (hinstalls.isSome hfile).imp_left fun h => (hfiles kind id h).1

theorem processGroupPolicy_ensures (hs : Recorded cfg s) (hread : run.faults.readsCache = true)
    (hremove : ∀ kind id, run.faults.remove kind id = false) :
    (processGroupPolicy cfg run).Ensures s (fun _ s' => EndsWell cfg run s')
      (EndsEarly cfg run s) := by
  have hold : ∀ kind id, (s.files kind id).isSome →
      id ∈ recorded cfg s ∨ id ∈ scriptIds run.policies := fun kind id h => .inl (hs kind id h)
  unfold processGroupPolicy
  rw [Body.ensures_bind]
  refine (loadCache_ensures cfg).mono ?_ ?_
  · rintro userPolicies s0 ⟨rfl, -, hcached⟩
    dsimp only
    rw [hcached hread]
    have hkept : ∀ kind id, ((s0.without run.faults ((recorded cfg s0).filter fun id =>
        !(run.policies.map (·.policyId)).contains id)).files kind id).isSome →
        id ∈ recorded cfg s0 ∧ id ∈ run.policies.map (·.policyId) :=
      fun _ _ h => mem_of_kept hs hremove h
    split
    · rw [Body.ensures_bind]
      refine (scriptPath_ensures cfg).mono ?_ ?_
      · rintro _ _ rfl
        exact applyAndSave_ensures rfl hkept
      · rintro r s' ⟨rfl, herror⟩
        exact ⟨herror, fun _ => rfl, hold, fun _ => .inl rfl⟩
    · exact applyAndSave_ensures rfl hkept
  · rintro r s' ⟨rfl, herror⟩
    exact ⟨herror, fun _ => rfl, hold, fun _ => .inl rfl⟩

theorem recorded_congr {s' : Disk} (h : s'.cache = s.cache) : recorded cfg s' = recorded cfg s := by
  unfold recorded
  rw [h]

theorem Recorded.step {s : Disk} {run : Run} (hs : Recorded cfg s) (h : Orderly cfg s run) :
    Recorded cfg (step cfg s run) := by
  have hends : (processGroupPolicy cfg run).Ensures s (fun _ s' => Recorded cfg s')
      fun _ s' => Recorded cfg s' := by
    refine (processGroupPolicy_ensures hs h.readsCache h.removes).mono ?_ ?_
    · intro _ s' hwell kind id hfile
      rw [hwell.recorded]
      exact hwell.files kind id hfile
    · intro r s' hearly
      rcases hearly.unsound h.saves with rfl | hunsound
      · exact hs
      · -- then all its script policies are recorded, and still are
        have hrecorded := h.installs.resolve_left hunsound
        intro kind id hfile
        rw [recorded_congr (hearly.cache h.saves)]
        exact (hearly.files kind id hfile).elim (fun h => h) (hrecorded id)
  exact hends.run

theorem Recorded.removed (hs : Recorded cfg s) (hread : run.faults.readsCache = true)
    (hremove : ∀ kind id, run.faults.remove kind id = false)
    (hok : ((processGroupPolicy cfg run).run s).1 = .ok ()) {id : String}
    (hgone : ∀ p ∈ run.policies, p.policyId ≠ id) (kind : FileKind) :
    (PolicyScripts.step cfg s run).files kind id = none := by
  have hends : (processGroupPolicy cfg run).Ensures s
      (fun r s' => r = .ok () → s'.files kind id = none)
      fun r s' => r = .ok () → s'.files kind id = none := by
    refine (processGroupPolicy_ensures hs hread hremove).mono ?_ ?_
    · intro _ s' hwell _
      by_contra hfile
      obtain ⟨p, hp, heq⟩ := List.mem_map.mp
        (hwell.files kind id (Option.isSome_iff_ne_none.mpr hfile))
      exact hgone p hp heq
    · rintro r s' hearly rfl
      obtain ⟨e, he⟩ := hearly.error
      cases he
  exact hends.run hok

/-- After any number of orderly runs every policy that has a file is recorded, and a later run
    that succeeds without the policy removes its three files. -/
theorem no_orphans {runs : List Run} (h : Along (step cfg) (Orderly cfg) runs .fresh) :
    let s := runs.foldl (step cfg) .fresh
    Recorded cfg s ∧ ∀ run : Run, run.faults.readsCache = true →
      (∀ kind id, run.faults.remove kind id = false) →
      ((processGroupPolicy cfg run).run s).1 = .ok () →
      ∀ id, (∀ p ∈ run.policies, p.policyId ≠ id) →
        ∀ kind, (step cfg s run).files kind id = none := by
  have hs : Recorded cfg (runs.foldl (step cfg) .fresh) :=
    h.foldl (Recorded cfg) (fun _ _ hs hrun => hs.step hrun) nofun
  exact ⟨hs, fun run hread hremove hok id hgone kind => hs.removed hread hremove hok hgone kind⟩

/-! ## 7. Several users -/

/-- The files of the host, the cache of each user, and the policies of each user's last run. -/
structure Host where
  files : FileKind → String → Option String
  caches : String → CacheFile
  assigned : String → List String

def Host.fresh : Host := ⟨fun _ _ => none, fun _ => .missing, fun _ => []⟩

def Host.disk (h : Host) (username : String) : Disk := ⟨h.files, h.caches username⟩

structure UserRun where
  username : String
  run : Run

def Settings.forUser (cfg : Settings) (username : String) : Settings :=
  { cfg with username := username }

def Host.step (cfg : Settings) (h : Host) (r : UserRun) : Host :=
  let s := PolicyScripts.step (cfg.forUser r.username) (h.disk r.username) r.run
  { files := s.files
    caches := Function.update h.caches r.username s.cache
    assigned := Function.update h.assigned r.username (r.run.policies.map (·.policyId)) }

/-- The run leaves the files of every policy that is assigned to another user. -/
def Undisturbed (cfg : Settings) (h : Host) (r : UserRun) : Prop :=
  ∀ v, v ≠ r.username → ∀ id ∈ h.assigned v, ∀ kind,
    (h.step cfg r).files kind id = h.files kind id

/-- The run neither installs nor drops a policy that is assigned to another user. -/
def Separate (cfg : Settings) (h : Host) (r : UserRun) : Prop :=
  ∀ v, v ≠ r.username → ∀ id ∈ h.assigned v, id ∉ scriptIds r.run.policies ∧
    (id ∈ recorded (cfg.forUser r.username) (h.disk r.username) →
      id ∈ r.run.policies.map (·.policyId))

section Frame

variable {id : String}

theorem saveCache_sameFiles : (saveCache faults userPolicies).Within (SameFiles id) := by
  unfold saveCache
  split
  · exact Body.Within.bind (fun _ _ => rfl) fun _ => .leave _
  · exact fun _ _ => rfl

theorem step_sameFiles (hinstalls : id ∉ scriptIds run.policies)
    (hdrops : id ∈ recorded cfg s → id ∈ run.policies.map (·.policyId)) :
    SameFiles id s (step cfg s run) := by
  have happly : Installing (scriptIds run.policies) False
      (applyPolicies cfg run.faults run.policies) :=
    .applyPolicies (fun p hp hscript => mem_scriptIds hp hscript) False.elim False.elim
  have hends : (processGroupPolicy cfg run).Ensures s (fun _ s' => SameFiles id s s')
      fun _ s' => SameFiles id s s' := by
    unfold processGroupPolicy
    rw [Body.ensures_bind]
    refine (loadCache_ensures cfg).mono ?_ ?_
    · rintro userPolicies s0 ⟨rfl, hcached, -⟩
      dsimp only
      have hwithout : (Body.modify (·.without run.faults
          (((userPolicies.lookup cfg.username).getD []).filter fun id =>
            !(run.policies.map (·.policyId)).contains id)) : Cse Unit).Ensures s0
          (fun _ s' => SameFiles id s0 s') fun _ s' => SameFiles id s0 s' := by
        refine fun kind => if_neg fun hgone => ?_
        obtain ⟨hold, hnew⟩ := List.mem_filter.mp hgone.1
        simp [hdrops (hcached id hold)] at hnew
      have hrest : (do
          applyPolicies cfg run.faults run.policies
          saveCache run.faults ((cfg.username, run.policies.map (·.policyId)) ::
            userPolicies.filter fun row => row.1 != cfg.username)
          return .ok () : Cse (Except String Unit)).Within (SameFiles id) :=
        (happly.within hinstalls).bind fun _ => saveCache_sameFiles.bind fun _ => .pure _
      have hdropped := hwithout.bind fun (_ : Unit) s' h => (hrest s').mono
        (fun _ _ h' => IsTrans.trans _ _ _ h h') fun _ _ h' => IsTrans.trans _ _ _ h h'
      split
      · rw [Body.ensures_bind]
        refine (scriptPath_ensures cfg).mono ?_ ?_
        · rintro _ _ rfl
          exact hdropped
        · rintro r s' ⟨rfl, -⟩ kind
          rfl
      · exact hdropped
    · rintro r s' ⟨rfl, -⟩ kind
      rfl
  exact hends.run

end Frame

/-- **Policies of several users.**  In every sequence of runs in which no run installs or drops a
    policy that is assigned to another user, no run touches the files of such a policy. -/
theorem users_undisturbed (cfg : Settings) {runs : List UserRun}
    (h : Along (Host.step cfg) (Separate cfg) runs .fresh) :
    Along (Host.step cfg) (Undisturbed cfg) runs .fresh := by
  intro before r after heq v hv id hid kind
  obtain ⟨hinstalls, hdrops⟩ := h before r after heq v hv id hid
  exact step_sameFiles hinstalls hdrops kind

def plainSettings : Settings where
  username := "alice@example.com"
  policiesDbPath := "/var/cache/himmelblau-policies"
  decode text := .ok text.toUTF8.toList
  fromUtf8 bytes := .ok (String.ofList (bytes.map fun b => Char.ofNat b.toNat))

def scriptPolicy (policyId frequency : String) : PolicyStatus where
  policyId := policyId
  details :=
    [("linux_customconfig_executioncontext", "root"),
      ("linux_customconfig_executionfrequency", frequency),
      ("linux_customconfig_script", "#!/bin/sh")].map fun d =>
    { settingDefinitionItemId := d.1
      cspPath := ""
      expectedValue := d.2
      actualValue := ""
      newComplianceState := .nonCompliant
      oldComplianceState := .nonCompliant }

def userPolicy (policyId : String) : PolicyStatus :=
  { scriptPolicy policyId "60" with
    details := (scriptPolicy policyId "60").details.map fun d =>
      if d.expectedValue = "root" then { d with expectedValue := "user" } else d }

theorem users_undisturbed_alice_bob :
    Along (Host.step plainSettings) (Undisturbed plainSettings)
      [⟨"alice", ⟨[userPolicy "a"], .none⟩⟩, ⟨"bob", ⟨[userPolicy "b"], .none⟩⟩] .fresh := by
  refine users_undisturbed plainSettings (along_cons.mpr ⟨?_, along_cons.mpr ⟨?_, along_nil⟩⟩)
  · intro v _ id hid
    cases hid
  · intro v hv id hid
    by_cases halice : v = "alice"
    · subst halice
      obtain rfl : id = "a" := List.mem_singleton.mp hid
      decide +kernel
    · simp [Host.step, Host.fresh, Function.update_of_ne halice] at hid

/-- A policy of alice and bob runs as the user.  The run for bob gives alice's cron job to bob, and
    when the policy is taken from bob its files are removed, while alice still has it. -/
theorem shared_policy_disturbed :
    let h := Host.step plainSettings .fresh ⟨"alice", ⟨[userPolicy "a"], .none⟩⟩
    let h' := h.step plainSettings ⟨"bob", ⟨[userPolicy "a"], .none⟩⟩
    let h'' := h'.step plainSettings ⟨"bob", ⟨[], .none⟩⟩
    let wrapper := "/var/cache/himmelblau-policies/bin/policy_a_wrapper.sh\n"
    h.files .cron "a" = some ("0 * * * * alice " ++ wrapper) ∧
      "a" ∈ h'.assigned "alice" ∧ h'.files .cron "a" = some ("0 * * * * bob " ++ wrapper) ∧
      "a" ∈ h''.assigned "alice" ∧ ∀ kind, h''.files kind "a" = none := by
  refine ⟨by decide +kernel, by decide +kernel, by decide +kernel, by decide +kernel, ?_⟩
  intro kind
  cases kind <;> decide +kernel

/-- The second policy of a run has a frequency that is not known.  The cron job of the first is
    there and not recorded, and the next run, which has no policies, succeeds and leaves it. -/
theorem malformed_policy_orphans :
    let s := step plainSettings .fresh ⟨[scriptPolicy "a" "15", scriptPolicy "b" "7"], .none⟩
    let s' := step plainSettings s ⟨[], .none⟩
    (s.files .cron "a").isSome ∧ "a" ∉ recorded plainSettings s ∧
      ((processGroupPolicy plainSettings ⟨[], .none⟩).run s).1 = .ok () ∧
      (s'.files .cron "a").isSome := by
  decide +kernel

def quarterHourly (ids : List String) : Run := ⟨ids.map (scriptPolicy · "15"), .none⟩

theorem quarterHourly_orderly (s : Disk) (ids : List String) :
    Orderly plainSettings s (quarterHourly ids) := by
  -- only the details count, and they do not name the policy
  obtain ⟨hcontexts, hretries, hfrequency, hscript⟩ :
      WellFormed plainSettings (scriptPolicy "" "15") :=
    ⟨by decide, by decide, ⟨"15", by decide, by decide⟩, ⟨"#!/bin/sh", _, _, by decide, rfl, rfl⟩⟩
  refine ⟨rfl, fun _ _ => rfl, rfl, .inl ⟨⟨rfl, fun _ _ => rfl, fun _ _ => rfl, fun _ _ => rfl⟩,
    ?_⟩⟩
  intro p hp _
  obtain ⟨id, -, rfl⟩ := List.mem_map.mp hp
  exact ⟨hcontexts, hretries, hfrequency, hscript⟩

/-- A run with two policies, one with the second of them, and one without. -/
theorem quarterHourly_recorded :
    let s := [quarterHourly ["a", "b"], quarterHourly ["b"]].foldl (step plainSettings) .fresh
    Recorded plainSettings s ∧
      ∀ kind, (step plainSettings s (quarterHourly [])).files kind "b" = none := by
  have hruns : Along (step plainSettings) (Orderly plainSettings)
      [quarterHourly ["a", "b"], quarterHourly ["b"]] .fresh :=
    along_cons.mpr ⟨quarterHourly_orderly _ _,
      along_cons.mpr ⟨quarterHourly_orderly _ _, along_nil⟩⟩
  obtain ⟨hrecorded, hremoved⟩ := no_orphans hruns
  exact ⟨hrecorded, hremoved (quarterHourly []) rfl (fun _ _ => rfl) (by decide +kernel) "b" nofun⟩

end Himmelblau.PolicyScripts
