/-
  **The compliance of the device with Intune policies**, mirror of `policies/src/compliance_ext.rs`
  and of the cache of `common/src/policy_cache.rs`.

  A password requirement is reported as met once it is stored for the PIN prompt.  What is stored
  is one number per requirement, and the last policy wins: another policy that asks for less
  replaces a number that was reported before.
-/
import Himmelblau.PinPolicy
import Himmelblau.ServerConfig

namespace Himmelblau.Compliance

open NameMapping DirectoryGroups ServerConfig PinPolicy List

/-! ## 1. Policies -/

inductive ComplianceState where
  | compliant
  | nonCompliant
  | error
  | other (text : String)
  deriving DecidableEq, Repr

structure PolicyDetails where
  settingDefinitionItemId : String
  cspPath : String
  expectedValue : String
  actualValue : String
  newComplianceState : ComplianceState
  oldComplianceState : ComplianceState
  deriving DecidableEq, Repr

structure PolicyStatus where
  policyId : String
  details : List PolicyDetails
  deriving DecidableEq, Repr

def startsWith (text part : String) : Bool := part.toList.isPrefixOf text.toList

/-! ## 2. Distributions -/

structure Semver (V : Type) where
  parse : String → Option V
  le : V → V → Bool
  text : V → String

structure OsRelease where
  id : String
  versionId : String

def stripZeros (part : String) : String :=
  let stripped := part.toList.dropWhile (· == '0')
  if stripped.isEmpty then "0" else String.ofList stripped

def normalizeVersion (version : String) : String :=
  match (split '.' version).map stripZeros with
  | [] => "0.0.0"
  | [a] => a ++ ".0.0"
  | [a, b] => a ++ "." ++ b ++ ".0"
  | a :: b :: c :: _ => a ++ "." ++ b ++ "." ++ c

/-- The index of `<provider>/Distribution/AllowedDistros/<index>/<setting>`. -/
def extractDistroIndex (cspPath : String) : Option String :=
  match split '/' cspPath with
  | _ :: "Distribution" :: "AllowedDistros" :: index :: _ :: _ => some index
  | _ => none

def eqIgnoreAsciiCase (a b : String) : Bool := asciiLower a == asciiLower b

@[match_pattern] def typeSetting : String := "linux_distribution_alloweddistros_item_$type"

section Distribution

variable {V : Type} (lib : Semver V) (systemDistro versionId : String) (systemVersion : V)
  (details : List PolicyDetails)

/-- A bound on the version: the two arms for the minimum and the maximum. -/
def evaluateVersion (within : V → Bool) (detail : PolicyDetails) : PolicyDetails :=
  let detail := { detail with actualValue := versionId }
  if detail.expectedValue == "" then { detail with newComplianceState := .compliant }
  else
    match lib.parse (normalizeVersion detail.expectedValue) with
    | some bound =>
      if within bound then { detail with newComplianceState := .compliant }
      else { detail with
        actualValue := lib.text systemVersion
        newComplianceState := .nonCompliant }
    | none => { detail with newComplianceState := .error }

def evaluateDistroDetail (detail : PolicyDetails) : PolicyDetails :=
  match detail.settingDefinitionItemId with
  | typeSetting =>
    { detail with
      actualValue := systemDistro
      newComplianceState :=
        if eqIgnoreAsciiCase detail.expectedValue systemDistro then .compliant
        else .nonCompliant }
  | "linux_distribution_alloweddistros_item_minimumversion" =>
    evaluateVersion lib versionId systemVersion (lib.le · systemVersion) detail
  | "linux_distribution_alloweddistros_item_maximumversion" =>
    evaluateVersion lib versionId systemVersion (lib.le systemVersion ·) detail
  | _ => detail

def distroGroup (detail : PolicyDetails) : Option String :=
  if startsWith detail.settingDefinitionItemId "linux_distribution_" then
    extractDistroIndex detail.cspPath
  else none

def matchesDistro (detail : PolicyDetails) : Bool :=
  detail.settingDefinitionItemId == typeSetting &&
    eqIgnoreAsciiCase detail.expectedValue systemDistro

def notApplicable (detail : PolicyDetails) : PolicyDetails :=
  { detail with
    actualValue := ""
    newComplianceState := .compliant
    oldComplianceState := .compliant }

def processDetail (groupMatches hasMatchingDistro : Bool) (d : PolicyDetails) : PolicyDetails :=
  if groupMatches then
    -- This distro group matches — evaluate normally
    evaluateDistroDetail lib systemDistro versionId systemVersion d
  else if hasMatchingDistro then
    -- Not applicable: another distro group matches the system
    notApplicable d
  else if d.settingDefinitionItemId == typeSetting then
    -- Stays as default NonCompliant
    { d with actualValue := systemDistro }
  else
    -- Version constraints for unsupported distro: not applicable
    notApplicable d

def groupMatches (index : String) : Bool :=
  (details.filter fun d => distroGroup d == some index).any (matchesDistro systemDistro)

def processGroup (hasMatchingDistro : Bool) (details : List PolicyDetails) (index : String) :
    List PolicyDetails :=
  let groupMatches := groupMatches systemDistro details index
  details.map fun d =>
    if distroGroup d = some index then
      processDetail lib systemDistro versionId systemVersion groupMatches hasMatchingDistro d
    else d

def hasMatchingDistro : Bool :=
  details.any fun d => (distroGroup d).isSome && matchesDistro systemDistro d

/-- The hash map has its groups in any order; here it is that of the details. -/
def applyDistributionCompliance : List PolicyDetails :=
  let hasMatchingDistro := hasMatchingDistro systemDistro details
  (details.filterMap distroGroup).dedup.foldl
    (processGroup lib systemDistro versionId systemVersion hasMatchingDistro) details

/-- What the details are grouped and compared by is the same. -/
structure SameSetting (d d' : PolicyDetails) : Prop where
  id : d'.settingDefinitionItemId = d.settingDefinitionItemId
  cspPath : d'.cspPath = d.cspPath
  expectedValue : d'.expectedValue = d.expectedValue

variable {lib systemDistro versionId systemVersion}

theorem SameSetting.distroGroup_eq {d d' : PolicyDetails} (h : SameSetting d d') :
    distroGroup d' = distroGroup d := by
  unfold distroGroup
  rw [h.id, h.cspPath]

theorem SameSetting.matchesDistro_eq {d d' : PolicyDetails} (h : SameSetting d d') :
    matchesDistro systemDistro d' = matchesDistro systemDistro d := by
  unfold matchesDistro
  rw [h.id, h.expectedValue]

theorem evaluateVersion_same (within : V → Bool) (d : PolicyDetails) :
    SameSetting d (evaluateVersion lib versionId systemVersion within d) := by
  unfold evaluateVersion
  dsimp only
  split
  · exact ⟨rfl, rfl, rfl⟩
  · split
    · split
      · exact ⟨rfl, rfl, rfl⟩
      · exact ⟨rfl, rfl, rfl⟩
    · exact ⟨rfl, rfl, rfl⟩

theorem processDetail_same (own other : Bool) (d : PolicyDetails) :
    SameSetting d (processDetail lib systemDistro versionId systemVersion own other d) := by
  unfold processDetail
  split
  · unfold evaluateDistroDetail
    split
    · exact ⟨rfl, rfl, rfl⟩
    · exact evaluateVersion_same _ d
    · exact evaluateVersion_same _ d
    · exact ⟨rfl, rfl, rfl⟩
  · split
    · exact ⟨rfl, rfl, rfl⟩
    · split
      · exact ⟨rfl, rfl, rfl⟩
      · exact ⟨rfl, rfl, rfl⟩

theorem groupMatches_map {f : PolicyDetails → PolicyDetails} (hf : ∀ d, SameSetting d (f d))
    (details : List PolicyDetails) (index : String) :
    groupMatches systemDistro (details.map f) index = groupMatches systemDistro details index := by
  unfold groupMatches
  rw [filter_map, any_map]
  simp only [Function.comp_def, (hf _).distroGroup_eq, (hf _).matchesDistro_eq]

/-- A pass leaves the details of other groups alone and all that the groups are compared by, so that
    each detail is processed once, in whatever order the groups come. -/
theorem foldl_processGroup (other : Bool) {order : List String} (hnodup : order.Nodup)
    (details : List PolicyDetails) :
    order.foldl (processGroup lib systemDistro versionId systemVersion other) details =
      details.map fun d =>
        match distroGroup d with
        | none => d
        | some index =>
          if index ∈ order then
            processDetail lib systemDistro versionId systemVersion
              (groupMatches systemDistro details index) other d
          else d := by
  induction order generalizing details with
  | nil =>
    refine (map_id details).symm.trans (map_congr_left fun d _ => ?_)
    cases distroGroup d <;> simp
  | cons first order ih =>
    obtain ⟨hfirst, hnodup⟩ := nodup_cons.mp hnodup
    have hsame : ∀ d, SameSetting d (if distroGroup d = some first then
        processDetail lib systemDistro versionId systemVersion
          (groupMatches systemDistro details first) other d
        else d) := by
      intro d
      split
      · exact processDetail_same _ _ d
      · exact ⟨rfl, rfl, rfl⟩
    rw [foldl_cons, ih hnodup]
    unfold processGroup
    simp only [groupMatches_map hsame, map_map]
    refine map_congr_left fun d _ => ?_
    rw [Function.comp_apply, (hsame d).distroGroup_eq]
    cases hgroup : distroGroup d with
    | none => simp
    | some index =>
      by_cases hindex : index = first
      · subst hindex
        simp [hfirst]
      · simp [hindex]

theorem applyDistributionCompliance_eq :
    applyDistributionCompliance lib systemDistro versionId systemVersion details =
      details.map fun d =>
        match distroGroup d with
        | none => d
        | some index =>
          processDetail lib systemDistro versionId systemVersion
            (groupMatches systemDistro details index) (hasMatchingDistro systemDistro details)
            d := by
  unfold applyDistributionCompliance
  rw [foldl_processGroup _ (nodup_dedup _)]
  refine map_congr_left fun d hd => ?_
  cases hgroup : distroGroup d with
  | none => rfl
  | some index =>
    exact if_pos (mem_dedup.mpr (mem_filterMap.mpr ⟨d, hd, hgroup⟩))

end Distribution

/-! ## 3. Password requirements -/

inductive Requirement where
  | length
  | digits
  | lowercase
  | symbols
  | uppercase
  deriving DecidableEq, Repr

namespace Requirement

/-- The setting of the policy, which is also the key in the cache. -/
def key : Requirement → String
  | length => "linux_passwordpolicy_minimumlength"
  | digits => "linux_passwordpolicy_minimumdigits"
  | lowercase => "linux_passwordpolicy_minimumlowercase"
  | symbols => "linux_passwordpolicy_minimumsymbols"
  | uppercase => "linux_passwordpolicy_minimumuppercase"

def label : Requirement → String
  | length => "length"
  | digits => "digits"
  | lowercase => "lowercase"
  | symbols => "symbols"
  | uppercase => "uppercase"

def all : List Requirement := [length, digits, lowercase, symbols, uppercase]

def ofKey (id : String) : Option Requirement := all.find? fun r => r.key == id

def actual (pin : String) : Requirement → ℕ
  | length => pin.length
  | digits => (pin.toList.filter Char.isDigit).length
  | lowercase => (pin.toList.filter Char.isLower).length
  | symbols => (pin.toList.filter fun c => !c.isAlphanum).length
  | uppercase => (pin.toList.filter Char.isUpper).length

variable {r : Requirement}

theorem key_injective {r' : Requirement} (h : r.key = r'.key) : r = r' := by
  revert h
  cases r <;> cases r' <;> decide

theorem ofKey_key (r : Requirement) : ofKey r.key = some r := by
  cases r <;> decide

theorem key_of_ofKey {id : String} (h : ofKey id = some r) : id = r.key := by
  have hfound := find?_some h
  exact (beq_iff_eq.mp hfound).symm

end Requirement

/-! ## 4. The cache -/

abbrev PolicyTable := List (String × PolicyValue)

namespace PolicyTable

def get (table : PolicyTable) (key : String) : Option PolicyValue := table.lookup key

def insert (table : PolicyTable) (key : String) (value : PolicyValue) : PolicyTable :=
  (key, value) :: table.filter fun row => row.1 != key

theorem get_insert (table : PolicyTable) (key a : String) (value : PolicyValue) :
    (table.insert key value).get a = if a = key then some value else table.get a := by
  unfold insert get
  split
  · rename_i h
    rw [h, lookup_cons_self]
  · rename_i h
    have hne : (a == key) = false := by simp [h]
    rw [lookup_cons, hne]
    exact MappedNameCache.lookup_filter_ne h table

end PolicyTable

/-- How the cache is open: only root may write it. -/
inductive CacheMode where
  | writable
  | readOnly
  deriving DecidableEq, Repr

/-- `PolicyCache::set`; `failure` is the error of the database, if it has one.  Nothing is written,
    and no error returned, by one who may not write. -/
def set (mode : CacheMode) (failure : Option String) (table : PolicyTable) (key : String)
    (value : PolicyValue) : Except String Unit × PolicyTable :=
  match mode with
  | .readOnly => (.ok (), table)
  | .writable =>
    match failure with
    | some e => (.error e, table)
    | none => (.ok (), table.insert key value)

/-! ## 5. `ComplianceCSE` -/

/-- What is found on the machine while a policy is processed: the release, whether the cache can be
    opened and how, the errors of the writes (by the position of the detail) and whether a disk is
    encrypted. -/
structure Situation where
  osRelease : Except String OsRelease
  cache : Except String CacheMode
  writeFails : ℕ → Option String
  isDiskEncrypted : Bool

def applyRequirement (r : Requirement) (mode : CacheMode) (failure : Option String)
    (details : PolicyDetails) (table : PolicyTable) :
    PolicyDetails × PolicyTable × List String :=
  match parseU32 details.expectedValue with
  | some min =>
    match set mode failure table details.settingDefinitionItemId (.int min) with
    | (.ok (), table) =>
      ({ details with
          actualValue := details.expectedValue
          newComplianceState := .compliant }, table, [])
    | (.error e, table) =>
      (details, table, ["Failed to set minimum password " ++ r.label ++ " policy: " ++ e])
  | none => (details, table, ["Failed to read minimum password " ++ r.label ++ " policy"])

section Cse

variable {V : Type} (lib : Semver V) (toLowercase : String → String)

def applyDetail (S : Situation) (mode : CacheMode) (i : ℕ) (details : PolicyDetails)
    (table : PolicyTable) : PolicyDetails × PolicyTable × List String :=
  if startsWith details.settingDefinitionItemId "linux_distribution_" then (details, table, [])
  else if details.settingDefinitionItemId == "linux_deviceencryption_required" then
    let details := { details with actualValue := toString S.isDiskEncrypted }
    if toLowercase details.expectedValue != "true" || S.isDiskEncrypted then
      ({ details with newComplianceState := .compliant }, table, [])
    else (details, table, [])
  else
    match Requirement.ofKey details.settingDefinitionItemId with
    | some r => applyRequirement r mode (S.writeFails i) details table
    | none => (details, table, [])

def applyDetails (S : Situation) (mode : CacheMode) :
    ℕ → List PolicyDetails → PolicyTable → List PolicyDetails × PolicyTable × List String
  | _, [], table => ([], table, [])
  | i, d :: ds, table =>
    let (d, table, errors) := applyDetail toLowercase S mode i d table
    let (ds, table, errors') := applyDetails S mode (i + 1) ds table
    (d :: ds, table, errors ++ errors')

def applyCompliance (S : Situation) (policy : PolicyStatus) (table : PolicyTable) :
    Except String Unit × PolicyStatus × PolicyTable :=
  match S.osRelease with
  | .error e => (.error ("Failed to read /etc/os-release: " ++ e), policy, table)
  | .ok osRelease =>
    match lib.parse (normalizeVersion osRelease.versionId) with
    | none =>
      (.error ("Failed to parse system version '" ++ normalizeVersion osRelease.versionId ++
        "' as semver"), policy, table)
    | some systemVersion =>
      match S.cache with
      | .error e => (.error e, policy, table)
      | .ok mode =>
        let details := applyDistributionCompliance lib osRelease.id osRelease.versionId
          systemVersion policy.details
        let (details, table, errors) := applyDetails toLowercase S mode 0 details table
        (if errors.isEmpty then .ok ()
          else .error ("Compliance check failures: " ++ "; ".intercalate errors),
          { policy with details := details }, table)

def isCompliancePolicy (policy : PolicyStatus) : Bool :=
  policy.details.any fun detail =>
    let id := detail.settingDefinitionItemId
    startsWith id "linux_distribution_" || startsWith id "linux_deviceencryption_" ||
      startsWith id "linux_passwordpolicy_"

def applyPolicies : List (PolicyStatus × Situation) → PolicyTable →
    List PolicyStatus × PolicyTable × List String
  | [], table => ([], table, [])
  | (policy, S) :: rest, table =>
    if isCompliancePolicy policy then
      let (result, policy', table) := applyCompliance lib toLowercase S policy table
      let (policies, table, errors) := applyPolicies rest table
      match result with
      | .ok () => (policy' :: policies, table, errors)
      | .error e => (policy' :: policies, table,
          ("Policy " ++ policy.policyId ++ ": " ++ e) :: errors)
    else
      let (policies, table, errors) := applyPolicies rest table
      (policy :: policies, table, errors)

def processGroupPolicy (policies : List (PolicyStatus × Situation)) (table : PolicyTable) :
    Except String Bool × List PolicyStatus × PolicyTable :=
  let (policies, table, errors) := applyPolicies lib toLowercase policies table
  (if errors.isEmpty then .ok true
    else .error ("Compliance processing errors: " ++ "; ".intercalate errors), policies, table)

end Cse

/-! ## 6. What a stored policy demands of a PIN -/

theorem kinds_le_one (c : Char) :
    c.isDigit.toNat + c.isLower.toNat + (!c.isAlphanum).toNat + c.isUpper.toNat ≤ 1 := by
  have hdigit : c.isDigit = true → c.val.toNat ≤ 57 := by
    intro h
    simp only [Char.isDigit, Bool.and_eq_true, decide_eq_true_eq, UInt32.le_iff_toNat_le] at h
    exact h.2
  have hlower : c.isLower = true → 97 ≤ c.val.toNat := by
    intro h
    simp only [Char.isLower, Bool.and_eq_true, decide_eq_true_eq, UInt32.le_iff_toNat_le] at h
    exact h.1
  have hupper : c.isUpper = true → 65 ≤ c.val.toNat ∧ c.val.toNat ≤ 90 := by
    intro h
    simp only [Char.isUpper, decide_eq_true_eq, UInt32.le_iff_toNat_le] at h
    exact h
  unfold Char.isAlphanum Char.isAlpha
  cases hd : c.isDigit <;> cases hl : c.isLower <;> cases hu : c.isUpper <;>
    simp [hd, hl, hu] at hdigit hlower hupper ⊢ <;> omega

theorem kinds_le_length (pin : String) : Requirement.digits.actual pin +
    Requirement.lowercase.actual pin + Requirement.symbols.actual pin +
      Requirement.uppercase.actual pin ≤ Requirement.length.actual pin := by
  unfold Requirement.actual
  rw [← String.length_toList]
  induction pin.toList with
  | nil => decide
  | cons c cs ih =>
    have hc := kinds_le_one c
    simp only [filter_cons, length_cons] at ih ⊢
    split <;> split <;> split <;> split <;> simp_all <;> omega

variable {policies : String → Option PolicyValue} {r : Requirement} {v : UInt32}

theorem checkPolicy_eq_ok_iff {key label : String} {actual : ℕ} :
    checkPolicy policies key actual label = .ok () ↔
      ∀ min, policies key = some (.int min) → min.toNat ≤ actual := by
  unfold checkPolicy
  split
  · rename_i min hmin
    rw [hmin]
    by_cases hless : actual < min.toNat
    · rw [if_pos hless]
      refine iff_of_false nofun fun h => ?_
      exact absurd (h min rfl) (Nat.not_le.mpr hless)
    · rw [if_neg hless]
      refine iff_of_true rfl ?_
      rintro min' heq
      cases heq
      exact Nat.le_of_not_lt hless
  · rename_i hnot
    exact iff_of_true rfl fun min hmin => absurd hmin (hnot min)

theorem meetsIntunePinPolicy_iff {pin : String} :
    meetsIntunePinPolicy (some policies) pin = .ok () ↔
      ∀ r : Requirement, ∀ min, policies r.key = some (.int min) → min.toNat ≤ r.actual pin := by
  have hbind : ∀ x y : Except String Unit,
      (x >>= fun _ => y) = .ok () ↔ x = .ok () ∧ y = .ok () := by
    intro x y
    cases x with
    | error e => exact ⟨nofun, nofun⟩
    | ok u => exact ⟨fun h => ⟨rfl, h⟩, fun h => h.2⟩
  unfold meetsIntunePinPolicy
  simp only [hbind, checkPolicy_eq_ok_iff]
  constructor
  · rintro ⟨hlength, hdigits, hlower, hupper, hsymbols⟩ r
    cases r with
    | length => exact hlength
    | digits => exact hdigits
    | lowercase => exact hlower
    | symbols => exact hsymbols
    | uppercase => exact hupper
  · intro h
    exact ⟨h .length, h .digits, h .lowercase, h .uppercase, h .symbols⟩

def PolicyTable.demands (table : PolicyTable) (r : Requirement) : ℕ :=
  match table.get r.key with
  | some (.int min) => min.toNat
  | _ => 0

theorem meetsIntunePinPolicy_iff_demands {table : PolicyTable} {pin : String} :
    meetsIntunePinPolicy (some table.get) pin = .ok () ↔
      ∀ r, table.demands r ≤ Requirement.actual pin r := by
  rw [meetsIntunePinPolicy_iff]
  refine forall_congr' fun r => ?_
  unfold PolicyTable.demands
  constructor
  · intro h
    split
    · rename_i min hmin
      exact h min hmin
    · exact Nat.zero_le _
  · intro h min hmin
    rw [hmin] at h
    exact h

/-- What every accepted PIN has of a requirement: what is asked for, and in length at least what
    the kinds of characters add up to. -/
def bound (asked : Requirement → ℕ) : Requirement → ℕ
  | .length => max (asked .length)
      (asked .digits + asked .lowercase + asked .symbols + asked .uppercase)
  | r => asked r

theorem bound_le_actual {asked : Requirement → ℕ} {pin : String}
    (h : ∀ r, asked r ≤ Requirement.actual pin r) : bound asked r ≤ r.actual pin := by
  cases r with
  | length =>
    refine max_le (h .length) ?_
    have hkinds := kinds_le_length pin
    have hd := h .digits
    have hl := h .lowercase
    have hs := h .symbols
    have hu := h .uppercase
    omega
  | digits => exact h .digits
  | lowercase => exact h .lowercase
  | symbols => exact h .symbols
  | uppercase => exact h .uppercase

def pinWith (digits lowercase symbols uppercase : ℕ) : String :=
  String.ofList (replicate digits '0' ++ replicate lowercase 'a' ++
    replicate symbols '!' ++ replicate uppercase 'A')

theorem actual_pinWith (d l s u : ℕ) (r : Requirement) : r.actual (pinWith d l s u) =
    match r with
    | .length => d + l + s + u
    | .digits => d
    | .lowercase => l
    | .symbols => s
    | .uppercase => u := by
  cases r <;> simp [Requirement.actual, pinWith, filter_append, Nat.add_assoc]

theorem exists_pin_actual_eq_bound (asked : Requirement → ℕ) (r : Requirement) :
    ∃ pin, (∀ r', asked r' ≤ Requirement.actual pin r') ∧ r.actual pin = bound asked r := by
  cases r with
  | length =>
    refine ⟨pinWith (asked .digits) (asked .lowercase) (asked .symbols + (asked .length -
      (asked .digits + asked .lowercase + asked .symbols + asked .uppercase)))
      (asked .uppercase), ?_, ?_⟩
    · intro r'
      rw [actual_pinWith]
      cases r' <;> dsimp only <;> omega
    · rw [actual_pinWith]
      dsimp only [bound]
      omega
  | symbols =>
    refine ⟨pinWith (asked .digits + asked .length) (asked .lowercase) (asked .symbols)
      (asked .uppercase), ?_, actual_pinWith _ _ _ _ _⟩
    intro r'
    rw [actual_pinWith]
    cases r' <;> dsimp only <;> omega
  | digits | lowercase | uppercase =>
    refine ⟨pinWith (asked .digits) (asked .lowercase) (asked .symbols + asked .length)
      (asked .uppercase), ?_, actual_pinWith _ _ _ _ _⟩
    intro r'
    rw [actual_pinWith]
    cases r' <;> dsimp only <;> omega

theorem enforced_iff_le_bound {table : PolicyTable} {v : ℕ} :
    (∀ pin, meetsIntunePinPolicy (some table.get) pin = .ok () → v ≤ r.actual pin) ↔
      v ≤ bound table.demands r := by
  simp only [meetsIntunePinPolicy_iff_demands]
  constructor
  · intro h
    obtain ⟨pin, hpin, heq⟩ := exists_pin_actual_eq_bound table.demands r
    rw [← heq]
    exact h pin hpin
  · intro h pin hpin
    exact h.trans (bound_le_actual hpin)

/-! ## 7. What is reported and what is stored -/

def requested (d : PolicyDetails) : Option (Requirement × UInt32) :=
  (Requirement.ofKey d.settingDefinitionItemId).bind fun r =>
    (parseU32 d.expectedValue).map fun v => (r, v)

/-- The numbers whose write does not fail, in the order of the details. -/
def acknowledged (S : Situation) (mode : CacheMode) :
    ℕ → List PolicyDetails → List (Requirement × UInt32)
  | _, [] => []
  | i, d :: ds =>
    (if mode = .writable ∧ (S.writeFails i).isSome then [] else (requested d).toList) ++
      acknowledged S mode (i + 1) ds

def put (table : PolicyTable) (w : Requirement × UInt32) : PolicyTable :=
  table.insert w.1.key (.int w.2)

def written (mode : CacheMode) (ws : List (Requirement × UInt32)) :
    List (Requirement × UInt32) :=
  match mode with
  | .writable => ws
  | .readOnly => []

theorem requested_eq_some_iff {d : PolicyDetails} : requested d = some (r, v) ↔
      d.settingDefinitionItemId = r.key ∧ parseU32 d.expectedValue = some v := by
  unfold requested
  constructor
  · intro h
    obtain ⟨r', hr', hv⟩ := Option.bind_eq_some_iff.mp h
    obtain ⟨v', hv', heq⟩ := Option.map_eq_some_iff.mp hv
    cases heq
    exact ⟨Requirement.key_of_ofKey hr', hv'⟩
  · rintro ⟨hid, hv⟩
    rw [hid, Requirement.ofKey_key, hv]
    rfl

theorem key_not_distribution (r : Requirement) :
    startsWith r.key "linux_distribution_" = false := by
  cases r <;> decide

theorem key_ne_encryption (r : Requirement) :
    (r.key == "linux_deviceencryption_required") = false := by
  cases r <;> decide

section Details

variable {toLowercase : String → String} {S : Situation} {mode : CacheMode} {i : ℕ}
  {d : PolicyDetails} {table : PolicyTable}

/-- The details keep what they ask for, and one that asks for a password requirement changes its
    state only if it is acknowledged. -/
structure Keeps (d d' : PolicyDetails) : Prop where
  requested : requested d' = requested d
  id : d'.settingDefinitionItemId = d.settingDefinitionItemId
  state : ∀ r : Requirement, d.settingDefinitionItemId = r.key →
    d'.newComplianceState = d.newComplianceState

theorem Keeps.refl (d : PolicyDetails) : Keeps d d := ⟨rfl, rfl, fun _ _ => rfl⟩

theorem applyDetail_unacknowledged
    (h : requested d = none ∨ mode = .writable ∧ (S.writeFails i).isSome) :
    (applyDetail toLowercase S mode i d table).2.1 = table ∧
      Keeps d (applyDetail toLowercase S mode i d table).1 := by
  unfold applyDetail
  split
  · exact ⟨rfl, .refl d⟩
  · split
    · -- the state changes, but the setting is no password requirement
      rename_i hencryption
      have hkey : ∀ r : Requirement, d.settingDefinitionItemId ≠ r.key := by
        intro r hr
        rw [hr, key_ne_encryption] at hencryption
        cases hencryption
      dsimp only
      split
      · exact ⟨rfl, rfl, rfl, fun r hr => absurd hr (hkey r)⟩
      · exact ⟨rfl, rfl, rfl, fun _ _ => rfl⟩
    · split
      · rename_i r hr
        unfold applyRequirement
        split
        · rename_i v hv
          rcases h with hnone | ⟨rfl, hfails⟩
          · have hsome := requested_eq_some_iff.mpr ⟨Requirement.key_of_ofKey hr, hv⟩
            exact nomatch hnone.symm.trans hsome
          · obtain ⟨e, he⟩ := Option.isSome_iff_exists.mp hfails
            rw [he]
            exact ⟨rfl, .refl d⟩
        · exact ⟨rfl, .refl d⟩
      · exact ⟨rfl, .refl d⟩

theorem applyDetail_acknowledged (hd : requested d = some (r, v))
    (h : ¬(mode = .writable ∧ (S.writeFails i).isSome)) :
    (applyDetail toLowercase S mode i d table).2.1 = (written mode [(r, v)]).foldl put table ∧
      (applyDetail toLowercase S mode i d table).1 =
        { d with actualValue := d.expectedValue, newComplianceState := .compliant } := by
  obtain ⟨hid, hv⟩ := requested_eq_some_iff.mp hd
  unfold applyDetail
  rw [hid, key_not_distribution, key_ne_encryption, if_neg Bool.false_ne_true,
    if_neg Bool.false_ne_true, Requirement.ofKey_key]
  unfold applyRequirement
  rw [hv, hid]
  cases mode with
  | readOnly => exact ⟨rfl, rfl⟩
  | writable =>
    have hnone : S.writeFails i = none := by
      by_contra hsome
      exact h ⟨rfl, Option.isSome_iff_ne_none.mpr hsome⟩
    rw [hnone]
    exact ⟨rfl, rfl⟩

theorem applyDetails_table (ds : List PolicyDetails) (i : ℕ) (table : PolicyTable) :
    (applyDetails toLowercase S mode i ds table).2.1 =
      (written mode (acknowledged S mode i ds)).foldl put table := by
  induction ds generalizing i table with
  | nil => cases mode <;> rfl
  | cons d ds ih =>
    have hrest := ih (i + 1) (applyDetail toLowercase S mode i d table).2.1
    unfold applyDetails acknowledged
    dsimp only
    rw [hrest]
    by_cases hfails : mode = .writable ∧ (S.writeFails i).isSome
    · rw [if_pos hfails, nil_append, (applyDetail_unacknowledged (.inr hfails)).1]
    · rw [if_neg hfails]
      cases hd : requested d with
      | none => rw [(applyDetail_unacknowledged (.inl hd)).1]; rfl
      | some w =>
        rw [(applyDetail_acknowledged hd hfails).1]
        cases mode <;> rfl

/-- No password requirement is reported as met before it is looked at. -/
def Fresh (ds : List PolicyDetails) : Prop :=
  ∀ d ∈ ds, ∀ r : Requirement, d.settingDefinitionItemId = r.key →
    d.newComplianceState ≠ .compliant

def Reports (ds : List PolicyDetails) (r : Requirement) (v : UInt32) : Prop :=
  ∃ d ∈ ds, d.newComplianceState = .compliant ∧ requested d = some (r, v)

variable {ds : List PolicyDetails}

theorem applyDetails_reports (hfresh : Fresh ds) (i : ℕ) (table : PolicyTable) :
    Reports (applyDetails toLowercase S mode i ds table).1 r v ↔
      (r, v) ∈ acknowledged S mode i ds := by
  induction ds generalizing i table with
  | nil =>
    refine iff_of_false ?_ not_mem_nil
    rintro ⟨d, hd, -⟩
    cases hd
  | cons d ds ih =>
    obtain ⟨hd, hds⟩ := forall_mem_cons.mp hfresh
    have hrest := ih hds (i + 1) (applyDetail toLowercase S mode i d table).2.1
    have hfirst : (∃ d' ∈ [(applyDetail toLowercase S mode i d table).1],
        d'.newComplianceState = .compliant ∧ requested d' = some (r, v)) ↔
        (r, v) ∈ if mode = .writable ∧ (S.writeFails i).isSome then []
          else (requested d).toList := by
      by_cases hack : requested d = none ∨ mode = .writable ∧ (S.writeFails i).isSome
      · -- the detail is as it was: it does not report a password requirement
        have hkeeps : Keeps d (applyDetail toLowercase S mode i d table).1 :=
          (applyDetail_unacknowledged hack).2
        refine iff_of_false ?_ ?_
        · rintro ⟨d', hd', hstate, hreq⟩
          rw [mem_singleton.mp hd'] at hstate hreq
          rw [hkeeps.requested] at hreq
          have hid := (requested_eq_some_iff.mp hreq).1
          exact hd r hid (hkeeps.state r hid ▸ hstate)
        · rcases hack with hnone | hfails
          · simp [hnone]
          · simp [hfails]
      · obtain ⟨hsome, hfails⟩ := not_or.mp hack
        obtain ⟨⟨r', v'⟩, hreq⟩ := Option.ne_none_iff_exists'.mp hsome
        rw [(applyDetail_acknowledged hreq hfails).2, if_neg hfails, hreq]
        have hsame : requested { d with
            actualValue := d.expectedValue, newComplianceState := .compliant } = requested d := rfl
        simp [hsame, hreq, eq_comm]
    unfold applyDetails acknowledged
    dsimp only
    rw [mem_append, ← hfirst, ← hrest]
    unfold Reports
    simp [or_and_right, exists_or]

end Details

section Policies

variable {V : Type} {lib : Semver V} {toLowercase : String → String}

theorem SameSetting.keeps {d d' : PolicyDetails} (h : SameSetting d d')
    (hkey : ∀ r : Requirement, d.settingDefinitionItemId ≠ r.key) : Keeps d d' where
  requested := by
    unfold requested
    rw [h.id, h.expectedValue]
  id := h.id
  state r hr := absurd hr (hkey r)

variable (lib) in
theorem applyDistributionCompliance_keeps (systemDistro versionId : String) (systemVersion : V)
    (ds : List PolicyDetails) :
    ∃ f : PolicyDetails → PolicyDetails, (∀ d, Keeps d (f d)) ∧
      applyDistributionCompliance lib systemDistro versionId systemVersion ds = ds.map f := by
  refine ⟨_, ?_, applyDistributionCompliance_eq ds⟩
  intro d
  split
  · exact .refl d
  · rename_i index hgroup
    refine (processDetail_same _ _ d).keeps fun r hr => ?_
    unfold distroGroup at hgroup
    rw [hr, key_not_distribution] at hgroup
    cases hgroup

variable {ds : List PolicyDetails}

theorem Fresh.map {f : PolicyDetails → PolicyDetails} (h : Fresh ds) (hf : ∀ d, Keeps d (f d)) :
    Fresh (ds.map f) := by
  intro d' hd' r hr
  obtain ⟨d, hd, rfl⟩ := mem_map.mp hd'
  rw [(hf d).id] at hr
  rw [(hf d).state r hr]
  exact h d hd r hr

theorem acknowledged_map {f : PolicyDetails → PolicyDetails} (hf : ∀ d, Keeps d (f d))
    (S : Situation) (mode : CacheMode) (i : ℕ) (ds : List PolicyDetails) :
    acknowledged S mode i (ds.map f) = acknowledged S mode i ds := by
  induction ds generalizing i with
  | nil => rfl
  | cons d ds ih =>
    rw [map_cons]
    unfold acknowledged
    rw [(hf d).requested, ih]

variable (lib) in
/-- How the cache is open when the details of a policy are looked at, if they are. -/
def reached (p : PolicyStatus × Situation) : Option CacheMode :=
  if isCompliancePolicy p.1 then
    match p.2.osRelease with
    | .ok osRelease =>
      (lib.parse (normalizeVersion osRelease.versionId)).bind fun _ => p.2.cache.toOption
    | .error _ => none
  else none

variable (lib) in
def acks (p : PolicyStatus × Situation) : List (Requirement × UInt32) :=
  match reached lib p with
  | some mode => acknowledged p.2 mode 0 p.1.details
  | none => []

variable (lib) in
def writes (p : PolicyStatus × Situation) : List (Requirement × UInt32) :=
  match reached lib p with
  | some mode => written mode (acknowledged p.2 mode 0 p.1.details)
  | none => []

theorem not_reports_of_fresh (h : Fresh ds) : ¬Reports ds r v := by
  rintro ⟨d, hd, hstate, hreq⟩
  exact h d hd r (requested_eq_some_iff.mp hreq).1 hstate

variable (lib toLowercase) in
theorem applyCompliance_spec {policy : PolicyStatus} (S : Situation)
    (hpolicy : isCompliancePolicy policy = true) (hfresh : Fresh policy.details)
    (table : PolicyTable) :
    (applyCompliance lib toLowercase S policy table).2.2 =
        (writes lib (policy, S)).foldl put table ∧
      ∀ r v, Reports (applyCompliance lib toLowercase S policy table).2.1.details r v ↔
        (r, v) ∈ acks lib (policy, S) := by
  -- an early return leaves the policy and the table alone
  have hearly : reached lib (policy, S) = none → table = (writes lib (policy, S)).foldl put table ∧
      ∀ r v, Reports policy.details r v ↔ (r, v) ∈ acks lib (policy, S) := by
    intro hnone
    unfold writes acks
    rw [hnone]
    exact ⟨rfl, fun r v => iff_of_false (not_reports_of_fresh hfresh) not_mem_nil⟩
  unfold applyCompliance
  split
  · rename_i e hos
    exact hearly (by simp [reached, hos])
  · rename_i osRelease hos
    split
    · rename_i hversion
      exact hearly (by simp [reached, hos, hversion])
    · rename_i systemVersion hversion
      split
      · rename_i e hcache
        exact hearly (by simp [reached, hos, hversion, hcache, Except.toOption])
      · rename_i mode hcache
        have hreached : reached lib (policy, S) = some mode := by
          simp [reached, hpolicy, hos, hversion, hcache, Except.toOption]
        obtain ⟨f, hf, hmap⟩ := applyDistributionCompliance_keeps lib osRelease.id
          osRelease.versionId systemVersion policy.details
        unfold writes acks
        rw [hreached]
        dsimp only
        rw [hmap, applyDetails_table, acknowledged_map hf]
        refine ⟨rfl, fun r v => ?_⟩
        rw [applyDetails_reports (hfresh.map hf), acknowledged_map hf]

variable (lib toLowercase) in
theorem applyPolicies_spec {runs : List (PolicyStatus × Situation)}
    (hfresh : ∀ p ∈ runs, Fresh p.1.details) (table : PolicyTable) :
    (applyPolicies lib toLowercase runs table).2.1 =
        (runs.flatMap (writes lib)).foldl put table ∧
      ∀ r v, (∃ p ∈ (applyPolicies lib toLowercase runs table).1, Reports p.details r v) ↔
        (r, v) ∈ runs.flatMap (acks lib) := by
  induction runs generalizing table with
  | nil => exact ⟨rfl, fun r v => iff_of_false (fun ⟨_, hp, _⟩ => nomatch hp) not_mem_nil⟩
  | cons p runs ih =>
    obtain ⟨policy, S⟩ := p
    obtain ⟨hp, hruns⟩ := forall_mem_cons.mp hfresh
    unfold applyPolicies
    rw [flatMap_cons, flatMap_cons, foldl_append]
    by_cases hpolicy : isCompliancePolicy policy = true
    · obtain ⟨htable, hreports⟩ := applyCompliance_spec lib toLowercase S hpolicy hp table
      rw [if_pos hpolicy, ← htable]
      obtain ⟨htable', hreports'⟩ := ih hruns
        (applyCompliance lib toLowercase S policy table).2.2
      dsimp only
      split
      all_goals
        refine ⟨htable', fun r v => ?_⟩
        rw [mem_append, ← hreports, ← hreports']
        simp [or_and_right, exists_or]
    · have hnone : reached lib (policy, S) = none := by simp [reached, hpolicy]
      have hwrites : writes lib (policy, S) = [] := by
        unfold writes
        rw [hnone]
      have hacks : acks lib (policy, S) = [] := by
        unfold acks
        rw [hnone]
      rw [if_neg hpolicy, hwrites, hacks]
      obtain ⟨htable', hreports'⟩ := ih hruns table
      refine ⟨htable', fun r v => ?_⟩
      rw [nil_append, ← hreports']
      simp [not_reports_of_fresh hp]

/-! ## 8. What is reported is enforced -/

variable (lib toLowercase) in
/-- Every PIN that is accepted afterwards satisfies every password detail that is reported as
    met. -/
def Enforced (runs : List (PolicyStatus × Situation)) (table : PolicyTable) : Prop :=
  let result := processGroupPolicy lib toLowercase runs table
  ∀ policy ∈ result.2.1, ∀ d ∈ policy.details, d.newComplianceState = .compliant →
    ∀ r : Requirement, d.settingDefinitionItemId = r.key →
      ∀ v, parseU32 d.expectedValue = some v →
        ∀ pin, meetsIntunePinPolicy (some result.2.2.get) pin = .ok () → v.toNat ≤ r.actual pin

def lastAsked (table : PolicyTable) (ws : List (Requirement × UInt32)) (r : Requirement) : ℕ :=
  ws.foldl (fun asked w => if w.1 = r then w.2.toNat else asked) (table.demands r)

theorem demands_put (table : PolicyTable) (w : Requirement × UInt32) (r : Requirement) :
    (put table w).demands r = if w.1 = r then w.2.toNat else table.demands r := by
  unfold PolicyTable.demands put
  rw [PolicyTable.get_insert]
  by_cases hr : w.1 = r
  · rw [if_pos (by rw [hr]), if_pos hr]
  · rw [if_neg fun h => hr (Requirement.key_injective h).symm, if_neg hr]

theorem demands_foldl_put (ws : List (Requirement × UInt32)) (table : PolicyTable) :
    (ws.foldl put table).demands = lastAsked table ws := by
  induction ws generalizing table with
  | nil => rfl
  | cons w ws ih =>
    rw [foldl_cons, ih]
    funext r
    unfold lastAsked
    rw [foldl_cons, demands_put]

theorem enforced_iff {runs : List (PolicyStatus × Situation)}
    (hfresh : ∀ p ∈ runs, Fresh p.1.details) (table : PolicyTable) :
    Enforced lib toLowercase runs table ↔
      ∀ w ∈ runs.flatMap (acks lib),
        w.2.toNat ≤ bound (lastAsked table (runs.flatMap (writes lib))) w.1 := by
  obtain ⟨htable, hreports⟩ := applyPolicies_spec lib toLowercase hfresh table
  have hstored : (processGroupPolicy lib toLowercase runs table).2.2 =
    (runs.flatMap (writes lib)).foldl put table := htable
  rw [← demands_foldl_put, ← hstored]
  constructor
  · rintro h ⟨r, v⟩ hw
    obtain ⟨policy, hpolicy, d, hd, hstate, hreq⟩ := (hreports r v).mpr hw
    obtain ⟨hid, hv⟩ := requested_eq_some_iff.mp hreq
    exact enforced_iff_le_bound.mp (h policy hpolicy d hd hstate r hid v hv)
  · intro h policy hpolicy d hd hstate r hid v hv
    have hreq := requested_eq_some_iff.mpr ⟨hid, hv⟩
    exact enforced_iff_le_bound.mpr
      (h (r, v) ((hreports r v).mp ⟨policy, hpolicy, d, hd, hstate, hreq⟩))

end Policies

def plainSituation : Situation where
  osRelease := .ok ⟨"ubuntu", "22.04"⟩
  cache := .ok .writable
  writeFails _ := none
  isDiskEncrypted := true

def plainSemver : Semver String := ⟨some, fun a b => a == b, id⟩

def digitsPolicy (policyId expected : String) : PolicyStatus where
  policyId := policyId
  details := [{ settingDefinitionItemId := "linux_passwordpolicy_minimumdigits"
                cspPath := ""
                expectedValue := expected
                actualValue := ""
                newComplianceState := .nonCompliant
                oldComplianceState := .nonCompliant }]

/-- Four digits and then two: both are reported as met, and a PIN with two digits is accepted. -/
theorem weaker_policy_replaces :
    let result := processGroupPolicy plainSemver id
      [(digitsPolicy "a" "4", plainSituation), (digitsPolicy "b" "2", plainSituation)] []
    (∃ policy ∈ result.2.1, ∃ d ∈ policy.details, d.newComplianceState = .compliant ∧
        d.settingDefinitionItemId = "linux_passwordpolicy_minimumdigits" ∧
        d.expectedValue = "4") ∧
      meetsIntunePinPolicy (some result.2.2.get) "12abcd" = .ok () ∧
      Requirement.digits.actual "12abcd" = 2 := by
  decide +kernel

theorem stronger_policy_enforced :
    Enforced plainSemver id
      [(digitsPolicy "b" "2", plainSituation), (digitsPolicy "a" "4", plainSituation)] [] := by
  refine (enforced_iff ?_ []).mpr ?_
  · intro p hp d hd r _
    simp only [mem_cons, not_mem_nil, or_false] at hp
    rcases hp with rfl | rfl
    all_goals
      rw [mem_singleton.mp hd]
      decide
  · decide +kernel

end Himmelblau.Compliance
