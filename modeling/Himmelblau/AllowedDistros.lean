/-
  **Which distributions and versions a compliance policy allows**, as
  `apply_distribution_compliance` and `normalize_version` of `policies/src/compliance_ext.rs` do.

  A version is cut to three components before it is compared.  Every group that names the
  distribution of the system has to allow its version: such groups are a conjunction.
-/
import Himmelblau.Compliance
import Himmelblau.Sids

namespace Himmelblau.Compliance

open NameMapping Sids

inductive Bound where
  | minimum
  | maximum
  deriving DecidableEq, Repr

instance : Fintype Bound := ⟨{.minimum, .maximum}, fun bound => by cases bound <;> decide⟩

def Bound.setting : Bound → String
  | minimum => "linux_distribution_alloweddistros_item_minimumversion"
  | maximum => "linux_distribution_alloweddistros_item_maximumversion"

structure Device (V : Type) where
  lib : Semver V
  distro : String
  versionId : String
  version : V

section Met

variable {V : Type} (S : Device V)

def Device.evaluate : PolicyDetails → PolicyDetails :=
  evaluateDistroDetail S.lib S.distro S.versionId S.version

def Device.apply : List PolicyDetails → List PolicyDetails :=
  applyDistributionCompliance S.lib S.distro S.versionId S.version

def Bound.within (bound : Bound) (version : V) : Bool :=
  match bound with
  | minimum => S.lib.le version S.version
  | maximum => S.lib.le S.version version

/-- The bound of a detail is empty, or the version of the system is on the right side of it. -/
def Bound.Met (bound : Bound) (detail : PolicyDetails) : Prop :=
  detail.expectedValue = "" ∨ ∃ version ∈ S.lib.parse (normalizeVersion detail.expectedValue),
    bound.within S version = true

instance (bound : Bound) (detail : PolicyDetails) : Decidable (bound.Met S detail) :=
  inferInstanceAs (Decidable (_ ∨ _))

variable {detail : PolicyDetails}

theorem evaluate_bound {bound : Bound} (hid : detail.settingDefinitionItemId = bound.setting) :
    (S.evaluate detail).newComplianceState = .compliant ↔ bound.Met S detail := by
  have heval : S.evaluate detail =
      evaluateVersion S.lib S.versionId S.version (bound.within S) detail := by
    cases bound <;>
      simp only [Device.evaluate, evaluateDistroDetail, hid, Bound.setting] <;> rfl
  rw [heval]
  unfold evaluateVersion Bound.Met
  by_cases hempty : detail.expectedValue = ""
  · simp [hempty]
  · cases hparse : S.lib.parse (normalizeVersion detail.expectedValue) with
    | none => simp [hempty, hparse]
    | some version => cases hwithin : bound.within S version <;> simp [hempty, hparse, hwithin]

theorem evaluate_type (hid : detail.settingDefinitionItemId = typeSetting) :
    (S.evaluate detail).newComplianceState = .compliant ↔
      matchesDistro S.distro detail = true := by
  simp only [Device.evaluate, evaluateDistroDetail, matchesDistro, hid, typeSetting, BEq.rfl,
    Bool.true_and]
  cases eqIgnoreAsciiCase detail.expectedValue S.distro <;> simp

end Met

/-! ## 1. Versions -/

/-- The components are compared one after the other, and missing ones are zeros. -/
def versionLe : List ℕ → List ℕ → Bool
  | [], _ => true
  | x :: xs, [] => x == 0 && versionLe xs []
  | x :: xs, y :: ys => decide (x < y) || (x == y && versionLe xs ys)

def firstThree (components : List ℕ) : List ℕ :=
  [components.getD 0 0, components.getD 1 0, components.getD 2 0]

def Bound.ordered (bound : Bound) (system version : List ℕ) : Bool :=
  match bound with
  | minimum => versionLe version system
  | maximum => versionLe system version

theorem versionLe_step (xs ys : List ℕ) : versionLe xs ys =
    (decide (xs.getD 0 0 < ys.getD 0 0) ||
      (xs.getD 0 0 == ys.getD 0 0 && versionLe xs.tail ys.tail)) := by
  cases xs with
  | nil =>
    cases ys with
    | nil => rfl
    | cons y ys => cases y <;> simp [versionLe]
  | cons x xs => cases ys <;> simp [versionLe]

theorem versionLe_eq (xs ys : List ℕ) : versionLe xs ys =
    (versionLe (firstThree xs) (firstThree ys) &&
      (firstThree xs != firstThree ys || versionLe (xs.drop 3) (ys.drop 3))) := by
  have hdrop : ∀ zs : List ℕ, zs.drop 3 = zs.tail.tail.tail ∧ zs.getD 1 0 = zs.tail.getD 0 0 ∧
      zs.getD 2 0 = zs.tail.tail.getD 0 0 := by
    rintro (_ | ⟨z, _ | ⟨z', zs⟩⟩) <;> simp
  obtain ⟨hx, hx1, hx2⟩ := hdrop xs
  obtain ⟨hy, hy1, hy2⟩ := hdrop ys
  rw [versionLe_step xs, versionLe_step xs.tail, versionLe_step xs.tail.tail, hx, hy]
  unfold firstThree
  rw [hx1, hx2, hy1, hy2]
  simp only [versionLe, bne, List.cons_beq_cons, BEq.rfl, Bool.and_true]
  grind

/-- A number of a version that the crate accepts: no leading zeros, and 64 bits. -/
def Numeral (text : String) : Prop :=
  text.toList ≠ [] ∧ text.toList.all Char.isDigit = true ∧
    (text.toList.head? = some '0' → text = "0") ∧ digitsValue text.toList < 2 ^ 64

/-- What `semver` makes of three numbers. -/
structure Semver.Numeric {V : Type} (lib : Semver V) (version : ℕ → ℕ → ℕ → V) : Prop where
  parse : ∀ {a b c : String}, Numeral a → Numeral b → Numeral c →
    lib.parse (a ++ "." ++ b ++ "." ++ c) =
      some (version (digitsValue a.toList) (digitsValue b.toList) (digitsValue c.toList))
  le : ∀ a b c a' b' c', lib.le (version a b c) (version a' b' c') =
    versionLe [a, b, c] [a', b', c']

/-- A decimal number of 64 bits, leading zeros allowed. -/
def Component (text : String) (n : ℕ) : Prop :=
  text.toList ≠ [] ∧ text.toList.all Char.isDigit = true ∧ digitsValue text.toList = n ∧ n < 2 ^ 64

instance : DecidableRel Component := fun _ _ => inferInstanceAs (Decidable (_ ∧ _))

def Dotted (text : String) (components : List ℕ) : Prop :=
  List.Forall₂ Component (split '.' text) components

instance (text : String) (components : List ℕ) : Decidable (Dotted text components) :=
  inferInstanceAs (Decidable (List.Forall₂ Component _ _))

theorem digitsValue_dropWhile (digits : List Char) :
    digitsValue (digits.dropWhile (· == '0')) = digitsValue digits := by
  induction digits with
  | nil => rfl
  | cons c digits ih =>
    by_cases hc : c = '0'
    · subst hc
      exact ih
    · rw [List.dropWhile_cons_of_neg (by simpa using hc)]

theorem numeral_zero : Numeral "0" := by
  unfold Numeral
  decide +kernel

theorem Component.stripZeros {text : String} {n : ℕ} (h : Component text n) :
    Numeral (stripZeros text) ∧ digitsValue (Compliance.stripZeros text).toList = n := by
  obtain ⟨-, hdigits, hvalue, hn⟩ := h
  have hsame := digitsValue_dropWhile text.toList
  unfold Compliance.stripZeros
  cases hrest : text.toList.dropWhile (· == '0') with
  | nil =>
    rw [hrest] at hsame
    refine ⟨numeral_zero, ?_⟩
    rw [← hvalue, ← hsame]
    rfl
  | cons c rest =>
    rw [hrest] at hsame
    have hc : (c == '0') = false := by
      have := List.head?_dropWhile_not (· == '0') text.toList
      rwa [hrest] at this
    have hsub : ∀ d ∈ c :: rest, d.isDigit = true := fun d hd =>
      List.all_eq_true.mp hdigits d ((List.dropWhile_suffix _).subset (hrest ▸ hd))
    refine ⟨⟨by simp, by simpa using hsub, ?_, ?_⟩, by simp [hsame, hvalue]⟩
    · simpa using fun heq => absurd heq (by simpa using hc)
    · simpa [hsame, hvalue] using hn

def part (text : String) (i : ℕ) : String := ((split '.' text).map stripZeros).getD i "0"

theorem normalizeVersion_eq (text : String) :
    normalizeVersion text = part text 0 ++ "." ++ part text 1 ++ "." ++ part text 2 := by
  unfold normalizeVersion part stripZeros
  dsimp only
  generalize List.map _ (split '.' text) = parts
  rcases parts with _ | ⟨a, _ | ⟨b, _ | ⟨c, parts⟩⟩⟩
  · rfl
  · simp only [List.getD_cons_zero, List.getD_cons_succ, List.getD_nil, String.append_assoc]
    rfl
  · simp only [List.getD_cons_zero, List.getD_cons_succ, List.getD_nil, String.append_assoc]
    rfl
  · rfl

theorem Dotted.part {text : String} {xs : List ℕ} (h : Dotted text xs) (i : ℕ) :
    Numeral (part text i) ∧ digitsValue (Compliance.part text i).toList = xs.getD i 0 := by
  unfold Dotted at h
  unfold Compliance.part
  generalize split '.' text = parts at h ⊢
  induction h generalizing i with
  | nil => exact ⟨numeral_zero, by simp [digitsValue]⟩
  | cons ha _ ih =>
    cases i with
    | zero => exact ha.stripZeros
    | succ i => exact ih i

section Versions

variable {V : Type} {S : Device V} {version : ℕ → ℕ → ℕ → V} {system components : List ℕ}
  {detail : PolicyDetails} {bound : Bound}

theorem parse_normalizeVersion {lib : Semver V} (hlib : lib.Numeric version) {text : String}
    (h : Dotted text components) : lib.parse (normalizeVersion text) =
      some (version (components.getD 0 0) (components.getD 1 0) (components.getD 2 0)) := by
  rw [normalizeVersion_eq, hlib.parse (h.part 0).1 (h.part 1).1 (h.part 2).1, (h.part 0).2,
    (h.part 1).2, (h.part 2).2]

theorem met_iff_ordered (hlib : S.lib.Numeric version) (hsystem : Dotted S.versionId system)
    (hversion : Dotted detail.expectedValue components)
    (hparse : S.lib.parse (normalizeVersion S.versionId) = some S.version) :
    bound.Met S detail ↔ bound.ordered (firstThree system) (firstThree components) = true := by
  have hne : detail.expectedValue ≠ "" := by
    intro hempty
    have hpart := hversion
    rw [Dotted, hempty] at hpart
    cases hpart with
    | cons ha _ => exact ha.1 rfl
  rw [parse_normalizeVersion hlib hsystem, Option.some_inj] at hparse
  unfold Bound.Met
  rw [parse_normalizeVersion hlib hversion]
  cases bound <;> simp [hne, Bound.within, Bound.ordered, firstThree, ← hparse, hlib.le]

/-- The bound follows the numeric order exactly when the first three components differ, or the
    components after them satisfy it. -/
theorem versionBound_iff (hlib : S.lib.Numeric version) (hsystem : Dotted S.versionId system)
    (hversion : Dotted detail.expectedValue components)
    (hparse : S.lib.parse (normalizeVersion S.versionId) = some S.version)
    (hid : detail.settingDefinitionItemId = bound.setting) :
    ((S.evaluate detail).newComplianceState = .compliant ↔
        bound.ordered system components = true) ↔
      firstThree system ≠ firstThree components ∨
        bound.ordered (system.drop 3) (components.drop 3) = true := by
  rw [evaluate_bound S hid, met_iff_ordered hlib hsystem hversion hparse]
  have hsplit : bound.ordered system components =
      (bound.ordered (firstThree system) (firstThree components) &&
        (firstThree system != firstThree components ||
          bound.ordered (system.drop 3) (components.drop 3))) := by
    cases bound with
    | minimum =>
      rw [Bound.ordered, versionLe_eq, bne_comm]
      rfl
    | maximum => exact versionLe_eq system components
  by_cases heq : firstThree system = firstThree components
  · have hrefl : bound.ordered (firstThree components) (firstThree components) = true := by
      cases bound <;> simp [Bound.ordered, firstThree, versionLe]
    rw [hsplit, heq, hrefl]
    simp
  · rw [hsplit]
    simp [heq]

end Versions

def plainVersions : Semver (List ℕ) where
  parse text := some ((split '.' text).map fun part => digitsValue part.toList)
  le := versionLe
  text _ := ""

theorem plainVersions_numeric : plainVersions.Numeric fun a b c => [a, b, c] where
  parse {a b c} ha hb hc := by
    have hdot : ∀ {text : String}, Numeral text → '.' ∉ text.toList := fun h hmem =>
      absurd (List.all_eq_true.mp h.2.1 _ hmem) (by decide)
    have hsplit : split '.' (a ++ "." ++ b ++ "." ++ c) = [a, b, c] := by
      have h := @split_ofList_intercalate '.' [a.toList, b.toList, c.toList]
        (List.cons_ne_nil _ _) (by simp [hdot ha, hdot hb, hdot hc])
      simpa [List.intercalate, String.ofList_append, String.append_assoc] using h
    simp [plainVersions, hsplit]
  le _ _ _ _ _ _ := rfl

def minimumDetail (version : String) : PolicyDetails :=
  ⟨Bound.minimum.setting, "LinuxMdm/Distribution/AllowedDistros/0/MinimumVersion", version, "",
    .nonCompliant, .nonCompliant⟩

theorem versionBound_sample :
    let S : Device (List ℕ) := ⟨plainVersions, "ubuntu", "22.10.0.1", [22, 10, 0]⟩
    (S.evaluate (minimumDetail "22.04")).newComplianceState = .compliant ↔
      Bound.minimum.ordered [22, 10, 0, 1] [22, 4] = true := by
  exact (versionBound_iff plainVersions_numeric (by decide +kernel) (by decide +kernel)
    (by decide +kernel) rfl).mpr (.inl (by decide))

/-- 22.04.1.1 is taken to satisfy the minimum 22.04.1.2. -/
theorem fourth_component_ignored :
    let S : Device (List ℕ) := ⟨plainVersions, "ubuntu", "22.04.1.1", [22, 4, 1]⟩
    (S.evaluate (minimumDetail "22.04.1.2")).newComplianceState = .compliant ∧
      Bound.minimum.ordered [22, 4, 1, 1] [22, 4, 1, 2] = false := by
  decide +kernel

/-! ## 2. Groups -/

def isDistribution (detail : PolicyDetails) : Bool :=
  startsWith detail.settingDefinitionItemId "linux_distribution_"

section Groups

variable {V : Type} (S : Device V) (details : List PolicyDetails)

/-- The distribution details are one or more groups, each with one `$type` and at most one version
    of either kind, and nothing has been evaluated yet. -/
structure Groups : Prop where
  initial : ∀ d ∈ details, d.newComplianceState = .nonCompliant
  nonempty : ∃ d ∈ details, isDistribution d = true
  grouped : ∀ d ∈ details, isDistribution d = true → (distroGroup d).isSome = true
  settings : ∀ d ∈ details, isDistribution d = true → d.settingDefinitionItemId = typeSetting ∨
    ∃ bound : Bound, d.settingDefinitionItemId = bound.setting
  oneType : ∀ d ∈ details, isDistribution d = true → (details.filter fun d' =>
    distroGroup d' == distroGroup d && d'.settingDefinitionItemId == typeSetting).length = 1
  oneBound : ∀ d ∈ details, isDistribution d = true → ∀ bound : Bound, (details.filter fun d' =>
    distroGroup d' == distroGroup d && d'.settingDefinitionItemId == bound.setting).length ≤ 1
  parses : ∀ d ∈ details, ∀ bound : Bound, d.settingDefinitionItemId = bound.setting →
    d.expectedValue = "" ∨ (S.lib.parse (normalizeVersion d.expectedValue)).isSome = true

def Matches (index : String) : Prop :=
  (details.filter fun d => distroGroup d == some index).any (matchesDistro S.distro) = true

instance (index : String) : Decidable (Matches S details index) :=
  inferInstanceAs (Decidable (_ = true))

theorem matches_iff {index : String} : Matches S details index ↔
    ∃ d ∈ details, distroGroup d = some index ∧ matchesDistro S.distro d = true := by
  simp [Matches, List.any_filter]

def HasMatchingDistro : Prop :=
  (details.any fun d => (distroGroup d).isSome && matchesDistro S.distro d) = true

instance : Decidable (HasMatchingDistro S details) :=
  inferInstanceAs (Decidable (_ = true))

theorem hasMatchingDistro_iff : HasMatchingDistro S details ↔
    ∃ index, Matches S details index := by
  simp only [HasMatchingDistro, matches_iff, List.any_eq_true, Bool.and_eq_true,
    Option.isSome_iff_exists]
  grind

/-- The group names the distribution of the system, and its version constraints are satisfied. -/
def Allows (index : String) : Prop :=
  Matches S details index ∧ ∀ d ∈ details, distroGroup d = some index →
    ∀ bound : Bound, d.settingDefinitionItemId = bound.setting → bound.Met S d

def AllCompliant : Prop :=
  ∀ d ∈ S.apply details,
    isDistribution d = true → d.newComplianceState = .compliant

/-- The groups are a disjunction, and a detail has the same outcome wherever it stands. -/
def Disjunction : Prop :=
  (AllCompliant S details ↔ ∃ index, Allows S details index) ∧
  ∀ details' : List PolicyDetails, details'.Perm details → ∃ outcome,
    S.apply details = details.map outcome ∧ S.apply details' = details'.map outcome

def outcome (d : PolicyDetails) : PolicyDetails :=
  match distroGroup d with
  | none => d
  | some index =>
    if Matches S details index then S.evaluate d
    else if HasMatchingDistro S details then notApplicable d
    else if d.settingDefinitionItemId == typeSetting then { d with actualValue := S.distro }
    else notApplicable d

theorem apply_eq : S.apply details = details.map (outcome S details) :=
  applyDistributionCompliance_eq details

theorem outcome_perm {details' : List PolicyDetails} (hperm : details'.Perm details) :
    outcome S details' = outcome S details := by
  have hmatches : ∀ index, Matches S details' index ↔ Matches S details index :=
    fun index => by simp only [matches_iff, hperm.mem_iff]
  have hany : HasMatchingDistro S details' ↔ HasMatchingDistro S details := by
    simp only [hasMatchingDistro_iff, hmatches]
  funext d
  simp only [outcome, hmatches, hany]

theorem isDistribution_outcome (d : PolicyDetails) :
    isDistribution (outcome S details d) = isDistribution d := by
  unfold outcome
  split
  · rfl
  · next index _ =>
    exact congrArg (startsWith · "linux_distribution_")
      (processDetail_same (groupMatches S.distro details index) (hasMatchingDistro S.distro details)
        d).id

variable {S details} {d : PolicyDetails} {index : String}

theorem isDistribution_of_distroGroup (hgroup : distroGroup d = some index) :
    isDistribution d = true := by
  unfold distroGroup at hgroup
  split at hgroup
  · assumption
  · cases hgroup

theorem Groups.exists_type (hgroups : Groups S details) (hd : d ∈ details)
    (hgroup : distroGroup d = some index) :
    ∃ type, details.filter (fun d => distroGroup d == some index &&
      d.settingDefinitionItemId == typeSetting) = [type] := by
  have hone := hgroups.oneType d hd (isDistribution_of_distroGroup hgroup)
  rw [hgroup] at hone
  exact List.length_eq_one_iff.mp hone

theorem Groups.type_matches (hgroups : Groups S details) (hd : d ∈ details)
    (hgroup : distroGroup d = some index)
    (hmatches : Matches S details index) (htype : d.settingDefinitionItemId = typeSetting) :
    matchesDistro S.distro d = true := by
  obtain ⟨d', hd', hgroup', hmatch⟩ := (matches_iff S details).mp hmatches
  obtain ⟨type, hone⟩ := hgroups.exists_type hd hgroup
  have hsingle : ∀ d ∈ details, distroGroup d = some index →
      d.settingDefinitionItemId = typeSetting → d = type := by
    intro d hd hgroup htype
    rw [← List.mem_singleton, ← hone, List.mem_filter]
    simp [hd, hgroup, htype]
  have htype' : d'.settingDefinitionItemId = typeSetting := by
    simp only [matchesDistro, Bool.and_eq_true, beq_iff_eq] at hmatch
    exact hmatch.1
  rw [hsingle d hd hgroup htype, ← hsingle d' hd' hgroup' htype']
  exact hmatch

/-- A detail of a group that names the distribution is compliant when the group allows the
    version, and a detail of another group when some group names the distribution. -/
theorem allCompliant_iff (hgroups : Groups S details) :
    AllCompliant S details ↔ (∃ index, Matches S details index) ∧
      ∀ index, Matches S details index → Allows S details index := by
  unfold AllCompliant
  rw [apply_eq, List.forall_mem_map]
  simp only [isDistribution_outcome]
  constructor
  · intro hall
    refine ⟨?_, fun index hmatches => ⟨hmatches, fun d hd hgroup bound hid => ?_⟩⟩
    · by_contra hnone
      obtain ⟨d, hd, hdistribution⟩ := hgroups.nonempty
      obtain ⟨index, hgroup⟩ := Option.isSome_iff_exists.mp (hgroups.grouped d hd hdistribution)
      obtain ⟨type, hone⟩ := hgroups.exists_type hd hgroup
      have htype := List.mem_filter.mp (hone ▸ List.mem_singleton_self type)
      simp only [Bool.and_eq_true, beq_iff_eq] at htype
      obtain ⟨hmem, hgroup, htype⟩ := htype
      have hcompliant := hall type hmem (isDistribution_of_distroGroup hgroup)
      rw [← hasMatchingDistro_iff] at hnone
      have hnomatch : ¬Matches S details index := fun h =>
        hnone ((hasMatchingDistro_iff S details).mpr ⟨index, h⟩)
      simp [outcome, hgroup, hnomatch, hnone, htype, hgroups.initial type hmem] at hcompliant
    · have hcompliant := hall d hd (isDistribution_of_distroGroup hgroup)
      simp only [outcome, hgroup, if_pos hmatches] at hcompliant
      exact (evaluate_bound S hid).mp hcompliant
  · rintro ⟨hsome, hallows⟩ d hd hdistribution
    obtain ⟨index, hgroup⟩ := Option.isSome_iff_exists.mp (hgroups.grouped d hd hdistribution)
    by_cases hmatches : Matches S details index
    · simp only [outcome, hgroup, if_pos hmatches]
      rcases hgroups.settings d hd hdistribution with htype | ⟨bound, hid⟩
      · rw [evaluate_type S htype]
        exact hgroups.type_matches hd hgroup hmatches htype
      · rw [evaluate_bound S hid]
        exact (hallows index hmatches).2 d hd hgroup bound hid
    · rw [← hasMatchingDistro_iff] at hsome
      simp only [outcome, hgroup, if_neg hmatches, if_pos hsome, notApplicable]

/-- The groups are a disjunction exactly when those that name the distribution of the system all
    allow its version, or none of them does. -/
theorem disjunction_iff (hgroups : Groups S details) :
    Disjunction S details ↔ ((∃ index, Allows S details index) →
      ∀ index, Matches S details index → Allows S details index) := by
  have hperm : ∀ details' : List PolicyDetails, details'.Perm details → ∃ outcome,
      S.apply details = details.map outcome ∧ S.apply details' = details'.map outcome := by
    intro details' hperm
    refine ⟨_, apply_eq S details, ?_⟩
    rw [apply_eq, outcome_perm S details hperm]
  unfold Disjunction
  rw [and_iff_left hperm, allCompliant_iff hgroups]
  constructor
  · intro hiff hsome
    exact (hiff.mpr hsome).2
  · intro hall
    constructor
    · rintro ⟨⟨index, hmatches⟩, hallows⟩
      exact ⟨index, hallows index hmatches⟩
    · intro hsome
      obtain ⟨index, hallows⟩ := id hsome
      exact ⟨⟨index, hallows.1⟩, hall hsome⟩

end Groups

def allowedDistro (index distro : String) (bound : Bound) (version : String) : List PolicyDetails :=
  let path := "LinuxMdm/Distribution/AllowedDistros/" ++ index ++ "/"
  [⟨typeSetting, path ++ "$type", distro, "", .nonCompliant, .nonCompliant⟩,
    ⟨bound.setting, path ++ "Version", version, "", .nonCompliant, .nonCompliant⟩]

def ubuntu : Device (List ℕ) := ⟨plainVersions, "ubuntu", "22.10", [22, 10, 0]⟩

theorem disjunction_sample : Disjunction ubuntu
    (allowedDistro "0" "ubuntu" .minimum "22.04" ++ allowedDistro "1" "rhel" .maximum "") := by
  refine (disjunction_iff ⟨?_, ?_, ?_, ?_, ?_, ?_, ?_⟩).mpr fun _ index hmatches =>
    ⟨hmatches, fun d hd hgroup => ?_⟩
  all_goals (try clear hgroup hmatches; revert d); decide +kernel

/-- 22.10 is allowed by the range from 22.04, and denied once 20.04 and below are allowed too. -/
theorem further_range_denies :
    let newer := allowedDistro "0" "ubuntu" .minimum "22.04"
    let details := newer ++ allowedDistro "1" "ubuntu" .maximum "20.04"
    AllCompliant ubuntu newer ∧ Groups ubuntu details ∧ Allows ubuntu details "0" ∧
      ¬AllCompliant ubuntu details := by
  refine ⟨?_, ⟨?_, ?_, ?_, ?_, ?_, ?_, ?_⟩, ⟨?_, ?_⟩, ?_⟩
  all_goals (try unfold AllCompliant); decide +kernel

end Himmelblau.Compliance
