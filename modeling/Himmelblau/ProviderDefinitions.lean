/-
  **Provider definitions**, mirror of `provider_definitions.rs` of the orchestrator: a definition
  says which logins it is for and what the steps of its flow are.  The definitions are kept in a
  hash map, and `detect_provider` returns the first one that matches in the order of the map: the
  provider is determined if and only if at most one definition matches where the search ends.
-/
import Himmelblau.Oidc
import Himmelblau.Sids

namespace Himmelblau.Orchestrator

open Config Oidc Sids

/-! ## 1. Definitions -/

/-- The matchers that a login is compared with, and the selectors that are checked. -/
structure ProviderMatchers where
  issuerContains : List String
  domains : List String
  urlContains : List String
  domSelectors : List String
  deriving DecidableEq, Repr

structure WaitCondition where
  selector : Option String
  pattern : Option String
  timeoutMs : Option ℕ
  deriving DecidableEq, Repr

structure ProviderInput where
  name : String
  inputType : OrchestratorInputType
  prompt : Option String
  optional : Bool
  deriving DecidableEq, Repr

inductive ExtractTarget where
  | accessToken
  | idToken
  | refreshToken
  | authorizationCode
  deriving DecidableEq, Repr

inductive FlowAction where
  | fill (selector input : String)
  | click (selector : String)
  | wait (millis : ℕ)
  | navigate (url : String)
  | extract (target : ExtractTarget) (source : String)
  | log (message : String)
  deriving DecidableEq, Repr

inductive BranchCondition where
  | always
  | inputPresent (input : String)
  | inputEquals (input value : String)
  deriving DecidableEq, Repr

structure BranchRule where
  condition : BranchCondition
  gotoStep : String
  deriving DecidableEq, Repr

structure SuccessCondition where
  urlContains : Option String
  domSelector : Option String
  tokenKey : Option String
  deriving DecidableEq, Repr

structure ProviderStep where
  name : String
  optional : Bool
  waitFor : Option WaitCondition
  requiredInputs : List ProviderInput
  actions : List FlowAction
  branches : List BranchRule
  success : Option SuccessCondition
  deriving DecidableEq, Repr

structure ProviderDefinition where
  provider : String
  displayName : String
  matchers : Option ProviderMatchers
  startUrl : Option String
  steps : List ProviderStep
  deriving DecidableEq, Repr

/-! ## 2. Validation -/

def withContext (context : String) (r : Except String Unit) : Except String Unit :=
  r.mapError fun _ => context

def validateSelector (selector : String) : Except String Unit :=
  let trimmed := trim selector
  if trimmed.isEmpty then .error "selector must not be empty"
  else if 256 < trimmed.utf8ByteSize then .error "selector exceeds maximum length"
  else if trimmed.toList.contains '\n' || trimmed.toList.contains '\r' then
    .error "selector must be single-line"
  else if containsText trimmed "javascript:" then
    .error "selector contains forbidden javascript scheme"
  else .ok ()

def validateMatchers (matchers : ProviderMatchers) : Except String Unit :=
  matchers.domSelectors.forM fun selector =>
    withContext "matcher dom_selector is invalid" (validateSelector selector)

/-- `provider 'p' step 's' contains invalid …`. -/
def stepSelector (provider step kind selector : String) : Except String Unit :=
  withContext ("provider '" ++ provider ++ "' step '" ++ step ++ "' contains invalid " ++ kind)
    (validateSelector selector)

def validateAction (provider step : String) : FlowAction → Except String Unit
  | .fill selector _ | .click selector => stepSelector provider step "selector" selector
  | _ => .ok ()

def validateStep (provider : String) (seen : List String) (step : ProviderStep) :
    Except String (List String) := do
  if (trim step.name).isEmpty then
    throw ("provider '" ++ provider ++ "' has a step with empty name")
  if seen.contains step.name then
    throw ("provider '" ++ provider ++ "' contains duplicate step '" ++ step.name ++ "'")
  step.actions.forM (validateAction provider step.name)
  match step.waitFor.bind (·.selector) with
  | some selector => stepSelector provider step.name "wait_for selector" selector
  | none => pure ()
  match step.success.bind (·.domSelector) with
  | some selector => stepSelector provider step.name "success selector" selector
  | none => pure ()
  return step.name :: seen

def validateBranch (provider : String) (seen : List String) (step : ProviderStep)
    (branch : BranchRule) : Except String Unit :=
  if seen.contains branch.gotoStep then .ok ()
  else .error ("provider '" ++ provider ++ "' step '" ++ step.name ++
    "' branches to unknown step '" ++ branch.gotoStep ++ "'")

def validateProviderDefinition (definition : ProviderDefinition) : Except String Unit := do
  if (trim definition.provider).isEmpty then throw "provider key must not be empty"
  if definition.steps.isEmpty then
    throw ("provider '" ++ definition.provider ++ "' has no steps in flow definition")
  let context := "provider '" ++ definition.provider ++ "' contains invalid matchers"
  match definition.matchers with
  | some matchers => withContext context (validateMatchers matchers)
  | none => pure ()
  let seen ← definition.steps.foldlM (validateStep definition.provider) []
  definition.steps.forM fun step =>
    step.branches.forM (validateBranch definition.provider seen step)

/-! ## 3. The registry -/

/-- The values of the map, in the order in which it yields them; a value is kept under its own
    `provider`. -/
structure ProviderRegistry where
  byName : List ProviderDefinition
  unique : (byName.map (·.provider)).Nodup
  valid : ∀ d ∈ byName, validateProviderDefinition d = .ok ()

namespace ProviderRegistry

variable (reg : ProviderRegistry)

def containsKey (provider : String) : Bool :=
  reg.byName.any (·.provider == provider)

def empty : ProviderRegistry := ⟨[], List.nodup_nil, nofun⟩

def insert (definition : ProviderDefinition)
    (h : validateProviderDefinition definition = .ok ()) : ProviderRegistry where
  byName := definition :: reg.byName.filter (·.provider != definition.provider)
  unique := by
    refine List.nodup_cons.mpr ⟨?_, (List.filter_sublist.map _).nodup reg.unique⟩
    intro hmem
    obtain ⟨d, hd, hname⟩ := List.mem_map.mp hmem
    simp [hname] at hd
  valid := by
    refine List.forall_mem_cons.mpr ⟨h, fun d hd => ?_⟩
    exact reg.valid d (List.mem_filter.mp hd).1

def add (definition : ProviderDefinition) : Except String ProviderRegistry :=
  match h : validateProviderDefinition definition with
  | .ok () => .ok (reg.insert definition h)
  | .error e => .error e

def addDefault (definition : ProviderDefinition) : Except String ProviderRegistry :=
  match h : validateProviderDefinition definition with
  | .ok () => .ok (if reg.containsKey definition.provider then reg else reg.insert definition h)
  | .error e => .error e

def load (overrides builtin : List ProviderDefinition) : Except String ProviderRegistry := do
  let reg ← overrides.foldlM add empty
  builtin.foldlM addDefault reg

def reorder (byName : List ProviderDefinition) (h : byName.Perm reg.byName) : ProviderRegistry where
  byName := byName
  unique := (h.map _).nodup_iff.mpr reg.unique
  valid := fun d hd => reg.valid d (h.mem_iff.mp hd)

end ProviderRegistry

/-! ## 4. Detection -/

def ProviderDefinition.matchesUrl (candidate : ProviderDefinition) (url : String) : Bool :=
  match candidate.matchers with
  | some matchers => matchers.issuerContains.any (containsText url) ||
      matchers.urlContains.any (containsText url)
  | none => false

def ProviderDefinition.matchesDomain (candidate : ProviderDefinition) (domain : String) : Bool :=
  match candidate.matchers with
  | some matchers => matchers.domains.any (· == domain)
  | none => false

/-- What is read besides the definitions: values of `himmelblau.conf`, lower case and hosts of
    URLs. -/
structure Detection where
  get : (domain option : String) → Option String
  toLowercase : String → String
  hostStr : String → Option String

namespace Detection

variable (D : Detection)

def detectBuiltinProvider (issuerUrl : Option String) : Option String :=
  issuerUrl.bind fun issuerUrl =>
    let issuer := D.toLowercase issuerUrl
    if containsText issuer "keycloak" || containsText issuer "/realms/" ||
        containsText issuer "/protocol/openid-connect" then some "keycloak"
    else none

/-- One letter of `normalize_provider_key`, with `last_was_sep`. -/
def normalizeChar : List Char × Bool → Char → List Char × Bool
  | (output, lastWasSep), ch =>
    if ch.isAlphanum then (output ++ [ch.toLower], false)
    else if lastWasSep then (output, lastWasSep)
    else (output ++ ['_'], true)

def normalizeProviderKey (value : String) : Option String :=
  let output := (value.toList.foldl normalizeChar ([], false)).1
  let normalized := ((output.dropWhile (· == '_')).reverse.dropWhile (· == '_')).reverse
  if normalized.isEmpty then none else some (String.ofList normalized)

def inferProviderFromContext (username issuerUrl : Option String) : Option String :=
  match (issuerUrl.bind D.hostStr).bind normalizeProviderKey with
  | some key => some key
  | none => (username.bind splitUsername).bind fun (_, domain) => normalizeProviderKey domain

/-- The end of `detect_provider`: what does not depend on matchers. -/
def withoutMatchers (reg : ProviderRegistry) (username issuerUrl : Option String) : String :=
  match D.get "global" "orchestrator_provider" with
  | some provider => provider
  | none =>
    match (D.detectBuiltinProvider issuerUrl).filter reg.containsKey with
    | some provider => provider
    | none =>
      match (D.inferProviderFromContext username issuerUrl).filter reg.containsKey with
      | some provider => provider
      | none => "unknown"

/-- The middle: what the domain of the user decides. -/
def byDomain (reg : ProviderRegistry) (domain : String) : Option String :=
  match D.get domain "orchestrator_provider" with
  | some provider => some provider
  | none => (reg.byName.find? (·.matchesDomain domain)).map (·.provider)

def detectProvider (reg : ProviderRegistry) (requestedProvider username issuerUrl : Option String) :
    String :=
  match requestedProvider with
  | some provider => provider
  | none =>
    match issuerUrl.bind fun url => reg.byName.find? (·.matchesUrl url) with
    | some candidate => candidate.provider
    | none =>
      match (username.bind splitUsername).bind fun (_, domain) => D.byDomain reg domain with
      | some provider => provider
      | none => D.withoutMatchers reg username issuerUrl

end Detection

/-! ## 5. The order of the map -/

section Order

variable {α : Type} {p : α → Bool} {l l' : List α}

theorem find?_eq_of_perm (h : l'.Perm l)
    (hone : ∀ a ∈ l, ∀ b ∈ l, p a = true → p b = true → a = b) : l'.find? p = l.find? p := by
  cases hfind : l.find? p with
  | none =>
    rw [List.find?_eq_none] at hfind ⊢
    exact fun a ha => hfind a (h.mem_iff.mp ha)
  | some a =>
    cases hfind' : l'.find? p with
    | none => exact absurd (List.find?_some hfind) (List.find?_eq_none.mp hfind' a
        (h.mem_iff.mpr (List.mem_of_find?_eq_some hfind)))
    | some b =>
      rw [hone b (h.mem_iff.mp (List.mem_of_find?_eq_some hfind')) a
        (List.mem_of_find?_eq_some hfind) (List.find?_some hfind') (List.find?_some hfind)]

theorem exists_perm_find? {a : α} (ha : a ∈ l) (hp : p a = true) :
    ∃ l' : List α, l'.Perm l ∧ l'.find? p = some a := by
  obtain ⟨before, after, rfl⟩ := List.append_of_mem ha
  exact ⟨a :: (before ++ after), List.perm_middle.symm, List.find?_cons_of_pos hp⟩

end Order

namespace ProviderRegistry

def AtMostOne (reg : ProviderRegistry) (p : ProviderDefinition → Bool) : Prop :=
  ∀ d ∈ reg.byName, ∀ d' ∈ reg.byName, p d = true → p d' = true → d = d'

theorem containsKey_reorder (reg : ProviderRegistry) {byName : List ProviderDefinition}
    (h : byName.Perm reg.byName) : (reg.reorder byName h).containsKey = reg.containsKey := by
  funext provider
  exact h.any_eq

theorem atMostOne_of_find? {reg : ProviderRegistry} {p : ProviderDefinition → Bool}
    (h : ∀ byName byName' : List ProviderDefinition, byName.Perm reg.byName →
      byName'.Perm reg.byName → ∀ d d', byName.find? p = some d → byName'.find? p = some d' →
        d.provider = d'.provider) :
    reg.AtMostOne p := by
  intro d hd d' hd' hp hp'
  obtain ⟨byName, hperm, hfind⟩ := exists_perm_find? hd hp
  obtain ⟨byName', hperm', hfind'⟩ := exists_perm_find? hd' hp'
  exact List.inj_on_of_nodup_map reg.unique hd hd' (h _ _ hperm hperm' d d' hfind hfind')

end ProviderRegistry

namespace Detection

open ProviderRegistry

variable (D : Detection) (reg : ProviderRegistry) (username issuerUrl : Option String)

/-- At most one definition matches where the search for a match ends: among those for the issuer,
    and if there are none, among those for a domain that has no provider of its own. -/
structure Unambiguous : Prop where
  url : ∀ url, issuerUrl = some url → reg.AtMostOne (·.matchesUrl url)
  domain : (∀ url, issuerUrl = some url → ∀ d ∈ reg.byName, d.matchesUrl url = false) →
    ∀ user domain, username.bind splitUsername = some (user, domain) →
      D.get domain "orchestrator_provider" = none → reg.AtMostOne (·.matchesDomain domain)

variable {D reg username issuerUrl} {byName : List ProviderDefinition}

theorem detectProvider_of_url (D : Detection) (reg : ProviderRegistry)
    {requested : Option String} {url : String} {d : ProviderDefinition}
    (hrequested : requested = none)
    (hurl : issuerUrl = some url) (hfind : reg.byName.find? (·.matchesUrl url) = some d) :
    D.detectProvider reg requested username issuerUrl = d.provider := by
  subst hrequested hurl
  unfold detectProvider
  simp only [Option.bind_some, hfind]

theorem find?_url_eq_none
    (h : ∀ url, issuerUrl = some url → ∀ d ∈ reg.byName, d.matchesUrl url = false) :
    (issuerUrl.bind fun url => reg.byName.find? (·.matchesUrl url)) = none := by
  cases issuerUrl with
  | none => rfl
  | some url => exact List.find?_eq_none.mpr fun d hd => by simp [h url rfl d hd]

theorem detectProvider_of_domain (D : Detection) (reg : ProviderRegistry)
    {requested : Option String} {user domain : String} {d : ProviderDefinition}
    (hrequested : requested = none)
    (hurl : ∀ url, issuerUrl = some url → ∀ d ∈ reg.byName, d.matchesUrl url = false)
    (husername : username.bind splitUsername = some (user, domain))
    (hget : D.get domain "orchestrator_provider" = none)
    (hfind : reg.byName.find? (·.matchesDomain domain) = some d) :
    D.detectProvider reg requested username issuerUrl = d.provider := by
  subst hrequested
  have hdomain : D.byDomain reg domain = some d.provider := by
    unfold byDomain
    simp only [hget, hfind, Option.map_some]
  unfold detectProvider
  simp only [find?_url_eq_none hurl, husername, Option.bind_some, hdomain]

theorem withoutMatchers_reorder (h : byName.Perm reg.byName) :
    D.withoutMatchers (reg.reorder byName h) username issuerUrl =
      D.withoutMatchers reg username issuerUrl := by
  unfold withoutMatchers
  rw [containsKey_reorder]

theorem byDomain_reorder {domain : String} (h : byName.Perm reg.byName)
    (hone : D.get domain "orchestrator_provider" = none → reg.AtMostOne (·.matchesDomain domain)) :
    D.byDomain (reg.reorder byName h) domain = D.byDomain reg domain := by
  unfold byDomain
  cases hget : D.get domain "orchestrator_provider" with
  | some provider => rfl
  | none => exact congrArg (Option.map (·.provider)) (find?_eq_of_perm h (hone hget))

theorem Unambiguous.detectProvider_eq (hone : D.Unambiguous reg username issuerUrl)
    (h : byName.Perm reg.byName) :
    D.detectProvider (reg.reorder byName h) none username issuerUrl =
      D.detectProvider reg none username issuerUrl := by
  have hurl : (issuerUrl.bind fun url => byName.find? (·.matchesUrl url)) =
      issuerUrl.bind fun url => reg.byName.find? (·.matchesUrl url) := by
    cases issuerUrl with
    | none => rfl
    | some url => exact find?_eq_of_perm h (hone.url url rfl)
  unfold detectProvider
  change (match issuerUrl.bind fun url => byName.find? (·.matchesUrl url) with
    | some candidate => candidate.provider
    | none => _) = _
  rw [hurl]
  cases hfind : issuerUrl.bind fun url => reg.byName.find? (·.matchesUrl url) with
  | some candidate => rfl
  | none =>
    have hnone : ∀ url, issuerUrl = some url → ∀ d ∈ reg.byName, d.matchesUrl url = false := by
      rintro url rfl d hd
      simpa using List.find?_eq_none.mp hfind d hd
    dsimp only
    rw [withoutMatchers_reorder]
    cases husername : username.bind splitUsername with
    | none => rfl
    | some names =>
      simp only [Option.bind_some, byDomain_reorder h (hone.domain hnone names.1 names.2 husername)]

/-- **Detection.**  The provider does not depend on the order of the map if and only if one is
    requested or at most one definition matches where the search ends. -/
theorem detectProvider_order_iff (D : Detection) (reg : ProviderRegistry)
    (requestedProvider username issuerUrl : Option String) :
    (∀ (byName : List ProviderDefinition) (h : byName.Perm reg.byName),
        D.detectProvider (reg.reorder byName h) requestedProvider username issuerUrl =
          D.detectProvider reg requestedProvider username issuerUrl) ↔
      (requestedProvider = none → D.Unambiguous reg username issuerUrl) := by
  constructor
  · intro hsame hrequested
    -- Two orders that put a hit first each make it the answer.
    refine ⟨fun url hurl => ?_, fun hnone user domain husername hget => ?_⟩
    · refine atMostOne_of_find? fun byName byName' hperm hperm' d d' hfind hfind' => ?_
      rw [← detectProvider_of_url D (reg.reorder byName hperm) hrequested hurl hfind,
        ← detectProvider_of_url D (reg.reorder byName' hperm') hrequested hurl hfind',
        hsame, hsame]
    · refine atMostOne_of_find? fun byName byName' hperm hperm' d d' hfind hfind' => ?_
      have hnone' : ∀ byName : List ProviderDefinition, byName.Perm reg.byName → ∀ url,
          issuerUrl = some url → ∀ d ∈ byName, d.matchesUrl url = false :=
        fun byName hperm url hurl d hd => hnone url hurl d (hperm.mem_iff.mp hd)
      have hfirst := detectProvider_of_domain D (reg.reorder byName hperm) hrequested
        (hnone' byName hperm) husername hget hfind
      have hsecond := detectProvider_of_domain D (reg.reorder byName' hperm') hrequested
        (hnone' byName' hperm') husername hget hfind'
      rw [← hfirst, ← hsecond, hsame, hsame]
  · intro hone byName h
    cases requestedProvider with
    | some provider => rfl
    | none => exact (hone rfl).detectProvider_eq h

def issuerDefinition (provider probe : String) : ProviderDefinition where
  provider := provider
  displayName := provider
  matchers := some ⟨[probe], [], [], []⟩
  startUrl := none
  steps := [⟨"start", false, none, [], [], [], none⟩]

def overlapping : ProviderRegistry where
  byName := [issuerDefinition "staff" "example.com", issuerDefinition "students" "example.com/edu"]
  unique := by decide
  valid := by decide +kernel

def plainDetection : Detection where
  get _ _ := none
  toLowercase text := text
  hostStr _ := none

/-- Two definitions match the issuer, and the answer is the one that the map yields first. -/
theorem detectProvider_depends_on_order :
    let url := "https://login.example.com/edu"
    plainDetection.detectProvider overlapping none none (some url) = "staff" ∧
      plainDetection.detectProvider (overlapping.reorder overlapping.byName.reverse
        (List.reverse_perm _)) none none (some url) = "students" := by
  decide +kernel

end Detection

end Himmelblau.Orchestrator
