/-
  **No tenant is added by a login** (mirror of `HimmelblauMultiProvider::new` and of the macro
  `find_provider!` of `idprovider/himmelblau.rs`).

  A login with an unknown domain makes the configuration look for it at the federation endpoint,
  and an alias that is found is remembered.  The map of providers is filled once and only read
  after that, so whatever the endpoint reports, a login ends at a provider that was configured.
-/
import Himmelblau.Interface
import Himmelblau.ServerConfig

namespace Himmelblau.FindProvider

open Interface NameMapping ServerConfig

/-! ## 1. The providers of the daemon -/

/-- How making the provider of one domain goes: if its `Graph` fails the domain is passed over, and
    if anything else fails so does the daemon. -/
inductive Made (R : Type) where
  | skipped
  | failed
  | made (provider : R)

structure HimmelblauMultiProvider (I W R : Type) where
  config : I
  world : W
  providers : List (String × R)

variable {I W R : Type} (P : IniParser I) (F : Federation I W)

/-- The loop of `HimmelblauMultiProvider::new`; `insert` replaces an older entry. -/
def insertProviders (make : String → Made R) :
    List String → List (String × R) → Option (List (String × R))
  | [], providers => some providers
  | domain :: domains, providers =>
    match make domain with
    | .failed => none
    | .skipped => insertProviders make domains providers
    | .made provider => insertProviders make domains ((domain, provider) :: providers)

namespace HimmelblauMultiProvider

def new (make : String → Made R) (makeOidc : Option R) (config : I) (w : W) :
    Option (HimmelblauMultiProvider I W R) :=
  let providers :=
    if (P.getOidcIssuerUrl config F.urlParses).isNone then
      insertProviders make (P.getConfiguredDomains config) []
    else
      makeOidc.map fun provider => [("oidc", provider)]
  match providers with
  | none => none
  | some providers => if providers.isEmpty then none else some ⟨config, w, providers⟩

def findProvider (m : HimmelblauMultiProvider I W R) (domain : String) :
    Except IdpError R × HimmelblauMultiProvider I W R :=
  let notFound : IdpError := .notFound ("domain: " ++ domain) "providers"
  match m.providers.lookup domain with
  | some provider => (.ok provider, m)
  | none =>
    -- Attempt to match a provider alias
    match P.getPrimaryDomainFromAlias F domain (m.config, m.world) with
    | (some primary, config, w) =>
      -- NEVER introduce a new tenant here
      match m.providers.lookup primary with
      | some provider => (.ok provider, { m with config := config, world := w })
      | none => (.error notFound, { m with config := config, world := w })
    | (none, config, w) => (.error notFound, { m with config := config, world := w })

def run (m : HimmelblauMultiProvider I W R) (calls : List String) :
    HimmelblauMultiProvider I W R :=
  calls.foldl (fun m domain => (m.findProvider P F domain).2) m

def keys (m : HimmelblauMultiProvider I W R) : List String := m.providers.map (·.1)

end HimmelblauMultiProvider

/-- The keys that the configuration allows: its domains or, if it names an issuer, the one of the
    OpenID Connect provider. -/
def configuredKeys (config : I) : List String :=
  if (P.getOidcIssuerUrl config F.urlParses).isNone then P.getConfiguredDomains config
  else ["oidc"]

/-! ## 2. What a call can change -/

variable {P F} {m : HimmelblauMultiProvider I W R}

theorem insertProviders_keys {make : String → Made R} {domains : List String}
    {providers result : List (String × R)}
    (h : insertProviders make domains providers = some result)
    {k : String} (hk : k ∈ result.map (·.1)) : k ∈ domains ∨ k ∈ providers.map (·.1) := by
  induction domains generalizing providers with
  | nil =>
    cases h
    exact Or.inr hk
  | cons domain domains ih =>
    unfold insertProviders at h
    cases hmake : make domain with
    | failed =>
      rw [hmake] at h
      cases h
    | skipped =>
      rw [hmake] at h
      rcases ih h with hdomain | hold
      · exact Or.inl (List.mem_cons_of_mem domain hdomain)
      · exact Or.inr hold
    | made provider =>
      rw [hmake] at h
      rcases ih h with hdomain | hold
      · exact Or.inl (List.mem_cons_of_mem domain hdomain)
      · rcases List.mem_cons.mp hold with rfl | hold
        · exact Or.inl List.mem_cons_self
        · exact Or.inr hold

theorem new_eq_some {make : String → Made R} {makeOidc : Option R} {config : I} {w : W}
    (h : HimmelblauMultiProvider.new P F make makeOidc config w = some m) :
    m.config = config ∧ ∀ k ∈ m.keys, k ∈ configuredKeys P F config := by
  unfold HimmelblauMultiProvider.new at h
  dsimp only at h
  unfold configuredKeys HimmelblauMultiProvider.keys
  split at h
  · cases h
  · next providers hproviders =>
    split at h
    · cases h
    · cases h
      refine ⟨rfl, fun k hk => ?_⟩
      by_cases hissuer : (P.getOidcIssuerUrl config F.urlParses).isNone = true
      · rw [if_pos hissuer] at hproviders ⊢
        rcases insertProviders_keys hproviders hk with hdomain | hnil
        · exact hdomain
        · cases hnil
      · rw [if_neg hissuer] at hproviders ⊢
        obtain ⟨provider, -, rfl⟩ := Option.map_eq_some_iff.mp hproviders
        exact hk

def Lists (P : IniParser I) (config : I) (key d : String) : Prop :=
  ∃ a ∈ P.domainAliases config key, P.toLowercase a = P.toLowercase d

/-- Asked about the domain in this state, the endpoint reports the tenant id that `key` has in the
    configuration `config'`. -/
def Reported (P : IniParser I) (F : Federation I W) (w : W) (d : String) (config' : I)
    (key : String) : Prop :=
  ∃ resp, (F.requestFederationProvider IniParser.defaultOdcProvider d w).1 = some resp ∧
    P.getTenantId config' key = some resp.tenantId

/-- One call: the providers stay, known tenant ids stay, and an alias that is new was reported. -/
structure Step (P : IniParser I) (F : Federation I W) (d : String)
    (m m' : HimmelblauMultiProvider I W R) : Prop where
  providers : m'.providers = m.providers
  tenant : ∀ key t, P.getTenantId m.config key = some t → P.getTenantId m'.config key = some t
  aliases : ∀ key, ∀ a ∈ P.domainAliases m'.config key, a ∈ P.domainAliases m.config key ∨
    a ∈ split ',' d ∧ Reported P F m.world d m'.config key

theorem resolution_grows (hP : P.Lawful) {d : String} {config config' : I} {w : W}
    {primary : Option String} (h : P.Resolution F d config w primary config') :
    (∀ key t, P.getTenantId config key = some t → P.getTenantId config' key = some t) ∧
      ∀ key, ∀ a ∈ P.domainAliases config' key, a ∈ P.domainAliases config key ∨
        a ∈ split ',' d ∧ Reported P F w d config' key := by
  cases h with
  | unknown _ => exact ⟨fun _ _ h => h, fun _ _ h => Or.inl h⟩
  | listed _ _ => exact ⟨fun _ _ h => h, fun _ _ h => Or.inl h⟩
  | searched _ _ hresp hsearched =>
    refine ⟨hsearched.grown.tenant, fun key a ha => ?_⟩
    rcases hsearched.aliases key a ha with hold | ⟨hnew, p, hp, hlower⟩
    · exact Or.inl hold
    · refine Or.inr ⟨hnew, _, hresp, ?_⟩
      unfold IniParser.getTenantId
      rw [hP.get_congr config' key p _ hlower]
      exact (hsearched.found p hp).2

theorem findProvider_step (hP : P.Lawful) (m : HimmelblauMultiProvider I W R) (d : String) :
    Step P F d m (m.findProvider P F d).2 := by
  have hres := IniParser.getPrimaryDomainFromAlias_resolution hP F d m.config m.world
  unfold HimmelblauMultiProvider.findProvider
  dsimp only
  cases m.providers.lookup d with
  | some provider => exact ⟨rfl, fun _ _ h => h, fun _ _ h => Or.inl h⟩
  | none =>
    dsimp only
    generalize P.getPrimaryDomainFromAlias F d (m.config, m.world) = r at hres ⊢
    obtain ⟨htenant, haliases⟩ := resolution_grows hP hres
    rcases r with ⟨_ | primary, config, w⟩
    · exact ⟨rfl, htenant, haliases⟩
    · dsimp only
      cases m.providers.lookup primary with
      | none => exact ⟨rfl, htenant, haliases⟩
      | some provider => exact ⟨rfl, htenant, haliases⟩

theorem findProvider_issuer (hP : P.Lawful) (m : HimmelblauMultiProvider I W R) (d : String) :
    P.getOidcIssuerUrl (m.findProvider P F d).2.config F.urlParses =
      P.getOidcIssuerUrl m.config F.urlParses := by
  have hres := IniParser.getPrimaryDomainFromAlias_resolution hP F d m.config m.world
  have hkept : ∀ {primary config'}, P.Resolution F d m.config m.world primary config' →
      P.getOidcIssuerUrl config' F.urlParses = P.getOidcIssuerUrl m.config F.urlParses := by
    intro primary config' h
    cases h with
    | unknown _ => rfl
    | listed _ _ => rfl
    | searched _ _ _ hsearched =>
      have hkey : P.toLowercase "oidc_issuer_url" ∉ IniParser.serverKeys := by
        rw [IniParser.lower_plain hP (by decide)]
        decide
      unfold IniParser.getOidcIssuerUrl
      rw [hsearched.grown.kept "global" "oidc_issuer_url" hkey]
  unfold HimmelblauMultiProvider.findProvider
  dsimp only
  cases m.providers.lookup d with
  | some provider => rfl
  | none =>
    dsimp only
    generalize P.getPrimaryDomainFromAlias F d (m.config, m.world) = r at hres ⊢
    rcases r with ⟨_ | primary, config, w⟩
    · exact hkept hres
    · dsimp only
      cases m.providers.lookup primary with
      | none => exact hkept hres
      | some provider => exact hkept hres

theorem findProvider_ok (hP : P.Lawful) {d : String} {provider : R}
    (h : (m.findProvider P F d).1 = .ok provider) :
    ∃ key, m.providers.lookup key = some provider ∧
      (P.toLowercase key = P.toLowercase d ∨ Lists P m.config key d ∨
        Reported P F m.world d (m.findProvider P F d).2.config key) := by
  have hres := IniParser.getPrimaryDomainFromAlias_resolution hP F d m.config m.world
  unfold HimmelblauMultiProvider.findProvider at h ⊢
  dsimp only at h ⊢
  cases hdomain : m.providers.lookup d with
  | some found =>
    rw [hdomain] at h
    cases h
    exact ⟨d, hdomain, Or.inl rfl⟩
  | none =>
    rw [hdomain] at h
    dsimp only at h ⊢
    generalize P.getPrimaryDomainFromAlias F d (m.config, m.world) = r at hres h ⊢
    rcases r with ⟨_ | primary, config, w⟩
    · cases h
    · dsimp only at hres h ⊢
      cases hprimary : m.providers.lookup primary with
      | none =>
        rw [hprimary] at h
        cases h
      | some found =>
        rw [hprimary] at h
        cases h
        refine ⟨primary, hprimary, ?_⟩
        cases hres with
        | listed _ hsimple =>
          have hnamed := List.find?_some hsimple
          unfold IniParser.isNamed at hnamed
          rcases Bool.or_eq_true_iff.mp hnamed with heq | halias
          · exact Or.inl (beq_iff_eq.mp heq)
          · obtain ⟨a, ha, hlower⟩ := List.mem_map.mp (List.contains_iff_mem.mp halias)
            exact Or.inr (Or.inl ⟨a, ha, hlower⟩)
        | searched _ _ hresp hsearched =>
          exact Or.inr (Or.inr ⟨_, hresp, (hsearched.found primary rfl).2⟩)

/-! ## 3. Every history of calls -/

/-- An earlier call taught this alias of `key`: the endpoint reported the tenant id of `key` for the
    domain of that call, which is the alias (or a list of several, if it has commas). -/
def Learned (P : IniParser I) (F : Federation I W) (m : HimmelblauMultiProvider I W R)
    (calls : List String) (key a : String) : Prop :=
  ∃ before c after, calls = before ++ c :: after ∧ a ∈ split ',' c ∧
    Reported P F (m.run P F before).world c (m.run P F calls).config key

theorem run_append (m : HimmelblauMultiProvider I W R) (calls : List String) (d : String) :
    m.run P F (calls ++ [d]) = ((m.run P F calls).findProvider P F d).2 := by
  unfold HimmelblauMultiProvider.run
  rw [List.foldl_append]
  rfl

theorem run_history (hP : P.Lawful) (m : HimmelblauMultiProvider I W R) (calls : List String) :
    (m.run P F calls).providers = m.providers ∧
      ∀ key, ∀ a ∈ P.domainAliases (m.run P F calls).config key,
        a ∈ P.domainAliases m.config key ∨ Learned P F m calls key a := by
  induction calls using List.reverseRecOn with
  | nil => exact ⟨rfl, fun _ _ h => Or.inl h⟩
  | append_singleton calls d ih =>
    obtain ⟨hproviders, haliases⟩ := ih
    have hstep := findProvider_step (F := F) hP (m.run P F calls) d
    rw [← run_append] at hstep
    refine ⟨hstep.providers.trans hproviders, fun key a ha => ?_⟩
    rcases hstep.aliases key a ha with hold | ⟨hnew, hreported⟩
    · rcases haliases key a hold with hfirst | ⟨before, c, after, rfl, hc, resp, hresp, htenant⟩
      · exact Or.inl hfirst
      · refine Or.inr ⟨before, c, after ++ [d], by simp, hc, resp, hresp, ?_⟩
        exact hstep.tenant key _ htenant
    · exact Or.inr ⟨calls, d, [], rfl, hnew, hreported⟩

/-- **No tenant is ever added by a login.**  After any calls, the next one leaves the providers that
    were configured; and the provider that it returns is that of a configured domain that is the
    domain of the call, lists it as an alias, or has the tenant id that the endpoint reports for
    it.  What is listed was configured so or learned in an earlier call. -/
theorem find_provider_adds_no_tenant (hP : P.Lawful) {make : String → Made R}
    {makeOidc : Option R} {config : I} {w : W} {m : HimmelblauMultiProvider I W R}
    (hnew : HimmelblauMultiProvider.new P F make makeOidc config w = some m)
    (calls : List String) (d : String) :
    ((m.run P F (calls ++ [d])).keys = m.keys ∧
      ∀ key ∈ (m.run P F (calls ++ [d])).keys, key ∈ configuredKeys P F config) ∧
    ∀ provider, ((m.run P F calls).findProvider P F d).1 = .ok provider →
      ∃ key ∈ configuredKeys P F config, m.providers.lookup key = some provider ∧
        (P.toLowercase key = P.toLowercase d ∨ Lists P (m.run P F calls).config key d ∨
          Reported P F (m.run P F calls).world d (m.run P F (calls ++ [d])).config key) ∧
        ∀ a ∈ P.domainAliases (m.run P F calls).config key,
          a ∈ P.domainAliases config key ∨ Learned P F m calls key a := by
  obtain ⟨hconfig, hkeys⟩ := new_eq_some hnew
  obtain ⟨hproviders, haliases⟩ := run_history (F := F) hP m calls
  have hsame : (m.run P F (calls ++ [d])).keys = m.keys := by
    unfold HimmelblauMultiProvider.keys
    rw [(run_history hP m (calls ++ [d])).1]
  refine ⟨⟨hsame, hsame ▸ hkeys⟩, fun provider hok => ?_⟩
  obtain ⟨key, hlookup, hwhy⟩ := findProvider_ok hP hok
  rw [hproviders] at hlookup
  rw [← run_append] at hwhy
  refine ⟨key, hkeys key ?_, hlookup, hwhy, ?_⟩
  · obtain ⟨before, after, hmem, -⟩ := List.lookup_eq_some_iff.mp hlookup
    unfold HimmelblauMultiProvider.keys
    rw [hmem, List.map_append]
    exact List.mem_append_right _ List.mem_cons_self
  · rw [← hconfig]
    exact haliases key

def sampleEndpoint : Federation PlainIni Unit where
  urlParses _ := true
  requestFederationProvider _ domain w :=
    (if domain == "example.com" || domain == "example.org" then
      some ⟨"login.microsoftonline.com", "tenant", "https://graph.microsoft.com"⟩ else none, w)
  writeServerConfig _ w := w

/-- `example.org` is learned at its first login and listed at the next; `example.net` is not
    found. -/
theorem find_provider_learns_alias :
    let m : HimmelblauMultiProvider PlainIni Unit String :=
      ⟨[(("global", "domains"), "example.com")], (), [("example.com", "provider")]⟩
    let after := m.run plainIni sampleEndpoint ["example.net", "example.org"]
    (after.findProvider plainIni sampleEndpoint "EXAMPLE.ORG").1 = .ok "provider" ∧
      after.keys = ["example.com"] ∧
      Lists plainIni after.config "example.com" "EXAMPLE.ORG" ∧
      ∃ key ∈ ["example.com"], ∀ a ∈ plainIni.domainAliases after.config key,
        Learned plainIni sampleEndpoint m ["example.net", "example.org"] key a := by
  intro m after
  have hnew : HimmelblauMultiProvider.new plainIni sampleEndpoint (fun _ => .made "provider") none
      [(("global", "domains"), "example.com")] () = some m := by
    rfl
  have hok : (after.findProvider plainIni sampleEndpoint "EXAMPLE.ORG").1 = .ok "provider" := by
    decide +kernel
  have h := find_provider_adds_no_tenant plainIni_lawful hnew ["example.net", "example.org"]
    "EXAMPLE.ORG"
  obtain ⟨key, hkey, -, -, haliases⟩ := h.2 "provider" hok
  refine ⟨hok, by decide +kernel, ⟨"example.org", by decide +kernel, by decide +kernel⟩, key, hkey,
    fun a ha => (haliases a ha).resolve_left ?_⟩
  have hnone : plainIni.domainAliases [(("global", "domains"), "example.com")] key = [] := by
    obtain rfl := List.mem_singleton.mp hkey
    decide +kernel
  rw [hnone]
  exact List.not_mem_nil

end Himmelblau.FindProvider
