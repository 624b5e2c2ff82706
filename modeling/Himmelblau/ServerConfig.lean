/-
  **`himmelblau.conf` as the daemon reads and extends it**, mirror of the parts of `config.rs` that
  deal with ranges of ids, with configured domains and with their aliases.

  The parser is outside: sections and keys are compared ignoring case, and nothing is known about
  the order of the sections.  A domain that no section lists is looked up at the federation
  endpoint, and what is found there is written back.
-/
import Himmelblau.Msal
import Himmelblau.Sids

namespace Himmelblau.ServerConfig

open Msal NameMapping Sids DirectoryGroups List

/-! ## 1. The parser -/

/-- What `configparser::Ini` offers, and `str::to_lowercase`, which it uses. -/
structure IniParser (I : Type) where
  toLowercase : String → String
  get : I → (sect key : String) → Option String
  set : I → (sect key value : String) → I
  sections : I → List String

/-- The parser is a map from sections and keys, both in lower case. -/
structure IniParser.Lawful {I : Type} (P : IniParser I) : Prop where
  lower_lower : ∀ text, P.toLowercase (P.toLowercase text) = P.toLowercase text
  lower_key : ∀ key : String, (∀ c ∈ key.toList, c.isLower = true ∨ c = '_') →
    P.toLowercase key = key
  get_congr : ∀ config sect sect' key, P.toLowercase sect = P.toLowercase sect' →
    P.get config sect key = P.get config sect' key
  get_set : ∀ config sect key value sect' key', P.get (P.set config sect key value) sect' key' =
    if P.toLowercase sect' = P.toLowercase sect ∧ P.toLowercase key' = P.toLowercase key
    then some value else P.get config sect' key'
  mem_sections_set : ∀ config sect key value name,
    name ∈ P.sections (P.set config sect key value) ↔
      name ∈ P.sections config ∨ name = P.toLowercase sect

namespace IniParser

variable {I : Type} (P : IniParser I) (config : I)

/-! ## 2. Ranges of ids -/

def defaultIdmapRange : UInt32 × UInt32 := (200000, 2000200000)

def defaultSubidRange : UInt32 × UInt32 := (2100000000, 4200000000)

/-- The text of a range; anything but two numbers is the default. -/
def parseRange (defaultRange : UInt32 × UInt32) (val : String) : UInt32 × UInt32 :=
  let vals := ((split '-' val).mapM parseU32).getD [defaultRange.1, defaultRange.2]
  match vals with
  | [min, max] => (min, max)
  | _ => defaultRange

def getIdmapRange (domain : String) : UInt32 × UInt32 :=
  match P.get config domain "idmap_range" with
  | some val => parseRange defaultIdmapRange val
  | none =>
    match P.get config "global" "idmap_range" with
    | some val => parseRange defaultIdmapRange val
    | none => defaultIdmapRange

def getSubidRange : UInt32 × UInt32 :=
  match P.get config "global" "subid_range" with
  | some val => parseRange defaultSubidRange val
  | none => defaultSubidRange

/-- Validate that idmap_range and subid_range don't overlap -/
def startUpCheck : Bool :=
  let subidRange := P.getSubidRange config
  let idmapRange := P.getIdmapRange config "_"
  !(idmapRange.1 ≤ subidRange.2 && subidRange.1 ≤ idmapRange.2)

end IniParser

/-! ## 3. Domains and their aliases -/

namespace IniParser

variable {I : Type} (P : IniParser I) (config : I)

def globalList (key : String) : List String :=
  match P.get config "global" key with
  | some val => (split ',' val).map trim
  | none => []

def domainSections : List String :=
  (P.sections config).filter fun s => s != "global" && s != "offline_breakglass"

def getConfiguredDomains : List String :=
  let domains := P.globalList config "domains" ++ P.globalList config "domain"
  (P.domainSections config).foldl
    (fun domains s => if domains.contains s then domains else domains ++ [s]) domains

def getTenantId (domain : String) : Option String := P.get config domain "tenant_id"

def defaultOdcProvider : String := "odc.officeapps.live.com"

def getOdcProvider (domain : String) : String :=
  match P.get config domain "odc_provider" with
  | some val => val
  | none => (P.get config "global" "odc_provider").getD defaultOdcProvider

/-- `text.strip_suffix(end).unwrap_or(text)`. -/
def withoutEnd (ending text : String) : String :=
  if ending.toList.isSuffixOf text.toList then
    String.ofList (text.toList.take (text.toList.length - ending.toList.length))
  else text

/-- `urlParses` is `url::Url::parse(s).is_ok()`. -/
def getOidcIssuerUrl (urlParses : String → Bool) : Option String :=
  match P.get config "global" "oidc_issuer_url" with
  | none => none
  | some s =>
    let s := withoutEnd "/.well-known/openid-configuration" (trim s)
    if s.isEmpty then none
    else if !"https://".toList.isPrefixOf s.toList then none
    else if s.toList.contains '?' || s.toList.contains '#' then none
    else if !urlParses s then none
    else some s

/-- The aliases that a section lists; they are not trimmed. -/
def domainAliases (domain : String) : List String :=
  match P.get config domain "domain_aliases" with
  | some aliases => split ',' aliases
  | none => []

/-- The loop of `get_primary_domain_from_alias_simple` tries this of each domain. -/
def isNamed (name domain : String) : Bool :=
  P.toLowercase domain == P.toLowercase name ||
    ((P.domainAliases config domain).map P.toLowercase).contains (P.toLowercase name)

def getPrimaryDomainFromAliasSimple (name : String) : Option String :=
  (P.getConfiguredDomains config).find? (P.isNamed config name)

end IniParser

/-- What the federation endpoint reports for a domain. -/
structure FederationProvider where
  authorityHost : String
  tenantId : String
  graphUrl : String
  deriving DecidableEq, Repr

/-- What is outside of the configuration: the URL parser, the network, and the file that keeps
    what was found. -/
structure Federation (I W : Type) where
  urlParses : String → Bool
  requestFederationProvider : (odcProvider domain : String) → Ext W (Option FederationProvider)
  writeServerConfig : I → W → W

namespace IniParser

variable {I W : Type} (P : IniParser I) (F : Federation I W)

def joinComma (parts : List String) : String :=
  String.ofList ([','].intercalate (parts.map String.toList))

def addAlias (config : I) (domain name : String) : I :=
  P.set config domain "domain_aliases" (joinComma (P.domainAliases config domain ++ [name]))

def setTenant (config : I) (domain : String) (resp : FederationProvider) : I :=
  let config := P.set config domain "authority_host" resp.authorityHost
  let config := P.set config domain "tenant_id" resp.tenantId
  P.set config domain "graph_url" resp.graphUrl

/-- The loop that looks for a configured domain with this tenant id. -/
def matchTenant (name aliasTenantId : String) :
    List String → (modifiedConfig : Bool) → Ext (I × W) (Option String)
  | [], modifiedConfig => fun (config, w) =>
    (none, (config, if modifiedConfig then F.writeServerConfig config w else w))
  | domain :: domains, modifiedConfig => fun (config, w) =>
    match P.getTenantId config domain with
    | some tenantId =>
      if tenantId = aliasTenantId then
        let config := P.addAlias config domain name
        (some domain, (config, F.writeServerConfig config w))
      else matchTenant name aliasTenantId domains modifiedConfig (config, w)
    | none =>
      match F.requestFederationProvider (P.getOdcProvider config domain) domain w with
      | (none, w) => matchTenant name aliasTenantId domains modifiedConfig (config, w)
      | (some resp, w) =>
        let config := P.setTenant config domain resp
        if resp.tenantId = aliasTenantId then
          let config := P.addAlias config domain name
          (some domain, (config, F.writeServerConfig config w))
        else matchTenant name aliasTenantId domains true (config, w)

def getPrimaryDomainFromAlias (name : String) : Ext (I × W) (Option String) := fun (config, w) =>
  -- Short-circuit the request if this is an OIDC provider domain.
  if (P.getOidcIssuerUrl config F.urlParses).isSome then (none, (config, w))
  else
    match P.getPrimaryDomainFromAliasSimple config name with
    | some primary => (some primary, (config, w))
    | none =>
      let domains := P.getConfiguredDomains config
      if domains.isEmpty then (none, (config, w))
      else
        -- We don't recognize this alias, so now we need to search for it the hard way by checking
        -- for matching tenant id's.
        match F.requestFederationProvider defaultOdcProvider name w with
        | (none, w) => (none, (config, w))
        | (some resp, w) => P.matchTenant F name resp.tenantId domains false (config, w)

def domainsAreAliases (domain1 domain2 : String) : Ext (I × W) Bool := fun s =>
  match P.getPrimaryDomainFromAlias F domain1 s with
  | (some primary, s) => (domain2 == primary, s)
  | (none, s) =>
    match P.getPrimaryDomainFromAlias F domain2 s with
    | (some primary, s) => (domain1 == primary, s)
    | (none, s) => (false, s)

end IniParser

/-! ## 4. What discovery changes -/

theorem mem_foldl_insert {α : Type} [BEq α] [LawfulBEq α] (x : α) (l init : List α) :
    x ∈ l.foldl (fun acc s => if acc.contains s then acc else acc ++ [s]) init ↔
      x ∈ init ∨ x ∈ l := by
  induction l generalizing init with
  | nil => simp
  | cons s l ih =>
    rw [foldl_cons, ih]
    by_cases h : s ∈ init
    · rw [if_pos (contains_iff_mem.mpr h), mem_cons]
      constructor
      · rintro (hx | hx)
        · exact Or.inl hx
        · exact Or.inr (Or.inr hx)
      · rintro (hx | rfl | hx)
        · exact Or.inl hx
        · exact Or.inl h
        · exact Or.inr hx
    · rw [if_neg (mt contains_iff_mem.mp h), mem_append, mem_singleton,
        mem_cons, or_assoc]

namespace IniParser

theorem splitOn_intercalate_flatMap {α : Type} [BEq α] [LawfulBEq α] (x : α) {parts : List (List α)}
    (h : parts ≠ []) : ([x].intercalate parts).splitOn x = parts.flatMap (·.splitOn x) := by
  induction parts with
  | nil => exact absurd rfl h
  | cons part parts ih =>
    by_cases hlast : parts = []
    · rw [hlast, intercalate_singleton, flatMap_singleton]
    · rw [intercalate_cons_of_ne_nil hlast, append_assoc, singleton_append,
        splitOn_append_cons_self, ih hlast, flatMap_cons]

theorem split_joinComma {parts : List String} (h : parts ≠ []) :
    split ',' (joinComma parts) = parts.flatMap (split ',') := by
  unfold split joinComma
  rw [String.toList_ofList, splitOn_intercalate_flatMap ',' (by simpa using h), map_flatMap,
    flatMap_map]

theorem joinComma_split (text : String) : joinComma (split ',' text) = text := by
  unfold split joinComma
  have hid : String.toList ∘ String.ofList = id := funext fun _ => String.toList_ofList
  rw [map_map, hid, map_id, intercalate_splitOn, String.ofList_toList]

theorem flatMap_split (text : String) : (split ',' text).flatMap (split ',') = split ',' text := by
  have hne : split ',' text ≠ [] := by
    unfold split
    rw [ne_eq, map_eq_nil_iff]
    exact splitOn_ne_nil ',' _
  rw [← split_joinComma hne, joinComma_split]

variable {I W : Type} {P : IniParser I} {config : I}

theorem flatMap_domainAliases (domain : String) :
    (P.domainAliases config domain).flatMap (split ',') = P.domainAliases config domain := by
  unfold domainAliases
  cases P.get config domain "domain_aliases" with
  | none => rfl
  | some aliases => exact flatMap_split aliases

theorem mem_getConfiguredDomains {d : String} :
    d ∈ P.getConfiguredDomains config ↔
      (d ∈ P.globalList config "domains" ∨ d ∈ P.globalList config "domain") ∨
        d ∈ P.domainSections config := by
  unfold getConfiguredDomains
  rw [mem_foldl_insert, mem_append]

def serverKeys : List String := ["authority_host", "tenant_id", "graph_url", "domain_aliases"]

variable (P) in
/-- Discovery has extended the configuration at these domains: only keys of the server's own were
    written, and a tenant id that was known stays. -/
structure Extends (names : List String) (config config' : I) : Prop where
  kept : ∀ sect key, P.toLowercase key ∉ serverKeys →
    P.get config' sect key = P.get config sect key
  sections : ∀ s ∈ P.sections config', s ∈ P.sections config ∨ ∃ d ∈ names, s = P.toLowercase d
  tenant : ∀ d t, P.getTenantId config d = some t → P.getTenantId config' d = some t

theorem Extends.refl (names : List String) (config : I) : P.Extends names config config :=
  ⟨fun _ _ _ => rfl, fun _ h => Or.inl h, fun _ _ h => h⟩

variable {names : List String}

theorem Extends.trans {c1 c2 c3 : I} (h : P.Extends names c1 c2) (h' : P.Extends names c2 c3) :
    P.Extends names c1 c3 where
  kept sect key hkey := (h'.kept sect key hkey).trans (h.kept sect key hkey)
  sections s hs := by
    rcases h'.sections s hs with hold | hnew
    · exact h.sections s hold
    · exact Or.inr hnew
  tenant d t hd := h'.tenant d t (h.tenant d t hd)

section Laws

variable (hP : P.Lawful)

include hP

theorem lower_plain {key : String}
    (h : (key.toList.all fun c => c.isLower || c == '_') = true) : P.toLowercase key = key := by
  refine hP.lower_key key fun c hc => ?_
  simpa using all_eq_true.mp h c hc

theorem lower_serverKeys {key : String} (h : key ∈ serverKeys) : P.toLowercase key = key := by
  simp only [serverKeys, mem_cons, not_mem_nil, or_false] at h
  rcases h with rfl | rfl | rfl | rfl <;> exact lower_plain hP (by decide)

theorem get_set_ne {sect sect' key key' value : String} (hkey : key ∈ serverKeys)
    (hne : P.toLowercase key' ≠ key) :
    P.get (P.set config sect key value) sect' key' = P.get config sect' key' := by
  rw [hP.get_set, if_neg]
  rintro ⟨-, hsame⟩
  exact hne (hsame.trans (lower_serverKeys hP hkey))

theorem extends_set (key value : String) {names : List String} {domain : String}
    (hdomain : domain ∈ names) (hkey : key ∈ serverKeys)
    (htenant : key = "tenant_id" → P.getTenantId config domain = none) :
    P.Extends names config (P.set config domain key value) where
  kept sect key' hkey' := get_set_ne hP hkey (fun h => hkey' (h ▸ hkey))
  sections s hs := by
    rcases (hP.mem_sections_set config domain key value s).mp hs with hold | rfl
    · exact Or.inl hold
    · exact Or.inr ⟨domain, hdomain, rfl⟩
  tenant d t hd := by
    unfold getTenantId at hd ⊢
    rw [hP.get_set]
    split
    · next hsame =>
      obtain ⟨hsect, hlower⟩ := hsame
      have hid : "tenant_id" ∈ serverKeys := by decide
      rw [lower_serverKeys hP hid, lower_serverKeys hP hkey] at hlower
      have hnone := htenant hlower.symm
      unfold getTenantId at hnone
      rw [hP.get_congr config d domain _ hsect, hnone] at hd
      cases hd
    · exact hd

theorem getTenantId_setTenant (config : I) (domain : String) (resp : FederationProvider) :
    P.getTenantId (P.setTenant config domain resp) domain = some resp.tenantId := by
  unfold getTenantId setTenant
  dsimp only
  have hid : "tenant_id" ∈ serverKeys := by decide
  rw [get_set_ne hP (by decide) (by rw [lower_serverKeys hP hid]; decide), hP.get_set,
    if_pos ⟨rfl, rfl⟩]

variable {domain name aliasTenantId : String}

theorem extends_setTenant (hdomain : domain ∈ names)
    (htenant : P.getTenantId config domain = none) (resp : FederationProvider) :
    P.Extends names config (P.setTenant config domain resp) := by
  have hhost := extends_set hP "authority_host" resp.authorityHost hdomain (by decide)
    (fun _ => htenant)
  have hstill : P.getTenantId (P.set config domain "authority_host" resp.authorityHost) domain =
      none := by
    unfold getTenantId at htenant ⊢
    have hid : "tenant_id" ∈ serverKeys := by decide
    rw [get_set_ne hP (by decide) (by rw [lower_serverKeys hP hid]; decide), htenant]
  have hid := extends_set hP "tenant_id" resp.tenantId hdomain (by decide) (fun _ => hstill)
  refine (hhost.trans hid).trans ?_
  exact extends_set hP "graph_url" resp.graphUrl hdomain (by decide) (fun h => absurd h (by decide))

theorem extends_addAlias (hdomain : domain ∈ names) :
    P.Extends names config (P.addAlias config domain name) :=
  extends_set hP "domain_aliases" _ hdomain (by decide) (fun h => absurd h (by decide))

theorem getTenantId_addAlias (config : I) (domain name d : String) :
    P.getTenantId (P.addAlias config domain name) d = P.getTenantId config d := by
  have hid : "tenant_id" ∈ serverKeys := by decide
  exact get_set_ne hP (by decide) (by rw [lower_serverKeys hP hid]; decide)

theorem domainAliases_addAlias (config : I) (domain name d : String) :
    P.domainAliases (P.addAlias config domain name) d =
      if P.toLowercase d = P.toLowercase domain then P.domainAliases config d ++ split ',' name
      else P.domainAliases config d := by
  have hget := hP.get_set config domain "domain_aliases"
    (joinComma (P.domainAliases config domain ++ [name])) d "domain_aliases"
  by_cases hsame : P.toLowercase d = P.toLowercase domain
  · rw [if_pos ⟨hsame, rfl⟩] at hget
    have hcongr : P.domainAliases config domain = P.domainAliases config d := by
      unfold domainAliases
      rw [hP.get_congr config d domain _ hsame]
    rw [if_pos hsame]
    conv_lhs => unfold domainAliases addAlias
    rw [hget]
    dsimp only
    rw [split_joinComma (append_ne_nil_of_right_ne_nil _ (cons_ne_nil _ _)),
      flatMap_append, flatMap_domainAliases, flatMap_singleton, hcongr]
  · rw [if_neg fun h => hsame h.1] at hget
    rw [if_neg hsame]
    unfold domainAliases addAlias
    rw [hget]

theorem domainAliases_setTenant (config : I) (domain : String) (resp : FederationProvider)
    (d : String) :
    P.domainAliases (P.setTenant config domain resp) d = P.domainAliases config d := by
  have hlower : P.toLowercase "domain_aliases" = "domain_aliases" :=
    lower_serverKeys hP (by decide)
  unfold domainAliases setTenant
  dsimp only
  rw [get_set_ne hP (by decide) (by rw [hlower]; decide),
    get_set_ne hP (by decide) (by rw [hlower]; decide),
    get_set_ne hP (by decide) (by rw [hlower]; decide)]

/-- What the search for a tenant id returns, and what it has done to the configuration. -/
structure Searched (P : IniParser I) (names : List String) (name aliasTenantId : String)
    (config : I) (primary : Option String) (config' : I) : Prop where
  grown : P.Extends names config config'
  found : ∀ p, primary = some p → p ∈ names ∧ P.getTenantId config' p = some aliasTenantId
  aliases : ∀ d, ∀ a ∈ P.domainAliases config' d, a ∈ P.domainAliases config d ∨
    a ∈ split ',' name ∧ ∃ p, primary = some p ∧ P.toLowercase d = P.toLowercase p

omit hP in
theorem Searched.none (names : List String) (name aliasTenantId : String) (config : I) :
    P.Searched names name aliasTenantId config none config :=
  ⟨.refl names config, fun _ h => (by cases h), fun _ _ h => Or.inl h⟩

theorem Searched.hit (hdomain : domain ∈ names)
    (htenant : P.getTenantId config domain = some aliasTenantId) :
    P.Searched names name aliasTenantId config (some domain)
      (P.addAlias config domain name) where
  grown := extends_addAlias hP hdomain
  found p hp := by
    obtain rfl := Option.some.inj hp
    rw [getTenantId_addAlias hP]
    exact ⟨hdomain, htenant⟩
  aliases d a ha := by
    rw [domainAliases_addAlias hP] at ha
    split at ha
    · next hsame =>
      rcases mem_append.mp ha with hold | hnew
      · exact Or.inl hold
      · exact Or.inr ⟨hnew, domain, rfl, hsame⟩
    · exact Or.inl ha

theorem Searched.after (hdomain : domain ∈ names)
    (htenant : P.getTenantId config domain = Option.none) {resp : FederationProvider}
    {primary : Option String} {config' : I}
    (h : P.Searched names name aliasTenantId (P.setTenant config domain resp) primary config') :
    P.Searched names name aliasTenantId config primary config' where
  grown := (extends_setTenant hP hdomain htenant resp).trans h.grown
  found := h.found
  aliases d a ha := by
    have hafter := h.aliases d a ha
    rwa [domainAliases_setTenant hP] at hafter

theorem matchTenant_searched (F : Federation I W) {domains : List String}
    (hdomains : ∀ d ∈ domains, d ∈ names) (modifiedConfig : Bool) (config : I) (w : W) :
    P.Searched names name aliasTenantId config
      (P.matchTenant F name aliasTenantId domains modifiedConfig (config, w)).1
      (P.matchTenant F name aliasTenantId domains modifiedConfig (config, w)).2.1 := by
  induction domains generalizing modifiedConfig config w with
  | nil => exact .none names name aliasTenantId config
  | cons domain domains ih =>
    have hdomain := hdomains domain mem_cons_self
    have hrest := ih fun d hd => hdomains d (mem_cons_of_mem domain hd)
    unfold matchTenant
    dsimp only
    cases htenant : P.getTenantId config domain with
    | some tenantId =>
      dsimp only
      by_cases heq : tenantId = aliasTenantId
      · rw [if_pos heq]
        exact .hit hP hdomain (heq ▸ htenant)
      · rw [if_neg heq]
        exact hrest modifiedConfig config w
    | none =>
      dsimp only
      rcases F.requestFederationProvider (P.getOdcProvider config domain) domain w with
        ⟨_ | resp, w'⟩
      · exact hrest modifiedConfig config w'
      · dsimp only
        by_cases heq : resp.tenantId = aliasTenantId
        · rw [if_pos heq]
          refine .after hP hdomain htenant (.hit hP hdomain ?_)
          rw [getTenantId_setTenant hP, heq]
        · rw [if_neg heq]
          exact .after hP hdomain htenant (hrest true (P.setTenant config domain resp) w')

/-- The ways in which `get_primary_domain_from_alias` comes to its answer. -/
inductive Resolution (P : IniParser I) (F : Federation I W) (name : String) (config : I) (w : W) :
    Option String → I → Prop
  | unknown (h : (P.getOidcIssuerUrl config F.urlParses).isSome = true ∨
        P.getPrimaryDomainFromAliasSimple config name = none) :
      Resolution P F name config w none config
  | listed (hissuer : P.getOidcIssuerUrl config F.urlParses = none) {primary : String}
      (h : P.getPrimaryDomainFromAliasSimple config name = some primary) :
      Resolution P F name config w (some primary) config
  | searched (hissuer : P.getOidcIssuerUrl config F.urlParses = none)
      (hsimple : P.getPrimaryDomainFromAliasSimple config name = none) {resp : FederationProvider}
      (hresp : (F.requestFederationProvider defaultOdcProvider name w).1 = some resp)
      {primary : Option String} {config' : I}
      (h : P.Searched (P.getConfiguredDomains config) name resp.tenantId config primary config') :
      Resolution P F name config w primary config'

theorem getPrimaryDomainFromAlias_resolution (F : Federation I W) (name : String) (config : I)
    (w : W) :
    P.Resolution F name config w (P.getPrimaryDomainFromAlias F name (config, w)).1
      (P.getPrimaryDomainFromAlias F name (config, w)).2.1 := by
  unfold getPrimaryDomainFromAlias
  dsimp only
  by_cases hissuer : (P.getOidcIssuerUrl config F.urlParses).isSome = true
  · rw [if_pos hissuer]
    exact .unknown (Or.inl hissuer)
  · rw [if_neg hissuer]
    have hnone := Option.not_isSome_iff_eq_none.mp hissuer
    cases hsimple : P.getPrimaryDomainFromAliasSimple config name with
    | some primary => exact .listed hnone hsimple
    | none =>
      dsimp only
      by_cases hempty : (P.getConfiguredDomains config).isEmpty = true
      · rw [if_pos hempty]
        exact .unknown (Or.inr hsimple)
      · rw [if_neg hempty]
        rcases hresp : F.requestFederationProvider defaultOdcProvider name w with ⟨_ | resp, w'⟩
        · exact .unknown (Or.inr hsimple)
        · exact .searched hnone hsimple (by rw [hresp])
            (matchTenant_searched hP F (fun _ h => h) false config w')

end Laws

end IniParser

/-! ## 5. A parser -/

abbrev PlainIni := List ((String × String) × String)

def asciiLower (text : String) : String := String.ofList (text.toList.map Char.toLower)

theorem toLower_toLower (c : Char) : c.toLower.toLower = c.toLower := by
  by_cases hupper : c.val ≥ 'A'.val ∧ c.val ≤ 'Z'.val
  · have hlower : ¬ (c.toLower.val ≥ 'A'.val ∧ c.toLower.val ≤ 'Z'.val) := by
      have hA : 'A'.val.toNat = 65 := rfl
      have hZ : 'Z'.val.toNat = 90 := rfl
      have hdiff : ('a'.val - 'A'.val).toNat = 32 := rfl
      simp only [Char.toLower, hupper, and_self, dif_pos]
      simp only [ge_iff_le, UInt32.le_iff_toNat_le, UInt32.toNat_add, hA, hZ, hdiff] at hupper ⊢
      omega
    exact dif_neg hlower
  · have hsame : c.toLower = c := dif_neg hupper
    rw [hsame, hsame]

theorem toLower_of_isLower {c : Char} (h : c.isLower = true ∨ c = '_') : c.toLower = c := by
  refine dif_neg ?_
  rintro ⟨hA, hZ⟩
  rcases h with h | rfl
  · have ha : 'a'.val ≤ c.val := by
      unfold Char.isLower at h
      simp only [Bool.and_eq_true, decide_eq_true_eq] at h
      exact h.1
    exact absurd (UInt32.le_trans ha hZ) (by decide)
  · exact absurd hZ (by decide)

def plainIni : IniParser PlainIni where
  toLowercase := asciiLower
  get config sect key := config.lookup (asciiLower sect, asciiLower key)
  set config sect key value := ((asciiLower sect, asciiLower key), value) :: config
  sections config := config.map (·.1.1)

theorem plainIni_lawful : plainIni.Lawful where
  lower_lower text := by
    change asciiLower (asciiLower text) = asciiLower text
    unfold asciiLower
    rw [String.toList_ofList, map_map]
    exact congrArg String.ofList (map_congr_left fun c _ => toLower_toLower c)
  lower_key key h := by
    have hmap : key.toList.map Char.toLower = key.toList := by
      rw [map_congr_left fun c hc => toLower_of_isLower (h c hc), map_id']
    change String.ofList (key.toList.map Char.toLower) = key
    rw [hmap, String.ofList_toList]
  get_congr config sect sect' key h := by
    change config.lookup (asciiLower sect, _) = config.lookup (asciiLower sect', _)
    rw [show asciiLower sect = asciiLower sect' from h]
  get_set config sect key value sect' key' := by
    change lookup (asciiLower sect', asciiLower key')
        (((asciiLower sect, asciiLower key), value) :: config) =
      if asciiLower sect' = asciiLower sect ∧ asciiLower key' = asciiLower key then some value
      else config.lookup (asciiLower sect', asciiLower key')
    rw [lookup_cons]
    by_cases h : asciiLower sect' = asciiLower sect ∧ asciiLower key' = asciiLower key
    · simp [h.1, h.2]
    · rw [if_neg h, beq_false_of_ne (by simpa using h)]
  mem_sections_set config sect key value name := by
    simp [plainIni, or_comm]

end Himmelblau.ServerConfig
