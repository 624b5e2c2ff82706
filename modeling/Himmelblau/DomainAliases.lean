/-
  **When two domains count as aliases of one tenant** (mirror of `domains_are_aliases` of
  `config.rs`, and of the comparison of principals in `token_validate`).

  Both are resolved to a primary domain, but only one of them ever is: the other one is compared,
  letter by letter, with the primary name that the first was resolved to.  So the relation holds
  from an alias to its primary name and not back, and not between two aliases.
-/
import Himmelblau.ServerConfig
import Himmelblau.Daemon

namespace Himmelblau.DomainAliases

open Interface Msal NameMapping Config Sids ServerConfig FunctionBody Entra List

variable {I W : Type} {P : IniParser I} {F : Federation I W} {config : I} {w : W}

/-! ## 1. Resolving a domain -/

theorem globalList_extends (hP : P.Lawful) {names : List String} {config' : I}
    (h : P.Extends names config config') {key : String} (hkey : key = "domains" ∨ key = "domain") :
    P.globalList config' key = P.globalList config key := by
  have hlower : P.toLowercase key = key := by
    rcases hkey with rfl | rfl <;> exact IniParser.lower_plain hP (by decide)
  have hother : P.toLowercase key ∉ IniParser.serverKeys := by
    rw [hlower]
    rcases hkey with rfl | rfl <;> decide
  unfold IniParser.globalList
  rw [h.kept "global" key hother]

variable {p d d1 d2 : String}

theorem configured_of_extends (hP : P.Lawful) {config' : I}
    (h : P.Extends (P.getConfiguredDomains config) config config')
    (hp : p ∈ P.getConfiguredDomains config') :
    ∃ q ∈ P.getConfiguredDomains config, P.toLowercase q = P.toLowercase p := by
  rw [IniParser.mem_getConfiguredDomains, globalList_extends hP h (Or.inl rfl),
    globalList_extends hP h (Or.inr rfl)] at hp
  rcases hp with hglobal | hsection
  · exact ⟨p, IniParser.mem_getConfiguredDomains.mpr (Or.inl hglobal), rfl⟩
  · obtain ⟨hmem, hnot⟩ := mem_filter.mp hsection
    rcases h.sections p hmem with hold | ⟨d, hd, rfl⟩
    · refine ⟨p, IniParser.mem_getConfiguredDomains.mpr (Or.inr ?_), rfl⟩
      exact mem_filter.mpr ⟨hold, hnot⟩
    · exact ⟨d, hd, (hP.lower_lower d).symm⟩

theorem isNamed_of_lower {name domain : String} (h : P.toLowercase domain = P.toLowercase name) :
    P.isNamed config name domain = true := by
  unfold IniParser.isNamed
  rw [h, beq_self_eq_true, Bool.true_or]

theorem simple_ne_none {q name : String} (hq : q ∈ P.getConfiguredDomains config)
    (hlower : P.toLowercase q = P.toLowercase name) :
    P.getPrimaryDomainFromAliasSimple config name ≠ none := by
  intro hnone
  exact find?_eq_none.mp hnone q hq (isNamed_of_lower hlower)

theorem simple_mem {name : String} (h : P.getPrimaryDomainFromAliasSimple config name = some p) :
    p ∈ P.getConfiguredDomains config :=
  mem_of_find?_eq_some h

/-- `get_primary_domain_from_alias`, from this configuration and this state of the network. -/
def primaryOf (P : IniParser I) (F : Federation I W) (config : I) (w : W) (d : String) :
    Option String :=
  (P.getPrimaryDomainFromAlias F d (config, w)).1

theorem primaryOf_resolution (hP : P.Lawful) (F : Federation I W) (config : I) (w : W)
    (d : String) : ∃ config', P.Resolution F d config w (primaryOf P F config w d) config' :=
  ⟨_, IniParser.getPrimaryDomainFromAlias_resolution hP F d config w⟩

theorem primaryOf_mem (hP : P.Lawful) (h : primaryOf P F config w d = some p) :
    p ∈ P.getConfiguredDomains config := by
  obtain ⟨config', hres⟩ := primaryOf_resolution hP F config w d
  rw [h] at hres
  cases hres with
  | listed _ hsimple => exact simple_mem hsimple
  | searched _ _ _ hsearched => exact (hsearched.found p rfl).1

theorem primaryOf_configured (hP : P.Lawful) (hd : d ∈ P.getConfiguredDomains config)
    (h : primaryOf P F config w d = some p) :
    P.getPrimaryDomainFromAliasSimple config d = some p := by
  obtain ⟨config', hres⟩ := primaryOf_resolution hP F config w d
  rw [h] at hres
  cases hres with
  | listed _ hsimple => exact hsimple
  | searched _ hsimple _ _ => exact absurd hsimple (simple_ne_none hd rfl)

theorem eq_of_find?_find? {α : Type} {l : List α} {R : α → α → Bool} {x y : α}
    (hx : R x x = true) (hy : R y y = true) (hxy : l.find? (R x) = some y)
    (hyx : l.find? (R y) = some x) : x = y := by
  obtain ⟨-, as, bs, hl, has⟩ := find?_eq_some_iff_append.mp hxy
  obtain ⟨-, cs, ds, hl', hcs⟩ := find?_eq_some_iff_append.mp hyx
  -- neither stands before the other, as it would match itself there
  rcases append_eq_append_iff.mp (hl.symm.trans hl') with ⟨zs, rfl, hzs⟩ | ⟨zs, rfl, hzs⟩
  · cases zs with
    | nil => exact (cons.inj hzs).1.symm
    | cons z zs =>
      obtain rfl := (cons.inj hzs).1
      have hno := hcs y (mem_append_right as mem_cons_self)
      rw [hy] at hno
      cases hno
  · cases zs with
    | nil => exact (cons.inj hzs).1
    | cons z zs =>
      obtain rfl := (cons.inj hzs).1
      have hno := has x (mem_append_right cs mem_cons_self)
      rw [hx] at hno
      cases hno

theorem eq_of_primaryOf_primaryOf (hP : P.Lawful) (h1 : primaryOf P F config w d1 = some d2)
    (h2 : primaryOf P F config w d2 = some d1) : d1 = d2 := by
  have hfirst := primaryOf_configured hP (primaryOf_mem hP h2) h1
  have hsecond := primaryOf_configured hP (primaryOf_mem hP h1) h2
  exact eq_of_find?_find? (isNamed_of_lower rfl) (isNamed_of_lower rfl) hfirst hsecond

/-! ## 2. `domains_are_aliases` -/

theorem issuer_of_primaryOf (hP : P.Lawful) (h : primaryOf P F config w d = some p) :
    P.getOidcIssuerUrl config F.urlParses = none := by
  obtain ⟨config', hres⟩ := primaryOf_resolution hP F config w d
  rw [h] at hres
  cases hres with
  | listed hissuer _ => exact hissuer
  | searched hissuer _ _ _ => exact hissuer

theorem primaryOf_ne_unresolved (hP : P.Lawful) {config' : I}
    (hres : P.Resolution F d1 config w none config') (w' : W) (d2 : String) :
    primaryOf P F config' w' d2 ≠ some d1 := by
  intro h
  have hmem := primaryOf_mem hP h
  cases hres with
  | unknown hor =>
    rcases hor with hissuer | hsimple
    · rw [issuer_of_primaryOf hP h] at hissuer
      cases hissuer
    · exact simple_ne_none hmem rfl hsimple
  | searched _ hsimple _ hsearched =>
    obtain ⟨q, hq, hlower⟩ := configured_of_extends hP hsearched.grown hmem
    exact simple_ne_none hq hlower hsimple

/-- Only the first domain is resolved to any effect: what the code compares with the first one if
    that fails is never its primary name. -/
theorem domainsAreAliases_iff (hP : P.Lawful) (d1 d2 : String) :
    (P.domainsAreAliases F d1 d2 (config, w)).1 = true ↔ primaryOf P F config w d1 = some d2 := by
  have hres := IniParser.getPrimaryDomainFromAlias_resolution hP F d1 config w
  unfold primaryOf IniParser.domainsAreAliases
  generalize P.getPrimaryDomainFromAlias F d1 (config, w) = r at hres ⊢
  rcases r with ⟨_ | p, config', w'⟩
  · dsimp only at hres ⊢
    refine iff_of_false ?_ (fun h => by cases h)
    have hne := primaryOf_ne_unresolved hP hres w' d2
    unfold primaryOf at hne
    generalize P.getPrimaryDomainFromAlias F d2 (config', w') = r at hne ⊢
    rcases r with ⟨_ | p, s⟩
    · exact Bool.false_ne_true
    · intro h
      exact hne (congrArg some (beq_iff_eq.mp h).symm)
  · dsimp only
    rw [beq_iff_eq, Option.some.injEq]
    exact eq_comm

/-! ## 3. One tenant -/

/-- The domain is a name of the configured domain `p`: `p` itself or one of the aliases that its
    section lists, separated by commas with optional spaces, in any letter case. -/
def Names (P : IniParser I) (config : I) (p d : String) : Prop :=
  p ∈ P.getConfiguredDomains config ∧
    (P.toLowercase p = P.toLowercase d ∨
      P.toLowercase d ∈ (P.domainAliases config p).map fun a => P.toLowercase (trim a))

/-- It is such a name, or discovery places it there. -/
def BelongsTo (P : IniParser I) (F : Federation I W) (config : I) (w : W) (p d : String) : Prop :=
  Names P config p d ∨ primaryOf P F config w d = some p

def OneTenant (P : IniParser I) (F : Federation I W) (config : I) (w : W) (d1 d2 : String) :
    Prop :=
  ∃ p, BelongsTo P F config w p d1 ∧ BelongsTo P F config w p d2

theorem OneTenant.symm (h : OneTenant P F config w d1 d2) : OneTenant P F config w d2 d1 := by
  obtain ⟨p, h1, h2⟩ := h
  exact ⟨p, h2, h1⟩

theorem oneTenant_of_primaryOf (hP : P.Lawful) (h : primaryOf P F config w d1 = some d2) :
    OneTenant P F config w d1 d2 :=
  ⟨d2, Or.inr h, Or.inl ⟨primaryOf_mem hP h, Or.inl rfl⟩⟩

/-- The relation is symmetric for two domains, and has them if they belong to one tenant. -/
def Respected (P : IniParser I) (F : Federation I W) (config : I) (w : W) (d1 d2 : String) :
    Prop :=
  (P.domainsAreAliases F d1 d2 (config, w)).1 = (P.domainsAreAliases F d2 d1 (config, w)).1 ∧
    (OneTenant P F config w d1 d2 → (P.domainsAreAliases F d1 d2 (config, w)).1 = true)

theorem respected_iff (hP : P.Lawful) : Respected P F config w d1 d2 ↔
      ¬ OneTenant P F config w d1 d2 ∨ d1 = d2 ∧ primaryOf P F config w d1 = some d1 := by
  unfold Respected
  rw [Bool.eq_iff_iff, domainsAreAliases_iff hP, domainsAreAliases_iff hP]
  constructor
  · rintro ⟨hsymm, hcomplete⟩
    by_cases hone : OneTenant P F config w d1 d2
    · have h1 := hcomplete hone
      obtain rfl := eq_of_primaryOf_primaryOf hP h1 (hsymm.mp h1)
      exact Or.inr ⟨rfl, h1⟩
    · exact Or.inl hone
  · rintro (hnot | ⟨rfl, hself⟩)
    · refine ⟨iff_of_false ?_ ?_, fun hone => absurd hone hnot⟩
      · exact fun h => hnot (oneTenant_of_primaryOf hP h)
      · exact fun h => hnot (oneTenant_of_primaryOf hP h).symm
    · exact ⟨Iff.rfl, fun _ => hself⟩

/-! ## 4. The principal of a token -/

/-- `token_validate` accepts the principal of a returned token. -/
def Accepts (E : HimmelblauProvider (I × W)) (c : Ctx (I × W)) (accountId spn : String) : Prop :=
  ((E.matchesRequestedUser accountId spn : Fn (I × W) Unit (Except IdpError Bool)) c).1 =
    .ok (.ok true)

def LowersUpns (toLowercase : String → String) : Prop :=
  ∀ a b l1 d1 l2 d2, splitUsername a = some (l1, d1) → splitUsername b = some (l2, d2) →
    (toLowercase a = toLowercase b ↔
      toLowercase l1 = toLowercase l2 ∧ toLowercase d1 = toLowercase d2)

section Principal

variable {E : HimmelblauProvider (I × W)} {c : Ctx (I × W)} {accountId spn l1 d1 l2 d2 : String}

theorem accepts_iff (hP : P.Lawful) (hupn : LowersUpns P.toLowercase)
    (hlower : E.outside.toLowercase = P.toLowercase)
    (haliases : E.outside.domainsAreAliases = P.domainsAreAliases F)
    (hworld : c.provider.world = (config, w)) (h1 : splitUsername accountId = some (l1, d1))
    (h2 : splitUsername spn = some (l2, d2)) :
    Accepts E c accountId spn ↔
      P.toLowercase l1 = P.toLowercase l2 ∧
        (P.toLowercase d1 = P.toLowercase d2 ∨ primaryOf P F config w d1 = some d2) := by
  unfold Accepts HimmelblauProvider.matchesRequestedUser
  rw [hlower]
  by_cases hsame : P.toLowercase accountId = P.toLowercase spn
  · rw [if_pos hsame]
    obtain ⟨hlocal, hdomain⟩ := (hupn _ _ _ _ _ _ h1 h2).mp hsame
    exact iff_of_true rfl ⟨hlocal, Or.inl hdomain⟩
  · have hparts := mt (hupn _ _ _ _ _ _ h1 h2).mpr hsame
    rw [if_neg hsame, h1, h2, haliases]
    change Except.ok (Except.ok (P.toLowercase l1 == P.toLowercase l2 &&
      (P.domainsAreAliases F d1 d2 c.provider.world).1)) = _ ↔ _
    rw [hworld, Except.ok.injEq, Except.ok.injEq, Bool.and_eq_true, beq_iff_eq,
      domainsAreAliases_iff hP]
    refine and_congr_right fun hlocal => (or_iff_right ?_).symm
    exact fun hdomain => hparts ⟨hlocal, hdomain⟩

/-- **Aliases of one tenant, and logins that respect them.**  For two domains the relation is
    symmetric, and holds if they belong to one tenant, exactly if they do not belong to one tenant
    or are the same text, the primary name itself.  The principal of a token is accepted exactly
    when its local part and its tenant are the requested ones, if and only if an alias of the
    requested domain is never met with another spelling than the primary name. -/
theorem tenant_aliases_iff (hP : P.Lawful) (hupn : LowersUpns P.toLowercase)
    (hlower : E.outside.toLowercase = P.toLowercase)
    (haliases : E.outside.domainsAreAliases = P.domainsAreAliases F)
    (hworld : c.provider.world = (config, w)) (h₁ : splitUsername accountId = some (l₁, d₁))
    (h₂ : splitUsername spn = some (l₂, d₂)) :
    (Respected P F config w d₁ d₂ ↔
      ¬ OneTenant P F config w d₁ d₂ ∨ d₁ = d₂ ∧ primaryOf P F config w d₁ = some d₁) ∧
    ((Accepts E c accountId spn ↔
        P.toLowercase l₁ = P.toLowercase l₂ ∧
          (P.toLowercase d₁ = P.toLowercase d₂ ∨ OneTenant P F config w d₁ d₂)) ↔
      (P.toLowercase l₁ = P.toLowercase l₂ → OneTenant P F config w d₁ d₂ →
        P.toLowercase d₁ = P.toLowercase d₂ ∨ primaryOf P F config w d₁ = some d₂)) := by
  refine ⟨respected_iff hP, ?_⟩
  rw [accepts_iff hP hupn hlower haliases hworld h₁ h₂]
  constructor
  · intro hexact hlocal hone
    exact (hexact.mpr ⟨hlocal, Or.inr hone⟩).2
  · intro hspelled
    refine and_congr_right fun hlocal => ⟨?_, ?_⟩
    · rintro (hdomain | hprimary)
      · exact Or.inl hdomain
      · exact Or.inr (oneTenant_of_primaryOf hP hprimary)
    · rintro (hdomain | hone)
      · exact Or.inl hdomain
      · exact hspelled hlocal hone

end Principal

/-! ## 5. A tenant with two aliases -/

theorem two_le_length_splitOn {α : Type} [BEq α] [LawfulBEq α] {x : α} {xs : List α}
    (h : x ∈ xs) : 2 ≤ (xs.splitOn x).length := by
  obtain ⟨as, bs, rfl⟩ := append_of_mem h
  have hfirst := length_pos_iff.mpr (splitOn_ne_nil x as)
  have hsecond := length_pos_iff.mpr (splitOn_ne_nil x bs)
  rw [splitOn_append_cons_self, length_append]
  omega

theorem splitUsername_eq_some {a l : String} (h : splitUsername a = some (l, d)) :
    a.toList = l.toList ++ '@' :: d.toList ∧ '@' ∉ l.toList ∧ '@' ∉ d.toList := by
  unfold splitUsername at h
  split at h
  · next name domain hsplit =>
    cases h
    have htext : a.toList = name ++ '@' :: domain := by
      have hjoin : ['@'].intercalate (a.toList.splitOn '@') = a.toList :=
        intercalate_splitOn '@'
      rw [← hjoin, hsplit]
      simp [intercalate]
    rw [htext, splitOn_append_cons_self] at hsplit
    have hlength := congrArg length hsplit
    rw [length_append] at hlength
    have hfirst := length_pos_iff.mpr (splitOn_ne_nil '@' name)
    have hsecond := length_pos_iff.mpr (splitOn_ne_nil '@' domain)
    rw [String.toList_ofList, String.toList_ofList]
    refine ⟨htext, fun hmem => ?_, fun hmem => ?_⟩
    all_goals
      have htwo := two_le_length_splitOn hmem
      simp only [length_cons, length_nil] at hlength
      omega
  · cases h

theorem eq_at_of_toLower {c : Char} (h : c.toLower = '@') : c = '@' := by
  by_cases hupper : c.val ≥ 'A'.val ∧ c.val ≤ 'Z'.val
  · have hval := congrArg (fun c => c.val.toNat) h
    have hA : 'A'.val.toNat = 65 := rfl
    have hZ : 'Z'.val.toNat = 90 := rfl
    have hat : '@'.val.toNat = 64 := rfl
    have hdiff : ('a'.val - 'A'.val).toNat = 32 := rfl
    simp only [Char.toLower, hupper, and_self, dif_pos, UInt32.toNat_add, hat, hdiff] at hval
    simp only [ge_iff_le, UInt32.le_iff_toNat_le, hA, hZ] at hupper
    omega
  · exact (dif_neg hupper).symm.trans h

theorem asciiLower_lowersUpns : LowersUpns asciiLower := by
  have hat : ∀ l : List Char, '@' ∉ l → '@' ∉ l.map Char.toLower := by
    intro l hl hmem
    obtain ⟨c, hc, hlower⟩ := mem_map.mp hmem
    exact hl (eq_at_of_toLower hlower ▸ hc)
  have hself : Char.toLower '@' = '@' := rfl
  intro a b l1 d1 l2 d2 h1 h2
  obtain ⟨ha, hl1, hd1⟩ := splitUsername_eq_some h1
  obtain ⟨hb, -, -⟩ := splitUsername_eq_some h2
  unfold asciiLower
  rw [String.ofList_inj, String.ofList_inj, String.ofList_inj, ha, hb, map_append,
    map_append, map_cons, map_cons, hself,
    append_cons_inj_of_notMem (hat _ hl1) (hat _ hd1)]
  simp

def aliased : PlainIni := [(("example.com", "domain_aliases"), "example.org, example.net")]

def unreachable : Federation PlainIni Unit where
  urlParses _ := true
  requestFederationProvider _ _ w := (none, w)
  writeServerConfig _ w := w

def sampleProvider : HimmelblauProvider (PlainIni × Unit) where
  domain := "example.com"
  config := sampleConfig 3 false
  outside :=
    { sampleOutside with
      toLowercase := asciiLower
      domainsAreAliases := plainIni.domainsAreAliases unreachable }

def sampleCtx : Ctx (PlainIni × Unit) :=
  ⟨sampleKeystore [], { sampleProviderState .online with world := (aliased, ()) }, .none⟩

/-- A token of the primary domain is accepted for a login with an alias. -/
theorem tenant_aliases_to_primary :
    Respected plainIni unreachable aliased () "example.com" "example.com" ∧
      Accepts sampleProvider sampleCtx "alice@example.org" "alice@example.com" := by
  have hprimary : primaryOf plainIni unreachable aliased () "example.org" = some "example.com" := by
    decide +kernel
  have hself : primaryOf plainIni unreachable aliased () "example.com" = some "example.com" := by
    decide +kernel
  have hcom : splitUsername "alice@example.com" = some ("alice", "example.com") := by
    decide +kernel
  have horg : splitUsername "alice@example.org" = some ("alice", "example.org") := by
    decide +kernel
  constructor
  · have h := tenant_aliases_iff (E := sampleProvider) (c := sampleCtx) plainIni_lawful
      asciiLower_lowersUpns rfl rfl rfl hcom hcom
    exact h.1.mpr (Or.inr ⟨rfl, hself⟩)
  · have h := tenant_aliases_iff (E := sampleProvider) (c := sampleCtx) plainIni_lawful
      asciiLower_lowersUpns rfl rfl rfl horg hcom
    refine (h.2.mpr fun _ _ => Or.inr hprimary).mpr ⟨rfl, Or.inr ?_⟩
    exact oneTenant_of_primaryOf plainIni_lawful hprimary

theorem names_aliased (h : d = "example.com" ∨ d = "example.org" ∨ d = "EXAMPLE.NET") :
    Names plainIni aliased "example.com" d := by
  rcases h with rfl | rfl | rfl
  · exact ⟨by decide +kernel, Or.inl rfl⟩
  · exact ⟨by decide +kernel, Or.inr (by decide +kernel)⟩
  · exact ⟨by decide +kernel, Or.inr (by decide +kernel)⟩

/-- The relation is not symmetric, and not true of two aliases; a token of an alias is refused
    for a login with the primary name. -/
theorem tenant_aliases_not_back :
    let aliases := fun d₁ d₂ => (plainIni.domainsAreAliases unreachable d₁ d₂ (aliased, ())).1
    let one := OneTenant plainIni unreachable aliased ()
    (one "example.com" "example.org" ∧ aliases "example.org" "example.com" = true ∧
        aliases "example.com" "example.org" = false) ∧
      (one "example.org" "EXAMPLE.NET" ∧ aliases "example.org" "EXAMPLE.NET" = false) ∧
      ¬ Accepts sampleProvider sampleCtx "alice@example.com" "alice@example.org" := by
  intro aliases one
  have hone : ∀ d₁ d₂, (d₁ = "example.com" ∨ d₁ = "example.org" ∨ d₁ = "EXAMPLE.NET") →
      (d₂ = "example.com" ∨ d₂ = "example.org" ∨ d₂ = "EXAMPLE.NET") → one d₁ d₂ :=
    fun d₁ d₂ h₁ h₂ => ⟨"example.com", Or.inl (names_aliased h₁), Or.inl (names_aliased h₂)⟩
  refine ⟨⟨hone _ _ (by decide) (by decide), by decide +kernel, by decide +kernel⟩,
    ⟨hone _ _ (by decide) (by decide), by decide +kernel⟩, ?_⟩
  unfold Accepts
  decide +kernel

end Himmelblau.DomainAliases
