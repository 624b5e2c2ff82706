/-
  **Whether initialisation can be tried again** (mirror of the two `delayed_init`).  All providers
  of a daemon share one map of ids.  An attempt adds the provider's domain to the map before the
  steps that can still fail, and the map refuses a tenant that it knows: an attempt that fails
  after that can never be made good.

  An Entra provider discovers its tenant before it adds the domain, so that a network failure
  there does no harm.  The tenant of the OpenID Connect provider is known from its configuration,
  and its first attempt decides.
-/
import Himmelblau.Idmap
import Himmelblau.OidcStep

namespace Himmelblau.ProviderInit

open Interface Msal FunctionBody Entra Entra.Ctx Oidc IdMap

variable {ι V α : Type}

/-! ## 1. The shared map of ids -/

/-- What a provider finds outside: the map of ids, and the rest. -/
structure World (V : Type) where
  idmap : Idmap
  rest : V

def elsewhere (f : Ext V α) : Ext (World V) α := fun w =>
  ((f w.rest).1, { w with rest := (f w.rest).2 })

def addGenDomain (range : UInt32 × UInt32) (domain tenantId : String) : Ext (World V) Bool :=
  fun w =>
    let r := w.idmap.addGenDomain domain tenantId range
    (r.1.isOk, { w with idmap := r.2 })

/-- What `delayed_init` of an Entra provider asks the directory and its client. -/
structure GraphOutside (V : Type) where
  tenantId : Ext V (Option String)
  authorityHost : Ext V (Option String)
  graphUrl : Ext V (Option String)
  setAuthority : (authorityUrl : String) → Ext V Bool
  writeServerConfig : Ext V Bool

namespace GraphOutside

variable (G : GraphOutside V)

/-- The part of the closure that can fail. -/
def discoverTenant (domain : String) (range : UInt32 × UInt32) :
    Ext (World V) (Option String) :=
  Body.run <| do
    match ← Body.call (elsewhere G.tenantId) with
    | none => return none
    | some tenantId =>
      match ← Body.call (elsewhere G.authorityHost) with
      | none => return none
      | some authorityHost =>
        match ← Body.call (elsewhere G.graphUrl) with
        | none => return none
        | some _ =>
          if ← Body.call (addGenDomain range domain tenantId) then
            let authorityUrl := "https://" ++ authorityHost ++ "/" ++ tenantId
            if ← Body.call (elsewhere (G.setAuthority authorityUrl)) then return some tenantId
            else return none
          else return none

/-- What the directory answers, if it answers everything, and what is asked of the client then. -/
def discovered (v : V) : Option (String × String × V) :=
  let tenant := G.tenantId v
  let host := G.authorityHost tenant.2
  let url := G.graphUrl host.2
  match tenant.1, host.1, url.1 with
  | some tenantId, some authorityHost, some _ =>
    some (tenantId, "https://" ++ authorityHost ++ "/" ++ tenantId, url.2)
  | _, _, _ => none

end GraphOutside

/-- A provider of the daemon, with what its initialisation finds outside and its range of ids. -/
inductive Member (V : Type) where
  | entra (P : HimmelblauProvider (World V)) (graph : GraphOutside V) (range : UInt32 × UInt32)
  | oidc (O : OidcProvider (World V)) (discoverMetadata : (clientId issuer : String) → Ext V Bool)
      (range : UInt32 × UInt32)

namespace Member

def domain : Member V → String
  | entra P _ _ => P.domain
  | oidc O _ _ => O.domain

def range : Member V → UInt32 × UInt32
  | entra _ _ range => range
  | oidc _ _ range => range

def delayedInit : Member V → Fn (World V) Bool Bool
  | entra P graph range =>
    HimmelblauProvider.delayedInit
      { P with
        outside.discoverTenant := graph.discoverTenant P.domain range
        outside.writeServerConfig := elsewhere graph.writeServerConfig }
  | oidc O discoverMetadata range =>
    OidcProvider.delayedInit
      { O with
        issuer.addGenDomain := addGenDomain range
        issuer.discoverMetadata := fun clientId issuer =>
          elsewhere (discoverMetadata clientId issuer) }

/-- The tenant that an attempt comes to add to the map. -/
def tenant (v : V) : Member V → Option String
  | entra _ graph _ => (graph.discovered v).map (·.1)
  | oidc O _ _ => O.tenantId.map (·.hyphenated)

def completes (v : V) : Member V → Bool
  | entra _ graph _ =>
    match graph.discovered v with
    | some (_, authorityUrl, v') => (graph.setAuthority authorityUrl v').1
    | none => false
  | oidc O discoverMetadata _ =>
    match O.config.appId, O.oidcConfig.oidcIssuerUrl with
    | some clientId, some issuerUrl => (discoverMetadata clientId issuerUrl v).1
    | _, _ => false

/-- An attempt, as far as the map and the provider's flag go. -/
def attemptOn (M : Member V) (v : V) (m : Idmap) (initialized : Bool) : Bool × Idmap × Bool :=
  if initialized then (true, m, true)
  else
    match M.tenant v with
    | none => (false, m, false)
    | some tenantId =>
      match m.addGenDomain M.domain tenantId M.range with
      | (.ok (), m') => (M.completes v, m', M.completes v)
      | (.error _, m') => (false, m', false)

end Member

/-! ## 2. What an attempt computes -/

theorem GraphOutside.discoverTenant_eq (G : GraphOutside V) (domain : String)
    (range : UInt32 × UInt32) (w : World V) :
    ((G.discoverTenant domain range w).1, (G.discoverTenant domain range w).2.idmap) =
      match G.discovered w.rest with
      | none => (none, w.idmap)
      | some (tenantId, authorityUrl, v') =>
        match w.idmap.addGenDomain domain tenantId range with
        | (.ok (), m') => (if (G.setAuthority authorityUrl v').1 then some tenantId else none, m')
        | (.error _, m') => (none, m') := by
  unfold discoverTenant discovered
  rw [Body.run_call_bind]
  unfold elsewhere
  rcases G.tenantId w.rest with ⟨_ | tenantId, v1⟩
  · rfl
  · dsimp only
    rw [Body.run_call_bind]
    dsimp only
    rcases G.authorityHost v1 with ⟨_ | authorityHost, v2⟩
    · rfl
    · dsimp only
      rw [Body.run_call_bind]
      dsimp only
      rcases G.graphUrl v2 with ⟨_ | url, v3⟩
      · rfl
      · dsimp only
        rw [Body.run_call_bind]
        unfold addGenDomain
        rcases w.idmap.addGenDomain domain tenantId range with ⟨_ | _, m'⟩
        · rfl
        · simp only [Except.isOk, Except.toBool, if_true]
          rw [Body.run_call_bind]
          dsimp only
          rcases G.setAuthority _ v3 with ⟨_ | _, v4⟩ <;> rfl

theorem run_ask_bind {ρ : Type} (f : Ext V α) (k : α → Fn V ρ ρ) (c : Ctx V) :
    (ask f >>= k).run c =
      (k (f c.provider.world).1).run { c with provider.world := (f c.provider.world).2 } :=
  Body.run_call_bind _ k

theorem runPlain_delayedInit (M : Member V) (p : ProviderState (World V)) :
    ((runPlain M.delayedInit p).1, (runPlain M.delayedInit p).2.world.idmap,
        (runPlain M.delayedInit p).2.initialized) =
      M.attemptOn p.world.rest p.world.idmap p.initialized := by
  unfold Member.attemptOn runPlain
  cases M with
  | entra P graph range =>
    unfold Member.delayedInit HimmelblauProvider.delayedInit
    dsimp only
    rw [Body.run_bind (rfl : Body.get _ = _)]
    dsimp only
    cases hinit : p.initialized with
    | true =>
      simp only [if_true]
      exact congrArg _ (congrArg _ hinit)
    | false =>
      have heq := graph.discoverTenant_eq P.domain range p.world
      simp only [Bool.false_eq_true, if_false]
      rw [run_ask_bind]
      dsimp only [Member.tenant, Member.domain, Member.range, Member.completes]
      generalize graph.discoverTenant P.domain range p.world = r at heq ⊢
      obtain ⟨found, w⟩ := r
      generalize graph.discovered p.world.rest = answer at heq ⊢
      rcases answer with _ | ⟨tenantId, authorityUrl, v'⟩
      · obtain ⟨rfl, hidmap⟩ := Prod.mk.inj heq
        change (false, w.idmap, p.initialized) = _
        rw [hidmap, hinit]
        rfl
      · dsimp only [Option.map] at heq ⊢
        generalize p.world.idmap.addGenDomain P.domain tenantId range = added at heq ⊢
        rcases added with ⟨e | ⟨⟩, m'⟩
        · obtain ⟨rfl, hidmap⟩ := Prod.mk.inj heq
          change (false, w.idmap, p.initialized) = _
          rw [hidmap, hinit]
        · cases hset : (graph.setAuthority authorityUrl v').1 with
          | false =>
            rw [hset] at heq
            obtain ⟨rfl, hidmap⟩ := Prod.mk.inj heq
            change (false, w.idmap, p.initialized) = _
            rw [hidmap, hinit]
          | true =>
            rw [hset] at heq
            obtain ⟨rfl, hidmap⟩ := Prod.mk.inj heq
            change (true, w.idmap, true) = _
            rw [hidmap]
  | oidc O discoverMetadata range =>
    unfold Member.delayedInit OidcProvider.delayedInit OidcProvider.clientDelayedInit
    dsimp only
    rw [Body.run_bind (rfl : Body.get _ = _)]
    dsimp only [Member.tenant, Member.domain, Member.range, Member.completes]
    cases hinit : p.initialized with
    | true =>
      simp only [if_true]
      exact congrArg _ (congrArg _ hinit)
    | false =>
      simp only [Bool.false_eq_true, if_false]
      unfold OidcProvider.tenantId
      dsimp only
      rcases O.oidcConfig.oidcIssuerUrl with _ | issuerUrl
      · exact congrArg _ (congrArg _ hinit)
      · dsimp only [Option.map]
        rw [run_ask_bind]
        dsimp only [addGenDomain]
        obtain ⟨added, m', hadd⟩ : ∃ added m', p.world.idmap.addGenDomain O.domain
            (O.issuer.issuerUuid issuerUrl).hyphenated range = (added, m') := ⟨_, _, rfl⟩
        rcases added with e | ⟨⟩
        · simp only [hadd]
          exact congrArg _ (congrArg _ hinit)
        · simp only [hadd]
          simp only [Except.isOk, Except.toBool, if_true]
          rcases O.config.appId with _ | clientId
          · exact congrArg _ (congrArg _ hinit)
          · dsimp only
            rw [run_ask_bind]
            dsimp only [elsewhere]
            obtain ⟨found, v', hfound⟩ : ∃ found v',
                discoverMetadata clientId issuerUrl p.world.rest = (found, v') := ⟨_, _, rfl⟩
            simp only [hfound]
            cases found with
            | false => exact congrArg _ (congrArg _ hinit)
            | true => rfl

namespace Member

variable {M : Member V} {v : V} {m : Idmap} {t : String}

theorem attemptOn_ready : M.attemptOn v m true = (true, m, true) := rfl

theorem attemptOn_undiscovered (h : M.tenant v = none) :
    M.attemptOn v m false = (false, m, false) := by
  simp [attemptOn, h]

theorem attemptOn_known (h : M.tenant v = some t) (hknown : (m.ranges.lookup t).isSome = true) :
    M.attemptOn v m false = (false, m, false) := by
  simp [attemptOn, h, Idmap.addGenDomain_known hknown]

theorem attemptOn_free (h : M.tenant v = some t)
    (hfree : m.Free ⟨M.domain, t, M.range.1, M.range.2⟩) :
    ∃ m', M.attemptOn v m false = (M.completes v, m', M.completes v) ∧
      m'.ranges = (t, M.range) :: m.ranges ∧
      m'.domains = ⟨M.domain, t, M.range.1, M.range.2⟩ :: m.domains := by
  obtain ⟨m', hadd, hranges, hdomains⟩ := Idmap.addGenDomain_of_free hfree
  exact ⟨m', by simp [attemptOn, h, hadd], hranges, hdomains⟩

theorem attemptOn_not_free (h : M.tenant v = some t)
    (hfree : ¬ m.Free ⟨M.domain, t, M.range.1, M.range.2⟩) :
    ∃ m', M.attemptOn v m false = (false, m', false) ∧ m'.domains = m.domains := by
  obtain ⟨e, m', hadd, hdomains, -⟩ := Idmap.addGenDomain_of_not_free hfree
  exact ⟨m', by simp [attemptOn, h, hadd], hdomains⟩

end Member

/-! ## 3. Attempts in turn -/

structure InitState (ι V : Type) where
  idmap : Idmap
  providers : ι → ProviderState (World V)

def InitState.ready (s : InitState ι V) (i : ι) : Bool := (s.providers i).initialized

structure InitState.Started (s : InitState ι V) : Prop where
  idmap : s.idmap = .new
  ready : ∀ i, s.ready i = false

section Runs

variable [DecidableEq ι] (D : ι → Member V) (tenantId : ι → String)

/-- `delayed_init` of one of the providers; `v` is what it finds outside. -/
def attempt (s : InitState ι V) (i : ι) (v : V) : Bool × InitState ι V :=
  let r := runPlain (D i).delayedInit { s.providers i with world := ⟨s.idmap, v⟩ }
  (r.1, ⟨r.2.world.idmap, Function.update s.providers i r.2⟩)

def runAttempts (s : InitState ι V) (attempts : List (ι × V)) : InitState ι V :=
  attempts.foldl (fun s a => (attempt D s a.1 a.2).2) s

theorem attempt_eq (s : InitState ι V) (i : ι) (v : V) :
    ((attempt D s i v).1, (attempt D s i v).2.idmap, (attempt D s i v).2.ready i) =
      (D i).attemptOn v s.idmap (s.ready i) := by
  have heq := runPlain_delayedInit (D i) { s.providers i with world := ⟨s.idmap, v⟩ }
  simpa [attempt, InitState.ready] using heq

theorem attempt_ready_of_ne (s : InitState ι V) {i j : ι} (h : j ≠ i) (v : V) :
    (attempt D s i v).2.ready j = s.ready j := by
  simp [attempt, InitState.ready, h]

def info (i : ι) : DomainInfo := ⟨(D i).domain, tenantId i, (D i).range.1, (D i).range.2⟩

/-- The configuration of each domain by itself is in order: its tenant is always the same, no
    text has a NUL, and its range of ids is one. -/
structure Sound : Prop where
  tenant : ∀ i v t, (D i).tenant v = some t → t = tenantId i
  domain : ∀ i, Idmap.cstringOk (D i).domain = true
  sid : ∀ i, Idmap.cstringOk (tenantId i) = true
  range : ∀ i, (info D tenantId i).Sane

def Apart : Prop :=
  ∀ i j, i ≠ j → checkCollisionEx (info D tenantId i) (info D tenantId j) = false

/-- The network is up: everything an attempt asks for is answered. -/
def Up (i : ι) (v : V) : Prop := (D i).tenant v = some (tenantId i) ∧ (D i).completes v = true

/-- What the first attempt of the provider found that came to add its domain. -/
def firstReaching (attempts : List (ι × V)) (i : ι) : Option V :=
  attempts.findSome? fun a =>
    if a.1 = i ∧ ((D i).tenant a.2).isSome = true then some a.2 else none

/-- `gen_to_unix` maps every name that is a C string and can be normalised. -/
def Maps (toLowercase : String → String) (normalize : String → Option (List UInt8))
    (m : Idmap) (tenantId : String) : Prop :=
  ∀ input, Idmap.cstringOk (toLowercase input) = true →
    (normalize (toLowercase input)).isSome = true →
      ∃ id, m.genToUnix toLowercase normalize tenantId input = .ok id

/-- The map and the flags tell which providers have come to add their domain, and whether their
    first attempt to do so succeeded. -/
structure Progress (attempts : List (ι × V)) (s : InitState ι V) : Prop where
  known : ∀ i, (s.idmap.ranges.lookup (tenantId i)).isSome = (firstReaching D attempts i).isSome
  domains : ∀ d, d ∈ s.idmap.domains ↔
    ∃ i, (firstReaching D attempts i).isSome = true ∧ d = info D tenantId i
  ready : ∀ i, s.ready i = (firstReaching D attempts i).any ((D i).completes ·)

/-! ## 4. Domains that do not clash -/

variable {D tenantId} {attempts : List (ι × V)} {s : InitState ι V} {i : ι} {v : V}

theorem firstReaching_append (attempts : List (ι × V)) (i j : ι) (v : V) :
    firstReaching D (attempts ++ [(i, v)]) j =
      (firstReaching D attempts j).or
        (if i = j ∧ ((D j).tenant v).isSome = true then some v else none) := by
  unfold firstReaching
  rw [List.findSome?_append]
  by_cases h : i = j ∧ ((D j).tenant v).isSome = true
  · simp [h]
  · simp [h]

theorem firstReaching_append_of_ne {j : ι} (h : j ≠ i) :
    firstReaching D (attempts ++ [(i, v)]) j = firstReaching D attempts j := by
  rw [firstReaching_append, if_neg fun h' => h h'.1.symm, Option.or_none]

theorem firstReaching_append_of_isSome (h : (firstReaching D attempts i).isSome = true) (j : ι) :
    firstReaching D (attempts ++ [(i, v)]) j = firstReaching D attempts j := by
  by_cases hij : j = i
  · subst hij
    rw [firstReaching_append, Option.or_of_isSome h]
  · exact firstReaching_append_of_ne hij

theorem Progress.start (hstarted : s.Started) : Progress D tenantId [] s where
  known i := by rw [hstarted.idmap]; rfl
  domains d := by simp [hstarted.idmap, Idmap.new, firstReaching]
  ready i := hstarted.ready i

theorem Progress.free (hsound : Sound D tenantId) (hapart : Apart D tenantId)
    (h : Progress D tenantId attempts s) (hnone : firstReaching D attempts i = none) :
    s.idmap.Free (info D tenantId i) := by
  have hknown := h.known i
  rw [hnone] at hknown
  refine ⟨Option.not_isSome_iff_eq_none.mp ?_, hsound.domain i, hsound.sid i, ?_⟩
  · exact ne_true_of_eq_false hknown
  · intro old hold
    obtain ⟨j, hsome, rfl⟩ := (h.domains old).mp hold
    apply hapart
    rintro rfl
    rw [hnone] at hsome
    cases hsome

variable {s' : InitState ι V}

theorem Progress.same (h : Progress D tenantId attempts s) (hidmap : s'.idmap = s.idmap)
    (hready : ∀ j, s'.ready j = s.ready j)
    (hfirst : ∀ j, firstReaching D (attempts ++ [(i, v)]) j = firstReaching D attempts j) :
    Progress D tenantId (attempts ++ [(i, v)]) s' where
  known j := by rw [hidmap, hfirst, h.known]
  domains d := by simp only [hidmap, hfirst, h.domains]
  ready j := by rw [hready, hfirst, h.ready]

theorem Progress.added (hapart : Apart D tenantId) (h : Progress D tenantId attempts s)
    (hnow : firstReaching D (attempts ++ [(i, v)]) i = some v)
    (hranges : s'.idmap.ranges = (tenantId i, (D i).range) :: s.idmap.ranges)
    (hdomains : s'.idmap.domains = info D tenantId i :: s.idmap.domains)
    (hready : s'.ready i = (D i).completes v) (hothers : ∀ j ≠ i, s'.ready j = s.ready j) :
    Progress D tenantId (attempts ++ [(i, v)]) s' where
  known j := by
    rw [hranges]
    by_cases hj : j = i
    · subst hj
      rw [hnow, List.lookup_cons_self]
      rfl
    · have hne : tenantId j ≠ tenantId i := sid_ne_of_apart (hapart j i hj)
      rw [firstReaching_append_of_ne hj, List.lookup_cons, beq_false_of_ne hne, h.known]
  domains d := by
    rw [hdomains, List.mem_cons, h.domains]
    constructor
    · rintro (rfl | ⟨j, hsome, rfl⟩)
      · exact ⟨i, by rw [hnow]; rfl, rfl⟩
      · refine ⟨j, ?_, rfl⟩
        rw [firstReaching_append]
        cases hj : firstReaching D attempts j with
        | none => rw [hj] at hsome; cases hsome
        | some v0 => rfl
    · rintro ⟨j, hsome, rfl⟩
      by_cases hj : j = i
      · exact .inl (by rw [hj])
      · rw [firstReaching_append_of_ne hj] at hsome
        exact .inr ⟨j, hsome, rfl⟩
  ready j := by
    by_cases hj : j = i
    · subst hj
      rw [hready, hnow]
      rfl
    · rw [hothers j hj, firstReaching_append_of_ne hj, h.ready]

theorem Progress.step (hsound : Sound D tenantId) (hapart : Apart D tenantId)
    (h : Progress D tenantId attempts s) (i : ι) (v : V) :
    Progress D tenantId (attempts ++ [(i, v)]) (attempt D s i v).2 := by
  have heq := attempt_eq D s i v
  have hothers : ∀ j ≠ i, (attempt D s i v).2.ready j = s.ready j := fun j hj =>
    attempt_ready_of_ne D s hj v
  generalize (attempt D s i v).2 = s', (attempt D s i v).1 = ok at heq hothers
  have hsame : (ok, s'.idmap, s'.ready i) = (s.ready i, s.idmap, s.ready i) →
      (∀ j, firstReaching D (attempts ++ [(i, v)]) j = firstReaching D attempts j) →
      Progress D tenantId (attempts ++ [(i, v)]) s' := by
    rintro heq hfirst
    obtain ⟨-, heq⟩ := Prod.mk.inj heq
    obtain ⟨hidmap, hready⟩ := Prod.mk.inj heq
    refine h.same hidmap (fun j => ?_) hfirst
    by_cases hj : j = i
    · rw [hj, hready]
    · exact hothers j hj
  cases hfirst : firstReaching D attempts i with
  | some v0 =>
    have hsome : (firstReaching D attempts i).isSome = true := by rw [hfirst]; rfl
    refine hsame ?_ (firstReaching_append_of_isSome hsome)
    rw [heq]
    cases hready : s.ready i with
    | true => exact Member.attemptOn_ready
    | false =>
      cases htenant : (D i).tenant v with
      | none => exact Member.attemptOn_undiscovered htenant
      | some t =>
        obtain rfl := hsound.tenant i v t htenant
        exact Member.attemptOn_known htenant ((h.known i).trans hsome)
  | none =>
    have hready : s.ready i = false := by rw [h.ready, hfirst]; rfl
    cases htenant : (D i).tenant v with
    | none =>
      refine hsame ?_ fun j => ?_
      · rw [heq, hready]
        exact Member.attemptOn_undiscovered htenant
      · rw [firstReaching_append, if_neg, Option.or_none]
        rintro ⟨rfl, hsome⟩
        rw [htenant] at hsome
        cases hsome
    | some t =>
      obtain rfl := hsound.tenant i v t htenant
      obtain ⟨m', hattempt, hranges, hdomains⟩ :=
        Member.attemptOn_free htenant (h.free hsound hapart hfirst)
      rw [hready, hattempt] at heq
      obtain ⟨-, heq⟩ := Prod.mk.inj heq
      obtain ⟨rfl, hcompletes⟩ := Prod.mk.inj heq
      have hnow : firstReaching D (attempts ++ [(i, v)]) i = some v := by
        rw [firstReaching_append, hfirst, if_pos ⟨rfl, by rw [htenant]; rfl⟩]
        rfl
      exact h.added hapart hnow hranges hdomains hcompletes hothers

theorem Progress.run (hsound : Sound D tenantId) (hapart : Apart D tenantId)
    (hstarted : s.Started) (attempts : List (ι × V)) :
    Progress D tenantId attempts (runAttempts D s attempts) := by
  induction attempts using List.reverseRecOn with
  | nil => exact .start hstarted
  | append_singleton attempts a ih =>
    unfold runAttempts at ih ⊢
    rw [List.foldl_append]
    exact ih.step hsound hapart a.1 a.2

theorem Progress.maps (hsound : Sound D tenantId) (hapart : Apart D tenantId)
    (h : Progress D tenantId attempts s) (hsome : (firstReaching D attempts i).isSome = true)
    (toLowercase : String → String) (normalize : String → Option (List UInt8)) :
    Maps toLowercase normalize s.idmap (tenantId i) := by
  intro input hcstring hinput
  refine Idmap.genToUnix_of_mem (hsound.range i) ((h.domains _).mpr ⟨i, hsome, rfl⟩) ?_
    ((h.known i).trans hsome) (hsound.sid i) hcstring hinput
  intro d hd hsid
  obtain ⟨j, -, rfl⟩ := (h.domains d).mp hd
  by_contra hne
  refine sid_ne_of_apart (hapart j i ?_) hsid
  rintro rfl
  exact hne rfl

theorem retry_iff (hsound : Sound D tenantId) (hapart : Apart D tenantId) (hstarted : s.Started)
    (attempts : List (ι × V)) (hup : Up D tenantId i v) (toLowercase : String → String)
    (normalize : String → Option (List UInt8)) :
    ((attempt D (runAttempts D s attempts) i v).1 = true ∧
        Maps toLowercase normalize (attempt D (runAttempts D s attempts) i v).2.idmap
          (tenantId i)) ↔
      ∀ v0, firstReaching D attempts i = some v0 → (D i).completes v0 = true := by
  have hprogress := Progress.run hsound hapart hstarted attempts
  have hreached : (firstReaching D (attempts ++ [(i, v)]) i).isSome = true := by
    rw [firstReaching_append, if_pos ⟨rfl, by rw [hup.1]; rfl⟩]
    cases firstReaching D attempts i <;> rfl
  have hmaps := (hprogress.step hsound hapart i v).maps hsound hapart hreached toLowercase normalize
  have hready := hprogress.ready i
  have hresult : (attempt D (runAttempts D s attempts) i v).1 =
      ((D i).attemptOn v (runAttempts D s attempts).idmap ((runAttempts D s attempts).ready i)).1 :=
    congrArg Prod.fst (attempt_eq D (runAttempts D s attempts) i v)
  rw [hresult, hready, and_iff_left hmaps]
  cases hfirst : firstReaching D attempts i with
  | none =>
    obtain ⟨m', hattempt, -⟩ :=
      Member.attemptOn_free hup.1 (hprogress.free hsound hapart hfirst)
    refine iff_of_true ?_ nofun
    exact (congrArg Prod.fst hattempt).trans hup.2
  | some v0 =>
    have hknown : ((runAttempts D s attempts).idmap.ranges.lookup (tenantId i)).isSome = true :=
      (hprogress.known i).trans (by rw [hfirst]; rfl)
    change ((D i).attemptOn v _ ((D i).completes v0)).1 = true ↔ _
    cases hcompletes : (D i).completes v0 with
    | true =>
      refine iff_of_true rfl ?_
      rintro _ ⟨⟩
      exact hcompletes
    | false =>
      refine iff_of_false ?_ ?_
      · rw [Member.attemptOn_known hup.1 hknown]
        exact Bool.false_ne_true
      · intro h
        cases hcompletes.symm.trans (h v0 rfl)

/-! ## 5. All domains of a daemon -/

variable (D tenantId) in
/-- The C library has the domains of `added`, the latest first, and every initialised provider is
    among them. -/
structure Added (s : InitState ι V) (added : List ι) : Prop where
  domains : s.idmap.domains = added.map (info D tenantId)
  apart : added.Pairwise fun new old =>
    checkCollisionEx (info D tenantId old) (info D tenantId new) = false
  ready : ∀ i, s.ready i = true → i ∈ added

variable {added : List ι}

omit [DecidableEq ι] in
theorem Added.same (h : Added D tenantId s added) (hdomains : s'.idmap.domains = s.idmap.domains)
    (hready : ∀ j, s'.ready j = true → s.ready j = true) : Added D tenantId s' added :=
  ⟨hdomains.trans h.domains, h.apart, fun j hj => h.ready j (hready j hj)⟩

theorem Added.step (hsound : Sound D tenantId) (h : Added D tenantId s added) (i : ι) (v : V) :
    ∃ added', Added D tenantId (attempt D s i v).2 added' := by
  have heq := attempt_eq D s i v
  have hothers : ∀ j ≠ i, (attempt D s i v).2.ready j = s.ready j := fun j hj =>
    attempt_ready_of_ne D s hj v
  generalize (attempt D s i v).2 = s', (attempt D s i v).1 = ok at heq hothers ⊢
  have hsame : s'.idmap.domains = s.idmap.domains →
      (s'.ready i = true → s.ready i = true) → ∃ added', Added D tenantId s' added' := by
    intro hdomains hready
    refine ⟨added, h.same hdomains fun j hj => ?_⟩
    by_cases hji : j = i
    · subst hji
      exact hready hj
    · rwa [hothers j hji] at hj
  cases hready : s.ready i with
  | true =>
    rw [hready, Member.attemptOn_ready] at heq
    obtain ⟨-, heq⟩ := Prod.mk.inj heq
    exact hsame (congrArg Idmap.domains (Prod.mk.inj heq).1) fun _ => hready
  | false =>
    rw [hready] at heq
    cases htenant : (D i).tenant v with
    | none =>
      rw [Member.attemptOn_undiscovered htenant] at heq
      obtain ⟨-, heq⟩ := Prod.mk.inj heq
      obtain ⟨hidmap, hnot⟩ := Prod.mk.inj heq
      exact hsame (congrArg Idmap.domains hidmap) fun hi => by cases hnot.symm.trans hi
    | some t =>
      obtain rfl := hsound.tenant i v t htenant
      by_cases hfree : s.idmap.Free (info D tenantId i)
      · obtain ⟨m', hattempt, -, hdomains⟩ := Member.attemptOn_free htenant hfree
        rw [hattempt] at heq
        obtain ⟨-, heq⟩ := Prod.mk.inj heq
        obtain ⟨rfl, -⟩ := Prod.mk.inj heq
        refine ⟨i :: added, ?_, ?_, ?_⟩
        · rw [hdomains, h.domains]
          rfl
        · refine List.pairwise_cons.mpr ⟨fun j hj => ?_, h.apart⟩
          apply hfree.apart
          rw [h.domains]
          exact List.mem_map_of_mem hj
        · intro j hj
          by_cases hji : j = i
          · exact List.mem_cons.mpr (.inl hji)
          · rw [hothers j hji] at hj
            exact List.mem_cons_of_mem i (h.ready j hj)
      · obtain ⟨m', hattempt, hdomains⟩ := Member.attemptOn_not_free htenant hfree
        rw [hattempt] at heq
        obtain ⟨-, heq⟩ := Prod.mk.inj heq
        obtain ⟨rfl, hnot⟩ := Prod.mk.inj heq
        exact hsame hdomains fun hi => by cases hnot.symm.trans hi

theorem Added.run (hsound : Sound D tenantId) (hstarted : s.Started) (attempts : List (ι × V)) :
    ∃ added, Added D tenantId (runAttempts D s attempts) added := by
  induction attempts using List.reverseRecOn with
  | nil =>
    refine ⟨[], ?_, .nil, fun i hi => ?_⟩
    · change s.idmap.domains = []
      rw [hstarted.idmap]
      rfl
    · cases (hstarted.ready i).symm.trans hi
  | append_singleton attempts a ih =>
    obtain ⟨added, h⟩ := ih
    unfold runAttempts at h ⊢
    rw [List.foldl_append]
    exact h.step hsound a.1 a.2

theorem attempt_ready_of_ready {j : ι} (h : s.ready j = true) (i : ι) (v : V) :
    (attempt D s i v).2.ready j = true := by
  by_cases hji : j = i
  · subst hji
    have heq := attempt_eq D s j v
    rw [h, Member.attemptOn_ready] at heq
    exact congrArg (·.2.2) heq
  · rw [attempt_ready_of_ne D s hji, h]

theorem runAttempts_ready_of_ready {j : ι} (h : s.ready j = true) (attempts : List (ι × V)) :
    (runAttempts D s attempts).ready j = true := by
  induction attempts generalizing s with
  | nil => exact h
  | cons a attempts ih => exact ih (attempt_ready_of_ready h a.1 a.2)

/-- One attempt of each, in an order in which no domain clashes with an earlier one. -/
theorem all_ready_of_order {up : ι → V} (hup : ∀ i, Up D tenantId i (up i)) {order : List ι}
    (hapart : order.Pairwise fun old new =>
      checkCollisionEx (info D tenantId old) (info D tenantId new) = false)
    (hfree : ∀ i ∈ order, s.idmap.Free (info D tenantId i)) (hmem : i ∈ order) :
    (runAttempts D s (order.map fun j => (j, up j))).ready i = true := by
  induction order generalizing s with
  | nil => cases hmem
  | cons j order ih =>
    obtain ⟨hhead, htail⟩ := List.pairwise_cons.mp hapart
    change (runAttempts D (attempt D s j (up j)).2 _).ready i = true
    have heq := attempt_eq D s j (up j)
    cases hready : s.ready j with
    | true =>
      rw [hready, Member.attemptOn_ready] at heq
      obtain ⟨-, heq⟩ := Prod.mk.inj heq
      obtain ⟨hidmap, hj⟩ := Prod.mk.inj heq
      rcases List.mem_cons.mp hmem with rfl | hmem
      · exact runAttempts_ready_of_ready hj _
      · refine ih htail (fun k hk => ?_) hmem
        rw [hidmap]
        exact hfree k (List.mem_cons_of_mem j hk)
    | false =>
      obtain ⟨m', hattempt, hranges, hdomains⟩ :=
        Member.attemptOn_free (hup j).1 (hfree j List.mem_cons_self)
      rw [hready, hattempt] at heq
      obtain ⟨-, heq⟩ := Prod.mk.inj heq
      obtain ⟨hidmap, hj⟩ := Prod.mk.inj heq
      rcases List.mem_cons.mp hmem with rfl | hmem
      · exact runAttempts_ready_of_ready (hj.trans (hup i).2) _
      · refine ih htail (fun k hk => ?_) hmem
        obtain ⟨hunknown, hname, hsid, hclash⟩ := hfree k (List.mem_cons_of_mem j hk)
        have hne : (info D tenantId k).sid ≠ tenantId j := (sid_ne_of_apart (hhead k hk)).symm
        rw [hidmap]
        refine ⟨?_, hname, hsid, ?_⟩
        · rw [hranges, List.lookup_cons, beq_false_of_ne hne]
          exact hunknown
        · rw [hdomains]
          rintro old (_ | ⟨_, hold⟩)
          · exact hhead k hk
          · exact hclash old hold

theorem all_ready_iff (hsound : Sound D tenantId) (hstarted : s.Started)
    (hup : ∀ i, ∃ v, Up D tenantId i v) :
    (∃ attempts, ∀ i, (runAttempts D s attempts).ready i = true) ↔
      ∃ order : List ι, (∀ i, i ∈ order) ∧ order.Pairwise fun old new =>
        checkCollisionEx (info D tenantId old) (info D tenantId new) = false := by
  constructor
  · rintro ⟨attempts, hready⟩
    obtain ⟨added, h⟩ := Added.run hsound hstarted attempts
    refine ⟨added.reverse, fun i => ?_, List.pairwise_reverse.mpr h.apart⟩
    exact List.mem_reverse.mpr (h.ready i (hready i))
  · rintro ⟨order, hall, hapart⟩
    choose up hup using hup
    refine ⟨order.map fun j => (j, up j), fun i => ?_⟩
    refine all_ready_of_order hup hapart (fun j _ => ?_) (hall i)
    rw [hstarted.idmap]
    exact ⟨rfl, hsound.domain j, hsound.sid j, nofun⟩

/-- **Initialisation can be tried again**, and all domains can be initialised, under these
    conditions.  Of domains that do not clash, one is initialised by an attempt with the network
    up exactly if its first attempt that came to add the domain to the map, if there was one,
    went through; names can be mapped then.  And all domains of a daemon can be initialised
    exactly if they can be put in an order in which none clashes with an earlier one. -/
theorem init_retryable_iff (hsound : Sound D tenantId) (hstarted : s.Started)
    (hup : ∀ i, ∃ v, Up D tenantId i v) (toLowercase : String → String)
    (normalize : String → Option (List UInt8)) :
    (Apart D tenantId → ∀ attempts i v, Up D tenantId i v →
      (((attempt D (runAttempts D s attempts) i v).1 = true ∧
          Maps toLowercase normalize (attempt D (runAttempts D s attempts) i v).2.idmap
            (tenantId i)) ↔
        ∀ v₀, firstReaching D attempts i = some v₀ → (D i).completes v₀ = true)) ∧
      ((∃ attempts, ∀ i, (runAttempts D s attempts).ready i = true) ↔
        ∃ order : List ι, (∀ i, i ∈ order) ∧ order.Pairwise fun old new =>
          checkCollisionEx (info D tenantId old) (info D tenantId new) = false) :=
  ⟨fun hapart attempts _ _ hup =>
      retry_iff hsound hapart hstarted attempts hup toLowercase normalize,
    all_ready_iff hsound hstarted hup⟩

end Runs

/-! ## 6. Two daemons -/

def sampleGraph (tenantId : String) : GraphOutside (Option Bool) where
  tenantId v := (if v.isSome then some tenantId else none, v)
  authorityHost v := (some "login.microsoftonline.com", v)
  graphUrl v := (some "https://graph.microsoft.com", v)
  setAuthority _ v := (v.getD false, v)
  writeServerConfig v := (true, v)

def sampleDomains (tenantId : Bool → String) (i : Bool) : Member (Option Bool) :=
  let P : HimmelblauProvider (World (Option Bool)) :=
    { domain := if i then "example.org" else "example.com", config := sampleConfig 3 false,
      outside := sampleOutside }
  .entra P (sampleGraph (tenantId i)) (if i then (1000000, 1999999) else (200000, 999999))

def sampleIssuerDomain (_ : Unit) : Member (Option Bool) :=
  .oidc sampleOidcProvider (fun _ _ v => (v.isSome, v)) (200000, 2000200000)

def sampleStart {ι V : Type} (v : V) : InitState ι V where
  idmap := .new
  providers _ :=
    { state := .online, initialized := false, tenantId := none, deviceId := none,
      intuneDeviceId := none, refreshCache := fun _ => none, refreshTokenCache := fun _ => none,
      badPinCounter := fun _ => 0, world := ⟨.new, v⟩, trace := [] }

def twoTenants (i : Bool) : String := if i then "tenant of example.org" else "tenant of example.com"

theorem sampleDomains_tenant {i : Bool} {v : Option Bool} {t : String}
    (h : (sampleDomains twoTenants i).tenant v = some t) : t = twoTenants i := by
  cases v with
  | none => cases h
  | some b =>
    cases h
    rfl

/-- The directory cannot be reached twice; the third attempt succeeds, and maps names. -/
theorem init_retryable_example_com :
    let D := sampleDomains twoTenants
    let attempts : List (Bool × Option Bool) := [(false, none), (true, some true), (false, none)]
    (attempt D (runAttempts D (sampleStart none) attempts) false (some true)).1 = true ∧
      Maps id (fun text => some text.toUTF8.toList)
        (attempt D (runAttempts D (sampleStart none) attempts) false (some true)).2.idmap
        "tenant of example.com" := by
  intro D attempts
  have hsound : Sound D twoTenants := by
    refine ⟨fun i v t h => sampleDomains_tenant h, ?_, ?_, ?_⟩
    · decide +kernel
    · decide +kernel
    · intro i
      cases i <;> exact ⟨by decide +kernel, by decide +kernel⟩
  have hapart : Apart D twoTenants := by
    unfold Apart
    decide +kernel
  have hup : ∀ i, Up D twoTenants i (some true) := fun i => ⟨rfl, rfl⟩
  have hstarted : (sampleStart none : InitState Bool (Option Bool)).Started := ⟨rfl, fun _ => rfl⟩
  refine ((init_retryable_iff hsound hstarted (fun i => ⟨_, hup i⟩) id _).1 hapart attempts false
    (some true) (hup false)).mpr ?_
  have hnone : firstReaching D attempts false = none := by decide +kernel
  rw [hnone]
  exact nofun

/-- The OpenID Connect provider is never initialised once its first attempt found no network; an
    Entra provider is not, once `set_authority` failed; and of two domains of one tenant only one
    is. -/
theorem init_not_retryable :
    let O := sampleIssuerDomain
    let D := sampleDomains fun _ => "tenant"
    (attempt O (sampleStart none) () (some true)).1 = true ∧
      (attempt O (runAttempts O (sampleStart none) [((), none)]) () (some true)).1 = false ∧
      (attempt D (sampleStart none) false (some true)).1 = true ∧
      (attempt D (runAttempts D (sampleStart none) [(false, some false)]) false (some true)).1 =
        false ∧
      (attempt D (sampleStart none) true (some true)).1 = true ∧
      (attempt D (runAttempts D (sampleStart none) [(false, some true)]) true (some true)).1 =
        false := by
  decide +kernel

end Himmelblau.ProviderInit
