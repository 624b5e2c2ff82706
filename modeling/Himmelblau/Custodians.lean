/-
  **Providers in custody of credentials.**  The contract of a provider, as the resolver sees it:
  calls about an account hand out only what came of the credentials that are held under its name,
  and hold nothing else there.  Both providers keep it, and so does the provider of all domains,
  which moreover makes up no account for a uid.
-/
import Himmelblau.Custody
import Himmelblau.MultiProvider

namespace Himmelblau.Custody

open Interface Config Msal FunctionBody Entra Entra.Ctx Oidc ServerConfig FindProvider MultiProvider

variable {W β : Type} {S : Credential → Prop} {key : String}

/-! ## 1. The contract of a provider -/

section Contract

variable {Q : Type}

/-- A provider in custody of what is held under the key: as long as its state is `Ok`, a call about
    the account keeps it so, and what the call hands out is in `S`. -/
structure Custodian (client : IdProvider Q) (lower : String → String) (S : Credential → Prop)
    (key : String) (Ok : Q → Prop) : Prop where
  checkOnline : ∀ {now p}, Ok p → Ok (client.checkOnline now p).2
  getCachestate : ∀ {accountId keystore p}, Ok p →
    Ok (client.getCachestate accountId keystore p).2.2
  unixUserGet : ∀ {id t keystore p}, Asks id t → Named lower key t → Ok p →
    Updates lower key (client.unixUserGet id (some t) keystore p).1 ∧
      Ok (client.unixUserGet id (some t) keystore p).2.2
  unixUserAccess : ∀ {id scopes t clientId redirectUri reqCnf keystore p token},
    Named lower key t → Ok p →
    (client.unixUserAccess id scopes (some t) clientId redirectUri reqCnf keystore p).1 =
      .ok token → S (.token token)
  unixUserPrtCookie : ∀ {id t ssoNonce keystore p content}, Named lower key t → Ok p →
    (client.unixUserPrtCookie id (some t) ssoNonce keystore p).1 = .ok content →
      S (.cookie content)

variable {lower : String → String}

theorem entra_custodian {P : HimmelblauProvider W} (hP : NamesTokens P lower)
    (hlower : ∀ x, lower (lower x) = lower x) (hS : Closed (EntraExchange P) S) :
    Custodian (entraProvider P) lower S key (Held S key) where
  checkOnline hp :=
    (Guards.run (E := fun _ => True) (.calm (HimmelblauProvider.checkOnline_calm _ _)) hp).2
  getCachestate hp := hp
  unixUserGet _ ht hp := (unixUserGet_guards hS hP hlower ht).run hp
  unixUserAccess ht hp :=
    (Guards.run (E := Hands S .token) (unixUserAccess_guards hS hP ht _ _ _) hp).1 _
  unixUserPrtCookie ht hp :=
    (Guards.run (E := Hands S .cookie) (unixUserPrtCookie_guards hS hP ht _) hp).1 _

theorem oidc_custodian {O : OidcProvider W} (hO : O.outside.toLowercase = lower)
    (hS : Closed (OidcExchange O) S) :
    Custodian (oidcProvider O) lower S key (Held S key) where
  checkOnline hp :=
    (Guards.run (E := fun _ => True) (.calm (OidcProvider.checkOnline_calm _ _)) hp).2
  getCachestate hp := hp
  unixUserGet hid ht hp := (oidcUnixUserGet_guards ht hid).run hp
  unixUserAccess ht hp :=
    (Guards.run (E := Hands S .token) (oidcUnixUserAccess_guards hS hO ht) hp).1 _
  unixUserPrtCookie _ _ := nofun

end Contract

/-! ## 2. The provider of all domains -/

section Multi

variable {I V : Type}

def ProviderExchange : Providers W → Exchange
  | .oidc provider => OidcExchange provider
  | .himmelblau provider => EntraExchange provider

def MultiExchange (providers : List (String × Providers W)) : Exchange := fun e c =>
  ∃ entry ∈ providers, ProviderExchange entry.2 e c

def MultiHolds (m : MultiState I V W) (key : String) (e : RefreshCacheEntry) : Prop :=
  ∃ entry ∈ m.multi.providers, Holds (m.states entry.2.domain) key e

def ProviderNames (lower : String → String) : Providers W → Prop
  | .oidc provider => provider.outside.toLowercase = lower
  | .himmelblau provider => NamesTokens provider lower

/-- The daemon as `HimmelblauMultiProvider::new` makes it: if an issuer is configured, then there
    is no provider but the one for it. -/
structure Installed (M : MultiOutside I V) (lower : String → String) (m : MultiState I V W) :
    Prop where
  parser : M.parser.Lawful
  lower_lower : ∀ text, lower (lower text) = lower text
  names : ∀ entry ∈ m.multi.providers, ProviderNames lower entry.2
  issuer : (M.parser.getOidcIssuerUrl m.multi.config M.federation.urlParses).isSome = true →
    ∀ entry ∈ m.multi.providers, ∃ provider, entry.2 = .oidc provider

/-- The same daemon later; all that is held under the key is in `S`. -/
structure Guarded (M : MultiOutside I V) (S : Credential → Prop) (key : String)
    (m0 m : MultiState I V W) : Prop where
  providers : m.multi.providers = m0.multi.providers
  issuer : M.parser.getOidcIssuerUrl m.multi.config M.federation.urlParses =
    M.parser.getOidcIssuerUrl m0.multi.config M.federation.urlParses
  held : ∀ entry ∈ m0.multi.providers, Held S key (m.states entry.2.domain)

variable {M : MultiOutside I V} {lower : String → String} {m0 m : MultiState I V W}

theorem Guarded.called (hm : Guarded M S key m0 m) (provider : Providers W) {p : ProviderState W}
    (hp : Held S key p) : Guarded M S key m0 (m.called provider p) where
  providers := hm.providers
  issuer := hm.issuer
  held entry hentry := by
    by_cases hdomain : entry.2.domain = provider.domain
    · unfold MultiState.called
      dsimp only
      rw [hdomain, Function.update_self]
      exact hp
    · unfold MultiState.called
      dsimp only
      rw [Function.update_of_ne hdomain]
      exact hm.held entry hentry

theorem Guarded.found (hM : M.parser.Lawful) (hm : Guarded M S key m0 m) {domain : String}
    {res : Except IdpError (Providers W)} {multi : HimmelblauMultiProvider I V (Providers W)}
    (h : m.multi.findProvider M.parser M.federation domain = (res, multi)) :
    Guarded M S key m0 { m with multi := multi } ∧
      ∀ provider, res = .ok provider → ∃ entry ∈ m0.multi.providers, entry.2 = provider := by
  have hstep := findProvider_step (F := M.federation) hM m.multi domain
  have hissuer := findProvider_issuer (F := M.federation) hM m.multi domain
  rw [h] at hstep hissuer
  refine ⟨⟨hstep.providers.trans hm.providers, hissuer.trans hm.issuer, hm.held⟩, ?_⟩
  rintro provider rfl
  obtain ⟨name, hlookup, -⟩ := findProvider_ok (F := M.federation) hM (congrArg Prod.fst h)
  obtain ⟨before, after, hproviders, -⟩ := List.lookup_eq_some_iff.mp hlookup
  refine ⟨(name, provider), ?_, rfl⟩
  rw [← hm.providers, hproviders]
  exact List.mem_append_right _ List.mem_cons_self

section ForAccount

variable {accountId : String} {fail : IdpError → β} {keystore : KeyStore}
  {call : IdProvider (ProviderState W) → KeyStore → ProviderState W →
    β × KeyStore × ProviderState W}

theorem Guarded.forAccount (hM : M.parser.Lawful) (hm : Guarded M S key m0 m)
    (hcall : ∀ entry ∈ m0.multi.providers, ∀ p, Held S key p →
      Held S key (call entry.2.client keystore p).2.2) :
    Guarded M S key m0 (M.forAccount accountId fail call keystore m).2.2 := by
  unfold MultiOutside.forAccount
  split
  · exact hm
  · split
    · next hfind => exact (hm.found hM hfind).1
    · next provider multi hfind =>
      obtain ⟨hfound, hprovider⟩ := hm.found hM hfind
      obtain ⟨entry, hentry, rfl⟩ := hprovider provider rfl
      exact hfound.called _ (hcall entry hentry _ (hm.held entry hentry))

theorem Guarded.answer {A : β → Prop} (hM : M.parser.Lawful) (hm : Guarded M S key m0 m)
    (hfail : ∀ e, A (fail e))
    (hcall : ∀ entry ∈ m0.multi.providers, ∀ p, Held S key p →
      A (call entry.2.client keystore p).1) :
    A (M.forAccount accountId fail call keystore m).1 := by
  unfold MultiOutside.forAccount
  split
  · exact hfail _
  · split
    · exact hfail _
    · next provider multi hfind =>
      obtain ⟨entry, hentry, rfl⟩ := (hm.found hM hfind).2 provider rfl
      exact hcall entry hentry _ (hm.held entry hentry)

end ForAccount

variable {providers : List (String × Providers W)}

theorem Guarded.checkOnlineAll
    (hm0 : ∀ entry ∈ m0.multi.providers, Custodian entry.2.client lower S key (Held S key))
    {now : ℕ} (hsub : providers ⊆ m0.multi.providers) (hm : Guarded M S key m0 m) :
    Guarded M S key m0 (MultiOutside.checkOnlineAll now providers m).2 := by
  induction providers generalizing m with
  | nil => exact hm
  | cons entry providers ih =>
    obtain ⟨hentry, hrest⟩ := List.cons_subset.mp hsub
    have hcalled : Guarded M S key m0 (m.called entry.2
        (entry.2.client.checkOnline now (m.states entry.2.domain)).2) :=
      hm.called entry.2 ((hm0 entry hentry).checkOnline (hm.held entry hentry))
    unfold MultiOutside.checkOnlineAll
    dsimp only
    split
    · exact ih hrest hcalled
    · exact hcalled

theorem Guarded.getCachestateAll
    (hm0 : ∀ entry ∈ m0.multi.providers, Custodian entry.2.client lower S key (Held S key))
    {keystore : KeyStore} (hsub : providers ⊆ m0.multi.providers) (hm : Guarded M S key m0 m) :
    Guarded M S key m0 (MultiOutside.getCachestateAll providers keystore m).2.2 := by
  induction providers generalizing m keystore with
  | nil => exact hm
  | cons entry providers ih =>
    obtain ⟨hentry, hrest⟩ := List.cons_subset.mp hsub
    have hcalled : Guarded M S key m0 (m.called entry.2
        (entry.2.client.getCachestate none keystore (m.states entry.2.domain)).2.2) :=
      hm.called entry.2 ((hm0 entry hentry).getCachestate (hm.held entry hentry))
    unfold MultiOutside.getCachestateAll
    dsimp only
    split
    · exact ih hrest hcalled
    · exact hcalled

theorem Installed.custodians (h0 : Installed M lower m0)
    (hS : Closed (MultiExchange m0.multi.providers) S) :
    ∀ entry ∈ m0.multi.providers, Custodian entry.2.client lower S key (Held S key) := by
  rintro ⟨name, provider⟩ hentry
  have hclosed : Closed (ProviderExchange provider) S :=
    ⟨fun he hx => hS.exchanged he ⟨_, hentry, hx⟩, hS.kept⟩
  have hnames := h0.names _ hentry
  cases provider with
  | oidc provider => exact oidc_custodian hnames hclosed
  | himmelblau provider => exact entra_custodian hnames h0.lower_lower hclosed

/-- **The providers of a daemon are in custody of its credentials.** -/
theorem multi_custodian (h0 : Installed M lower m0)
    (hS : Closed (MultiExchange m0.multi.providers) S) :
    Custodian (MultiOutside.multiProvider (W := W) M) lower S key (Guarded M S key m0) where
  checkOnline hm := hm.checkOnlineAll (h0.custodians hS) (hm.providers ▸ List.Subset.refl _)
  getCachestate {accountId keystore m} hm := by
    cases accountId with
    | none =>
      exact hm.getCachestateAll (h0.custodians hS) (hm.providers ▸ List.Subset.refl _)
    | some accountId =>
      exact hm.forAccount h0.parser fun entry hentry p hp =>
        (h0.custodians hS entry hentry).getCachestate hp
  unixUserGet hid ht hm :=
    ⟨hm.answer h0.parser Updates.error fun entry hentry p hp =>
        ((h0.custodians hS entry hentry).unixUserGet hid ht hp).1,
      hm.forAccount h0.parser fun entry hentry p hp =>
        ((h0.custodians hS entry hentry).unixUserGet hid ht hp).2⟩
  unixUserAccess ht hm :=
    hm.answer (A := Hands S .token) h0.parser Hands.error (fun entry hentry p hp _ =>
      (h0.custodians hS entry hentry).unixUserAccess ht hp) _
  unixUserPrtCookie ht hm :=
    hm.answer (A := Hands S .cookie) h0.parser Hands.error (fun entry hentry p hp _ =>
      (h0.custodians hS entry hentry).unixUserPrtCookie ht hp) _

theorem oidcUnixUserGet_uid (O : OidcProvider W) (uid : UInt32) (n : UserToken) :
    Guards S key (fun r => r ≠ .ok (.update n)) (fun r => r ≠ .ok (.update n))
      (O.unixUserGet (.gid uid) none) := by
  refine .bind (.calm (OidcProvider.delayedInit_calm _)) fun ready _ => ?_
  split
  · exact .pure nofun
  · exact .bind (.calm (HimmelblauProvider.netDown_calm _)) fun _ _ => .pure nofun

theorem splitUsername_toString (n : ℕ) : splitUsername (toString n) = none := by
  apply NameMapping.splitUsername_eq_none
  have hdigits : '@' ∉ (toString n).toList := by
    change '@' ∉ (Nat.repr n).toList
    rw [Nat.repr_eq_ofList_toDigits, String.toList_ofList]
    intro hmem
    exact absurd (Nat.isDigit_of_mem_toDigits (by decide) (by decide) hmem) (by decide)
  simpa [NameMapping.looksLikeUpn] using hdigits

theorem multi_unixUserGet_uid (h0 : Installed M lower m0) (hm : Guarded M S key m0 m)
    (uid : UInt32) (keystore : KeyStore) (n : UserToken) :
    ((MultiOutside.multiProvider M).unixUserGet (.gid uid) none keystore m).1 ≠
      .ok (.update n) := by
  by_cases hissuer :
      (M.parser.getOidcIssuerUrl m.multi.config M.federation.urlParses).isSome = true
  · refine hm.answer (A := fun r : HimmelblauProvider.GetAnswer => r ≠ .ok (.update n)) h0.parser
      (fun _ => by simp) ?_
    intro entry hentry p hp
    obtain ⟨provider, hprovider⟩ := h0.issuer (hm.issuer ▸ hissuer) entry hentry
    rw [hprovider]
    exact ((oidcUnixUserGet_uid provider uid n).run hp).1
  · -- a number is no name with a domain
    have hdomain : M.idpGetDomainForAccount m.multi.config
        (HimmelblauProvider.accountOf (.gid uid) none) =
          .error (.notFound "domain" ("account_id: " ++ toString uid.toNat)) := by
      unfold MultiOutside.idpGetDomainForAccount
      rw [if_neg hissuer]
      simp only [HimmelblauProvider.accountOf, splitUsername_toString]
    change (M.forAccount _ _ _ keystore m).1 ≠ _
    unfold MultiOutside.forAccount
    rw [hdomain]
    simp

end Multi

end Himmelblau.Custody
