/-
  **The provider of all domains** (mirror of `impl IdProvider for HimmelblauMultiProvider`).

  A call that is about an account goes to the provider of the account's domain, or to the one
  OpenID Connect provider if an issuer is configured; an account without a domain has no provider.
  A call about no account goes to every provider.
-/
import Himmelblau.FindProvider
import Himmelblau.OidcStep

namespace Himmelblau.MultiProvider

open Interface Config Entra Oidc ServerConfig FindProvider

variable {I V W β : Type}

/-! ## 1. The providers -/

inductive Providers (W : Type) where
  | oidc (provider : OidcProvider W)
  | himmelblau (provider : HimmelblauProvider W)

namespace Providers

def domain : Providers W → String
  | oidc provider => provider.domain
  | himmelblau provider => provider.domain

def client : Providers W → IdProvider (ProviderState W)
  | oidc provider => oidcProvider provider
  | himmelblau provider => entraProvider provider

end Providers

/-- The configuration with the map of providers, and the mutable parts of each provider, by its
    domain. -/
structure MultiState (I V W : Type) where
  multi : HimmelblauMultiProvider I V (Providers W)
  states : String → ProviderState W

def MultiState.called (m : MultiState I V W) (provider : Providers W) (p : ProviderState W) :
    MultiState I V W :=
  { m with states := Function.update m.states provider.domain p }

/-- What the calls need from outside: the configuration's parser, the federation endpoint, and
    the JSON of the PRTs by domain. -/
structure MultiOutside (I V : Type) where
  parser : IniParser I
  federation : Federation I V
  serializeAll : List (String × String) → Option String
  deserializeAll : String → Option (List (String × String))

namespace MultiOutside

variable (M : MultiOutside I V)

/-! ## 2. Calls about an account -/

def idpGetDomainForAccount (config : I) (accountId : String) : Except IdpError String :=
  if (M.parser.getOidcIssuerUrl config M.federation.urlParses).isSome then .ok "oidc"
  else
    match splitUsername accountId with
    | some (_, domain) => .ok domain
    | none => .error (.notFound "domain" ("account_id: " ++ accountId))

/-- The shape of every method that is about an account; `fail` is what it answers if there is no
    provider. -/
def forAccount (accountId : String) (fail : IdpError → β)
    (call : IdProvider (ProviderState W) → KeyStore → ProviderState W →
      β × KeyStore × ProviderState W)
    (keystore : KeyStore) (m : MultiState I V W) : β × KeyStore × MultiState I V W :=
  match M.idpGetDomainForAccount m.multi.config accountId with
  | .error e => (fail e, keystore, m)
  | .ok domain =>
    match m.multi.findProvider M.parser M.federation domain with
    | (.error e, multi) => (fail e, keystore, { m with multi := multi })
    | (.ok provider, multi) =>
      let r := call provider.client keystore (m.states provider.domain)
      (r.1, r.2.1, MultiState.called { m with multi := multi } provider r.2.2)

/-! ## 3. Calls about no account -/

/-- Online is only who can reach every provider. -/
def checkOnlineAll (now : ℕ) :
    List (String × Providers W) → MultiState I V W → Bool × MultiState I V W
  | [], m => (true, m)
  | (_, provider) :: providers, m =>
    let r := provider.client.checkOnline now (m.states provider.domain)
    if r.1 then checkOnlineAll now providers (m.called provider r.2)
    else (false, m.called provider r.2)

/-- The first provider that is not online decides. -/
def getCachestateAll : List (String × Providers W) → KeyStore → MultiState I V W →
    CacheState × KeyStore × MultiState I V W
  | [], keystore, m => (.online, keystore, m)
  | (_, provider) :: providers, keystore, m =>
    let r := provider.client.getCachestate none keystore (m.states provider.domain)
    match r.1 with
    | .online => getCachestateAll providers r.2.1 (m.called provider r.2.2)
    | state => (state, r.2.1, m.called provider r.2.2)

def offlineBreakGlassAll (ttl : Option ℕ) : List (String × Providers W) → MultiState I V W →
    Except IdpError Unit × MultiState I V W
  | [], m => (.ok (), m)
  | (_, provider) :: providers, m =>
    match provider.client.offlineBreakGlass ttl (m.states provider.domain) with
    | (.ok (), p) => offlineBreakGlassAll ttl providers (m.called provider p)
    | (.error e, p) => (.error e, m.called provider p)

/-- The PRTs of every Entra provider, as JSON by domain. -/
def exportAll : List (String × Providers W) → MultiState I V W →
    Except Unit (List (String × String)) × MultiState I V W
  | [], m => (.ok [], m)
  | (_, .oidc _) :: providers, m => exportAll providers m
  | (domain, .himmelblau provider) :: providers, m =>
    match (entraProvider provider).exportBrokerPrts (m.states provider.domain) with
    | (.error e, p) => (.error e, m.called (.himmelblau provider) p)
    | (.ok data, p) =>
      match exportAll providers (m.called (.himmelblau provider) p) with
      | (.error e, m) => (.error e, m)
      | (.ok all, m) => (.ok ((domain, data) :: all), m)

/-- What does not belong to an Entra provider, or is not read by it, is passed over. -/
def importAll : List (String × String) → MultiState I V W → MultiState I V W
  | [], m => m
  | (domain, blob) :: all, m =>
    match m.multi.providers.lookup domain with
    | some (.himmelblau provider) =>
      importAll all (m.called (.himmelblau provider)
        ((entraProvider provider).importBrokerPrts blob (m.states provider.domain)).2)
    | _ => importAll all m

/-! ## 4. The provider interface -/

def multiProvider : IdProvider (MultiState I V W) where
  checkOnline now m := checkOnlineAll now m.multi.providers m
  unixUserGet id oldToken :=
    M.forAccount (HimmelblauProvider.accountOf id oldToken) .error fun client =>
      client.unixUserGet id oldToken
  unixUserAccess id scopes oldToken clientId redirectUri reqCnf :=
    M.forAccount (HimmelblauProvider.accountOf id oldToken) .error fun client =>
      client.unixUserAccess id scopes oldToken clientId redirectUri reqCnf
  unixUserTgts id oldToken :=
    M.forAccount (HimmelblauProvider.accountOf id oldToken)
      (fun _ => HimmelblauProvider.noTgts) fun client => client.unixUserTgts id oldToken
  unixUserPrtCookie id oldToken ssoNonce :=
    M.forAccount (HimmelblauProvider.accountOf id oldToken) .error fun client =>
      client.unixUserPrtCookie id oldToken ssoNonce
  changeAuthToken accountId token newTok :=
    M.forAccount accountId .error fun client => client.changeAuthToken accountId token newTok
  unixUserOnlineAuthInit accountId token service noHelloPin forceReauth :=
    M.forAccount accountId .error fun client =>
      client.unixUserOnlineAuthInit accountId token service noHelloPin forceReauth
  unixUserOnlineAuthStep accountId oldToken service noHelloPin credHandler req :=
    M.forAccount accountId (fun e => (.error e, credHandler)) fun client =>
      client.unixUserOnlineAuthStep accountId oldToken service noHelloPin credHandler req
  unixUserOfflineAuthInit accountId token noHelloPin :=
    M.forAccount accountId .error fun client =>
      client.unixUserOfflineAuthInit accountId token noHelloPin
  unixUserOfflineAuthStep accountId token credHandler req onlineAtInit :=
    M.forAccount accountId (fun e => (.error e, credHandler)) fun client =>
      client.unixUserOfflineAuthStep accountId token credHandler req onlineAtInit
  unixGroupGet _ m := (.error .badRequest, m)
  getCachestate accountId keystore m :=
    match accountId with
    | some accountId =>
      M.forAccount accountId (fun _ => .offline) (fun client => client.getCachestate accountId)
        keystore m
    | none => getCachestateAll m.multi.providers keystore m
  offlineBreakGlass ttl m := offlineBreakGlassAll ttl m.multi.providers m
  exportBrokerPrts m :=
    match exportAll m.multi.providers m with
    | (.error e, m) => (.error e, m)
    | (.ok all, m) =>
      match M.serializeAll all with
      | some data => (.ok data, m)
      | none => (.error (), m)
  importBrokerPrts data m :=
    match M.deserializeAll data with
    | none => (.error (), m)
    | some all => (.ok (), importAll all m)

end MultiOutside

end Himmelblau.MultiProvider
