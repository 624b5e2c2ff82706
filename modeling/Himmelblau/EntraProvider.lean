/-
  **The Entra provider as the resolver's client** (mirror of `impl IdProvider for
  HimmelblauProvider`): the methods that are no part of a login, and the record of all
  methods that the resolver calls.

  `HimmelblauMultiProvider` passes every call for an account on to the provider of the
  account's domain; `entraProvider` is that provider.
-/
import Himmelblau.EntraStep

namespace Himmelblau.Entra

open Interface Config Msal FunctionBody Ctx

variable {W ρ α : Type}

namespace HimmelblauProvider

variable (P : HimmelblauProvider W) (accountId : String) (oldToken : Option UserToken)

def accountOf (id : Id) : Option UserToken → String
  | some token => token.spn
  | none =>
    match id with
    | .name name => name
    | .gid gid => toString gid.toNat

/-! ## 1. `unix_user_get` -/

abbrev GetAnswer := Except IdpError UserTokenState

def getNetDownCheck (res : Except MsalError α) (onErr : Fn W GetAnswer α) : Fn W GetAnswer α :=
  match res with
  | .ok a => return a
  | .error (.requestFailed _) => do
    P.netDown
    Body.leave (.ok .useCached)
  | .error _ => onErr

/-- A user token for an account that exists but never logged in; its uuid is made up, since
    only an authenticated token has it. -/
def placeholder : Fn W GetAnswer α := do
  match ← ask (P.outside.placeholderIds accountId) with
  | .error e => Body.leave (.error e)
  | .ok (uid, gid) =>
    let fakeUuid ← ask P.outside.newUuid
    match ← ask P.outside.graphTenantId with
    | none => Body.leave (.error .badRequest)
    | some tenantId =>
      Body.leave (.ok (.update
        { name := accountId, spn := accountId, uuid := fakeUuid, realGidnumber := some gid,
          gidnumber := uid, displayname := "", shell := some P.config.shell,
          groups := [{ name := accountId, spn := accountId, uuid := fakeUuid, gidnumber := uid }],
          tenantId := some tenantId, valid := true }))

def fakeUser : Fn W GetAnswer α := do
  match oldToken with
  | some token => Body.leave (.ok (.update token))
  | none =>
    let authInit ← P.getNetDownCheck (← ask (P.outside.checkUserExists accountId []))
      (Body.leave (.error .badRequest))
    if authInit.userExists then P.placeholder accountId else Body.leave (.ok .notFound)

def retryOrFake
    (request : Ext W (Except MsalError UnixUserToken)) : Fn W GetAnswer UnixUserToken := do
  match ← ask request with
  | .ok token => return token
  | .error _ => P.fakeUser accountId oldToken

def getByPrt (prt : SealedData) : Fn W GetAnswer UnixUserToken := do
  let (clientId, scopes) := P.clientIdAndScopes
  match ← ask (P.outside.exchangePrtForAccessToken prt scopes clientId none none) with
  | .ok token => return token
  | .error (.requestFailed _) =>
    P.getNetDownCheck (← ask (P.outside.exchangePrtForAccessToken prt scopes clientId none none))
      (P.fakeUser accountId oldToken)
  | .error (.acquireTokenFailed errResp) =>
    if errResp.errorCodes.contains consentRequired then
      P.retryOrFake accountId oldToken
        (P.outside.exchangePrtForAccessToken prt [] none none none)
    else if clientId = some edgeBrowserClientId then
      P.retryOrFake accountId oldToken
        (P.outside.exchangePrtForAccessToken prt scopes (some defaultAppId) none none)
    else P.fakeUser accountId oldToken
  | .error (.aadstsError _) =>
    if clientId = some edgeBrowserClientId then
      P.retryOrFake accountId oldToken
        (P.outside.exchangePrtForAccessToken prt scopes (some defaultAppId) none none)
    else P.fakeUser accountId oldToken
  | .error _ => P.fakeUser accountId oldToken

def getByRefreshToken (refreshToken : String) : Fn W GetAnswer UnixUserToken := do
  match ← ask P.outside.publicClientNew with
  | none => Body.leave (.error .badRequest)
  | some () =>
    match ← ask (P.outside.publicClientAcquireTokenByRefreshToken refreshToken []) with
    | .ok token => return token
    | .error (.requestFailed _) =>
      P.getNetDownCheck (← ask (P.outside.publicClientAcquireTokenByRefreshToken refreshToken []))
        (P.fakeUser accountId oldToken)
    | .error _ => P.fakeUser accountId oldToken

/-- Set the GECOS from the old token, since MS doesn't provide this during a silent
    acquire. -/
def keepDisplayname (token : UserToken) : UserToken :=
  match oldToken with
  | some old => { token with displayname := old.displayname }
  | none => token

def finishGet (token : UnixUserToken) : Fn W GetAnswer GetAnswer := do
  match ← P.tokenValidate accountId token oldToken with
  | .ok (.success token) => return .ok (.update (keepDisplayname oldToken token))
  | _ => P.fakeUser accountId oldToken

def getOnline : Fn W GetAnswer GetAnswer := do
  match ← ask (P.outside.confidentialUser accountId oldToken) with
  | .error e => return .error e
  | .ok (some token) => return .ok (.update (keepDisplayname oldToken token))
  | .ok none =>
    if ← ask P.outside.staticIdCacheOpens then
      match ← P.refreshToken accountId with
      | .error _ => P.fakeUser accountId oldToken
      | .ok (.prt prt) =>
        let token ← P.getByPrt accountId oldToken prt
        P.finishGet accountId oldToken token
      | .ok (.refreshToken refreshToken) =>
        let token ← P.getByRefreshToken accountId oldToken refreshToken
        P.finishGet accountId oldToken token
    else return .error .badRequest

def unixUserGet (id : Id) (oldToken : Option UserToken) : Fn W GetAnswer GetAnswer := do
  if ← P.delayedInit then
    let now ← ask P.outside.now
    if ← P.checkOnline now then P.getOnline (accountOf id oldToken) oldToken
    else return .ok .useCached
  else
    P.netDown
    return .ok .useCached

/-! ## 2. Tokens for clients -/

/-- Opportunistic renewal of a PRT older than four hours; a failure is not fatal. -/
def renewOldPrt : Fn W ρ Unit := do
  let now ← ask P.outside.now
  match (← Body.get).provider.refreshCache (P.outside.toLowercase accountId) with
  | none => return ()
  | some (_, iat) =>
    if iat + 4 * 3600 ≤ now then
      match ← P.refreshToken accountId with
      | .ok (.prt oldPrt) =>
        match ← ask (P.outside.exchangePrtForPrt oldPrt) with
        | .ok newPrt => P.refreshCacheAdd accountId (.prt newPrt)
        | .error _ => return ()
      | _ => return ()
    else return ()

def orBadRequest (request : Ext W (Except MsalError UnixUserToken)) :
    Fn W ρ (Except IdpError UnixUserToken) := do
  match ← ask request with
  | .ok token => return .ok token
  | .error _ => return .error .badRequest

/-- The default scope of the SSO extension is not valid for consumer tenants. -/
def consumerScopes (p : ProviderState W) (scopes : List String) : List String :=
  if isConsumerTenant p then scopes.filter (· != "https://graph.microsoft.com/.default")
  else scopes

def accessByEntry (scopes : List String) (clientId redirectUri reqCnf : Option String) :
    RefreshCacheEntry → Fn W ρ (Except IdpError UnixUserToken)
  | .prt prt =>
    orBadRequest (P.outside.exchangePrtForAccessToken prt scopes clientId redirectUri reqCnf)
  | .refreshToken refreshToken => do
    match ← ask P.outside.publicClientNew with
    | none => return .error .badRequest
    | some () =>
      let scopes := consumerScopes (← Body.get).provider scopes
      orBadRequest (P.outside.publicClientAcquireTokenByRefreshToken refreshToken scopes)

def unixUserAccess (id : Id) (scopes : List String) (oldToken : Option UserToken)
    (clientId redirectUri reqCnf : Option String) : Fn W ρ (Except IdpError UnixUserToken) := do
  P.renewOldPrt (accountOf id oldToken)
  if ← P.delayedInit then
    let now ← ask P.outside.now
    if ← P.checkOnline now then
      match ← P.refreshToken (accountOf id oldToken) with
      | .error e => return .error e
      | .ok entry => P.accessByEntry scopes clientId redirectUri reqCnf entry
    else return .error .badRequest
  else return .error .badRequest

def noTgts : UserTgts := ⟨none, none, none, none⟩

/-- The tenant of the token, or the configured one, or the graph's. -/
def tgtsTenant : Fn W ρ (Option String) := do
  match oldToken with
  | some token => return token.tenantId.map Uuid.hyphenated
  | none =>
    match (← Body.get).provider.tenantId with
    | some tenantId => return some tenantId
    | none => return (← ask P.outside.graphTenantId).map Uuid.hyphenated

def unixUserTgts (id : Id) (oldToken : Option UserToken) : Fn W ρ UserTgts := do
  if ← P.delayedInit then
    let now ← ask P.outside.now
    if ← P.checkOnline now then
      match ← P.refreshToken (accountOf id oldToken) with
      | .ok (.prt prt) =>
        let (cloudCcache, adCcache, topLevelNames) ← ask (P.outside.fetchTgts prt)
        let tenantId ← P.tgtsTenant oldToken
        return ⟨cloudCcache, adCcache, topLevelNames, tenantId⟩
      -- We need a PRT to fetch Kerberos CCaches
      | _ => return noTgts
    else return noTgts
  else return noTgts

def unixUserPrtCookie (id : Id) (oldToken : Option UserToken) (ssoNonce : Option String) :
    Fn W ρ (Except IdpError String) := do
  if ← P.delayedInit then
    match ← P.refreshToken (accountOf id oldToken) with
    | .ok (.prt prt) =>
      match ← ask (P.outside.acquirePrtSsoCookieWithNonce prt ssoNonce) with
      | some cookie => return .ok cookie
      | none => return .error .badRequest
    | _ => return .error (.notFound "account_id" "refresh_cache")
  else return .error .badRequest

/-! ## 3. Break glass, and the PRTs that outlive the daemon -/

def offlineBreakGlass (ttl : Option ℕ) : Fn W ρ (Except IdpError Unit) := do
  if P.config.offlineBreakglassEnabled then
    let now ← ask P.outside.now
    setState (.offlineNextCheck (now + ttl.getD P.config.offlineBreakglassTtl))
    return .ok ()
  else return .ok ()

def exportBrokerPrts : Fn W ρ (Except Unit String) := do
  match P.outside.serializePrts (← Body.get).provider.refreshCache with
  | some data => return .ok data
  | none => return .error ()

def importBrokerPrts (data : String) : Fn W ρ (Except Unit Unit) := do
  match P.outside.deserializePrts data with
  | none => return .error ()
  | some entries =>
    Body.modify fun c => { c with
      provider.refreshCache := entries.foldl (fun cache e =>
        Function.update cache (P.outside.toLowercase e.1) (some e.2)) c.provider.refreshCache }
    return .ok ()

end HimmelblauProvider

/-! ## 4. The provider interface -/

def runFn (f : Fn W ρ ρ) (keystore : KeyStore) (p : ProviderState W) :
    ρ × KeyStore × ProviderState W :=
  let r := f.run ⟨keystore, p, .none⟩
  (r.1, r.2.keystore, r.2.provider)

def runStep (f : Fn W ρ ρ) (credHandler : AuthCredHandler) (keystore : KeyStore)
    (p : ProviderState W) : (ρ × AuthCredHandler) × KeyStore × ProviderState W :=
  let r := f.run ⟨keystore, p, credHandler⟩
  ((r.1, r.2.credHandler), r.2.keystore, r.2.provider)

def runPlain (f : Fn W ρ ρ) (p : ProviderState W) : ρ × ProviderState W :=
  let r := f.run ⟨fun _ => none, p, .none⟩
  (r.1, r.2.provider)

def entraProvider (P : HimmelblauProvider W) : IdProvider (ProviderState W) where
  checkOnline now := runPlain (P.checkOnline now)
  unixUserGet id oldToken := runFn (P.unixUserGet id oldToken)
  unixUserAccess id scopes oldToken clientId redirectUri reqCnf :=
    runFn (P.unixUserAccess id scopes oldToken clientId redirectUri reqCnf)
  unixUserTgts id oldToken := runFn (P.unixUserTgts id oldToken)
  unixUserPrtCookie id oldToken ssoNonce := runFn (P.unixUserPrtCookie id oldToken ssoNonce)
  changeAuthToken accountId token newTok := runFn (P.changeAuthToken accountId token newTok)
  unixUserOnlineAuthInit accountId _ service noHelloPin forceReauth :=
    runFn (P.unixUserOnlineAuthInit accountId service noHelloPin forceReauth)
  unixUserOnlineAuthStep accountId oldToken service noHelloPin credHandler req :=
    runStep (P.unixUserOnlineAuthStep accountId oldToken service noHelloPin req) credHandler
  unixUserOfflineAuthInit accountId _ noHelloPin :=
    runFn (P.himmelblauOfflineAuthInit accountId noHelloPin true)
  unixUserOfflineAuthStep accountId token credHandler req _ :=
    runStep (P.himmelblauOfflineAuthStep accountId token req) credHandler
  -- AAD doesn't permit group listing (must use cache entries from auth)
  unixGroupGet _ p := (.error .badRequest, p)
  getCachestate _ keystore p := (p.state, keystore, p)
  offlineBreakGlass ttl := runPlain (P.offlineBreakGlass ttl)
  exportBrokerPrts := runPlain P.exportBrokerPrts
  importBrokerPrts data := runPlain (P.importBrokerPrts data)

end Himmelblau.Entra
