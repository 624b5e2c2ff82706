/-
  **What becomes of a credential in the refresh cache.**

  A provider holds the PRT and the refresh token of an account under the account's name in lower
  case.  The identity provider exchanges them for tokens, cookies and new PRTs, and what comes with
  a token is held in their place.  A call about an account uses and replaces only what is held
  under that account's name: this is shown here for both providers, function by function.
-/
import Himmelblau.ProviderIdle

namespace Himmelblau.Custody

open Interface Config Msal FunctionBody Entra Entra.Ctx Oidc HimmelblauProvider

variable {W ρ α β : Type}

/-! ## 1. Credentials -/

inductive Credential where
  | entry (entry : RefreshCacheEntry)
  | token (token : UnixUserToken)
  | cookie (content : String)

/-- What `token_validate` keeps of a token: its PRT, or else its refresh token. -/
def keptEntry (token : UnixUserToken) : RefreshCacheEntry :=
  match token.prt with
  | some prt => .prt prt
  | none => .refreshToken token.refreshToken

abbrev Exchange := RefreshCacheEntry → Credential → Prop

inductive Issued (X : Exchange) (e : RefreshCacheEntry) : Credential → Prop
  | held : Issued X e (.entry e)
  | exchanged {e' : RefreshCacheEntry} {c : Credential} (h : Issued X e (.entry e'))
      (hx : X e' c) : Issued X e c
  | kept {token : UnixUserToken} (h : Issued X e (.token token)) :
      Issued X e (.entry (keptEntry token))

structure Closed (X : Exchange) (S : Credential → Prop) : Prop where
  exchanged : ∀ {e c}, S (.entry e) → X e c → S c
  kept : ∀ {token}, S (.token token) → S (.entry (keptEntry token))

theorem Closed.issued {X : Exchange} {S : Credential → Prop} (hS : Closed X S)
    {e : RefreshCacheEntry} (he : S (.entry e)) {c : Credential} (h : Issued X e c) : S c := by
  induction h with
  | held => exact he
  | exchanged _ hx ih => exact hS.exchanged ih hx
  | kept _ ih => exact hS.kept ih

def IssuedFrom (X : Exchange) (H : RefreshCacheEntry → Prop) (c : Credential) : Prop :=
  ∃ e, H e ∧ Issued X e c

theorem issuedFrom_closed (X : Exchange) (H : RefreshCacheEntry → Prop) :
    Closed X (IssuedFrom X H) where
  exchanged := fun ⟨e, he, h⟩ hx => ⟨e, he, h.exchanged hx⟩
  kept := fun ⟨e, he, h⟩ => ⟨e, he, h.kept⟩

def Holds (p : ProviderState W) (key : String) : RefreshCacheEntry → Prop
  | .prt prt => ∃ iat, p.refreshCache key = some (prt, iat)
  | .refreshToken token => ∃ iat, p.refreshTokenCache key = some (token, iat)

def Held (S : Credential → Prop) (key : String) (p : ProviderState W) : Prop :=
  ∀ e, Holds p key e → S (.entry e)

variable {S : Credential → Prop} {key : String}

theorem Held.same {p p' : ProviderState W} (h : Held S key p)
    (hprt : p'.refreshCache = p.refreshCache)
    (htoken : p'.refreshTokenCache = p.refreshTokenCache) : Held S key p' := by
  intro e he
  apply h
  cases e with
  | prt prt =>
    unfold Holds at he ⊢
    rwa [hprt] at he
  | refreshToken token =>
    unfold Holds at he ⊢
    rwa [htoken] at he

/-! ## 2. Functions that keep to the set -/

/-- As long as all that is held under the key is in `S` it stays so, and the function goes on with
    a value in `Q` or leaves with an answer in `E`. -/
def Guards (S : Credential → Prop) (key : String) (Q : α → Prop) (E : ρ → Prop) (p : Fn W ρ α) :
    Prop :=
  ∀ c, Held S key c.provider →
    p.Ensures c (fun a c' => Q a ∧ Held S key c'.provider) fun r c' => E r ∧ Held S key c'.provider

namespace Guards

variable {Q Q' : α → Prop} {E : ρ → Prop}

theorem pure {a : α} (h : Q a) : Guards S key Q E (pure a : Fn W ρ α) := fun _ hc => ⟨h, hc⟩

theorem leave {r : ρ} (h : E r) : Guards S key Q E (Body.leave r : Fn W ρ α) := fun _ hc => ⟨h, hc⟩

theorem bind {p : Fn W ρ α} {f : α → Fn W ρ β} {Q : β → Prop} (hp : Guards S key Q' E p)
    (hf : ∀ a, Q' a → Guards S key Q E (f a)) : Guards S key Q E (p >>= f) := fun c hc =>
  (hp c hc).bind fun a c' h => hf a h.1 c' h.2

theorem get : Guards S key (fun c => Held S key c.provider) E (Body.get : Fn W ρ (Ctx W)) :=
  fun _ hc => ⟨hc, hc⟩

theorem modify {u : Ctx W → Ctx W} (h : ∀ c, Held S key c.provider → Held S key (u c).provider) :
    Guards S key (fun _ => True) E (Body.modify u : Fn W ρ Unit) := fun c hc => ⟨trivial, h c hc⟩

theorem ask {f : Ext W α} (h : ∀ w, Q (f w).1) : Guards S key Q E (ask f : Fn W ρ α) :=
  fun _ hc => ⟨h _, hc.same rfl rfl⟩

theorem call (f : Ext W α) : Guards S key (fun _ => True) E (Ctx.ask f : Fn W ρ α) :=
  .ask fun _ => trivial

theorem log (e : Event) : Guards S key (fun _ => True) E (log e : Fn W ρ Unit) :=
  .modify fun _ hc => hc.same rfl rfl

theorem run {f : Fn W ρ ρ} (h : Guards S key E E f) {c : Ctx W} (hc : Held S key c.provider) :
    E (f.run c).1 ∧ Held S key (f.run c).2.provider :=
  Body.Ensures.run (X := fun r (c' : Ctx W) => E r ∧ Held S key c'.provider) (h c hc)

end Guards

def Hands {ε : Type} (S : Credential → Prop) (as : β → Credential) (r : Except ε β) : Prop :=
  ∀ x, r = .ok x → S (as x)

theorem Hands.ok {ε : Type} {as : β → Credential} {x : β} (h : S (as x)) :
    Hands S as (.ok x : Except ε β) := by
  rintro _ ⟨⟩
  exact h

theorem Hands.error {ε : Type} {as : β → Credential} (e : ε) :
    Hands S as (.error e : Except ε β) := nofun

abbrev Keeps (S : Credential → Prop) (key : String) (E : ρ → Prop) (p : Fn W ρ α) : Prop :=
  Guards S key (fun _ => True) E p

variable {E : ρ → Prop}

theorem Guards.calm {p : Fn W ρ α} (h : Body.Stays Calm p) : Keeps S key E p :=
  fun c hc => (h c).mono (fun _ _ h' => ⟨trivial, hc.same h'.refreshCache h'.refreshTokenCache⟩)
    fun _ _ h' => h'.elim

/-! ## 3. The Entra provider -/

section Entra

variable (P : HimmelblauProvider W)

/-- The exchanges of the broker client and of the public client. -/
inductive EntraExchange : Exchange
  | accessToken {prt : SealedData} {scopes : List String}
      {clientId redirectUri reqCnf : Option String} {w : W} {token : UnixUserToken}
      (h : (P.outside.exchangePrtForAccessToken prt scopes clientId redirectUri reqCnf w).1 =
        .ok token) : EntraExchange (.prt prt) (.token token)
  | prt {prt newPrt : SealedData} {w : W} (h : (P.outside.exchangePrtForPrt prt w).1 = .ok newPrt) :
      EntraExchange (.prt prt) (.entry (.prt newPrt))
  | refreshToken {refreshToken : String} {scopes : List String} {w : W} {token : UnixUserToken}
      (h : (P.outside.publicClientAcquireTokenByRefreshToken refreshToken scopes w).1 = .ok token) :
      EntraExchange (.refreshToken refreshToken) (.token token)
  | cookie {prt : SealedData} {nonce : Option String} {w : W} {content : String}
      (h : (P.outside.acquirePrtSsoCookieWithNonce prt nonce w).1 = some content) :
      EntraExchange (.prt prt) (.cookie content)

/-- Letter case is folded by `lower`, and the user tokens that are built for an account have its
    name in lower case (`user_token_from_unix_user_token`). -/
structure NamesTokens (lower : String → String) : Prop where
  lower_eq : P.outside.toLowercase = lower
  user : ∀ {a token oldToken w t},
    (P.outside.userTokenFromUnixUserToken a token oldToken w).1 = .ok t →
      t.name = lower a ∧ t.spn = lower a
  confidential : ∀ {a oldToken w t}, (P.outside.confidentialUser a oldToken w).1 = .ok (some t) →
    t.name = lower a ∧ t.spn = lower a

variable {P} {E : ρ → Prop}

theorem purge_keeps : Keeps S key E (P.purge : Fn W ρ Unit) := by
  refine .bind (.call _) fun now _ => .modify fun c hc => ?_
  intro e he
  apply hc
  cases e with
  | prt prt =>
    obtain ⟨iat, h⟩ := he
    exact ⟨iat, (Option.filter_eq_some_iff.mp h).1⟩
  | refreshToken token =>
    obtain ⟨iat, h⟩ := he
    exact ⟨iat, (Option.filter_eq_some_iff.mp h).1⟩

theorem refreshToken_guards {a : String} (ha : P.outside.toLowercase a = key) :
    Guards S key (Hands S .entry) E (P.refreshToken a : Fn W ρ _) := by
  refine .bind purge_keeps fun _ _ => .bind .get fun c hc => ?_
  rw [ha]
  split
  · next prt iat hprt => exact .pure (.ok (hc (.prt prt) ⟨iat, hprt⟩))
  · split
    · next token iat htoken => exact .pure (.ok (hc (.refreshToken token) ⟨iat, htoken⟩))
    · exact .pure (.error _)

theorem refreshCacheAdd_keeps (a : String) {entry : RefreshCacheEntry} (h : S (.entry entry)) :
    Keeps S key E (P.refreshCacheAdd a entry : Fn W ρ Unit) := by
  refine .bind (.call _) fun now _ => ?_
  cases entry with
  | prt prt =>
    refine .modify fun c hc e he => ?_
    cases e with
    | prt prt' =>
      obtain ⟨iat, he⟩ := he
      dsimp only at he
      by_cases hkey : key = P.outside.toLowercase a
      · rw [hkey, Function.update_self] at he
        cases he
        exact h
      · rw [Function.update_of_ne hkey] at he
        exact hc (.prt prt') ⟨iat, he⟩
    | refreshToken token => exact hc (.refreshToken token) he
  | refreshToken token =>
    refine .modify fun c hc e he => ?_
    cases e with
    | prt prt => exact hc (.prt prt) he
    | refreshToken token' =>
      obtain ⟨iat, he⟩ := he
      dsimp only at he
      by_cases hkey : key = P.outside.toLowercase a
      · rw [hkey, Function.update_self] at he
        cases he
        exact h
      · rw [Function.update_of_ne hkey] at he
        exact hc (.refreshToken token') ⟨iat, he⟩

def Named (lower : String → String) (key : String) (t : UserToken) : Prop :=
  t.name = t.spn ∧ lower t.spn = key

/-- Only a token of that account replaces the cached one. -/
def Updates (lower : String → String) (key : String) (r : GetAnswer) : Prop :=
  ∀ n, r = .ok (.update n) → Named lower key n

variable {lower : String → String} {a : String} {t : UserToken}

theorem Updates.useCached : Updates lower key (.ok .useCached) := nofun

theorem Updates.error (e : IdpError) : Updates lower key (.error e) := nofun

theorem Updates.update (h : Named lower key t) : Updates lower key (.ok (.update t)) := by
  rintro _ ⟨⟩
  exact h

theorem Named.keepDisplayname (h : Named lower key t) (oldToken : Option UserToken) :
    Named lower key (keepDisplayname oldToken t) := by
  cases oldToken with
  | none => exact h
  | some old => exact h

section Get

variable {Q : α → Prop}

theorem fakeUser_guards (ht : Named lower key t) :
    Guards S key Q (Updates lower key) (P.fakeUser a (some t) : Fn W _ α) :=
  .leave (.update ht)

theorem getNetDownCheck_guards {res : Except MsalError α}
    {onErr : Fn W GetAnswer α} (hok : ∀ x, res = .ok x → Q x)
    (herr : Guards S key Q (Updates lower key) onErr) :
    Guards S key Q (Updates lower key) (P.getNetDownCheck res onErr) := by
  unfold getNetDownCheck
  split
  · exact .pure (hok _ rfl)
  · exact .bind (.calm (netDown_calm _)) fun _ _ => .leave .useCached
  · exact herr

variable {request : Ext W (Except MsalError UnixUserToken)}

theorem Guards.exchange (h : ∀ w token, (request w).1 = .ok token → S (.token token)) :
    Guards S key (Hands S .token) E (Ctx.ask request : Fn W ρ _) :=
  .ask fun w token => h w token

theorem retryOrFake_guards (ht : Named lower key t)
    (h : ∀ w token, (request w).1 = .ok token → S (.token token)) :
    Guards S key (fun token => S (.token token)) (Updates lower key)
      (P.retryOrFake a (some t) request) := by
  refine .bind (.exchange h) fun r hr => ?_
  split
  · exact .pure (hr _ rfl)
  · exact fakeUser_guards ht

variable (hS : Closed (EntraExchange P) S)

include hS

theorem getByPrt_guards (ht : Named lower key t) {prt : SealedData} (hprt : S (.entry (.prt prt))) :
    Guards S key (fun token => S (.token token)) (Updates lower key)
      (P.getByPrt a (some t) prt) := by
  have hx : ∀ scopes clientId redirectUri reqCnf w token,
      (P.outside.exchangePrtForAccessToken prt scopes clientId redirectUri reqCnf w).1 =
        .ok token → S (.token token) :=
    fun _ _ _ _ _ _ h => hS.exchanged hprt (.accessToken h)
  unfold getByPrt
  split
  next clientId scopes _ =>
  refine .bind (.exchange (hx _ _ _ _)) fun r hr => ?_
  split
  · exact .pure (hr _ rfl)
  · exact .bind (.exchange (hx _ _ _ _)) fun r hr =>
      getNetDownCheck_guards hr (fakeUser_guards ht)
  · split
    · exact retryOrFake_guards ht (hx _ _ _ _)
    · split
      · exact retryOrFake_guards ht (hx _ _ _ _)
      · exact fakeUser_guards ht
  · split
    · exact retryOrFake_guards ht (hx _ _ _ _)
    · exact fakeUser_guards ht
  · exact fakeUser_guards ht

theorem getByRefreshToken_guards (ht : Named lower key t) {refreshToken : String}
    (htoken : S (.entry (.refreshToken refreshToken))) :
    Guards S key (fun token => S (.token token)) (Updates lower key)
      (P.getByRefreshToken a (some t) refreshToken) := by
  have hx : ∀ scopes w token,
      (P.outside.publicClientAcquireTokenByRefreshToken refreshToken scopes w).1 = .ok token →
        S (.token token) :=
    fun _ _ _ h => hS.exchanged htoken (.refreshToken h)
  refine .bind (.call _) fun client _ => ?_
  split
  · exact .leave (.error _)
  · refine .bind (.exchange (hx _)) fun r hr => ?_
    split
    · exact .pure (hr _ rfl)
    · exact .bind (.exchange (hx _)) fun r hr =>
        getNetDownCheck_guards hr (fakeUser_guards ht)
    · exact fakeUser_guards ht

theorem tokenValidate_guards (hP : NamesTokens P lower) (hlower : ∀ x, lower (lower x) = lower x)
    (hkey : lower a = key) {token : UnixUserToken} (htoken : S (.token token))
    (oldToken : Option UserToken) :
    Guards S key (fun r => ∀ n, r = .ok (.success n) → Named lower key n) E
      (P.tokenValidate a token oldToken : Fn W ρ _) := by
  unfold tokenValidate
  split
  · exact .pure nofun
  · exact .pure nofun
  · refine .bind (.calm (matchesRequestedUser_calm _ _)) fun r _ => ?_
    split
    · exact .pure nofun
    · exact .pure nofun
    · refine .bind (refreshCacheAdd_keeps a (hS.kept htoken)) fun _ _ => ?_
      have hask : Guards S key (fun r => ∀ n, r = .ok n → n.name = lower a ∧ n.spn = lower a) E
          (Ctx.ask (P.outside.userTokenFromUnixUserToken a token oldToken) : Fn W ρ _) :=
        .ask fun _ _ => hP.user
      refine .bind hask fun r hr => ?_
      split
      · exact .pure nofun
      · next n =>
        refine .bind (.log _) fun _ _ => .pure ?_
        rintro _ ⟨⟩
        obtain ⟨hname, hspn⟩ := hr n rfl
        exact ⟨hname.trans hspn.symm, by rw [hspn, hlower, hkey]⟩

section Methods

variable (hP : NamesTokens P lower) (hlower : ∀ x, lower (lower x) = lower x)
  (ht : Named lower key t)

include hP hlower ht

theorem finishGet_guards {token : UnixUserToken} (htoken : S (.token token)) :
    Guards S key (Updates lower key) (Updates lower key)
      (P.finishGet t.spn (some t) token) := by
  refine .bind (tokenValidate_guards hS hP hlower ht.2 htoken _) fun r hr => ?_
  split
  · next n => exact .pure (.update ((hr n rfl).keepDisplayname _))
  · exact fakeUser_guards ht

theorem getOnline_guards :
    Guards S key (Updates lower key) (Updates lower key) (P.getOnline t.spn (some t)) := by
  have hask : Guards S key
      (fun r => ∀ n, r = .ok (some n) → n.name = lower t.spn ∧ n.spn = lower t.spn)
      (Updates lower key) (Ctx.ask (P.outside.confidentialUser t.spn (some t)) : Fn W _ _) :=
    .ask fun _ _ => hP.confidential
  refine .bind hask fun r hr => ?_
  split
  · exact .pure (.error _)
  · next n =>
    obtain ⟨hname, hspn⟩ := hr n rfl
    have hn : Named lower key n := ⟨hname.trans hspn.symm, by rw [hspn, hlower, ht.2]⟩
    exact .pure (.update (hn.keepDisplayname _))
  · refine .bind (.call _) fun opens _ => ?_
    split
    · refine .bind (refreshToken_guards (by rw [hP.lower_eq, ht.2])) fun entry hentry => ?_
      split
      · exact fakeUser_guards ht
      · next prt =>
        refine .bind (getByPrt_guards hS ht (hentry _ rfl)) fun token htoken => ?_
        exact finishGet_guards hS hP hlower ht htoken
      · next refreshToken =>
        refine .bind (getByRefreshToken_guards hS ht (hentry _ rfl)) fun token htoken => ?_
        exact finishGet_guards hS hP hlower ht htoken
    · exact .pure (.error _)

variable {id : Id} {scopes : List String}

theorem unixUserGet_guards :
    Guards S key (Updates lower key) (Updates lower key) (P.unixUserGet id (some t)) := by
  refine .bind (.calm (delayedInit_calm _)) fun ready _ => ?_
  split
  · refine .bind (.call _) fun now _ => ?_
    refine .bind (.calm (checkOnline_calm _ now)) fun online _ => ?_
    split
    · exact getOnline_guards hS hP hlower ht
    · exact .pure .useCached
  · exact .bind (.calm (netDown_calm _)) fun _ _ => .pure .useCached

omit hlower

theorem renewOldPrt_keeps : Keeps S key E (P.renewOldPrt t.spn : Fn W ρ Unit) := by
  refine .bind (.call _) fun now _ => .bind .get fun c _ => ?_
  split
  · exact .pure trivial
  · split
    · refine .bind (refreshToken_guards (by rw [hP.lower_eq, ht.2])) fun entry hentry => ?_
      split
      · next oldPrt =>
        have hask : Guards S key (Hands S fun prt => .entry (.prt prt)) E
            (Ctx.ask (P.outside.exchangePrtForPrt oldPrt) : Fn W ρ _) :=
          .ask fun _ _ h => hS.exchanged (hentry _ rfl) (.prt h)
        refine .bind hask fun r hr => ?_
        split
        · exact refreshCacheAdd_keeps _ (hr _ rfl)
        · exact .pure trivial
      · exact .pure trivial
    · exact .pure trivial

omit hP ht in
theorem accessByEntry_guards (clientId redirectUri reqCnf : Option String)
    {entry : RefreshCacheEntry} (hentry : S (.entry entry)) : Guards S key (Hands S .token) E
      (P.accessByEntry scopes clientId redirectUri reqCnf entry : Fn W ρ _) := by
  have hrequest : ∀ {request : Ext W (Except MsalError UnixUserToken)},
      (∀ w token, (request w).1 = .ok token → S (.token token)) →
        Guards S key (Hands S .token) E
          (orBadRequest request : Fn W ρ _) := by
    intro request h
    refine .bind (.exchange h) fun r hr => ?_
    split
    · exact .pure (.ok (hr _ rfl))
    · exact .pure (.error _)
  cases entry with
  | prt prt => exact hrequest fun _ _ h => hS.exchanged hentry (.accessToken h)
  | refreshToken refreshToken =>
    refine .bind (.call _) fun client _ => ?_
    split
    · exact .pure (.error _)
    · exact .bind .get fun _ _ => hrequest fun _ _ h => hS.exchanged hentry (.refreshToken h)

theorem unixUserAccess_guards (clientId redirectUri reqCnf : Option String) :
    Guards S key (Hands S .token) E
      (P.unixUserAccess id scopes (some t) clientId redirectUri reqCnf : Fn W ρ _) := by
  refine .bind (renewOldPrt_keeps hS hP ht) fun _ _ => ?_
  refine .bind (.calm (delayedInit_calm _)) fun ready _ => ?_
  split
  · refine .bind (.call _) fun now _ => ?_
    refine .bind (.calm (checkOnline_calm _ now)) fun online _ => ?_
    split
    · have ha : P.outside.toLowercase (accountOf id (some t)) = key := by
        rw [hP.lower_eq]
        exact ht.2
      refine .bind (refreshToken_guards ha) fun entry hentry => ?_
      split
      · exact .pure (.error _)
      · exact accessByEntry_guards hS _ _ _ (hentry _ rfl)
    · exact .pure (.error _)
  · exact .pure (.error _)

theorem unixUserPrtCookie_guards (ssoNonce : Option String) : Guards S key (Hands S .cookie) E
      (P.unixUserPrtCookie id (some t) ssoNonce : Fn W ρ _) := by
  refine .bind (.calm (delayedInit_calm _)) fun ready _ => ?_
  split
  · have ha : P.outside.toLowercase (accountOf id (some t)) = key := by
      rw [hP.lower_eq]
      exact ht.2
    refine .bind (refreshToken_guards ha) fun entry hentry => ?_
    split
    · next prt =>
      have hask : Guards S key (fun r => ∀ content, r = some content → S (.cookie content)) E
          (Ctx.ask (P.outside.acquirePrtSsoCookieWithNonce prt ssoNonce) : Fn W ρ _) :=
        .ask fun _ _ h => hS.exchanged (hentry _ rfl) (.cookie h)
      refine .bind hask fun r hr => ?_
      split
      · exact .pure (.ok (hr _ rfl))
      · exact .pure (.error _)
    · exact .pure (.error _)
  · exact .pure (.error _)

end Methods

end Get

end Entra

/-! ## 4. The OpenID Connect provider -/

section Oidc

variable (O : OidcProvider W)

inductive OidcExchange : Exchange
  | refreshToken {refreshToken : String} {scopes : List String} {w : W}
      {response : OidcTokenResponse} {token : UnixUserToken}
      (h : (O.issuer.refreshTokenGrant refreshToken scopes w).1 = .ok response)
      (htoken : O.issuer.intoUnixUserToken response = some token) :
      OidcExchange (.refreshToken refreshToken) (.token token)

variable {O} {E : ρ → Prop} {lower : String → String} {t : UserToken}

/-- The id that a lookup asks for, next to the token that it found: the token's name, or a uid. -/
def Asks (id : Id) (t : UserToken) : Prop := id = .name t.spn ∨ ∃ uid, id = .gid uid

variable {id : Id} {scopes : List String}

theorem oidcUnixUserGet_guards (ht : Named lower key t) (hid : Asks id t) :
    Guards S key (Updates lower key) (Updates lower key) (O.unixUserGet id (some t)) := by
  have haccount : OidcProvider.getAccount id (some t) = some t.spn := by
    rcases hid with rfl | ⟨uid, rfl⟩
    · rfl
    · exact congrArg some ht.1
  refine .bind (.calm (OidcProvider.delayedInit_calm _)) fun ready _ => ?_
  split
  · rw [haccount]
    dsimp only
    split
    · exact .pure (.error _)
    · refine .bind (.pure trivial) fun objectId (_ : True) => ?_
      refine .bind (.calm (OidcProvider.unixIds_calm _ _ _)) fun r _ => ?_
      split
      · exact .pure (.error _)
      · exact .pure (.update ⟨rfl, ht.2⟩)
  · exact .bind (.calm (netDown_calm _)) fun _ _ => .pure .useCached

def Grants {ε : Type} (O : OidcProvider W) (S : Credential → Prop)
    (r : Except ε OidcTokenResponse) : Prop :=
  ∀ response token, r = .ok response → O.issuer.intoUnixUserToken response = some token →
    S (.token token)

theorem Grants.error {ε : Type} (e : ε) : Grants O S (.error e) := nofun

theorem acquireTokenByRefreshToken_guards (hS : Closed (OidcExchange O) S) {refreshToken : String}
    (hentry : S (.entry (.refreshToken refreshToken))) :
    Guards S key (Grants O S) E (O.acquireTokenByRefreshToken refreshToken scopes : Fn W ρ _) := by
  refine .bind .get fun c _ => ?_
  split
  · have hask : Guards S key (Grants O S) E
        (Ctx.ask (O.issuer.refreshTokenGrant refreshToken scopes) : Fn W ρ _) :=
      .ask fun _ _ _ h htoken => hS.exchanged hentry (.refreshToken h htoken)
    refine .bind hask fun r hr => ?_
    split
    · exact .pure fun _ _ h => by cases h; exact hr _ _ rfl
    · exact .pure (.error _)
  · exact .pure (.error _)

theorem oidcUnixUserAccess_guards (hS : Closed (OidcExchange O) S)
    (hO : O.outside.toLowercase = lower) (ht : Named lower key t) :
    Guards S key (Hands S .token) E (O.unixUserAccess id scopes (some t) : Fn W ρ _) := by
  refine .bind (.calm (OidcProvider.delayedInit_calm _)) fun ready _ => ?_
  split
  · refine .bind (.call _) fun now _ => ?_
    refine .bind (.calm (OidcProvider.checkOnline_calm _ now)) fun online _ => ?_
    split
    · have ha : O.outside.toLowercase (accountOf id (some t)) = key := by
        rw [hO]
        exact ht.2
      refine .bind (refreshToken_guards ha) fun entry hentry => ?_
      split
      · exact .pure (.error _)
      · exact .pure (.error _)
      · next refreshToken =>
        refine .bind (acquireTokenByRefreshToken_guards hS (hentry _ rfl)) fun r hr => ?_
        split
        · exact .pure (.error _)
        · next response =>
          split
          · exact .pure (.error _)
          · next token htoken => exact .pure (.ok (hr _ _ rfl htoken))
    · exact .pure (.error _)
  · exact .pure (.error _)

end Oidc

end Himmelblau.Custody
