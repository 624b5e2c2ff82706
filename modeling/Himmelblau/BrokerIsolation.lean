/-
  **What the broker releases, and whose it is.**  The request only has to agree with the cached
  token of the peer's uid; what is looked up and handed out is decided by that token.  So a
  credential that is released came of what the refresh cache holds under the name of the account
  with that uid.

  The refresh cache folds letter case, and its entries do not say whose they are.  In a token cache
  of names in lower case no two accounts share one entry.
-/
import Himmelblau.Broker
import Himmelblau.Custodians
import Himmelblau.LocalIdentities
import Himmelblau.AccountCache
import Himmelblau.Daemon

namespace Himmelblau.BrokerIsolation

open Interface Db LockProgram Entra ServerConfig FindProvider MultiProvider Custody Broker Database

variable {P : Type}

/-! ## 1. Rows under their names -/

/-- A row of the token cache has the name of its token, and a token has one name: `name` and `spn`
    are the same in every token that a provider makes. -/
def Filed (db : Database) : Prop :=
  ∀ r ∈ db.accountT.rows, ∀ t, r.token = some t → r.spn = t.spn ∧ t.name = t.spn

section Filing

variable {C : PasswordCrypto} {db db' : Database}

theorem Filed.of_keepsRows (hdb : Filed db) (h : db.KeepsRows db') : Filed db' := by
  intro r' hr' t htoken
  obtain ⟨r, hr, -, -, hspn, htoken'⟩ := h r' hr'
  obtain ⟨hspn', hname⟩ := hdb r hr t (htoken'.symm.trans htoken)
  exact ⟨hspn.trans hspn', hname⟩

theorem Filed.upserted {account : UserToken} {expire : ℤ} (hdb : Filed db)
    (hname : account.name = account.spn)
    (h : Upserted db.accountT db'.accountT account expire) : Filed db' := by
  intro r hr t htoken
  by_cases huuid : r.uuid = account.uuid
  · have hholds := h.holds r hr huuid
    obtain rfl : account = t := Option.some.inj (hholds.token.symm.trans htoken)
    exact ⟨hholds.spn, hname⟩
  · exact hdb r ((h.spared r huuid).mp hr).1 t htoken

/-- The token that the operation caches, if there is one, has one name. -/
def OneName : AccountOp → Prop
  | .updateAccount account _ => account.name = account.spn
  | _ => True

theorem Filed.apply (hdb : Filed db) (op : AccountOp) (hop : OneName op) :
    Filed (op.apply C db) := by
  rcases op.apply_cases C db with ⟨account, expire, rfl, -, hup⟩ | ⟨-, hrows⟩
  · exact hdb.upserted hop hup
  · exact hdb.of_keepsRows hrows

theorem filed_run (C : PasswordCrypto) (ops : List AccountOp)
    (hops : ∀ op ∈ ops, OneName op) : Filed (ops.foldl (AccountOp.apply C) new) :=
  Runs.Along.foldl Filed (fun _ op hdb hop => hdb.apply op hop) nofun
    ((Runs.along_const _).mpr hops)

end Filing

/-- The token has a row in the token cache, under its own name. -/
def Shelved (db : Database) (t : UserToken) : Prop :=
  ∃ r ∈ db.accountT.rows, r.token = some t ∧ r.spn = t.spn

variable {t : UserToken}

theorem Filed.shelved {db : Database} {id : Id} {expire : ℕ} (hdb : Filed db)
    (h : db.getAccount id = .ok (some (t, expire))) : Shelved db t ∧ t.name = t.spn := by
  obtain ⟨r, hr, htoken⟩ := List.mem_filterMap.mp (Resolver.mem_getAccounts h)
  obtain ⟨hspn, hname⟩ := hdb r hr t htoken
  exact ⟨⟨r, hr, htoken, hspn⟩, hname⟩

theorem cacheToken_shelved {db db' : Database} {expire : ℕ}
    (h : Resolver.cacheToken t expire db = .ok db') : Shelved db' t := by
  obtain ⟨-, t', ht', rfl⟩ := Resolver.cacheToken_eq_ok h
  have hrows := upsertAccount_upserted ht'
  obtain ⟨r, hr, huuid⟩ := hrows.there
  have hholds := hrows.holds r hr huuid
  exact ⟨r, hr, hholds.token, hholds.spn⟩

theorem Shelved.getAccount {db : Database} (h : Shelved db t) {row : Option (UserToken × ℕ)}
    (hrow : db.getAccount (.name t.spn) = .ok row) : row.map Prod.fst = some t := by
  obtain ⟨r, hr, htoken, hspn⟩ := h
  have hanswers : r.answersTo t.spn = true := by
    rw [← hspn]
    exact AccountRow.answersTo_of_mem_texts (by simp [AccountRow.texts])
  have hone : db.accountT.Unambiguous (·.answersTo t.spn) := by
    rw [← oneRow_filter_ne_tooManyResults_iff _ AccountRow.clash_refl _
      fun r => (r.token, r.expiry)]
    intro hmany
    cases hrow.symm.trans hmany
  have hfound : db.getAccount (.name t.spn) = oneRow [(r.token, r.expiry)] :=
    oneRow_filter_of_mem AccountRow.clash_refl hone hr hanswers _
  rw [hfound, htoken] at hrow
  unfold oneRow at hrow
  dsimp only at hrow
  split at hrow
  · cases hrow
  · cases hrow
    rfl

/-! ## 2. A lookup in the token cache -/

section Lookup

variable {R : Resolver P} {lower : String → String} {S : Credential → Prop} {key : String}
  {Ok : P → Prop} {s s' : ResolverState P} {id : Id} {user : UserToken}

theorem setCacheUsertoken_found {n : UserToken}
    (h : (R.setCacheUsertoken n).exec s = (.ok user, s')) :
    s'.client = s.client ∧ user.name = n.name ∧ user.spn = n.spn ∧ Shelved s'.db user := by
  rw [Resolver.exec_setCacheUsertoken] at h
  split at h
  · rename_i db hdb
    cases h
    exact ⟨rfl, rfl, rfl, cacheToken_shelved hdb⟩
  · cases h

theorem refreshUsertoken_found {item : Option UserToken}
    (h : (R.refreshUsertoken id item).exec s = (.ok (some user), s')) :
    let r := R.client.unixUserGet id item s.db.hsmDataT s.client
    s'.client = r.2.2 ∧ ((item = some user ∧ s'.db.accountT = s.db.accountT) ∨
      ∃ n, r.1 = .ok (.update n) ∧ user.name = n.name ∧ user.spn = n.spn ∧
        Shelved s'.db user) := by
  intro r
  unfold Resolver.refreshUsertoken at h
  rw [Prog.exec_bind, Resolver.exec_callWithHsm] at h
  dsimp only at h
  split at h
  · rename_i n hn
    rcases hset : (R.setCacheUsertoken n).exec (s.called r.2.1 r.2.2) with ⟨res, s1⟩
    rw [Prog.exec_bind, hset] at h
    cases res with
    | error e => cases h
    | ok token =>
      cases h
      obtain ⟨hclient, hname, hspn, hshelved⟩ := setCacheUsertoken_found hset
      exact ⟨hclient, .inr ⟨n, hn, hname, hspn, hshelved⟩⟩
  · split at h
    · rw [Prog.exec_bind, Resolver.exec_deleteCacheUsertoken] at h
      cases h
    · cases h
  · cases h
    exact ⟨rfl, .inl ⟨rfl, rfl⟩⟩
  · cases h
    exact ⟨rfl, .inl ⟨rfl, rfl⟩⟩

variable (hC : Custodian R.client lower S key Ok)

include hC

/-- A lookup by an id that the provider makes up no account for finds a cached account. -/
theorem getUsertoken_cached (hok : Ok s.client)
    (hnone : ∀ keystore p n, Ok p → (R.client.unixUserGet id none keystore p).1 ≠ .ok (.update n))
    (h : (R.getUsertoken id).exec s = (.ok (some user), s')) :
    ∃ t expire, s.db.getAccount id = .ok (some (t, expire)) := by
  obtain ⟨hapart, hcached⟩ := R.lookupUsertoken_apart id s
  rw [Resolver.exec_getUsertoken] at h
  split at h
  · cases h
  · rcases hlookup : (R.lookupUsertoken id).exec s with ⟨res, s1⟩
    rw [hlookup] at h hapart hcached
    dsimp only at h
    split at h
    · cases h
    all_goals
      obtain ⟨row, hrow, hitem⟩ := hcached rfl
    · cases h
      obtain ⟨⟨t, expire⟩, rfl, -⟩ := Option.map_eq_some_iff.mp hitem.symm
      exact ⟨t, expire, hrow⟩
    · cases row with
      | some row => exact ⟨row.1, row.2, hrow⟩
      | none =>
        subst hitem
        obtain ⟨-, ⟨hitem, -⟩ | ⟨n, hn, -⟩⟩ := refreshUsertoken_found h
        · cases hitem
        · exact absurd hn (hnone _ _ n (hapart.client hC.getCachestate hC.checkOnline hok))

variable (lower key Ok) in
/-- The provider is in custody, and the token is the cached one of the account the key is of. -/
structure Settled (s : ResolverState P) (user : UserToken) : Prop where
  ok : Ok s.client
  named : Named lower key user
  shelved : Shelved s.db user

theorem Settled.getUsertoken (ht : Settled lower key Ok s t) (hasks : Asks id t)
    (hrow : ∀ row, s.db.getAccount id = .ok row → row.map Prod.fst = some t)
    (h : (R.getUsertoken id).exec s = (.ok (some user), s')) : Settled lower key Ok s' user := by
  obtain ⟨hapart, hcached⟩ := R.lookupUsertoken_apart id s
  rw [Resolver.exec_getUsertoken] at h
  split at h
  · cases h
  · rcases hlookup : (R.lookupUsertoken id).exec s with ⟨res, s1⟩
    rw [hlookup] at h hapart hcached
    have hok := hapart.client hC.getCachestate hC.checkOnline ht.ok
    have hshelved : Shelved s1.db t := by
      unfold Shelved
      rw [hapart.accountT]
      exact ht.shelved
    dsimp only at h
    split at h
    · cases h
    all_goals
      obtain ⟨row, hfound, hitem⟩ := hcached rfl
      rw [hrow row hfound] at hitem
      subst hitem
    · cases h
      exact ⟨hok, ht.named, hshelved⟩
    · obtain ⟨hclient, hfresh⟩ := refreshUsertoken_found h
      obtain ⟨hupdates, hok'⟩ :
          Updates lower key (R.client.unixUserGet id (some t) s1.db.hsmDataT s1.client).1 ∧
            Ok (R.client.unixUserGet id (some t) s1.db.hsmDataT s1.client).2.2 :=
        hC.unixUserGet hasks ht.named hok
      rw [← hclient] at hok'
      rcases hfresh with ⟨hsame, hrows'⟩ | ⟨n, hn, hname, hspn, hshelved'⟩
      · cases hsame
        refine ⟨hok', ht.named, ?_⟩
        unfold Shelved
        rw [hrows']
        exact hshelved
      · obtain ⟨hone, hkey⟩ := hupdates n hn
        exact ⟨hok', ⟨hname.trans (hone.trans hspn.symm), hspn ▸ hkey⟩, hshelved'⟩

theorem Settled.getUsertoken_name (ht : Settled lower key Ok s t)
    (h : (R.getUsertoken (.name t.spn)).exec s = (.ok (some user), s')) :
    Settled lower key Ok s' user :=
  ht.getUsertoken hC (.inl rfl) (fun _ => ht.shelved.getAccount) h

omit hC in
theorem withUsertoken_found {β : Type} {ask : UserToken → KeyStore → P → β × KeyStore × P}
    {res : β} (h : ((R.withUsertoken id ask).exec s).1 = some (user, res)) :
    ∃ s1, (R.getUsertoken id).exec s = (.ok (some user), s1) ∧
      (ask user s1.db.hsmDataT s1.client).1 = res := by
  unfold Resolver.withUsertoken at h
  rw [Prog.exec_bind, Resolver.exec_checkNxsetId] at h
  dsimp only at h
  split at h
  · cases h
  · rw [Prog.exec_bind] at h
    rcases hget : (R.getUsertoken id).exec s with ⟨found, s1⟩
    rw [hget] at h
    dsimp only at h
    split at h
    · rw [Prog.exec_bind, Resolver.exec_callWithHsm] at h
      cases h
      exact ⟨s1, rfl, rfl⟩
    · cases h

theorem Settled.getUserAccesstoken (ht : Settled lower key Ok s t) {scopes : List String}
    {clientId redirectUri reqCnf : Option String} {token : UnixUserToken}
    (h : ((R.getUserAccesstoken (.name t.spn) scopes clientId redirectUri reqCnf).exec s).1 =
      some token) :
    S (.token token) := by
  unfold Resolver.getUserAccesstoken at h
  rw [Prog.exec_bind, Prog.exec_pure] at h
  dsimp only at h
  split at h
  · rename_i user granted hwith
    cases h
    obtain ⟨s1, hget, hask⟩ := withUsertoken_found hwith
    have hfound := ht.getUsertoken_name hC hget
    exact hC.unixUserAccess hfound.named hfound.ok hask
  · cases h

theorem Settled.getUserPrtCookie (ht : Settled lower key Ok s t) {ssoNonce : Option String}
    {content : String} (h : ((R.getUserPrtCookie (.name t.spn) ssoNonce).exec s).1 = some content) :
    S (.cookie content) := by
  unfold Resolver.getUserPrtCookie at h
  rw [Prog.exec_bind, Prog.exec_pure] at h
  dsimp only at h
  split at h
  · rename_i user cookie hwith
    cases h
    obtain ⟨s1, hget, hask⟩ := withUsertoken_found hwith
    have hfound := ht.getUsertoken_name hC hget
    exact hC.unixUserPrtCookie hfound.named hfound.ok hask
  · cases h

end Lookup

/-! ## 3. The requests -/

inductive Wanted where
  | accounts
  | token (params : AuthParametersReq)
  | cookie (ssoUrl : Option String)

section Requests

variable (B : BrokerOutside)

/-- What is left of a request without its account fields. -/
def wanted : BrokerOutside.Request → Option Wanted
  | .acquireTokenInteractively requestJson | .acquireTokenSilently requestJson =>
    match B.tokenReqOfJson requestJson with
    | .error _ => none
    | .ok request => some (.token { request.authParameters with account := none })
  | .getAccounts _ => some .accounts
  | .acquirePrtSsoCookie requestJson =>
    match B.ssoCookieReqOfJson requestJson with
    | .error _ => none
    | .ok request => some (.cookie request.ssoUrl)

def fulfil (R : Resolver P) (user : UserToken) : Wanted → Op P (Except String Answer)
  | .accounts => return .ok (.accounts [listedAccount user])
  | .token params => B.fetchToken R user params
  | .cookie ssoUrl => B.fetchCookie R user ssoUrl

def Carries : Answer → Credential → Prop
  | .accounts _, _ => False
  | .token response, c =>
    ∃ now token, B.tokenResponse now token = .ok (.token response) ∧ c = .token token
  | .cookie _ content _, c => c = .cookie content

variable {B} {R : Resolver P} {s : ResolverState P} {uid : UInt32} {answer : Answer}

theorem peerToken_found {f : UserToken → Op P (Except String Answer)}
    (h : ((do match ← BrokerOutside.peerToken R uid with
            | .error e => return .error e
            | .ok user => f user : Op P (Except String Answer)).exec s).1 = .ok answer) :
    ∃ user s1, (R.getUsertoken (.gid uid)).exec s = (.ok (some user), s1) ∧
      ((f user).exec s1).1 = .ok answer := by
  unfold BrokerOutside.peerToken at h
  simp only [Prog.exec_bind] at h
  rcases hget : (R.getUsertoken (.gid uid)).exec s with ⟨found, s1⟩
  rw [hget] at h
  dsimp only at h
  rcases found with _ | _ | user
  · cases h
  · cases h
  · exact ⟨user, s1, rfl, h⟩

variable {request : BrokerOutside.Request}

/-- A request that is answered is fulfilled for the cached token of the peer; its account fields
    are not looked at again. -/
theorem serve_found (h : ((B.serve R uid request).exec s).1 = .ok answer) :
    ∃ user s1 w, (R.getUsertoken (.gid uid)).exec s = (.ok (some user), s1) ∧
      wanted B request = some w ∧ ((fulfil B R user w).exec s1).1 = .ok answer := by
  cases request with
  | acquireTokenInteractively requestJson | acquireTokenSilently requestJson =>
    obtain ⟨user, s1, hget, h⟩ := peerToken_found h
    split at h
    · cases h
    · rename_i request hjson
      split at h
      · cases h
      · split at h
        · exact ⟨user, s1, .token { request.authParameters with account := none }, hget,
            by simp only [wanted, hjson], h⟩
        · cases h
  | getAccounts requestJson =>
    obtain ⟨user, s1, hget, h⟩ := peerToken_found h
    exact ⟨user, s1, .accounts, hget, rfl, h⟩
  | acquirePrtSsoCookie requestJson =>
    obtain ⟨user, s1, hget, h⟩ := peerToken_found h
    split at h
    · cases h
    · rename_i request hjson
      split at h
      · exact ⟨user, s1, .cookie request.ssoUrl, hget, by simp only [wanted, hjson], h⟩
      · cases h

/-- Two requests for the same thing that are both answered are answered alike. -/
theorem serve_same {request' : BrokerOutside.Request} {answer' : Answer}
    (hwanted : wanted B request' = wanted B request)
    (h : ((B.serve R uid request).exec s).1 = .ok answer)
    (h' : ((B.serve R uid request').exec s).1 = .ok answer') : answer' = answer := by
  obtain ⟨user, s1, w, hget, hw, hanswer⟩ := serve_found h
  obtain ⟨user', s1', w', hget', hw', hanswer'⟩ := serve_found h'
  obtain ⟨⟨⟩, rfl⟩ := Prod.mk.inj (hget.symm.trans hget')
  obtain rfl : w' = w := Option.some.inj (hw'.symm.trans (hwanted.trans hw))
  exact Except.ok.inj (hanswer'.symm.trans hanswer)

variable {lower : String → String} {S : Credential → Prop} {key : String} {Ok : P → Prop}
  {user : UserToken}

theorem Settled.fetchToken (hC : Custodian R.client lower S key Ok)
    (hs : Settled lower key Ok s user) {params : AuthParametersReq}
    (h : ((B.fetchToken R user params).exec s).1 = .ok answer) : ∃ c, Carries B answer c ∧ S c := by
  unfold BrokerOutside.fetchToken at h
  split at h
  · cases h
  · rw [Prog.exec_bind] at h
    split at h
    · cases h
    · rename_i token htoken
      rw [Prog.exec_bind, Prog.exec_pure] at h
      have hresponse := h
      unfold BrokerOutside.tokenResponse at h
      dsimp only at h
      split at h
      · cases h
      · cases h
      · cases h
      · cases h
        exact ⟨.token token, ⟨_, token, hresponse, rfl⟩, hs.getUserAccesstoken hC htoken⟩

theorem Settled.fetchCookie (hC : Custodian R.client lower S key Ok)
    (hs : Settled lower key Ok s user) {ssoUrl : Option String}
    (h : ((B.fetchCookie R user ssoUrl).exec s).1 = .ok answer) :
    ∃ c, Carries B answer c ∧ S c := by
  unfold BrokerOutside.fetchCookie at h
  rw [Prog.exec_bind] at h
  split at h
  · cases h
  · rename_i content hcontent
    cases h
    exact ⟨.cookie content, rfl, hs.getUserPrtCookie hC hcontent⟩

theorem Settled.fulfil (hC : Custodian R.client lower S key Ok)
    (hs : Settled lower key Ok s user) {w : Wanted}
    (h : ((fulfil B R user w).exec s).1 = .ok answer) (hsecret : ∃ c, Carries B answer c) :
    ∃ c, Carries B answer c ∧ S c := by
  cases w with
  | accounts =>
    cases h
    obtain ⟨c, hc⟩ := hsecret
    exact hc.elim
  | token params => exact hs.fetchToken hC h
  | cookie ssoUrl => exact hs.fetchCookie hC h

end Requests

/-! ## 4. Whose credentials they are -/

section Owners

variable {I V W : Type} {M : MultiOutside I V} {R : Resolver (MultiState I V W)}
  {lower : String → String} {s : ResolverState (MultiState I V W)} {user : UserToken}
  {c : Credential} {B : BrokerOutside} {uid : UInt32} {answer : Answer}

variable (lower s) in
/-- It came of what is held under the name of the account. -/
def HeldFor (user : UserToken) (c : Credential) : Prop :=
  IssuedFrom (MultiExchange s.client.multi.providers) (MultiHolds s.client (lower user.spn)) c

variable (lower s) in
/-- A way to share out the credentials.  What is held under the name of a cached account was left
    there by a cached account of that name, and what comes of the credentials of an account by
    exchanges is that account's too. -/
structure Ownership (Owns : UserToken → Credential → Prop) : Prop where
  held : ∀ t ∈ s.db.getAccounts, ∀ e, MultiHolds s.client (lower t.spn) e →
    ∃ owner ∈ s.db.getAccounts, lower owner.spn = lower t.spn ∧ Owns owner (.entry e)
  closed : ∀ owner, Closed (MultiExchange s.client.multi.providers) (Owns owner)

variable (lower s) in
/-- However the credentials are shared out, this one is the account's. -/
def Belongs (user : UserToken) (c : Credential) : Prop :=
  ∀ Owns, Ownership lower s Owns → Owns user c

variable (lower s) in
/-- No other cached account has the same name in lower case. -/
def SoleName (user : UserToken) : Prop :=
  ∀ other ∈ s.db.getAccounts, lower other.spn = lower user.spn → other = user

/-- Names are unique, so no two of them are the same in lower case if all are in lower case. -/
theorem Filed.soleName (hdb : Filed s.db) (hlower : ∀ t ∈ s.db.getAccounts, lower t.spn = t.spn)
    (huser : user ∈ s.db.getAccounts) : SoleName lower s user := by
  intro other hother hname
  obtain ⟨r, hr, htoken⟩ := List.mem_filterMap.mp huser
  obtain ⟨r', hr', htoken'⟩ := List.mem_filterMap.mp hother
  have hspn : r'.spn = r.spn := by
    rw [(hdb r' hr' other htoken').1, (hdb r hr user htoken).1, ← hlower other hother, hname,
      hlower user huser]
  obtain rfl : r' = r := s.db.accountT.eq_of_clash AccountRow.clash_symm hr' hr
    (.inr (.inr (.inl hspn)))
  exact Option.some.inj (htoken'.symm.trans htoken)

theorem SoleName.belongs (hsole : SoleName lower s user) (huser : user ∈ s.db.getAccounts)
    (hc : HeldFor lower s user c) : Belongs lower s user c := by
  intro Owns hOwns
  obtain ⟨e, he, hissued⟩ := hc
  obtain ⟨owner, hmem, hname, howns⟩ := hOwns.held user huser e he
  obtain rfl : owner = user := hsole owner hmem hname
  exact (hOwns.closed owner).issued howns hissued

/-! ## 5. What is released to a peer -/

variable (s) in
def Peer (uid : UInt32) (user : UserToken) : Prop :=
  ∃ expire, s.db.getAccount (.gid uid) = .ok (some (user, expire))

variable (lower s B) in
def Isolated (uid : UInt32) (answer : Answer) : Prop :=
  ∃ user, Peer s uid user ∧ ∃ c, Carries B answer c ∧ Belongs lower s user c

theorem guarded_self (key : String) :
    Guarded M (IssuedFrom (MultiExchange s.client.multi.providers) (MultiHolds s.client key)) key
      s.client s.client :=
  ⟨rfl, rfl, fun entry hentry e he => ⟨e, ⟨entry, hentry, he⟩, .held⟩⟩

section Release

variable (hR : R.client = M.multiProvider) (hs : Installed M lower s.client)

include hR hs

theorem peer_of_getUsertoken {s1 : ResolverState (MultiState I V W)}
    (h : (R.getUsertoken (.gid uid)).exec s = (.ok (some user), s1)) : ∃ t, Peer s uid t := by
  have hC : Custodian R.client lower (fun _ => True) "" (Guarded M (fun _ => True) "" s.client) :=
    hR ▸ multi_custodian hs ⟨fun _ _ => trivial, fun _ => trivial⟩
  refine getUsertoken_cached hC ⟨rfl, rfl, fun _ _ _ _ => trivial⟩ ?_ h
  intro keystore p n hp
  rw [hR]
  exact multi_unixUserGet_uid hs hp uid keystore n

variable {request : BrokerOutside.Request}

/-- **What is released to a peer came of what is held under the name of its account.** -/
theorem serve_heldFor (hdb : Filed s.db) (h : ((B.serve R uid request).exec s).1 = .ok answer)
    (hsecret : ∃ c, Carries B answer c) :
    ∃ user, Peer s uid user ∧ ∃ c, Carries B answer c ∧ HeldFor lower s user c := by
  obtain ⟨user, s1, w, hget, -, hanswer⟩ := serve_found h
  obtain ⟨t, expire, hcached⟩ := peer_of_getUsertoken hR hs hget
  refine ⟨t, ⟨expire, hcached⟩, ?_⟩
  have hC : Custodian R.client lower (HeldFor lower s t) (lower t.spn)
      (Guarded M (HeldFor lower s t) (lower t.spn) s.client) :=
    hR ▸ multi_custodian hs (issuedFrom_closed _ _)
  obtain ⟨hshelved, hname⟩ := hdb.shelved hcached
  have ht : Settled lower (lower t.spn) (Guarded M (HeldFor lower s t) (lower t.spn) s.client)
      s t := ⟨guarded_self _, ⟨hname, rfl⟩, hshelved⟩
  have hrow : ∀ row, s.db.getAccount (.gid uid) = .ok row → row.map Prod.fst = some t := by
    intro row hrow
    cases hcached.symm.trans hrow
    rfl
  exact (ht.getUsertoken hC (.inr ⟨uid, rfl⟩) hrow hget).fulfil hC hanswer hsecret

/-- **The isolation of the broker.**  In a cache of names in lower case, a credential that is
    released to a uid belongs to the account of that uid.  A request that differs only in the
    account it names is answered alike or not at all. -/
theorem serve_isolated (hdb : Filed s.db) (hlower : ∀ t ∈ s.db.getAccounts, lower t.spn = t.spn)
    (h : ((B.serve R uid request).exec s).1 = .ok answer) (hsecret : ∃ c, Carries B answer c) :
    Isolated lower s B uid answer ∧
      ∀ request' answer', wanted B request' = wanted B request →
        ((B.serve R uid request').exec s).1 = .ok answer' → answer' = answer := by
  obtain ⟨user, ⟨expire, hcached⟩, c, hcarries, hheld⟩ := serve_heldFor hR hs hdb h hsecret
  have huser := Resolver.mem_getAccounts hcached
  have hbelongs := (hdb.soleName hlower huser).belongs huser hheld
  exact ⟨⟨user, ⟨expire, hcached⟩, c, hcarries, hbelongs⟩, fun _ _ hwanted => serve_same hwanted h⟩

end Release

end Owners

/-! ## 6. Two accounts -/

def sampleProvider : HimmelblauProvider Unit where
  domain := "example.com"
  config := sampleConfig 3 false
  outside :=
    { sampleOutside with
      acquirePrtSsoCookieWithNonce := fun prt _ w => (some prt.blob, w)
      userTokenFromUnixUserToken := fun a _ _ w => (.ok (plainToken a ⟨1⟩ 1000), w) }

def sampleMulti : MultiOutside PlainIni Unit where
  parser := plainIni
  federation := sampleEndpoint
  serializeAll _ := none
  deserializeAll _ := none

def sampleResolver : Resolver (MultiState PlainIni Unit Unit) :=
  { outageResolver with client := sampleMulti.multiProvider }

def sampleBroker : BrokerOutside where
  toLowercase text := text
  tokenReqOfJson _ := .error "no token"
  ssoCookieReqOfJson requestJson := .ok ⟨⟨requestJson⟩, none⟩
  jsonString text := text
  urlParse _ := none
  base64Url text := text
  asMillis now := 1000 * now
  tokenDetails _ := ⟨"", 0, 0, none, none⟩

def anne : UserToken := plainToken "anne@example.com" ⟨1⟩ 1000

def bert : UserToken := plainToken "bert@example.com" ⟨2⟩ 2000

def sampleState : ResolverState (MultiState PlainIni Unit Unit) where
  db := [AccountOp.updateAccount anne 5000, .updateAccount bert 5000].foldl
    (AccountOp.apply noPasswords) new
  txn := none
  nxset := []
  nxcache := []
  client :=
    { multi := ⟨[(("global", "domains"), "example.com")], (),
        [("example.com", .himmelblau sampleProvider)]⟩
      states := fun _ => { sampleProviderState .online with
        refreshCache := fun key => some (⟨"the PRT of " ++ key⟩, 2000) } }
  clock _ := 2000
  ticks := 0
  entropy := 0
  serverConfig := true

theorem sampleState_installed : Installed sampleMulti id sampleState.client where
  parser := plainIni_lawful
  lower_lower _ := rfl
  names entry hentry := by
    obtain rfl := List.mem_singleton.mp hentry
    refine ⟨rfl, ?_, nofun⟩
    rintro a token oldToken w _ ⟨⟩
    exact ⟨rfl, rfl⟩
  issuer hissuer := by
    have hnone : ¬(plainIni.getOidcIssuerUrl [(("global", "domains"), "example.com")]
        sampleEndpoint.urlParses).isSome = true := by
      decide +kernel
    exact absurd hissuer hnone

theorem serve_isolated_anne :
    let answer := cookieAnswer anne "the PRT of anne@example.com"
    ((sampleBroker.serve sampleResolver 1000 (.acquirePrtSsoCookie "anne@example.com")).exec
        sampleState).1 = .ok answer ∧
      Isolated id sampleState sampleBroker 1000 answer := by
  intro answer
  have hserve : ((sampleBroker.serve sampleResolver 1000
      (.acquirePrtSsoCookie "anne@example.com")).exec sampleState).1 = .ok answer := by
    decide +kernel
  have hdb : Filed sampleState.db := by
    apply filed_run
    intro op hop
    rcases List.mem_pair.mp hop with rfl | rfl
    · rfl
    · rfl
  exact ⟨hserve, (serve_isolated rfl sampleState_installed hdb (fun _ _ => rfl) hserve
    ⟨_, rfl⟩).1⟩

end Himmelblau.BrokerIsolation
