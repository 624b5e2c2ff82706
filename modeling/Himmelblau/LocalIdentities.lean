/-
  **Local identities.**  The `nxset` holds the names and the ids of the local users and groups.
  A lookup checks it for the key that was asked for, an enumeration not at all; only a login
  checks it for the token that it ends with.
-/
import Himmelblau.ResolverSession

namespace Himmelblau

open Interface Db LockProgram Prog

variable {P : Type}

/-! ## 1. A lookup, before the refresh -/

namespace Resolver

variable (R : Resolver P)

/-- `get_usertoken` up to the call of `refresh_usertoken`: whether it is called, and the cached
    token. -/
def lookupUsertoken (accountId : Id) : Op P (Except Unit (Bool × Option UserToken)) := do
  match ← getCachedUsertoken accountId with
  | .error () => return .error ()
  | .ok (expired, item) =>
    let state ← R.getCachestate (stateAccount accountId item)
    match expired, state with
    | true, .offlineNextCheck time =>
      if time ≤ (← now) then
        if ← R.testConnection then return .ok (true, item)
        else return .ok (false, item)
      else return .ok (false, item)
    | true, .online => return .ok (true, item)
    | _, _ => return .ok (false, item)

def nxsetHas (nxset : List Id) : Id → Bool
  | .name name => inNxset nxset (some name) none
  | .gid idnumber => inNxset nxset none (some idnumber)

theorem exec_checkNxsetId (id : Id) (s : ResolverState P) :
    (checkNxsetId id).exec s = (nxsetHas s.nxset id, s) := by
  cases id <;> rfl

theorem exec_getUsertoken (accountId : Id) (s : ResolverState P) :
    (R.getUsertoken accountId).exec s =
      if nxsetHas s.nxset accountId then (.ok none, s)
      else
        let r := (R.lookupUsertoken accountId).exec s
        match r.1 with
        | .error () => (.error (), r.2)
        | .ok (false, item) => (.ok item, r.2)
        | .ok (true, item) => (R.refreshUsertoken accountId item).exec r.2 := by
  unfold getUsertoken lookupUsertoken
  rw [exec_bind, exec_checkNxsetId]
  dsimp only
  split
  · rfl
  · simp only [exec_bind]
    rcases ((getCachedUsertoken accountId).exec s) with ⟨_ | ⟨expired, item⟩, s1⟩
    · rfl
    · dsimp only
      simp only [exec_bind]
      rcases ((R.getCachestate (stateAccount accountId item)).exec s1) with ⟨state, s2⟩
      dsimp only
      cases expired with
      | false => cases state <;> rfl
      | true =>
        cases state with
        | online => rfl
        | offline => rfl
        | offlineNextCheck time =>
          simp only [exec_bind]
          split
          · simp only [exec_bind]
            split <;> rfl
          · rfl

/-- Neither the `nxset` nor the accounts change, and the provider is only asked for its state and
    whether it is online. -/
structure Apart (s s' : ResolverState P) : Prop where
  nxset : s'.nxset = s.nxset
  accountT : s'.db.accountT = s.db.accountT
  client : ∀ {Ok : P → Prop},
    (∀ {accountId ks p}, Ok p → Ok (R.client.getCachestate accountId ks p).2.2) →
      (∀ {now p}, Ok p → Ok (R.client.checkOnline now p).2) → Ok s.client → Ok s'.client

variable {R} in
theorem Apart.trans {s s1 s' : ResolverState P} (h : R.Apart s s1) (h' : R.Apart s1 s') :
    R.Apart s s' :=
  ⟨h'.nxset.trans h.nxset, h'.accountT.trans h.accountT, fun hstate honline hok =>
    h'.client hstate honline (h.client hstate honline hok)⟩

/-! What a lookup finds is cached. -/

theorem exec_getCached {T : Type} (query : Database → Except CacheError (Option (T × ℕ)))
    (id : Id) (s : ResolverState P) :
    ((getCached query id).exec s).1.map Prod.snd =
      match query s.db with
      | .error _ => .error ()
      | .ok row => .ok (row.map Prod.fst) := by
  simp only [getCached, exec_bind, dbWrite, dbGet, exec_lock, exec_modify,
    exec_call]
  cases query s.db with
  | error e => rfl
  | ok row =>
    cases row with
    | some row => rfl
    | none =>
      simp only [cachedOrNx, exec_bind]
      generalize (checkNxcache id).exec _ = checked
      obtain ⟨exTime, s'⟩ := checked
      cases exTime with
      | none => rfl
      | some exTime => rfl

variable {s : ResolverState P} {t token : UserToken} {accountId : Id}

theorem mem_getAccounts {db : Database} {id : Id} {exTime : ℕ}
    (h : db.getAccount id = .ok (some (t, exTime))) : t ∈ db.getAccounts := by
  obtain ⟨expiry, hdata⟩ := Database.oneRow_eq_some h
  have hfound : ∀ p : AccountRow → Bool, ((db.accountT.rows.filter p).map fun r =>
      (r.token, r.expiry)) = [(some t, expiry)] → t ∈ db.getAccounts := by
    intro p hp
    obtain ⟨r, hr, heq⟩ := List.mem_map.mp (hp ▸ List.mem_singleton_self (some t, expiry))
    exact List.mem_filterMap.mpr ⟨r, (List.mem_filter.mp hr).1, congrArg Prod.fst heq⟩
  cases id with
  | name n => exact hfound _ hdata
  | gid g => exact hfound _ hdata

theorem getCached_apart {T : Type} (query : Database → Except CacheError (Option (T × ℕ)))
    (id : Id) (s : ResolverState P) : R.Apart s ((getCached query id).exec s).2 := by
  simp only [getCached, exec_bind, dbWrite, dbGet, exec_lock, exec_modify,
    exec_call]
  cases query s.db with
  | error e => exact ⟨rfl, rfl, fun _ _ h => h⟩
  | ok row =>
    cases row with
    | some row => exact ⟨rfl, rfl, fun _ _ h => h⟩
    | none =>
      simp only [cachedOrNx, exec_bind]
      split <;> exact ⟨rfl, rfl, fun _ _ h => h⟩

theorem db_getCached {T : Type} (query : Database → Except CacheError (Option (T × ℕ)))
    (id : Id) (s : ResolverState P) : ((getCached query id).exec s).2.db = s.db := by
  simp only [getCached, exec_bind, dbWrite, dbGet, exec_lock, exec_modify,
    exec_call]
  cases query s.db with
  | error e => rfl
  | ok row =>
    cases row with
    | some row => rfl
    | none =>
      simp only [cachedOrNx, exec_bind]
      split <;> rfl

theorem exec_getGroupmembers_eq (gUuid : Uuid) (s : ResolverState P) :
    ((R.getGroupmembers gUuid).exec s).1 =
      match s.db.getGroupMembers gUuid with
      | .ok tokens => tokens.map (tokenUidattr R)
      | .error _ => [] := rfl

theorem getCachestate_apart (accountId : Option String) (s : ResolverState P) :
    R.Apart s ((R.getCachestate accountId).exec s).2 := by
  rw [exec_getCachestate]
  exact ⟨rfl, rfl, fun hstate _ => hstate⟩

theorem testConnection_apart (s : ResolverState P) : R.Apart s (R.testConnection.exec s).2 := by
  have hstate := R.getCachestate_apart none s
  unfold testConnection
  rw [exec_bind]
  split
  · exact hstate
  · exact hstate.trans ⟨rfl, rfl, fun _ honline => honline⟩
  · exact hstate

theorem nxset_callWithHsm {α : Type} {f : KeyStore → P → α × KeyStore × P}
    {s s' : ResolverState P} {r : α} (h : (callWithHsm f).exec s = (r, s')) :
    s'.nxset = s.nxset := by
  rw [exec_callWithHsm] at h
  cases h
  rfl

theorem lookupUsertoken_apart (accountId : Id) (s : ResolverState P) :
    R.Apart s ((R.lookupUsertoken accountId).exec s).2 ∧
      ∀ {refresh item}, ((R.lookupUsertoken accountId).exec s).1 = .ok (refresh, item) →
        ∃ row, s.db.getAccount accountId = .ok row ∧ item = row.map Prod.fst := by
  have hcached := R.getCached_apart (·.getAccount accountId) accountId s
  have hitem := exec_getCached (·.getAccount accountId) accountId s
  unfold lookupUsertoken getCachedUsertoken
  rw [exec_bind]
  generalize (getCached (·.getAccount accountId) accountId).exec s = r at hcached hitem ⊢
  obtain ⟨_ | ⟨expired, found⟩, s1⟩ := r
  · exact ⟨hcached, nofun⟩
  · have hfound : ∀ {b refresh : Bool} {item : Option UserToken},
        (.ok (b, found) : Except Unit _) = .ok (refresh, item) →
        ∃ row, s.db.getAccount accountId = .ok row ∧ item = row.map Prod.fst := by
      rintro _ _ _ ⟨⟩
      cases hrow : s.db.getAccount accountId with
      | error e => simp [hrow, Except.map] at hitem
      | ok row => exact ⟨row, rfl, by simpa [hrow, Except.map] using hitem⟩
    have hstate := hcached.trans (R.getCachestate_apart (stateAccount accountId found) s1)
    dsimp only
    rw [exec_bind]
    split
    · rw [exec_bind]
      have hnow : R.Apart s (now.exec ((R.getCachestate _).exec s1).2).2 :=
        hstate.trans ⟨rfl, rfl, fun _ _ h => h⟩
      split
      · rw [exec_bind]
        split <;> exact ⟨hnow.trans (R.testConnection_apart _), hfound⟩
      · exact ⟨hnow, hfound⟩
    · exact ⟨hstate, hfound⟩
    · exact ⟨hstate, hfound⟩

theorem lookupUsertoken_mem {refresh : Bool}
    (h : ((R.lookupUsertoken accountId).exec s).1 = .ok (refresh, some t)) :
    t ∈ s.db.getAccounts := by
  obtain ⟨row, hrow, hitem⟩ := (R.lookupUsertoken_apart accountId s).2 h
  cases row with
  | none => cases hitem
  | some row =>
    cases hitem
    exact mem_getAccounts hrow

/-! ## 2. What a request releases -/

def Refreshes (s : ResolverState P) (accountId : Id) (t : UserToken) : Prop :=
  nxsetHas s.nxset accountId = false ∧
  ∃ item s1 s2 token, (R.lookupUsertoken accountId).exec s = (.ok (true, item), s1) ∧
    (callWithHsm (R.client.unixUserGet accountId item)).exec s1 = (.ok (.update t), s2) ∧
    ((R.setCacheUsertoken t).exec s2).1 = .ok token

theorem setCacheUsertoken_eq_ok (h : ((R.setCacheUsertoken t).exec s).1 = .ok token) :
    token = R.tokenToCache s.nxset t := by
  rw [exec_setCacheUsertoken] at h
  split at h
  · cases h
    rfl
  · cases h

theorem getUsertoken_eq_some (h : ((R.getUsertoken accountId).exec s).1 = .ok (some t)) :
    t ∈ s.db.getAccounts ∨ ∃ n, R.Refreshes s accountId n ∧ t = R.tokenToCache s.nxset n := by
  rw [exec_getUsertoken] at h
  split at h
  · cases h
  · rename_i hnx
    have hnxset := (R.lookupUsertoken_apart accountId s).1.nxset
    rcases hlookup : (R.lookupUsertoken accountId).exec s with ⟨r, s1⟩
    rw [hlookup] at h hnxset
    dsimp only at h hnxset
    split at h
    · cases h
    · cases h
      exact .inl (R.lookupUsertoken_mem (congrArg Prod.fst hlookup))
    · rename_i item
      rcases hcall : (callWithHsm (R.client.unixUserGet accountId item)).exec s1 with ⟨answer, s2⟩
      unfold refreshUsertoken at h
      rw [exec_bind, hcall] at h
      have hcached : item = some t → t ∈ s.db.getAccounts := by
        rintro rfl
        exact R.lookupUsertoken_mem (congrArg Prod.fst hlookup)
      dsimp only at h
      split at h
      · rename_i n
        have hnxset2 : s2.nxset = s.nxset := (nxset_callWithHsm hcall).trans hnxset
        rw [exec_bind] at h
        split at h
        · cases h
        · rename_i token hset
          cases h
          refine .inr ⟨n, ⟨by simpa using hnx, item, s1, s2, t, hlookup, hcall, hset⟩, ?_⟩
          rw [← hnxset2]
          exact R.setCacheUsertoken_eq_ok hset
      · split at h
        · rw [exec_bind] at h
          split at h
          · cases h
          · cases h
        · cases h
      · cases h
        exact .inl (hcached rfl)
      · cases h
        exact .inl (hcached rfl)

theorem getUsertoken_of_refreshes {n : UserToken} (h : R.Refreshes s accountId n) :
    ((R.getUsertoken accountId).exec s).1 = .ok (some (R.tokenToCache s.nxset n)) := by
  obtain ⟨hnx, item, s1, s2, token, hlookup, hcall, hset⟩ := h
  have hnxset : s2.nxset = s.nxset := by
    rw [nxset_callWithHsm hcall, ← (R.lookupUsertoken_apart accountId s).1.nxset, hlookup]
  rw [exec_getUsertoken, if_neg (by simpa using hnx), hlookup]
  dsimp only
  unfold refreshUsertoken
  rw [exec_bind, hcall]
  dsimp only
  rw [exec_bind, hset, ← hnxset, ← R.setCacheUsertoken_eq_ok hset]
  rfl

inductive UserRequest where
  | usertoken (accountId : Id)
  | nssAccountByName (accountId : String)
  | nssAccountByUid (uid : UInt32)
  | nssAccounts
  | initgroups (accountId : String)
  | step (session : AuthSession) (req : PamAuthRequest)

def tokenIds (t : UserToken) : String × UInt32 := (t.name, t.gidnumber)

def userIds (u : NssUser) : String × UInt32 := (u.name, u.uid)

def found {T : Type} : Except Unit (Option T) → List T
  | .ok (some t) => [t]
  | _ => []

/-- The name and the uid of every user that a request releases: the tokens that are returned,
    the NSS entries, the user whose groups are returned, and the token of a login. -/
def released (s : ResolverState P) : UserRequest → List (String × UInt32)
  | .usertoken accountId => (found ((R.getUsertoken accountId).exec s).1).map tokenIds
  | .nssAccountByName accountId =>
    (found ((R.getNssaccountName accountId).exec s).1).map userIds
  | .nssAccountByUid uid => (found ((R.getNssaccountGid uid).exec s).1).map userIds
  | .nssAccounts => (R.getNssaccounts.exec s).1.map userIds
  | .initgroups accountId =>
    (found ((R.getUsertoken (.name accountId)).exec s).1).map tokenIds
  | .step session req => (R.sessionToken session [(s, req)]).toList.map tokenIds

def IsLocal (nxset : List Id) (ids : String × UInt32) : Prop :=
  inNxset nxset (some ids.1) (some ids.2) = true

/-! ## 3. A login -/

theorem nxset_authStepOffline (session : InProgress) (req : PamAuthRequest) :
    ((R.authStepOffline session token req).exec s).2.nxset = s.nxset := by
  unfold authStepOffline
  split
  · rfl
  · split
    · rw [exec_bind, exec_checkCacheUserpassword]
      split <;> split <;> rfl
    all_goals rfl

theorem nxset_stepBranch (session : AuthSession) (req : PamAuthRequest) (s : ResolverState P) :
    ((R.stepBranch session req).exec s).2.nxset = s.nxset := by
  cases session with
  | success spn => rfl
  | denied => rfl
  | inProgress p =>
    cases htoken : p.token with
    | none =>
      unfold stepBranch
      simp only [exec_bind, authStepBranch, htoken]
      rfl
    | some token =>
      by_cases honline : R.Online p s
      · rw [R.exec_stepBranch_online htoken honline]
        exact (R.applyCacheAction_keeps _ _ _).2.1
      · rw [R.exec_stepBranch_offline htoken honline]
        exact R.nxset_authStepOffline _ _

theorem sessionToken_not_local {session : AuthSession} {req : PamAuthRequest}
    (h : R.sessionToken session [(s, req)] = some t) : ¬ IsLocal s.nxset (tokenIds t) := by
  unfold sessionToken at h
  split at h
  · rename_i spn hsuccess
    have hbranch := R.stepToken_eq_some.mp h
    have hnxset := R.nxset_stepBranch session req s
    intro hlocal
    replace hlocal : inNxset s.nxset (some t.name) (some t.gidnumber) = true := hlocal
    unfold nextSession stepLogin at hsuccess
    rw [exec_pamAccountAuthenticateStep, hbranch] at hsuccess
    dsimp only at hsuccess hnxset
    rw [exec_authStepFinish_success, hnxset, if_pos hlocal] at hsuccess
    cases hsuccess
  · cases h

/-! ## 4. Which requests release a local identity -/

theorem mem_found {T : Type} {r : Except Unit (Option T)} {t : T} (h : t ∈ found r) :
    r = .ok (some t) := by
  unfold found at h
  split at h
  · rw [List.mem_singleton.mp h]
  · cases h

theorem userIds_nssUserOf (hattr : R.uidAttrMap = .name) (t : UserToken) :
    userIds (R.nssUserOf t) = tokenIds t := by
  simp [userIds, nssUserOf, tokenUidattr, hattr, tokenIds]

/-- No request releases a local identity if and only if none is cached, and none is what the
    provider answers to a refresh. -/
theorem releases_no_local_iff (hattr : R.uidAttrMap = .name) (s : ResolverState P) :
    (∀ request, ∀ ids ∈ R.released s request, ¬ IsLocal s.nxset ids) ↔
      (∀ t ∈ s.db.getAccounts, ¬ IsLocal s.nxset (tokenIds t)) ∧
      ∀ accountId n, R.Refreshes s accountId n → ¬ IsLocal s.nxset (tokenIds n) := by
  constructor
  · intro h
    refine ⟨fun t ht => ?_, fun accountId n hn => ?_⟩
    · rw [← R.userIds_nssUserOf hattr t]
      exact h .nssAccounts _ (List.mem_map_of_mem (List.mem_map_of_mem ht))
    · refine h (.usertoken accountId) _ ?_
      simp only [released, R.getUsertoken_of_refreshes hn]
      exact List.mem_singleton_self _
  · rintro ⟨hcached, hrefreshed⟩
    have htoken : ∀ accountId t, ((R.getUsertoken accountId).exec s).1 = .ok (some t) →
        ¬ IsLocal s.nxset (tokenIds t) := by
      intro accountId t ht
      rcases R.getUsertoken_eq_some ht with hmem | ⟨n, hn, rfl⟩
      · exact hcached t hmem
      · exact hrefreshed accountId n hn
    have haccount : ∀ accountId u, ((R.getNssaccount accountId).exec s).1 = .ok (some u) →
        ¬ IsLocal s.nxset (userIds u) := by
      intro accountId u hu
      unfold getNssaccount at hu
      rw [exec_bind] at hu
      split at hu
      · cases hu
      · rename_i token htok
        cases token with
        | none => cases hu
        | some t =>
          cases hu
          rw [R.userIds_nssUserOf hattr]
          exact htoken accountId t htok
    intro request ids hids
    cases request with
    | usertoken accountId =>
      obtain ⟨t, ht, rfl⟩ := List.mem_map.mp hids
      exact htoken accountId t (mem_found ht)
    | nssAccountByName accountId =>
      obtain ⟨u, hu, rfl⟩ := List.mem_map.mp hids
      exact haccount (.name accountId) u (mem_found hu)
    | nssAccountByUid uid =>
      obtain ⟨u, hu, rfl⟩ := List.mem_map.mp hids
      exact haccount (.gid uid) u (mem_found hu)
    | nssAccounts =>
      obtain ⟨u, hu, rfl⟩ := List.mem_map.mp hids
      obtain ⟨t, ht, rfl⟩ := List.mem_map.mp hu
      rw [R.userIds_nssUserOf hattr]
      exact hcached t ht
    | initgroups accountId =>
      obtain ⟨t, ht, rfl⟩ := List.mem_map.mp hids
      exact htoken (.name accountId) t (mem_found ht)
    | step session req =>
      obtain ⟨t, ht, rfl⟩ := List.mem_map.mp hids
      exact R.sessionToken_not_local (Option.mem_toList.mp ht)

end Resolver

instance (nxset : List Id) (ids : String × UInt32) : Decidable (Resolver.IsLocal nxset ids) :=
  inferInstanceAs (Decidable (_ = true))

theorem releases_no_local_alice :
    outageResolver.released aliceState .nssAccounts = [("alice@example.com", 1000)] ∧
      ¬ Resolver.IsLocal aliceState.nxset ("alice@example.com", 1000) := by
  have hlist : outageResolver.released aliceState .nssAccounts = [("alice@example.com", 1000)] := by
    decide
  refine ⟨hlist, (outageResolver.releases_no_local_iff rfl aliceState).mpr ⟨by decide, ?_⟩
    .nssAccounts _ (hlist ▸ List.mem_singleton_self _)⟩
  rintro accountId n ⟨-, item, s₁, s₂, token, -, hcall, -⟩
  cases hcall

/-- Alice is cached, and then a local user `bob` gets the same uid: a lookup by name and the
    enumeration still release it. -/
theorem releases_local :
    let s := ((outageResolver.reloadNxset [("bob", 1000)]).exec aliceState).2
    Id.gid 1000 ∈ s.nxset ∧
    ("alice@example.com", 1000) ∈
      outageResolver.released s (.usertoken (.name "alice@example.com")) ∧
    ("alice@example.com", 1000) ∈ outageResolver.released s .nssAccounts ∧
    Resolver.IsLocal s.nxset ("alice@example.com", 1000) := by
  decide

end Himmelblau
