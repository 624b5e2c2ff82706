/-
  **The operations of the resolver, piece by piece.**  A relation that every statement and every
  call of the provider moves the state along is one that the operations move it along
  (`Admits`), and they nest the four mutexes in one of four ways only (`Nesting`).  The one
  exception: when the provider fails to open an online session, `pam_account_authenticate_init`
  asks `get_cachestate` why, and that takes the database mutex the operation is still holding.
-/
import Himmelblau.ResolverSession

namespace Himmelblau

open Interface Db LockProgram Prog

variable {P α β : Type}

/-! ## 1. The pieces -/

namespace Resolver

/-- The mutexes an operation may hold when it asks for another one. -/
def Nesting (held : List Mutex) (m : Mutex) : Prop :=
  held = [] ∨
    (held, m) ∈ [([Mutex.hsm], Mutex.db), ([.db], .hsm), ([.nxcache], .db), ([.db], .nxcache)]

instance (held : List Mutex) (m : Mutex) : Decidable (Nesting held m) :=
  inferInstanceAs (Decidable (_ ∨ _))

/-- The nestings, and the one that cannot succeed: `db` under `db` and `hsm`. -/
def NestingOrSelf (held : List Mutex) (m : Mutex) : Prop :=
  Nesting held m ∨ (held = [.db, .hsm] ∧ m = .db)

/-- The operation takes and gives back its mutexes as `Nesting` says and moves the state
    along `T`. -/
abbrev Walks (T : ResolverState P → ResolverState P → Prop) (p : Op P α) : Prop :=
  p.Moves Nesting T [] []

theorem Walks.orSelf {T : ResolverState P → ResolverState P → Prop} {p : Op P α}
    (hp : Walks T p) : p.Moves NestingOrSelf T [] [] :=
  hp.mono fun _ _ => .inl

end Resolver

/-- The pieces move the state along `T`, but for those of a login step and of a new PIN. -/
structure Resolver.Admits (R : Resolver P) (T : ResolverState P → ResolverState P → Prop) :
    Prop where
  apart : ∀ {s s' : ResolverState P}, s'.db = s.db → s'.txn = s.txn → s'.client = s.client → T s s'
  dbWrite : Within T dbWrite
  dbCommit : Within T dbCommit
  dbDrop : Within T dbDrop
  cacheToken : ∀ token expire, Within T (dbExec (cacheToken token expire))
  updateGroup : ∀ token expire, Within T (dbExec fun db => db.updateGroup token expire)
  deleteAccount : ∀ uuid, Within T (dbExec fun db => .ok (db.deleteAccount uuid))
  deleteGroup : ∀ uuid, Within T (dbExec fun db => .ok (db.deleteGroup uuid))
  invalidate : Within T (dbExec fun db => .ok db.invalidate)
  clearCache : Within T R.clearCache
  unixUserGet : ∀ id token, Within T (callWithHsm (R.client.unixUserGet id token))
  unixUserAccess : ∀ id scopes token clientId redirectUri reqCnf, Within T
    (callWithHsm (R.client.unixUserAccess id scopes token clientId redirectUri reqCnf))
  unixUserTgts : ∀ id token, Within T (callWithHsm (R.client.unixUserTgts id token))
  unixUserPrtCookie : ∀ id token ssoNonce,
    Within T (callWithHsm (R.client.unixUserPrtCookie id token ssoNonce))
  unixGroupGet : ∀ id, Within T (callClient (R.client.unixGroupGet id))
  checkOnline : ∀ now, Within T (callClient (R.client.checkOnline now))
  offlineBreakGlass : ∀ ttl, Within T (callClient (R.client.offlineBreakGlass ttl))
  exportBrokerPrts : Within T (callClient R.client.exportBrokerPrts)
  importBrokerPrts : ∀ data, Within T (callClient (R.client.importBrokerPrts data))
  unixUserOnlineAuthInit : ∀ accountId token service noHelloPin forceReauth, Within T
    (callKeystore (R.client.unixUserOnlineAuthInit accountId token service noHelloPin forceReauth))
  unixUserOfflineAuthInit : ∀ accountId token noHelloPin,
    Within T (callKeystore (R.client.unixUserOfflineAuthInit accountId token noHelloPin))
  getCachestate : ∀ accountId, Within T (callKeystore (R.client.getCachestate accountId))

namespace Resolver.Admits

variable {R : Resolver P} {T : ResolverState P → ResolverState P → Prop} (h : R.Admits T)

include h

/-! ## 2. Caches and tokens -/

section Primitives

variable {Ok : List Mutex → Mutex → Prop} {held : List Mutex}

theorem now_moves : Moves Ok T held held now := .call fun _ => h.apart rfl rfl rfl

theorem dbGet_moves (f : Database → α) : Moves Ok T held held (dbGet f) :=
  .call fun _ => h.apart rfl rfl rfl

theorem dbWrite_moves (hok : Ok held .db) : Moves Ok T held (.db :: held) Resolver.dbWrite :=
  ⟨⟨hok, fun _ => rfl⟩, h.dbWrite⟩

theorem dbCommit_moves : Moves Ok T held (held.erase .db) Resolver.dbCommit :=
  ⟨fun _ => rfl, h.dbCommit⟩

theorem dbDrop_moves : Moves Ok T held (held.erase .db) Resolver.dbDrop :=
  ⟨fun _ => rfl, h.dbDrop⟩

omit h in
theorem callWithHsm_moves {f : KeyStore → P → α × KeyStore × P}
    (hcall : Within T (callWithHsm f)) : Walks T (callWithHsm f) :=
  ⟨.lock_bind (.inl rfl) ⟨by decide, fun _ => .call_bind fun _ => .unlock_bind fun _ => rfl⟩, hcall⟩

/-- `nxcache` before `db`. -/
theorem clearCache_moves : Walks T R.clearCache := by
  refine ⟨.lock_bind (.inl rfl) <| .modify_bind ⟨by decide, fun _ => .call_bind fun r => ?_⟩,
    h.clearCache⟩
  cases r with
  | error _ => exact fun _ => .unlock_bind rfl
  | ok _ => exact fun _ => .call_bind fun _ => .unlock_bind rfl

end Primitives

variable [Std.Refl T] [IsTrans (ResolverState P) T]

variable {held : List Mutex} {id : Id} {token : Option UserToken} {accountId : String}
  {noHelloPin : Bool}

omit [Std.Refl T] in
theorem inDb_moves {f : Unit → Op P α} (hf : Moves Nesting T [.db] [] (f ())) :
    Walks T (Resolver.dbWrite >>= f) :=
  .bind (h.dbWrite_moves (by decide)) fun _ => hf

theorem commitOrDrop_moves (res : Except CacheError Unit) :
    Moves Nesting T held (held.erase .db) (commitOrDrop res) := by
  unfold commitOrDrop
  split
  · exact .bind h.dbCommit_moves fun _ => .pure _
  · exact .bind h.dbDrop_moves fun _ => .pure _

theorem statement_moves {f : Database → Except CacheError Database}
    (hf : Within T (dbExec f)) :
    Walks T (do Resolver.dbWrite; commitOrDrop (← dbExec f)) :=
  h.inDb_moves <| .bind (.call hf) h.commitOrDrop_moves

omit h in
theorem checkNxset_moves (name : Option String) (idnumber : Option UInt32) :
    Walks T (checkNxset name idnumber) :=
  .bind (.lock (by decide)) fun _ =>
  .bind .get fun _ =>
  .bind .unlock fun _ =>
  .pure _

omit h in
theorem checkNxsetId_moves : Walks T (checkNxsetId id) := by
  cases id <;> exact checkNxset_moves _ _

theorem checkNxcache_moves (hok : Nesting held .nxcache) :
    Moves Nesting T held held (checkNxcache id) :=
  .bind (.lock hok) fun _ =>
  .bind (.call fun _ => h.apart rfl rfl rfl) fun _ =>
  .bind .unlock fun _ =>
  .pure _

theorem setNxcache_moves : Walks T (R.setNxcache id) :=
  .bind (.lock (by decide)) fun _ =>
  .bind h.now_moves fun _ =>
  .bind (.modify fun _ => h.apart rfl rfl rfl) fun _ =>
  ⟨rfl, .unlock _⟩

theorem reloadNxset_moves (entries : List (String × UInt32)) : Walks T (R.reloadNxset entries) :=
  .bind (.lock (by decide)) fun _ =>
  .bind (.modify fun _ => h.apart rfl rfl rfl) fun _ =>
  ⟨rfl, .unlock _⟩

theorem cachedOrNx_moves {β : Type} (row : Option (β × ℕ)) :
    Moves Nesting T [.db] [.db] (cachedOrNx id row) := by
  unfold cachedOrNx
  split
  · exact .bind h.now_moves fun _ => .pure _
  · refine .bind (h.checkNxcache_moves (by decide)) fun r => ?_
    split
    · exact .bind h.now_moves fun _ => .pure _
    · exact .pure _

theorem getCached_moves {β : Type} (query : Database → Except CacheError (Option (β × ℕ))) :
    Walks T (getCached query id) := by
  refine h.inDb_moves (.bind (h.dbGet_moves _) fun r => ?_)
  split
  · exact .bind h.dbDrop_moves fun _ => .pure _
  · refine .bind (h.cachedOrNx_moves _) fun _ => ?_
    exact .bind h.dbDrop_moves fun _ => .pure _

theorem read_moves (f : Database → α) :
    Walks T (do
      Resolver.dbWrite
      let res ← dbGet f
      Resolver.dbDrop
      return res) :=
  h.inDb_moves <|
  .bind (h.dbGet_moves f) fun _ =>
  .bind h.dbDrop_moves fun _ =>
  .pure _

theorem checkCacheUserpassword_moves (aUuid : Uuid) (cred : String) :
    Walks T (R.checkCacheUserpassword aUuid cred) := by
  refine h.inDb_moves (.bind (.lock (by decide)) fun _ => ?_)
  refine .bind (h.dbGet_moves _) fun r => ?_
  split
  · refine .bind h.dbCommit_moves fun _ => ?_
    exact .bind .unlock fun _ => .pure _
  · refine .bind h.dbDrop_moves fun _ => ?_
    exact .bind .unlock fun _ => .pure _

theorem setCacheUsertoken_moves (token : UserToken) : Walks T (R.setCacheUsertoken token) := by
  refine .bind h.now_moves fun _ => ?_
  refine .bind (.lock (by decide)) fun _ => ?_
  refine .bind .get fun _ => ?_
  refine .bind .unlock fun _ => h.inDb_moves ?_
  refine .bind (.call (h.cacheToken _ _)) fun r => ?_
  refine .bind (h.commitOrDrop_moves r) fun r => ?_
  split <;> exact .pure _

theorem setCacheGrouptoken_moves (token : GroupToken) : Walks T (R.setCacheGrouptoken token) :=
  .bind h.now_moves fun _ => h.statement_moves (h.updateGroup _ _)

theorem deleteCacheUsertoken_moves (aUuid : Uuid) : Walks T (deleteCacheUsertoken aUuid) :=
  h.statement_moves (h.deleteAccount _)

theorem deleteCacheGrouptoken_moves (gUuid : Uuid) : Walks T (deleteCacheGrouptoken gUuid) :=
  h.statement_moves (h.deleteGroup _)

theorem setCacheUserpassword_moves (aUuid : Uuid) (cred : String)
    (hpassword : ∀ entropy, Within T (dbExec fun db =>
      db.updateAccountPassword R.crypto entropy aUuid cred)) :
    Walks T (R.setCacheUserpassword aUuid cred) :=
  h.inDb_moves <|
  .bind (.lock (by decide)) fun _ =>
  .bind .get fun _ =>
  .bind (.modify fun _ => h.apart rfl rfl rfl) fun _ =>
  .bind (.call (hpassword _)) fun r =>
  .bind (h.commitOrDrop_moves r) fun _ =>
  .bind .unlock fun _ =>
  .pure _

theorem invalidate_moves : Walks T Resolver.invalidate :=
  .bind (.lock (by decide)) fun _ =>
  .bind (.modify fun _ => h.apart rfl rfl rfl) fun _ =>
  .bind (h.dbWrite_moves (by decide)) fun _ =>
  .bind (.call h.invalidate) fun r =>
  .bind (h.commitOrDrop_moves r) fun _ =>
  .bind .unlock fun _ =>
  .pure _

theorem getCachestate_moves (accountId : Option String) {Ok : List Mutex → Mutex → Prop}
    (hok : Ok held .db) : Moves Ok T held held (R.getCachestate accountId) :=
  .bind (h.dbWrite_moves hok) fun _ =>
  .bind (.call (h.getCachestate accountId)) fun _ =>
  .bind h.dbCommit_moves fun _ =>
  .pure _

theorem getCachestate_walks (accountId : Option String) : Walks T (R.getCachestate accountId) :=
  h.getCachestate_moves accountId (.inl rfl)

theorem refreshUsertoken_moves : Walks T (R.refreshUsertoken id token) := by
  refine .bind (callWithHsm_moves (h.unixUserGet id token)) fun r => ?_
  split
  · refine .bind (h.setCacheUsertoken_moves _) fun r => ?_
    split <;> exact .pure _
  · split
    · refine .bind (h.deleteCacheUsertoken_moves _) fun r => ?_
      split
      · exact .pure _
      · exact .bind h.setNxcache_moves fun _ => .pure _
    · exact .bind h.setNxcache_moves fun _ => .pure _
  · exact .pure _
  · exact .pure _

theorem refreshGrouptoken_moves (token : Option GroupToken) :
    Walks T (R.refreshGrouptoken id token) := by
  refine .bind (.lock (by decide)) fun _ => ?_
  refine .bind (.call (h.unixGroupGet id)) fun r => ?_
  refine .bind .unlock fun _ => ?_
  split
  · refine .bind (checkNxset_moves _ _) fun denied => ?_
    split
    · refine .bind (h.deleteCacheGrouptoken_moves _) fun r => ?_
      split <;> exact .pure _
    · refine .bind (h.setCacheGrouptoken_moves _) fun r => ?_
      split <;> exact .pure _
  · exact .pure _

theorem testConnection_moves : Walks T R.testConnection := by
  refine .bind (h.getCachestate_walks none) fun state => ?_
  split
  · exact .pure _
  · refine .bind (.lock (by decide)) fun _ => ?_
    refine .bind h.now_moves fun now => ?_
    refine .bind (.call (h.checkOnline now)) fun _ => ?_
    exact .bind .unlock fun _ => .pure _
  · exact .pure _

theorem getUsertoken_moves : Walks T (R.getUsertoken id) := by
  refine .bind (checkNxsetId_moves) fun denied => ?_
  split
  · exact .pure _
  · refine .bind (h.getCached_moves _) fun r => ?_
    split
    · exact .pure _
    · refine .bind (h.getCachestate_walks _) fun state => ?_
      split
      · exact .pure _
      · exact .pure _
      · exact .pure _
      · refine .bind h.now_moves fun now => ?_
        split
        · refine .bind h.testConnection_moves fun online => ?_
          split
          · exact h.refreshUsertoken_moves
          · exact .pure _
        · exact .pure _
      · exact h.refreshUsertoken_moves

theorem usertokenMap_moves (f : UserToken → β) : Walks T (do
      match ← R.getUsertoken id with
      | .error () => return .error ()
      | .ok token => return .ok (token.map f) : Op P (Except Unit (Option β))) := by
  refine .bind h.getUsertoken_moves fun r => ?_
  split <;> exact .pure _

theorem getGroupmembers_moves (gUuid : Uuid) : Walks T (R.getGroupmembers gUuid) :=
  h.inDb_moves <|
  .bind (h.dbGet_moves _) fun _ =>
  .bind h.dbDrop_moves fun _ =>
  .pure _

theorem getNssaccounts_moves : Walks T R.getNssaccounts :=
  .bind (h.read_moves _) fun _ => .pure _

theorem nssGroupOf_moves (tok : GroupToken) : Walks T (R.nssGroupOf tok) :=
  .bind (h.getGroupmembers_moves _) fun _ => .pure _

theorem nssGroupsOf_moves (toks : List GroupToken) : Walks T (R.nssGroupsOf toks) := by
  induction toks with
  | nil => exact .pure _
  | cons tok toks ih =>
    refine .bind (h.nssGroupOf_moves tok) fun _ => ?_
    exact .bind ih fun _ => .pure _

theorem getNssgroups_moves : Walks T R.getNssgroups :=
  .bind (h.read_moves _) fun _ => h.nssGroupsOf_moves _

theorem getNssgroup_moves : Walks T (R.getNssgroup id) := by
  have hget : Walks T (R.getGrouptoken id) := by
    refine .bind (h.getCached_moves _) fun r => ?_
    split
    · exact .pure _
    · exact .pure _
  refine .bind hget fun r => ?_
  split
  · exact .pure _
  · exact .pure _
  · exact .bind (h.nssGroupOf_moves _) fun _ => .pure _

/-! ## 3. Calls on behalf of a user -/

theorem withUsertoken_moves {ask : UserToken → KeyStore → P → β × KeyStore × P}
    (hask : ∀ token, Within T (callWithHsm (ask token))) :
    Walks T (R.withUsertoken id ask) := by
  refine .bind (checkNxsetId_moves) fun denied => ?_
  split
  · exact .pure _
  · refine .bind h.getUsertoken_moves fun r => ?_
    split
    · exact .bind (callWithHsm_moves (hask _)) fun _ => .pure _
    · exact .pure _

theorem getUserAccesstoken_moves (scopes : List String)
    (clientId redirectUri reqCnf : Option String) :
    Walks T (R.getUserAccesstoken id scopes clientId redirectUri reqCnf) :=
  .bind (h.withUsertoken_moves fun _ => h.unixUserAccess _ _ _ _ _ _) fun _ => .pure _

theorem getUserTgts_moves : Walks T (R.getUserTgts id) :=
  .bind (h.withUsertoken_moves fun _ => h.unixUserTgts _ _) fun _ => .pure _

theorem getUserPrtCookie_moves (ssoNonce : Option String) :
    Walks T (R.getUserPrtCookie id ssoNonce) :=
  .bind (h.withUsertoken_moves fun _ => h.unixUserPrtCookie _ _ _) fun _ => .pure _

omit h in
theorem changeAuthToken_moves {token : UnixUserToken} {newTok : String}
    (hcall : Within T (callWithHsm (R.client.changeAuthToken accountId token newTok))) :
    Walks T (R.changeAuthToken accountId token newTok) := by
  refine .bind (checkNxset_moves _ _) fun denied => ?_
  split
  · exact .pure _
  · refine .bind (callWithHsm_moves hcall) fun r => ?_
    split <;> exact .pure _

theorem offlineBreakGlass_moves (ttl : Option ℕ) : Walks T (R.offlineBreakGlass ttl) := by
  refine .bind (.call (h.offlineBreakGlass ttl)) fun r => ?_
  split <;> exact .pure _

theorem pamAccountAllowed_moves : Walks T (R.pamAccountAllowed accountId) := by
  refine .bind h.getUsertoken_moves fun r => ?_
  split
  · exact .pure _
  · split <;> exact .pure _

/-! ## 4. Sessions -/

theorem authInitPrelude_moves : Walks T (R.authInitPrelude accountId) := by
  refine .bind (checkNxset_moves _ _) fun denied => ?_
  split
  · exact .pure _
  · refine .bind (h.getCached_moves _) fun r => ?_
    split
    · exact .pure _
    · have hrefresh : ∀ token, Walks T (R.cachedOrRefresh accountId token) := by
        intro token
        cases token with
        | none => exact h.refreshUsertoken_moves
        | some token => exact .pure _
      refine .bind (hrefresh _) fun r => ?_
      split
      · exact .pure _
      · refine .bind (h.getCachestate_walks _) fun state => ?_
        split
        · exact .pure _
        · exact .bind h.testConnection_moves fun _ => .pure _

theorem authInitOnlineResult_moves (forceReauth : Bool)
    (r : Except IdpError (AuthRequest × AuthCredHandler)) :
    Moves NestingOrSelf T [.db, .hsm] [.db, .hsm]
      (R.authInitOnlineResult accountId token noHelloPin forceReauth r) := by
  cases r with
  | ok res => exact .pure _
  | error e =>
    change Moves _ _ _ _ (R.authInitFallback _ _ _ _ e)
    unfold Resolver.authInitFallback
    split
    · exact .pure _
    · -- the second `db` is asked for here
      refine .bind (h.getCachestate_moves _ (.inr ⟨rfl, rfl⟩)) fun state => ?_
      split
      · exact .pure _
      · exact .call (h.unixUserOfflineAuthInit _ _ _)

theorem authInitOnline_moves (service : String) (forceReauth : Bool) :
    Moves NestingOrSelf T [] []
      (R.authInitOnline accountId service token noHelloPin forceReauth) :=
  .bind (.lock (.inl (by decide))) fun _ =>
  .bind (h.dbWrite_moves (.inl (by decide))) fun _ =>
  .bind (.call (h.unixUserOnlineAuthInit _ _ _ _ _)) fun r =>
  .bind (h.authInitOnlineResult_moves _ r) fun _ =>
  .bind h.dbDrop_moves fun _ =>
  .bind .unlock fun _ =>
  .pure _

theorem authInitOffline_moves : Walks T (R.authInitOffline accountId token noHelloPin) :=
  h.inDb_moves <|
  .bind (.call (h.unixUserOfflineAuthInit _ _ _)) fun _ =>
  .bind h.dbDrop_moves fun _ =>
  .pure _

theorem pamAccountAuthenticateInit_moves (accountId service : String)
    (noHelloPin forceReauth : Bool) :
    Moves NestingOrSelf T [] []
      (R.pamAccountAuthenticateInit accountId service noHelloPin forceReauth) := by
  refine .bind h.authInitPrelude_moves.orSelf fun r => ?_
  split
  · exact .pure _
  · exact .pure _
  · split
    · exact .bind (h.authInitOnline_moves _ _) fun _ => .pure _
    · split
      · exact .pure _
      · exact .bind h.authInitOffline_moves.orSelf fun _ => .pure _

theorem authStepFinish_moves (session : AuthSession) (res : Except IdpError AuthResult) :
    Walks T (R.authStepFinish session res) := by
  unfold Resolver.authStepFinish
  split
  · refine .bind (checkNxset_moves _ _) fun denied => ?_
    split
    · refine .bind (h.deleteCacheUsertoken_moves _) fun r => ?_
      split <;> exact .pure _
    · refine .bind (h.setCacheUsertoken_moves _) fun r => ?_
      split <;> exact .pure _
  · exact .pure _
  · exact .pure _
  · exact .pure _
  · exact .pure _

theorem authStepOffline_moves (session : InProgress) (token : UserToken) (req : PamAuthRequest)
    (hcall : Within T (callWithHsm (R.client.unixUserOfflineAuthStep session.accountId token
      session.credHandler req session.onlineAtInit))) :
    Walks T (R.authStepOffline session token req) := by
  unfold Resolver.authStepOffline
  split
  · exact .pure _
  · split
    · refine .bind (h.checkCacheUserpassword_moves _ _) fun r => ?_
      split <;> exact .pure _
    · exact .pure _
    · exact .pure _
    · exact .pure _
    · exact .bind (callWithHsm_moves hcall) fun _ => .pure _
    · exact .bind (callWithHsm_moves hcall) fun _ => .pure _
    · exact .pure _

theorem applyCacheAction_moves (token : UserToken)
    (r : Except IdpError (AuthResult × AuthCacheAction))
    (hpassword : ∀ entropy uuid cred, Within T (dbExec fun db =>
      db.updateAccountPassword R.crypto entropy uuid cred)) :
    Walks T (R.applyCacheAction token r) := by
  unfold Resolver.applyCacheAction
  split
  · exact .pure _
  · refine .bind (h.setCacheUserpassword_moves _ _ fun _ => hpassword _ _ _) fun r => ?_
    split <;> exact .pure _
  · refine .bind (h.setCacheUserpassword_moves _ _ fun _ => hpassword _ _ _) fun r => ?_
    split <;> exact .pure _
  · exact .pure _
  · exact .pure _

/-! ## 5. Every operation -/

theorem pamTryUnseal_moves (accountId cred : String)
    (hstep : ∀ session, Walks T (R.pamAccountAuthenticateStep session (.pin cred))) :
    Moves NestingOrSelf T [] [] (R.pamTryUnseal accountId cred) := by
  refine .bind (h.pamAccountAuthenticateInit_moves _ _ _ _) fun r => ?_
  split
  · exact .pure _
  · refine .bind (hstep _).orSelf fun r => ?_
    split <;> exact .pure _
  · exact .pure _
  · exact .pure _

/-- An operation, given what a step, a new PIN and the opening of a session do if it is one of
    them. -/
theorem prog_moves {Ok : List Mutex → Mutex → Prop} (hOk : ∀ held m, Nesting held m → Ok held m)
    (op : ResolverOp)
    (hchange : ∀ accountId token newTok, op = .changeAuthToken accountId token newTok →
      Walks T (R.changeAuthToken accountId token newTok))
    (hstep : ∀ session req, op = .pamAccountAuthenticateStep session req →
      Walks T (R.pamAccountAuthenticateStep session req))
    (hinit : ∀ accountId service noHelloPin forceReauth,
      op = .pamAccountAuthenticateInit accountId service noHelloPin forceReauth →
      Moves Ok T [] [] (R.pamAccountAuthenticateInit accountId service noHelloPin forceReauth))
    (hunseal : ∀ accountId cred, op = .pamTryUnseal accountId cred →
      Moves Ok T [] [] (R.pamTryUnseal accountId cred)) :
    Moves Ok T [] [] (op.prog R) := by
  have hread : ∀ {β} {p : Op P β}, Walks T p → Moves Ok T [] [] (do let _ ← p; return ()) :=
    fun hp => .bind (hp.mono hOk) fun _ => .pure _
  cases op with
  | exportBrokerPrts => exact hread (.call h.exportBrokerPrts)
  | importBrokerPrts data => exact hread (.call (h.importBrokerPrts data))
  | clearCache => exact hread h.clearCache_moves
  | invalidate => exact hread h.invalidate_moves
  | checkNxcache id => exact hread (h.checkNxcache_moves (by decide))
  | reloadNxset entries => exact (h.reloadNxset_moves entries).mono hOk
  | checkNxset name idnumber => exact hread (checkNxset_moves name idnumber)
  | getCachedUsertoken id => exact hread (h.getCached_moves _)
  | getCachedGrouptoken id => exact hread (h.getCached_moves _)
  | refreshUsertoken id token => exact hread h.refreshUsertoken_moves
  | refreshGrouptoken id token => exact hread (h.refreshGrouptoken_moves token)
  | getUserAccesstoken id scopes clientId redirectUri reqCnf =>
    exact hread (h.getUserAccesstoken_moves _ _ _ _)
  | getUserTgts id => exact hread h.getUserTgts_moves
  | getUserPrtCookie id ssoNonce => exact hread (h.getUserPrtCookie_moves ssoNonce)
  | changeAuthToken accountId token newTok => exact hread (hchange _ _ _ rfl)
  | offlineBreakGlass ttl => exact hread (h.offlineBreakGlass_moves ttl)
  | getUsertoken id => exact hread h.getUsertoken_moves
  | getGroupmembers gUuid => exact hread (h.getGroupmembers_moves gUuid)
  | getNssaccounts => exact hread h.getNssaccounts_moves
  | getNssaccountName accountId => exact hread (h.usertokenMap_moves _)
  | getNssaccountGid gid => exact hread (h.usertokenMap_moves _)
  | getNssgroups => exact hread h.getNssgroups_moves
  | getNssgroupName grpId => exact hread h.getNssgroup_moves
  | getNssgroupGid gid => exact hread h.getNssgroup_moves
  | getInitgroups accountId => exact hread (h.usertokenMap_moves _)
  | pamAccountAllowed accountId => exact hread h.pamAccountAllowed_moves
  | pamAccountAuthenticateInit accountId service noHelloPin forceReauth =>
    exact .bind (hinit _ _ _ _ rfl) fun _ => .pure _
  | pamAccountAuthenticateStep session req => exact hread (hstep _ _ rfl)
  | pamTryUnseal accountId cred => exact .bind (hunseal _ _ rfl) fun _ => .pure _
  | pamAccountBeginsession accountId => exact hread (h.usertokenMap_moves _)
  | testConnection => exact hread h.testConnection_moves

end Resolver.Admits

end Himmelblau
