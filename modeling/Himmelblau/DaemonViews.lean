/-
  **What a request does to an account.**  The operations of the resolver are followed from
  the provider's calls up to the requests that the daemon handles: along which steps
  (`CallStep`) each of them takes the view of an account.

  While a transaction is open, its snapshot has to agree with the keystore on the account's
  tags; then rolling it back is no step at all.
-/
import Himmelblau.Daemon
import Himmelblau.EntraCalls
import Himmelblau.ResolverWalk

namespace Himmelblau

open Interface Db LockProgram Entra Relation Resolver

variable {W α β : Type}

/-! ## 1. Following an account -/

namespace Daemon

variable (D : Daemon W) (Seals : SealedUnder) (a : String)

def viewOf (s : ResolverState (ProviderState W)) : View :=
  D.provider.view a s.db.hsmDataT s.client

/-- The snapshot of an open transaction has the account's tags as they are. -/
def SnapshotAgrees (s : ResolverState (ProviderState W)) : Prop :=
  ∀ db, s.txn = some db → ∀ t, db.hsmDataT (D.provider.tag a t) = s.db.hsmDataT (D.provider.tag a t)

/-- The view of the account moves along steps, of which `may` allows the new keys. -/
def Tracks (may : View → Bool → Prop) (s s' : ResolverState (ProviderState W)) : Prop :=
  D.SnapshotAgrees a s →
    D.SnapshotAgrees a s' ∧ D.provider.Calls Seals a may (D.viewOf a s) (D.viewOf a s')

instance (may : View → Bool → Prop) : Std.Refl (D.Tracks Seals a may) := ⟨fun _ h => ⟨h, .refl⟩⟩

instance (may : View → Bool → Prop) :
    IsTrans (ResolverState (ProviderState W)) (D.Tracks Seals a may) :=
  ⟨fun _ _ _ h h' hs => ⟨(h' (h hs).1).1, (h hs).2.trans (h' (h hs).1).2⟩⟩

def NoKey : View → Bool → Prop := fun _ _ => False

variable {D Seals a} {may may' : View → Bool → Prop} {s s' : ResolverState (ProviderState W)}

theorem Tracks.mono (hmay : ∀ v amr, may v amr → may' v amr) (h : D.Tracks Seals a may s s') :
    D.Tracks Seals a may' s s' := fun hs => ⟨(h hs).1, (h hs).2.mono hmay⟩

/-! ## 2. The primitives -/

theorem Tracks.of_eq (htxn : s'.txn = s.txn) (hdb : s'.db.hsmDataT = s.db.hsmDataT)
    (hclient : s'.client = s.client) : D.Tracks Seals a may s s' := fun hs => by
  refine ⟨fun db h t => ?_, .of_eq ?_⟩
  · rw [hdb]
    exact hs db (htxn ▸ h) t
  · unfold viewOf
    rw [hdb, hclient]

variable (D Seals a may)

abbrev Follows (p : Op (ProviderState W) α) : Prop := Prog.Within (D.Tracks Seals a may) p

variable {D Seals a may}

theorem follows_dbWrite : D.Follows Seals a may dbWrite := fun _ _ =>
  ⟨fun _ h _ => (Option.some.inj h) ▸ rfl, .refl⟩

theorem follows_dbCommit : D.Follows Seals a may dbCommit := fun _ _ =>
  ⟨fun _ h => (nomatch h), .refl⟩

theorem follows_dbDrop : D.Follows Seals a may dbDrop := fun s hs => by
  refine ⟨fun _ h => (nomatch h), .of_eq ?_⟩
  cases htxn : s.txn with
  | none =>
    change D.provider.view a (s.txn.getD s.db).hsmDataT s.client = _
    rw [htxn]
    rfl
  | some db =>
    change D.provider.view a (s.txn.getD s.db).hsmDataT s.client = _
    rw [htxn]
    unfold viewOf HimmelblauProvider.view
    congr 1
    funext t
    exact hs db htxn t

theorem follows_dbExec {f : Database → Except CacheError Database}
    (hf : ∀ db db', f db = .ok db' → db'.hsmDataT = db.hsmDataT) :
    D.Follows Seals a may (dbExec f) := fun s => by
  unfold dbExec
  rw [Prog.exec_call]
  split
  · rename_i db hdb
    exact .of_eq rfl (hf _ _ hdb) rfl
  · exact .of_eq rfl rfl rfl

variable {f : KeyStore → ProviderState W → α × KeyStore × ProviderState W}

theorem follows_callKeystore
    (hf : ∀ ks p, D.provider.view a (f ks p).2.1 (f ks p).2.2 = D.provider.view a ks p) :
    D.Follows Seals a may (callKeystore f) := fun s hs => by
  have hview := hf s.db.hsmDataT s.client
  refine ⟨fun db h t => (hs db h t).trans ?_, .of_eq hview⟩
  exact (congrFun (congrArg View.tags hview) t).symm

theorem follows_callClient {f : ProviderState W → α × ProviderState W}
    (hf : ∀ ks p, D.provider.view a ks (f p).2 = D.provider.view a ks p) :
    D.Follows Seals a may (callClient f) := fun s hs =>
  ⟨hs, .of_eq (hf s.db.hsmDataT s.client)⟩

theorem tracks_callWithHsm
    (hf : D.provider.Calls Seals a may (D.viewOf a s)
      (D.provider.view a (f s.db.hsmDataT s.client).2.1 (f s.db.hsmDataT s.client).2.2)) :
    D.Tracks Seals a may s ((callWithHsm f).exec s).2 := by
  rw [exec_callWithHsm]
  exact fun _ => ⟨fun _ h => (nomatch h), hf⟩

theorem follows_callWithHsm
    (hf : ∀ ks p, D.provider.Calls Seals a may (D.provider.view a ks p)
      (D.provider.view a (f ks p).2.1 (f ks p).2.2)) :
    D.Follows Seals a may (callWithHsm f) := fun _ => tracks_callWithHsm (hf _ _)

/-! ## 3. The pieces of the operations -/

variable (laws : SealingLaws D.provider Seals)

section Operations

variable (D Seals a may)

theorem view_clearHelloKeys (db : Database) (p : ProviderState W) :
    D.provider.view a db.clearHelloKeys.hsmDataT p = (D.provider.view a db.hsmDataT p).clear := by
  unfold HimmelblauProvider.view View.clear HimmelblauProvider.tag
  congr 1
  funext t
  cases t with
  | hello => exact db.clearHelloKeys_gone _ (by decide)
  | decoupled => exact db.clearHelloKeys_gone _ (by decide)
  | prt => exact db.clearHelloKeys_gone _ (by decide)
  | refreshToken =>
    exact db.clearHelloKeys_stays _ "/hello_refresh_toke".toList 'n' rfl (by decide)
  | totp =>
    exact db.clearHelloKeys_stays _ "/hello_tot".toList 'p' rfl (by decide)

theorem exec_clearCache (s : ResolverState (ProviderState W)) :
    (D.resolver.clearCache.exec s).2.txn = none ∧
      (D.resolver.clearCache.exec s).2.db = s.db.clear.clearHelloKeys ∧
      (D.resolver.clearCache.exec s).2.client = s.client := by
  unfold Resolver.clearCache
  simp only [Prog.exec_bind, Prog.exec_lock, Prog.exec_modify, dbWrite, dbExec,
    Prog.exec_call, commitOrDrop, dbCommit, Prog.exec_unlock, Prog.exec_pure]
  cases s.serverConfig <;> cases D.resolver.configRemovable <;> exact ⟨rfl, rfl, rfl⟩

theorem follows_clearCache : D.Follows Seals a may D.resolver.clearCache := by
  intro s _
  obtain ⟨htxn, hdb, hclient⟩ := D.exec_clearCache s
  refine ⟨fun db h => ?_, .single ?_⟩
  · rw [htxn] at h
    cases h
  · have hview : D.viewOf a (D.resolver.clearCache.exec s).2 = (D.viewOf a s).clear := by
      unfold viewOf
      rw [hdb, hclient, D.view_clearHelloKeys]
      rfl
    exact hview ▸ .cleared _

variable {D Seals a may} in
theorem admits : D.resolver.Admits (D.Tracks Seals a may) where
  apart hdb htxn hclient := .of_eq htxn (congrArg Database.hsmDataT hdb) hclient
  dbWrite := follows_dbWrite
  dbCommit := follows_dbCommit
  dbDrop := follows_dbDrop
  cacheToken token expire := by
    refine follows_dbExec fun db db' h => ?_
    obtain ⟨-, _, -, rfl⟩ := cacheToken_eq_ok h
    rfl
  updateGroup token expire := by
    refine follows_dbExec fun db db' h => ?_
    unfold Database.updateGroup at h
    split at h <;> cases h
    rfl
  deleteAccount uuid := follows_dbExec <| by
    rintro db _ ⟨⟩
    rfl
  deleteGroup uuid := follows_dbExec <| by
    rintro db _ ⟨⟩
    rfl
  invalidate := follows_dbExec <| by
    rintro db _ ⟨⟩
    rfl
  clearCache := D.follows_clearCache Seals a may
  -- a refresh may validate a token on the way
  unixUserGet id token := follows_callWithHsm fun ks p => by
    rw [D.client_eq]
    exact D.provider.unixUserGet_calls Seals ks p
  unixUserAccess id scopes token clientId redirectUri reqCnf :=
    follows_callWithHsm fun ks p => .of_eq <| by
      rw [D.client_eq]
      exact (D.provider.unixUserAccess_silent _ _ _ _).view_run ⟨ks, p, .none⟩
  unixUserTgts id token := follows_callWithHsm fun ks p => .of_eq <| by
    rw [D.client_eq]
    exact D.provider.unixUserTgts_silent.view_run ⟨ks, p, .none⟩
  unixUserPrtCookie id token ssoNonce := follows_callWithHsm fun ks p => .of_eq <| by
    rw [D.client_eq]
    exact (D.provider.unixUserPrtCookie_silent _).view_run ⟨ks, p, .none⟩
  unixGroupGet id := follows_callClient fun ks p => by
    rw [D.client_eq]
    rfl
  checkOnline now := follows_callClient fun ks p => by
    rw [D.client_eq]
    exact (D.provider.checkOnline_calm now).idle.silent.view_runPlain ks p
  offlineBreakGlass ttl := follows_callClient fun ks p => by
    rw [D.client_eq]
    exact (D.provider.offlineBreakGlass_silent ttl).view_runPlain ks p
  exportBrokerPrts := follows_callClient fun ks p => by
    rw [D.client_eq]
    exact D.provider.exportBrokerPrts_silent.view_runPlain ks p
  importBrokerPrts data := follows_callClient fun ks p => by
    rw [D.client_eq]
    exact (D.provider.importBrokerPrts_silent data).view_runPlain ks p
  unixUserOnlineAuthInit accountId token service noHelloPin forceReauth :=
    follows_callKeystore fun ks p => by
      rw [D.client_eq]
      exact (D.provider.unixUserOnlineAuthInit_opens service forceReauth).run.1.see a
  unixUserOfflineAuthInit accountId token noHelloPin := follows_callKeystore fun ks p => by
    rw [D.client_eq]
    exact (D.provider.himmelblauOfflineAuthInit_opens true).run.1.see a
  getCachestate accountId := follows_callKeystore fun ks p => by
    rw [D.client_eq]
    rfl

/-! ## 4. A step of a session -/

theorem follows_updateAccountPassword (entropy : Nat) (aUuid : Uuid) (cred : String) :
    D.Follows Seals a may (dbExec fun db =>
      db.updateAccountPassword D.resolver.crypto entropy aUuid cred) := by
  refine follows_dbExec fun db db' h => ?_
  unfold Database.updateAccountPassword at h
  split at h
  · cases h
  · cases h
    rfl

def SessionStores (session : AuthSession) (req : PamAuthRequest) (v : View) :
    View → Bool → Prop := fun v' amrNgcmfa =>
  ∃ p, session = .inProgress p ∧ p.accountId = a ∧
    HimmelblauProvider.StepStores p.credHandler req v v' amrNgcmfa

/-- The session is `a`'s, or that of an account whose name differs in more than case. -/
def Separate (session : AuthSession) : Prop :=
  ∀ p, session = .inProgress p → p.accountId = a ∨
    D.provider.outside.toLowercase p.accountId ≠ D.provider.outside.toLowercase a

variable {D Seals a may}

theorem viewOf_getCachestate (accountId : Option String) (s : ResolverState (ProviderState W)) :
    D.viewOf a ((D.resolver.getCachestate accountId).exec s).2 = D.viewOf a s := by
  rw [exec_getCachestate, D.client_eq]
  rfl

include laws

theorem follows_authStepOffline {session : InProgress}
    (hsep : session.accountId = a ∨ D.provider.outside.toLowercase session.accountId ≠
      D.provider.outside.toLowercase a) (token : UserToken) (req : PamAuthRequest) :
    D.Follows Seals a may (D.resolver.authStepOffline session token req) := by
  refine (admits.authStepOffline_moves session token req
    (follows_callWithHsm fun ks p => ?_)).within
  rw [D.client_eq]
  exact D.provider.unixUserOfflineAuthStep_calls Seals laws token req _ hsep

theorem tracks_authStepBranch {session : AuthSession}
    (hsep : D.Separate a session) (req : PamAuthRequest) (state : CacheState)
    (s : ResolverState (ProviderState W)) :
    D.Tracks Seals a (SessionStores a session req (D.viewOf a s)) s
      ((D.resolver.authStepBranch session req state).exec s).2 := by
  cases session with
  | success spn => exact Std.Refl.refl s
  | denied => exact Std.Refl.refl s
  | inProgress p =>
    unfold authStepBranch
    cases htoken : p.token with
    | none =>
      simp only [htoken]
      exact Std.Refl.refl s
    | some token =>
      simp only [htoken]
      split
      · simp only [Prog.exec_bind, authStepOnline, Prog.exec_pure]
        refine IsTrans.trans _ _ _ (tracks_callWithHsm ?_)
          ((admits.applyCacheAction_moves _ _
            (D.follows_updateAccountPassword Seals a _)).within _)
        rw [D.client_eq]
        exact (D.provider.unixUserOnlineAuthStep_calls Seals laws token p.service
          req (hsep p rfl)).mono fun v amr h => ⟨p, rfl, h.1, h.2⟩
      · simp only [Prog.exec_bind, Prog.exec_pure]
        exact follows_authStepOffline laws (hsep p rfl) token req s

theorem tracks_pamAccountAuthenticateStep {session : AuthSession}
    (hsep : D.Separate a session) (req : PamAuthRequest)
    (s : ResolverState (ProviderState W)) :
    D.Tracks Seals a (SessionStores a session req (D.viewOf a s)) s
      ((D.resolver.pamAccountAuthenticateStep session req).exec s).2 := by
  have hadmits :
      D.resolver.Admits (D.Tracks Seals a (SessionStores a session req (D.viewOf a s))) := admits
  have hstate := (hadmits.getCachestate_walks session.account).within s
  have hbranch := tracks_authStepBranch laws hsep req
    ((D.resolver.getCachestate session.account).exec s).1
    ((D.resolver.getCachestate session.account).exec s).2
  rw [viewOf_getCachestate] at hbranch
  unfold pamAccountAuthenticateStep
  rw [Prog.exec_bind, Prog.exec_bind]
  refine IsTrans.trans _ _ _ hstate (IsTrans.trans _ _ _ hbranch ?_)
  split
  split
  · exact Std.Refl.refl _
  · exact (hadmits.authStepFinish_moves _ _).within _

theorem follows_pamTryUnseal {accountId : String}
    (hsep : accountId = a ∨ D.provider.outside.toLowercase accountId ≠
      D.provider.outside.toLowercase a) (cred : String) :
    D.Follows Seals a may (D.resolver.pamTryUnseal accountId cred) := by
  intro s
  unfold pamTryUnseal
  rw [Prog.exec_bind]
  refine IsTrans.trans _ _ _ ((admits.pamAccountAuthenticateInit_moves
    accountId "try_unseal" false false).within s) ?_
  split
  · exact Std.Refl.refl _
  · rename_i session hinit
    have hsession : D.Separate a session := by
      rintro p rfl
      rw [D.resolver.accountId_of_init hinit]
      exact hsep
    have hnokey : ∀ v v' amr, SessionStores a session (.pin cred) v v' amr → may v' amr := by
      rintro v v' amr ⟨p, -, -, -, token, pin, -, hreq, -⟩
      cases hreq
    rw [Prog.exec_bind]
    refine IsTrans.trans _ _ _
      ((tracks_pamAccountAuthenticateStep laws hsession (.pin cred) _).mono (hnokey _)) ?_
    split <;> exact Std.Refl.refl _
  · exact Std.Refl.refl _
  · exact Std.Refl.refl _

omit laws

variable {accountId : String}

theorem tracks_changeAuthToken
    (hsep : accountId = a ∨
      D.provider.outside.toLowercase accountId ≠ D.provider.outside.toLowercase a)
    (token : UnixUserToken) (newTok : String) (s : ResolverState (ProviderState W)) :
    D.Tracks Seals a (fun v amr => accountId = a ∧ v = D.viewOf a s ∧ token.amrNgcmfa = some amr) s
      ((D.resolver.changeAuthToken accountId token newTok).exec s).2 := by
  unfold changeAuthToken
  rw [Prog.exec_bind, exec_checkNxset]
  split
  · exact Std.Refl.refl _
  · have hcall : D.Tracks Seals a
        (fun v amr => accountId = a ∧ v = D.viewOf a s ∧ token.amrNgcmfa = some amr) s
        ((callWithHsm (D.resolver.client.changeAuthToken accountId token newTok)).exec
          s).2 := by
      refine tracks_callWithHsm ?_
      rw [D.client_eq]
      exact D.provider.changeAuthToken_calls Seals newTok hsep
    rw [Prog.exec_bind]
    refine IsTrans.trans _ _ _ hcall ?_
    split <;> exact Std.Refl.refl _

end Operations

/-! ## 5. Requests -/

section Requests

variable (D) (a)

def InputStores (s : DaemonState W) : Input → View → Bool → Prop
  | .client conn _ (.pamAuthenticateStep req) => fun v amrNgcmfa =>
    ∃ session, s.sessions conn = some session ∧
      SessionStores a session req (D.viewOf a s.resolver) v amrNgcmfa
  | .client _ _ (.pamChangeAuthToken accountId accessToken refreshToken _) => fun v amrNgcmfa =>
    D.toLowercase accountId = a ∧ v = D.viewOf a s.resolver ∧
      (D.tokenOf accessToken refreshToken).amrNgcmfa = some amrNgcmfa
  | _ => NoKey

variable {D a} {may : View → Bool → Prop}

variable {accountId : String} {uid : UInt32} {s : DaemonState W}

theorem follows_applyIntunePolicyForAccount :
    D.Follows Seals a may (D.applyIntunePolicyForAccount accountId) :=
  .bind (admits.getUserAccesstoken_moves _ _ _ _).within fun _ =>
  .bind (admits.getUserAccesstoken_moves _ _ _ _).within fun _ =>
  .bind (admits.getUserAccesstoken_moves _ _ _ _).within fun _ =>
  .pure _

theorem follows_afterLogin : D.Follows Seals a may (D.afterLogin accountId) := by
  have hscript : D.Follows Seals a may (D.logonScriptToken accountId) := by
    unfold logonScriptToken
    split
    · exact .bind (admits.getUserAccesstoken_moves _ _ _ _).within fun _ => .pure _
    · exact .pure _
  refine .bind hscript fun _ => ?_
  refine .bind admits.getUserTgts_moves.within fun _ => ?_
  refine .bind (admits.getUserAccesstoken_moves _ _ _ _).within fun _ => ?_
  split
  · exact follows_applyIntunePolicyForAccount
  · exact .pure _

theorem follows_ifLoggedIn (resp : Except Unit PamAuthResponse) (session : AuthSession) :
    D.Follows Seals a may (D.ifLoggedIn resp session) := by
  unfold ifLoggedIn
  split
  · exact follows_afterLogin
  · exact .pure _

theorem follows_rootClearCache : D.Follows Seals a may (D.clearCache uid) := by
  unfold clearCache
  split
  · exact .bind (D.follows_clearCache Seals a may) fun _ => .pure _
  · exact .pure _

theorem follows_rootBreakGlass (ttl : Option ℕ) :
    D.Follows Seals a may (D.offlineBreakGlass uid ttl) := by
  unfold offlineBreakGlass
  split
  · exact .bind (admits.offlineBreakGlass_moves ttl).within fun _ => .pure _
  · exact .pure _

theorem follows_complianceCheck : D.Follows Seals a may (D.complianceCheck uid) := by
  unfold complianceCheck
  split
  · refine .bind (admits.usertokenMap_moves _).within fun r => ?_
    split
    · exact follows_applyIntunePolicyForAccount
    · exact .pure _
  · exact .pure _

theorem follows_beginSession : D.Follows Seals a may (D.beginSession accountId) := by
  have hgroups : ∀ groups : List Uuid, D.Follows Seals a may
      (groups.forM fun g => do let _ ← D.resolver.getGroupmembers g) := by
    intro groups
    induction groups with
    | nil => exact .pure _
    | cons g groups ih =>
      refine .bind ?_ fun _ => ih
      exact .bind (admits.getGroupmembers_moves g).within fun _ => .pure _
  refine .bind (admits.usertokenMap_moves _).within fun r => ?_
  split
  · exact hgroups _
  · exact .pure _

include laws

theorem tracks_authenticateStep {session : Option AuthSession}
    (hsep : ∀ session', session = some session' → D.Separate a session') (req : PamAuthRequest)
    (s : ResolverState (ProviderState W)) :
    D.Tracks Seals a (fun v amr => ∃ session', session = some session' ∧
        SessionStores a session' req (D.viewOf a s) v amr) s
      ((D.authenticateStep req session).exec s).2 := by
  cases session with
  | none => exact Std.Refl.refl _
  | some session =>
    unfold authenticateStep
    rw [Prog.exec_bind]
    refine IsTrans.trans _ _ _ ((tracks_pamAccountAuthenticateStep laws (hsep session rfl) req
      s).mono fun v amr h => ⟨session, rfl, h⟩) ?_
    refine Prog.Within.bind (follows_ifLoggedIn _ _) (fun _ => .pure _) _

theorem tracks_handleClient
    (hlower : ∀ x, D.toLowercase x = a ∨ D.toLowercase (D.toLowercase x) ≠ D.toLowercase a)
    (conn : ℕ) (req : ClientRequest)
    (hsep : ∀ session, s.sessions conn = some session → D.Separate a session) :
    D.Tracks Seals a (D.InputStores a s (.client conn uid req)) s.resolver
      ((D.handleClient uid (s.sessions conn) req).exec s.resolver).2 := by
  have hread : ∀ {β} {p : Op (ProviderState W) β} {x : Option AuthSession},
      ∀ {may}, D.Follows Seals a may p →
      D.Tracks Seals a may s.resolver ((do let _ ← p; return x).exec s.resolver).2 :=
    fun hp => Prog.Within.bind hp (fun _ => .pure _) _
  cases req with
  | nssAccounts => exact hread admits.getNssaccounts_moves.within
  | nssAccountByUid gid => exact hread (admits.usertokenMap_moves _).within
  | nssAccountByName b => exact hread (admits.usertokenMap_moves _).within
  | nssGroups => exact hread admits.getNssgroups_moves.within
  | nssGroupByGid gid => exact hread admits.getNssgroup_moves.within
  | nssGroupByName g => exact hread admits.getNssgroup_moves.within
  | nssInitgroups b => exact hread (admits.usertokenMap_moves _).within
  | pamAuthenticateInit b service noHelloPin forceReauth =>
    refine Prog.Within.bind (admits.pamAccountAuthenticateInit_moves _ _ _ _).within
      (fun r => ?_) _
    split <;> exact .pure _
  | pamAuthenticateStep req => exact tracks_authenticateStep laws hsep req s.resolver
  | pamAccountAllowed b => exact hread admits.pamAccountAllowed_moves.within
  | pamAccountBeginSession b => exact hread follows_beginSession
  | pamChangeAuthToken b accessToken refreshToken newPin =>
    rw [handleClient, Prog.exec_bind, Prog.exec_pure]
    exact tracks_changeAuthToken (hlower b) _ newPin s.resolver
  | invalidateCache => exact hread admits.invalidate_moves.within
  | clearCache => exact hread follows_rootClearCache
  | offlineBreakGlass ttl => exact hread (follows_rootBreakGlass ttl)
  | status => exact hread admits.testConnection_moves.within
  | complianceCheck => exact hread follows_complianceCheck
  | pamTryUnseal b cred => exact hread (follows_pamTryUnseal laws (hlower b) cred)

omit laws

theorem follows_other (op : ResolverOp) (h : op.isAuth = false) (may : View → Bool → Prop) :
    D.Follows Seals a may (op.prog D.resolver) := by
  refine (admits.prog_moves (fun _ _ => .inl) op ?_ ?_ (fun _ _ _ _ _ =>
    admits.pamAccountAuthenticateInit_moves _ _ _ _) ?_).within
  · rintro _ _ _ rfl
    cases h
  · rintro _ _ rfl
    cases h
  · rintro _ _ rfl
    cases h

/-! ## 6. Runs -/

variable (D a)

def SessionsLower (s : DaemonState W) : Prop :=
  ∀ conn p, s.sessions conn = some (.inProgress p) → ∃ x, p.accountId = D.toLowercase x

def AllSteps (ok : DaemonState W → Input → Prop) (s : DaemonState W) : List Input → Prop
  | [] => True
  | input :: inputs => ok s input ∧ AllSteps ok (D.step s input) inputs

variable {D a}

theorem handleClient_session {session : Option AuthSession} {req : ClientRequest}
    {s : ResolverState (ProviderState W)} {p : InProgress}
    (h : ((D.handleClient uid session req).exec s).1 = some (.inProgress p)) :
    (∃ x, p.accountId = D.toLowercase x) ∨
      ∃ p0, session = some (.inProgress p0) ∧ p.accountId = p0.accountId := by
  have hread : ∀ {β} {q : Op (ProviderState W) β},
      ((do let _ ← q; return session).exec s).1 = some (.inProgress p) →
      ∃ p0, session = some (.inProgress p0) ∧ p.accountId = p0.accountId := by
    intro β q h
    rw [Prog.exec_bind, Prog.exec_pure] at h
    exact ⟨p, h, rfl⟩
  cases req with
  | pamAuthenticateInit b service noHelloPin forceReauth =>
    simp only [handleClient, Prog.exec_bind] at h
    split at h
    · rename_i session' resp hinit
      obtain rfl : session' = .inProgress p := Option.some.inj h
      exact .inl ⟨b, D.resolver.accountId_of_init hinit⟩
    · exact .inr ⟨p, h, rfl⟩
  | pamAuthenticateStep req =>
    cases session with
    | none => cases h
    | some session =>
      simp only [handleClient, authenticateStep, Prog.exec_bind, Prog.exec_pure] at h
      have hstep : (D.resolver.stepLogin ⟨session, s⟩ req).session = .inProgress p :=
        Option.some.inj h
      obtain ⟨p0, handler, hp0, rfl⟩ := D.resolver.session_of_stepLogin hstep
      exact .inr ⟨p0, congrArg some hp0, rfl⟩
  | _ => exact .inr (hread h)

theorem sessionsLower_step (hs : D.SessionsLower s) (input : Input) :
    D.SessionsLower (D.step s input) := by
  cases input with
  | other op h => exact hs
  | client conn uid req =>
    intro conn' p hp
    by_cases hconn : conn' = conn
    · subst hconn
      simp only [step, Function.update_self] at hp
      rcases handleClient_session hp with hx | ⟨p0, hp0, heq⟩
      · exact hx
      · exact heq ▸ hs conn' p0 hp0
    · simp only [step, Function.update_of_ne hconn] at hp
      exact hs conn' p hp

theorem Started.sessionsLower (hs : Started s) : D.SessionsLower s := by
  intro conn p hp
  rw [hs.sessions] at hp
  cases hp

theorem Started.snapshotAgrees (hs : Started s) : D.SnapshotAgrees a s.resolver := by
  intro db hdb
  rw [hs.txn] at hdb
  cases hdb

theorem lower_or_ne (hidem : ∀ x, D.toLowercase (D.toLowercase x) = D.toLowercase x)
    (ha : D.toLowercase a = a) (x : String) :
    D.toLowercase x = a ∨ D.toLowercase (D.toLowercase x) ≠ D.toLowercase a := by
  rw [hidem, ha]
  exact em _

include laws

theorem tracks_step
    (hidem : ∀ x, D.toLowercase (D.toLowercase x) = D.toLowercase x) (ha : D.toLowercase a = a)
    (hs : D.SessionsLower s) (input : Input) :
    D.Tracks Seals a (D.InputStores a s input) s.resolver (D.step s input).resolver := by
  have hlower := lower_or_ne hidem ha
  cases input with
  | other op h => exact follows_other op h _ s.resolver
  | client conn uid req =>
    refine tracks_handleClient laws hlower conn req ?_
    rintro session hsession p rfl
    obtain ⟨x, hx⟩ := hs conn p hsession
    exact hx ▸ hlower x

theorem calls_run
    (hidem : ∀ x, D.toLowercase (D.toLowercase x) = D.toLowercase x) (ha : D.toLowercase a = a)
    {ok : DaemonState W → Input → Prop}
    (hok : ∀ s input v amr, ok s input → D.InputStores a s input v amr → may v amr)
    (inputs : List Input) (hs : D.SessionsLower s) (hsnap : D.SnapshotAgrees a s.resolver)
    (hall : D.AllSteps ok s inputs) : D.SnapshotAgrees a (D.run s inputs).resolver ∧
      D.provider.Calls Seals a may (D.viewOf a s.resolver)
        (D.viewOf a (D.run s inputs).resolver) := by
  induction inputs generalizing s with
  | nil => exact ⟨hsnap, .refl⟩
  | cons input inputs ih =>
    obtain ⟨hhere, hrest⟩ := hall
    obtain ⟨hsnap', hcalls⟩ := tracks_step laws hidem ha hs input hsnap
    obtain ⟨hsnap'', hcalls'⟩ := ih (sessionsLower_step hs input) hsnap' hrest
    exact ⟨hsnap'', (hcalls.mono fun v amr => hok s input v amr hhere).trans hcalls'⟩

end Requests

/-- Without a request that sets up or changes its PIN, an account of the Entra provider gets no new
    Hello key. -/
theorem hello_key_not_new {s : DaemonState W}
    (hidem : ∀ x, D.toLowercase (D.toLowercase x) = D.toLowercase x) (ha : D.toLowercase a = a)
    (hs : Started s) (inputs : List Input) {key : LoadableMsHelloKey × KeyType}
    (hall : D.AllSteps (fun s input => ∀ v amr, ¬ D.InputStores a s input v amr) s inputs)
    (hkey : D.provider.fetchHelloKey a (D.run s inputs).resolver.db.hsmDataT = .ok key) :
    D.provider.fetchHelloKey a s.resolver.db.hsmDataT = .ok key := by
  obtain ⟨-, hcalls⟩ : _ ∧ D.provider.Calls _ a NoKey _ _ :=
    calls_run (SealingLaws.trivial D.provider) hidem ha (fun _ _ v amr hok => hok v amr) inputs
      hs.sessionsLower hs.snapshotAgrees hall
  have hfetch : ∀ r, D.provider.fetchHelloKey a r.db.hsmDataT = .ok key ↔
      (D.viewOf a r).key = some key := fun r =>
    D.provider.fetchHelloKey_eq_ok (c := ⟨r.db.hsmDataT, r.client, .none⟩)
  rw [hfetch] at hkey ⊢
  generalize D.viewOf a (D.run s inputs).resolver = v at hcalls hkey
  induction hcalls with
  | refl => exact hkey
  | tail _ hstep ih =>
    apply ih
    cases hstep with
    | change h => simpa [hkey, eq_comm] using h.key_eq
    | stored _ _ hmay => exact hmay.elim
    | cleared => cases hkey

end Daemon

theorem hello_key_not_new_alice : (sampleProvider 3 false).fetchHelloKey "alice@example.com"
    aliceKeystore = .ok (⟨"123456"⟩, .hello) := by
  refine Daemon.hello_key_not_new (D := sampleDaemon 3 false) (fun _ => rfl) rfl
    (sampleState_started .online _) (sampleLogin [.pin "123456"])
    ⟨fun _ _ => id, ?_, trivial⟩ (by decide +kernel)
  rintro v amr ⟨_, _, _, _, _, _, _, _, _, hreq, _⟩
  cases hreq

end Himmelblau
