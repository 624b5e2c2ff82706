/-
  **Runs of one authentication session.**  A login is a session together with the
  resolver's state; a run hands one PAM request after the other to
  `pam_account_authenticate_step`.  Two things are observed of a step: what the
  provider answered when it was asked online (`onlineAnswer`), and the token the
  step succeeds with (`stepToken`), which is the one handed to
  `set_cache_usertoken`.
-/
import Himmelblau.ResolverExec

namespace Himmelblau

open Interface Db LockProgram

variable {P : Type}

/-! ## 1. Logins and their runs -/

structure Login (P : Type) where
  session : AuthSession
  state : ResolverState P

namespace Resolver

variable (R : Resolver P) (l : Login P) (req : PamAuthRequest)

def stepLogin : Login P :=
  let r := (R.pamAccountAuthenticateStep l.session req).exec l.state
  { session := r.1.2, state := r.2 }

def runLogin (reqs : List PamAuthRequest) : Login P := reqs.foldl R.stepLogin l

@[simp] theorem runLogin_nil : R.runLogin l [] = l := rfl

@[simp] theorem runLogin_cons (reqs : List PamAuthRequest) :
    R.runLogin l (req :: reqs) = R.runLogin (R.stepLogin l req) reqs := rfl

theorem runLogin_append (reqs reqs' : List PamAuthRequest) :
    R.runLogin l (reqs ++ reqs') = R.runLogin (R.runLogin l reqs) reqs' :=
  List.foldl_append

/-! ## 2. What is observed of a step -/

def stepBranch (session : AuthSession) (req : PamAuthRequest) :
    Op P (Except (Except Unit PamAuthResponse) (Except IdpError AuthResult) × AuthSession) := do
  let state ← R.getCachestate session.account
  R.authStepBranch session req state

/-- The session's token and the provider's answer, for a step that is taken online. -/
def onlineAnswer : Option (UserToken × Except IdpError (AuthResult × AuthCacheAction)) :=
  match l.session with
  | .inProgress session =>
    match session.token with
    | some token =>
      let r := (R.getCachestate (some session.accountId)).exec l.state
      if session.onlineAtInit = true ∧ r.1 = .online then
        some (token, (R.client.unixUserOnlineAuthStep session.accountId token session.service
          session.noHelloPin session.credHandler req r.2.db.hsmDataT r.2.client).1.1)
      else none
    | none => none
  | _ => none

def stepToken : Option UserToken :=
  match ((R.stepBranch l.session req).exec l.state).1.1 with
  | .ok (.ok (.success token)) => some token
  | _ => none

theorem stepToken_eq_some {l : Login P} {req : PamAuthRequest} {t : UserToken} :
    R.stepToken l req = some t ↔
      ((R.stepBranch l.session req).exec l.state).1.1 = .ok (.ok (.success t)) := by
  unfold stepToken
  constructor
  · intro h
    split at h
    · rename_i token hres
      cases h
      exact hres
    · cases h
  · intro h
    rw [h]

theorem earlyReturn_eq_ok {α : Type} {r : Except Unit α} {a : α} :
    earlyReturn r = .ok a ↔ r = .ok a := by
  cases r with
  | error e => simp [earlyReturn]
  | ok b => simp [earlyReturn]

theorem exec_pamAccountAuthenticateStep (session : AuthSession) (req : PamAuthRequest)
    (s : ResolverState P) :
    (R.pamAccountAuthenticateStep session req).exec s =
      match ((R.stepBranch session req).exec s).1.1 with
      | .error early =>
        ((early, ((R.stepBranch session req).exec s).1.2), ((R.stepBranch session req).exec s).2)
      | .ok res =>
        (R.authStepFinish ((R.stepBranch session req).exec s).1.2 res).exec
          ((R.stepBranch session req).exec s).2 := by
  unfold pamAccountAuthenticateStep stepBranch
  simp only [Prog.exec_bind]
  generalize (R.authStepBranch session req _).exec _ = branch
  obtain ⟨⟨res, session⟩, s⟩ := branch
  cases res with
  | error early => rfl
  | ok res => rfl

theorem exec_authStepFinish_success (session : AuthSession) (t : UserToken)
    (s : ResolverState P) :
    (R.authStepFinish session (.ok (.success t))).exec s =
      if inNxset s.nxset (some t.name) (some t.gidnumber) = true then
        ((.ok .unknown, .denied), s.committed (s.db.deleteAccount t.uuid))
      else
        match cacheToken (R.tokenToCache s.nxset t) (s.clock s.ticks + R.timeoutSeconds) s.db with
        | .ok db => ((.ok .success, .success (R.tokenToCache s.nxset t).spn),
            { s.committed db with ticks := s.ticks + 1 })
        | .error _ => ((.error (), session), { s.committed s.db with ticks := s.ticks + 1 }) := by
  unfold authStepFinish
  rw [Prog.exec_bind, exec_checkNxset]
  by_cases hnx : inNxset s.nxset (some t.name) (some t.gidnumber) = true
  · simp only [hnx, if_true, Prog.exec_bind, exec_deleteCacheUsertoken, Prog.exec_pure]
  · simp only [hnx, Bool.false_eq_true, if_false, Prog.exec_bind, exec_setCacheUsertoken]
    cases cacheToken (R.tokenToCache s.nxset t) (s.clock s.ticks + R.timeoutSeconds) s.db with
    | error e => rfl
    | ok db => rfl

variable {token t : UserToken} {session : AuthSession} {s : ResolverState P} {l : Login P}
  {req : PamAuthRequest} {p : InProgress}

theorem cacheToken_ok_iff (expire : ℕ) (db : Database) :
    (∃ db', cacheToken token expire db = .ok db') ↔ expire < 2 ^ 63 := by
  refine ⟨fun ⟨_, h⟩ => (cacheToken_eq_ok h).1, fun h => ?_⟩
  rw [cacheToken, Database.updateGroups_eq token.groups h]
  rcases Database.updateAccount_cases _ token expire with ⟨hlarge, -⟩ | ⟨-, t, -, hok⟩
  · exact absurd h hlarge
  · exact ⟨_, hok⟩

/-- A token that is cached now expires at a time that an `i64` has room for. -/
def Storable (s : ResolverState P) : Prop := s.clock s.ticks + R.timeoutSeconds < 2 ^ 63

/-- The token can be released: it is not in the nxset, and can be stored. -/
def Releasable (t : UserToken) (s : ResolverState P) : Prop :=
  inNxset s.nxset (some t.name) (some t.gidnumber) = false ∧ R.Storable s

theorem authStepFinish_success_iff :
    ((R.authStepFinish session (.ok (.success t))).exec s).1.1 = .ok .success ↔
      R.Releasable t s := by
  rw [exec_authStepFinish_success, Releasable, Storable]
  by_cases hnx : inNxset s.nxset (some t.name) (some t.gidnumber) = true
  · rw [if_pos hnx]
    refine iff_of_false nofun ?_
    rintro ⟨hno, -⟩
    cases hnx.symm.trans hno
  · rw [if_neg hnx, ← cacheToken_ok_iff _ s.db]
    simp only [Bool.not_eq_true] at hnx
    split
    · next db hdb => exact iff_of_true rfl ⟨hnx, db, hdb⟩
    · next e he =>
      refine iff_of_false nofun ?_
      rintro ⟨-, db, hdb⟩
      cases he.symm.trans hdb

/-! ## 3. The two branches -/

theorem stepLogin_of_over (h : ∀ session, l.session ≠ .inProgress session) (req : PamAuthRequest) :
    (R.stepLogin l req).session = l.session := by
  obtain ⟨session, s⟩ := l
  cases session with
  | inProgress session => exact absurd rfl (h session)
  | success spn => rfl
  | denied => rfl

theorem runLogin_of_over (h : ∀ session, l.session ≠ .inProgress session)
    (reqs : List PamAuthRequest) : (R.runLogin l reqs).session = l.session := by
  induction reqs generalizing l with
  | nil => rfl
  | cons req reqs ih =>
    have hstep := R.stepLogin_of_over h req
    rw [runLogin_cons, ih (by rw [hstep]; exact h), hstep]

def Online (p : InProgress) (s : ResolverState P) : Prop :=
  p.onlineAtInit = true ∧ ((R.getCachestate (some p.accountId)).exec s).1 = .online

section Branches

variable {session : InProgress} {token : UserToken} {req : PamAuthRequest}

theorem exec_stepBranch_online (htoken : session.token = some token)
    (honline : R.Online session s) :
    (R.stepBranch (.inProgress session) req).exec s =
      let s1 := ((R.getCachestate (some session.accountId)).exec s).2
      let call := R.client.unixUserOnlineAuthStep session.accountId token session.service
        session.noHelloPin session.credHandler req s1.db.hsmDataT s1.client
      let res := (R.applyCacheAction token call.1.1).exec (s1.called call.2.1 call.2.2)
      ((earlyReturn res.1, .inProgress { session with credHandler := call.1.2 }), res.2) := by
  obtain ⟨accountId, service, id, _, onlineAtInit, credHandler, noHelloPin, forceReauth⟩ := session
  cases htoken
  unfold Online at honline
  unfold stepBranch
  simp only [Prog.exec_bind, authStepBranch, AuthSession.account, if_pos honline]
  rfl

theorem onlineAnswer_online (htoken : session.token = some token)
    (honline : R.Online session s) :
    R.onlineAnswer ⟨.inProgress session, s⟩ req =
      let s1 := ((R.getCachestate (some session.accountId)).exec s).2
      some (token, (R.client.unixUserOnlineAuthStep session.accountId token session.service
        session.noHelloPin session.credHandler req s1.db.hsmDataT s1.client).1.1) := by
  unfold Online at honline
  unfold onlineAnswer
  simp only [htoken, if_pos honline]

theorem exec_stepBranch_offline (htoken : session.token = some token)
    (honline : ¬ R.Online session s) :
    (R.stepBranch (.inProgress session) req).exec s =
      let res := (R.authStepOffline session token req).exec
        ((R.getCachestate (some session.accountId)).exec s).2
      ((res.1.1, .inProgress res.1.2), res.2) := by
  unfold Online at honline
  unfold stepBranch
  simp only [Prog.exec_bind, authStepBranch, AuthSession.account, htoken, if_neg honline]
  rfl

theorem onlineAnswer_offline (htoken : session.token = some token)
    (honline : ¬ R.Online session s) :
    R.onlineAnswer ⟨.inProgress session, s⟩ req = none := by
  unfold Online at honline
  unfold onlineAnswer
  simp only [htoken, if_neg honline]

end Branches

/-- What the offline branch can do: its outcome, the credential handler and the state. -/
inductive OfflineStep (session : InProgress) (token : UserToken) (req : PamAuthRequest)
    (s : ResolverState P) : Except (Except Unit PamAuthResponse) (Except IdpError AuthResult) →
    AuthCredHandler → ResolverState P → Prop
  | forced (hforce : session.forceReauth = true) :
      OfflineStep session token req s
        (.error (.ok (.denied "Re-authentication requires network connectivity.")))
        session.credHandler s
  | verified (hforce : session.forceReauth = false) (cred : String) (hreq : req = .password cred)
      (s' : ResolverState P)
      (hcheck : (R.checkCacheUserpassword token.uuid cred).exec s = (.ok true, s')) :
      OfflineStep session token req s (.ok (.ok (.success token))) session.credHandler s'
  | wrong (hforce : session.forceReauth = false) (cred : String) (hreq : req = .password cred)
      (s' : ResolverState P)
      (hcheck : (R.checkCacheUserpassword token.uuid cred).exec s = (.ok false, s')) :
      OfflineStep session token req s (.ok (.ok (.denied "Offline auth failed")))
        session.credHandler s'
  | refused (s' : ResolverState P) (hclient : s'.client = s.client) :
      OfflineStep session token req s (.error (.error ())) session.credHandler s'
  | asked (hforce : session.forceReauth = false)
      (hreq : (∃ cred, req = .pin cred) ∨ ∃ cred, req = .helloTOTP cred)
      (call : (Except IdpError AuthResult × AuthCredHandler) × KeyStore × P)
      (hcall : R.client.unixUserOfflineAuthStep session.accountId token session.credHandler req
        session.onlineAtInit s.db.hsmDataT s.client = call) :
      OfflineStep session token req s (.ok call.1.1) call.1.2 (s.called call.2.1 call.2.2)

theorem client_checkCacheUserpassword (aUuid : Uuid) (cred : String) (s : ResolverState P) :
    ((R.checkCacheUserpassword aUuid cred).exec s).2.client = s.client := by
  rw [exec_checkCacheUserpassword]
  split <;> rfl

theorem exec_authStepOffline (session : InProgress) (token : UserToken) (req : PamAuthRequest)
    (s : ResolverState P) :
    ∃ handler, R.OfflineStep session token req s ((R.authStepOffline session token req).exec s).1.1
      handler ((R.authStepOffline session token req).exec s).2 ∧
      ((R.authStepOffline session token req).exec s).1.2 =
        { session with credHandler := handler } := by
  unfold authStepOffline
  split
  · rename_i hforce
    exact ⟨session.credHandler, .forced hforce, rfl⟩
  · rename_i hforce
    have hforce' : session.forceReauth = false := by simpa using hforce
    have hrefused : R.OfflineStep session token req s (.error (.error ())) session.credHandler s :=
      .refused s rfl
    split
    · rename_i cred
      rw [Prog.exec_bind]
      cases hcheck : (R.checkCacheUserpassword token.uuid cred).exec s with
      | mk r s' =>
        have hclient : s'.client = s.client := by
          rw [← R.client_checkCacheUserpassword token.uuid cred s, hcheck]
        rcases r with _ | ok
        · exact ⟨session.credHandler, .refused s' hclient, rfl⟩
        · cases ok with
          | true => exact ⟨session.credHandler, .verified hforce' cred rfl s' hcheck, rfl⟩
          | false => exact ⟨session.credHandler, .wrong hforce' cred rfl s' hcheck, rfl⟩
    · exact ⟨session.credHandler, hrefused, rfl⟩
    · exact ⟨session.credHandler, hrefused, rfl⟩
    · exact ⟨session.credHandler, hrefused, rfl⟩
    · exact ⟨_, .asked hforce' (.inl ⟨_, rfl⟩) _ rfl, rfl⟩
    · exact ⟨_, .asked hforce' (.inr ⟨_, rfl⟩) _ rfl, rfl⟩
    · exact ⟨session.credHandler, hrefused, rfl⟩

theorem stepBranch_inProgress (session : InProgress) (req : PamAuthRequest) (s : ResolverState P) :
    ∃ credHandler, ((R.stepBranch (.inProgress session) req).exec s).1.2 =
      .inProgress { session with credHandler := credHandler } := by
  cases htoken : session.token with
  | none =>
    refine ⟨session.credHandler, ?_⟩
    unfold stepBranch
    simp only [Prog.exec_bind, authStepBranch, htoken, Prog.exec_pure]
    rw [← htoken]
  | some token =>
    by_cases honline : R.Online session s
    · rw [R.exec_stepBranch_online htoken honline, ← htoken]
      exact ⟨_, rfl⟩
    · rw [R.exec_stepBranch_offline htoken honline, ← htoken]
      obtain ⟨handler, -, hsession⟩ := R.exec_authStepOffline session token req
        ((R.getCachestate (some session.accountId)).exec s).2
      exact ⟨handler, congrArg AuthSession.inProgress hsession⟩

/-! Writing to the cache concerns neither the provider nor the clock. -/

theorem applyCacheAction_keeps (token : UserToken)
    (r : Except IdpError (AuthResult × AuthCacheAction)) (s : ResolverState P) :
    ((R.applyCacheAction token r).exec s).2.client = s.client ∧
      ((R.applyCacheAction token r).exec s).2.nxset = s.nxset ∧
      ((R.applyCacheAction token r).exec s).2.clock = s.clock ∧
      ((R.applyCacheAction token r).exec s).2.ticks = s.ticks := by
  have hset : ∀ (aUuid : Uuid) cred, ((R.setCacheUserpassword aUuid cred).exec s).2.client =
      s.client ∧ ((R.setCacheUserpassword aUuid cred).exec s).2.nxset = s.nxset ∧
      ((R.setCacheUserpassword aUuid cred).exec s).2.clock = s.clock ∧
      ((R.setCacheUserpassword aUuid cred).exec s).2.ticks = s.ticks := by
    intro aUuid cred
    rw [exec_setCacheUserpassword]
    split <;> exact ⟨rfl, rfl, rfl, rfl⟩
  unfold applyCacheAction
  split
  · exact ⟨rfl, rfl, rfl, rfl⟩
  · rw [Prog.exec_bind]
    split <;> exact hset _ _
  · rw [Prog.exec_bind]
    split <;> exact hset _ _
  · exact ⟨rfl, rfl, rfl, rfl⟩
  · exact ⟨rfl, rfl, rfl, rfl⟩

theorem client_authStepFinish (res : Except IdpError AuthResult) :
    ((R.authStepFinish session res).exec s).2.client = s.client := by
  rcases res with e | res
  · cases e <;> rfl
  · cases res with
    | denied msg => rfl
    | next request => rfl
    | success t =>
      rw [exec_authStepFinish_success]
      split
      · rfl
      · split <;> rfl

theorem client_stepLogin (l : Login P) (req : PamAuthRequest) :
    (R.stepLogin l req).state.client =
      ((R.stepBranch l.session req).exec l.state).2.client := by
  unfold stepLogin
  rw [exec_pamAccountAuthenticateStep]
  split
  · rfl
  · exact R.client_authStepFinish _

theorem exec_applyCacheAction {r : Except IdpError (AuthResult × AuthCacheAction)}
    (h : ((R.applyCacheAction token r).exec s).1 = .ok (.ok (.success t))) :
    ∃ action, r = .ok (.success t, action) := by
  unfold applyCacheAction at h
  split at h
  · rename_i res
    cases h
    exact ⟨_, rfl⟩
  · rw [Prog.exec_bind] at h
    split at h
    · cases h
    · cases h
      exact ⟨_, rfl⟩
  · rw [Prog.exec_bind] at h
    split at h
    · cases h
    · cases h
  · cases h
  · cases h

def answer (l : Login P) (req : PamAuthRequest) : Except Unit PamAuthResponse :=
  ((R.pamAccountAuthenticateStep l.session req).exec l.state).1.1

theorem exec_authStepFinish_success_over (session : AuthSession) (t : UserToken)
    (s : ResolverState P) :
    ((R.authStepFinish session (.ok (.success t))).exec s).1.1 = .error () ∨
      ∀ p, ((R.authStepFinish session (.ok (.success t))).exec s).1.2 ≠ .inProgress p := by
  rw [exec_authStepFinish_success]
  split
  · exact .inr fun p h => nomatch h
  · split
    · exact .inr fun p h => nomatch h
    · exact .inl rfl

/-- What comes with a password's hash is lost if the hash cannot be made. -/
theorem exec_applyCacheAction_passes (token : UserToken) (res : AuthResult)
    (hres : ∀ msg, res ≠ .denied msg) (action : AuthCacheAction) (s : ResolverState P) :
    ((R.applyCacheAction token (.ok (res, action))).exec s).1 = .ok (.ok res) ∨
      ((R.applyCacheAction token (.ok (res, action))).exec s).1 = .error () ∧
        ∃ cred, R.crypto.newArgon2idHsm s.entropy cred = none := by
  cases action with
  | none => exact .inl rfl
  | passwordHashUpdate cred =>
    cases res with
    | denied msg => exact absurd rfl (hres msg)
    | success | next =>
      simp only [applyCacheAction, Prog.exec_bind, exec_setCacheUserpassword,
        Database.updateAccountPassword]
      cases hhash : R.crypto.newArgon2idHsm s.entropy cred with
      | none => exact .inr ⟨rfl, cred, hhash⟩
      | some blob => exact .inl rfl

theorem exec_authStepFinish_storable (p0 : InProgress) (t : UserToken) (s : ResolverState P) :
    (∀ p, ((R.authStepFinish (.inProgress p0) (.ok (.success t))).exec s).1.2 = .inProgress p →
        ¬ R.Storable s) ∧
      ∀ spn, ((R.authStepFinish (.inProgress p0) (.ok (.success t))).exec s).1.2 = .success spn →
        R.Storable s := by
  rw [exec_authStepFinish_success, Storable, ← cacheToken_ok_iff _ s.db]
  constructor
  · rintro p h ⟨db, hdb⟩
    rw [hdb] at h
    split at h <;> cases h
  · intro spn h
    split at h
    · cases h
    · split at h
      · next db hdb => exact ⟨db, hdb⟩
      · cases h

theorem storable_of_online_success {session : InProgress} {action : AuthCacheAction}
    (htoken : session.token = some token) (honline : R.Online session s)
    (hhash : ∀ cred, R.crypto.newArgon2idHsm s.entropy cred ≠ none)
    (hr : (R.client.unixUserOnlineAuthStep session.accountId token session.service
      session.noHelloPin session.credHandler req
      ((R.getCachestate (some session.accountId)).exec s).2.db.hsmDataT
      ((R.getCachestate (some session.accountId)).exec s).2.client).1.1 =
        .ok (.success t, action)) :
    (∀ p, (R.stepLogin ⟨.inProgress session, s⟩ req).session = .inProgress p → ¬ R.Storable s) ∧
      ∀ spn, (R.stepLogin ⟨.inProgress session, s⟩ req).session = .success spn →
        R.Storable s := by
  simp only [stepLogin, exec_pamAccountAuthenticateStep,
    R.exec_stepBranch_online htoken honline, hr]
  generalize hs1 : ((R.getCachestate (some session.accountId)).exec s).2.called _ _ = s1
  obtain ⟨hclock, hticks, hentropy⟩ :
      s1.clock = s.clock ∧ s1.ticks = s.ticks ∧ s1.entropy = s.entropy := by
    subst hs1
    exact ⟨rfl, rfl, rfl⟩
  obtain ⟨-, -, hclock', hticks'⟩ := R.applyCacheAction_keeps token (.ok (.success t, action)) s1
  obtain happly | ⟨-, cred, hnone⟩ :=
    R.exec_applyCacheAction_passes token (.success t) (fun _ h => by cases h) action s1
  · have hfinish := R.exec_authStepFinish_storable
    unfold Storable at hfinish ⊢
    rw [happly, ← hclock, ← hticks, ← hclock', ← hticks']
    exact hfinish _ t _
  · rw [hentropy] at hnone
    exact absurd hnone (hhash cred)

theorem exec_authStepFinish_session {res : Except IdpError AuthResult}
    (h : ((R.authStepFinish session res).exec s).1.2 = .inProgress p) :
    session = .inProgress p := by
  rcases res with e | res
  · cases e <;> exact h
  · cases res with
    | denied msg => cases h
    | next request => exact h
    | success t =>
      rw [exec_authStepFinish_success] at h
      split at h
      · cases h
      · split at h
        · cases h
        · exact h

theorem session_of_stepLogin (h : (R.stepLogin l req).session = .inProgress p) :
    ∃ p0 credHandler, l.session = .inProgress p0 ∧ p = { p0 with credHandler := credHandler } := by
  obtain ⟨session, s⟩ := l
  cases session with
  | success spn => cases h
  | denied => cases h
  | inProgress p0 =>
    obtain ⟨handler, hbranch⟩ := R.stepBranch_inProgress p0 req s
    simp only [stepLogin, exec_pamAccountAuthenticateStep] at h
    refine ⟨p0, handler, rfl, ?_⟩
    split at h
    · exact AuthSession.inProgress.inj (h.symm.trans hbranch)
    · exact AuthSession.inProgress.inj ((R.exec_authStepFinish_session h).symm.trans hbranch)

theorem accountId_of_init {accountId service : String} {noHelloPin forceReauth : Bool}
    {resp : PamAuthResponse}
    (h : ((R.pamAccountAuthenticateInit accountId service noHelloPin forceReauth).exec s).1 =
      .ok (.inProgress p, resp)) :
    p.accountId = accountId := by
  have hfinish : ∀ {token online maybeErr},
      authInitFinish accountId service token online noHelloPin forceReauth maybeErr =
        .ok (.inProgress p, resp) → p.accountId = accountId := by
    intro token online maybeErr h
    unfold authInitFinish at h
    split at h
    · cases h
      rfl
    · cases h
    · cases h
  unfold pamAccountAuthenticateInit at h
  rw [Prog.exec_bind] at h
  split at h
  · cases h
  · cases h
  · split at h
    · rw [Prog.exec_bind] at h
      exact hfinish h
    · split at h
      · cases h
      · rw [Prog.exec_bind] at h
        exact hfinish h

theorem inProgress_of_runLogin {reqs : List PamAuthRequest}
    (h : (R.runLogin l reqs).session = .inProgress p) : ∃ p', l.session = .inProgress p' := by
  by_contra hover
  rw [R.runLogin_of_over (fun p' hp' => hover ⟨p', hp'⟩)] at h
  exact hover ⟨p, h⟩

theorem inProgress_of_stepToken (h : R.stepToken l req = some t) :
    ∃ p, l.session = .inProgress p := by
  obtain ⟨session, s⟩ := l
  cases session with
  | inProgress session => exact ⟨session, rfl⟩
  | success spn => cases h
  | denied => cases h

theorem stepToken_of_success {spn : String}
    (h : (R.stepLogin ⟨.inProgress p, s⟩ req).session = .success spn) :
    ∃ t, R.stepToken ⟨.inProgress p, s⟩ req = some t := by
  obtain ⟨handler, hbranch⟩ := R.stepBranch_inProgress p req s
  simp only [stepLogin, exec_pamAccountAuthenticateStep] at h
  split at h
  · cases hbranch.symm.trans h
  · rename_i res hres
    rw [hbranch] at h
    rcases res with e | res
    · cases e <;> cases h
    · cases res with
      | denied msg => cases h
      | next request => cases h
      | success t => exact ⟨t, R.stepToken_eq_some.mpr hres⟩

/-! ## 4. A session among others

Between two steps of a session other clients are served: a step finds any state. -/

def nextSession (session : AuthSession) (step : ResolverState P × PamAuthRequest) : AuthSession :=
  (R.stepLogin ⟨session, step.1⟩ step.2).session

def runSession (session : AuthSession) (steps : List (ResolverState P × PamAuthRequest)) :
    AuthSession := steps.foldl R.nextSession session

/-- The token that is handed to `set_cache_usertoken` when the session becomes a success. -/
def sessionToken (session : AuthSession) :
    List (ResolverState P × PamAuthRequest) → Option UserToken
  | [] => none
  | step :: steps =>
    match R.nextSession session step with
    | .success _ => R.stepToken ⟨session, step.1⟩ step.2
    | next => sessionToken next steps

theorem runSession_of_over (h : ∀ p, session ≠ .inProgress p)
    (steps : List (ResolverState P × PamAuthRequest)) : R.runSession session steps = session := by
  induction steps with
  | nil => rfl
  | cons step steps ih =>
    have hstep : R.nextSession session step = session :=
      R.stepLogin_of_over (l := ⟨session, step.1⟩) h step.2
    exact (congrArg (R.runSession · steps) hstep).trans ih

@[simp] theorem runSession_denied (steps : List (ResolverState P × PamAuthRequest)) :
    R.runSession .denied steps = .denied := R.runSession_of_over (by simp) steps

end Resolver

end Himmelblau
