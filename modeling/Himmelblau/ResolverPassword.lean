/-
  **The password cached by an online login.**  When the provider asks for it, a step
  writes the password's hash to the row of one uuid: that of the token it
  succeeds with, or of the session's token when more steps follow.  The token the
  session ends with is cached later, in a transaction of its own.

  `checkAccountPassword_iff` says when the password can be checked afterwards: the
  row of the final token must have been there, and be the row written to.
-/
import Himmelblau.ResolverSession

namespace Himmelblau

open Interface Db LockProgram UniqueTable Database

/-! ## 1. Passwords in `account_t` -/

namespace Db

def passwordsOf (t : Table AccountRow.clash) (uuid : Uuid) : List String :=
  (t.rows.filter fun r => r.uuid == uuid).filterMap (·.password)

variable {t : Table AccountRow.clash} {uuid : Uuid} {db db' : Database}

theorem filter_update_uuid (rows : List AccountRow) {p : AccountRow → Bool}
    {f : AccountRow → AccountRow} (hf : ∀ r, (f r).uuid = r.uuid) (uuid : Uuid) :
    (rows.map fun r => if p r then f r else r).filter (·.uuid == uuid) =
      (rows.filter (·.uuid == uuid)).map fun r => if p r then f r else r := by
  have huuid : ∀ r, (if p r then f r else r).uuid = r.uuid := fun r => by
    rw [apply_ite AccountRow.uuid, hf, ite_self]
  simp only [List.filter_map, Function.comp_def, huuid]

theorem passwordsOf_setPassword_self (t : Table AccountRow.clash) (uuid : Uuid) (blob : String) :
    passwordsOf (setPassword t uuid blob) uuid =
      (t.rows.filter fun r => r.uuid == uuid).map fun _ => blob := by
  unfold passwordsOf setPassword
  rw [Table.modify_rows, filter_update_uuid, List.filterMap_map, ← List.filterMap_eq_map]
  · refine List.filterMap_congr fun r hr => ?_
    simp [beq_iff_eq.mp (List.mem_filter.mp hr).2]
  · exact fun _ => rfl

theorem passwordsOf_setPassword_of_ne {uuid' : Uuid} (h : uuid' ≠ uuid) (blob : String) :
    passwordsOf (setPassword t uuid blob) uuid' = passwordsOf t uuid' := by
  unfold passwordsOf setPassword
  rw [Table.modify_rows, filter_update_uuid, List.filterMap_map]
  · refine List.filterMap_congr fun r hr => ?_
    simp [beq_iff_eq.mp (List.mem_filter.mp hr).2, h]
  · exact fun _ => rfl

theorem passwordsOf_upsertAccount {t' : Table AccountRow.clash} {account : UserToken} {expire : ℤ}
    (h : upsertAccount t account expire = .ok t') :
    passwordsOf t' account.uuid = passwordsOf t account.uuid := by
  have hpurge : ((purged t account).rows.filter fun r => r.uuid == account.uuid) =
      t.rows.filter fun r => r.uuid == account.uuid := by
    unfold purged
    rw [Table.delete_rows, List.filter_filter]
    refine List.filter_congr fun r _ => ?_
    by_cases hr : r.uuid = account.uuid <;> simp [AccountRow.conflicts, hr]
  obtain ⟨_, h1, ⟨-, hrows⟩ | ⟨-, hrows⟩⟩ := upsertAccount_ok t account expire
  all_goals
    cases h.symm.trans h1
    unfold passwordsOf
    rw [hrows]
  · rw [filter_update_uuid, hpurge, List.filterMap_map]
    · refine List.filterMap_congr fun r _ => ?_
      exact (apply_ite AccountRow.password _ _ _).trans (ite_self _)
    · exact fun _ => rfl
  · rw [List.filter_append, List.filterMap_append, hpurge]
    simp [rowOf]

theorem checkAccountPassword_congr (C : PasswordCrypto)
    (h : passwordsOf db.accountT uuid = passwordsOf db'.accountT uuid) (cred : String) :
    checkAccountPassword C db uuid cred =
      checkAccountPassword C db' uuid cred := by
  unfold passwordsOf at h
  unfold checkAccountPassword
  rw [h]

def HasRow (t : Table AccountRow.clash) (uuid : Uuid) : Prop := ∃ r ∈ t.rows, r.uuid = uuid

theorem hasRow_setPassword (uuid' : Uuid) (blob : String) :
    HasRow (setPassword t uuid blob) uuid' ↔ HasRow t uuid' := by
  have huuid : ∀ r : AccountRow, (if (r.uuid == uuid) = true then { r with password := some blob }
      else r).uuid = r.uuid := fun r => (apply_ite AccountRow.uuid _ _ _).trans (ite_self _)
  unfold HasRow setPassword
  simp only [Table.modify_rows, List.mem_map]
  constructor
  · rintro ⟨_, ⟨r, hr, rfl⟩, h⟩
    exact ⟨r, hr, (huuid r).symm.trans h⟩
  · rintro ⟨r, hr, h⟩
    exact ⟨_, ⟨r, hr, rfl⟩, (huuid r).trans h⟩

theorem checkAccountPassword_setPassword {C : PasswordCrypto} (hC : C.Exact) {entropy : ℕ}
    {cred blob : String} (hblob : C.newArgon2idHsm entropy cred = some blob)
    (hdb : db'.accountT = setPassword db.accountT uuid blob) (cred' : String) :
    checkAccountPassword C db' uuid cred' = .ok true ↔
      cred' = cred ∧ HasRow db.accountT uuid := by
  have hset := passwordsOf_setPassword_self db.accountT uuid blob
  unfold passwordsOf at hset
  unfold checkAccountPassword
  rw [hdb, hset]
  by_cases hrow : HasRow db.accountT uuid
  · obtain ⟨r, hr, huuid⟩ := id hrow
    have hone := db.accountT.unambiguous_column AccountRow.clash_symm (fun _ _ => .inl) uuid
    rw [Table.filter_eq_singleton (fun _ => .inl rfl) hone hr (beq_iff_eq.mpr huuid)]
    simp [hC.decodes_new _ _ _ hblob, hC.verify_new _ _ _ hblob, hrow]
  · have hnone : (db.accountT.rows.filter fun r => r.uuid == uuid) = [] :=
      List.filter_eq_nil_iff.mpr fun r hr huuid => hrow ⟨r, hr, beq_iff_eq.mp huuid⟩
    rw [hnone]
    simp [hrow]

theorem passwordsOf_cacheToken {token : UserToken} {expire : ℕ}
    (h : Resolver.cacheToken token expire db = .ok db') :
    passwordsOf db'.accountT token.uuid = passwordsOf db.accountT token.uuid := by
  obtain ⟨-, t, ht, rfl⟩ := Resolver.cacheToken_eq_ok h
  exact passwordsOf_upsertAccount ht

end Db

/-! ## 2. What one step does to the cached passwords -/

namespace Resolver

variable {P : Type} (R : Resolver P)

/-- The row a cache action writes the password to, and the password; `token` is the
    session's. -/
def updateOf (token : UserToken) :
    Except IdpError (AuthResult × AuthCacheAction) → Option (Uuid × String)
  | .ok (.success newToken, .passwordHashUpdate cred) => some (newToken.uuid, cred)
  | .ok (.next _, .passwordHashUpdate cred) => some (token.uuid, cred)
  | _ => none

/-- The password update the provider asks for in a step, with `Success` or `Next`. -/
def emittedUpdate (l : Login P) (req : PamAuthRequest) : Option (Uuid × String) :=
  match R.onlineAnswer l req with
  | some (token, answer) => updateOf token answer
  | none => none

/-- Hashing never fails, and the hash verifies exactly its password. -/
structure HashesPasswords : Prop where
  exact : R.crypto.Exact
  total : ∀ entropy cred, ∃ blob, R.crypto.newArgon2idHsm entropy cred = some blob

theorem applyCacheAction_accountT (hR : R.HashesPasswords) (token : UserToken)
    (answer : Except IdpError (AuthResult × AuthCacheAction)) (s : ResolverState P) :
    (updateOf token answer = none ∧
      ((R.applyCacheAction token answer).exec s).2.db.accountT = s.db.accountT) ∨
    ∃ uuid cred blob, updateOf token answer = some (uuid, cred) ∧
      R.crypto.newArgon2idHsm s.entropy cred = some blob ∧
      ((R.applyCacheAction token answer).exec s).2.db.accountT =
        setPassword s.db.accountT uuid blob ∧
      ∀ t, ((R.applyCacheAction token answer).exec s).1 = .ok (.ok (.success t)) →
        t.uuid = uuid := by
  rcases answer with e | ⟨res, _ | cred⟩
  · exact .inl ⟨rfl, rfl⟩
  · refine .inl ⟨?_, rfl⟩
    cases res <;> rfl
  · obtain ⟨blob, hblob⟩ := hR.total s.entropy cred
    have hexec : ∀ uuid, (R.setCacheUserpassword uuid cred).exec s =
        (.ok (), { s.committed
          { s.db with accountT := setPassword s.db.accountT uuid blob }
          with entropy := s.entropy + 1 }) := by
      intro uuid
      simp only [exec_setCacheUserpassword, updateAccountPassword, hblob]
    cases res with
    | denied msg => exact .inl ⟨rfl, rfl⟩
    | success newToken =>
      refine .inr ⟨newToken.uuid, cred, blob, rfl, hblob, ?_, ?_⟩
      · simp only [applyCacheAction, Prog.exec_bind, hexec, Prog.exec_pure]
        rfl
      · intro t ht
        simp only [applyCacheAction, Prog.exec_bind, hexec, Prog.exec_pure] at ht
        cases ht
        rfl
    | next request =>
      refine .inr ⟨token.uuid, cred, blob, rfl, hblob, ?_, ?_⟩
      · simp only [applyCacheAction, Prog.exec_bind, hexec, Prog.exec_pure]
        rfl
      · intro t ht
        simp only [applyCacheAction, Prog.exec_bind, hexec, Prog.exec_pure] at ht
        cases ht

theorem authStepOffline_accountT (session : InProgress) (token : UserToken)
    (req : PamAuthRequest) (s : ResolverState P) :
    ((R.authStepOffline session token req).exec s).2.db.accountT = s.db.accountT := by
  unfold authStepOffline
  split
  · rfl
  · split
    · simp only [Prog.exec_bind, exec_checkCacheUserpassword]
      cases checkAccountPassword R.crypto s.db token.uuid _ with
      | error e => rfl
      | ok ok => cases ok <;> rfl
    all_goals rfl

/-- Up to its outcome, a step writes to `account_t` the password update the provider
    asked for, and nothing else. -/
theorem stepBranch_accountT (hR : R.HashesPasswords) (l : Login P) (req : PamAuthRequest) :
    (R.emittedUpdate l req = none ∧
      ((R.stepBranch l.session req).exec l.state).2.db.accountT = l.state.db.accountT) ∨
    ∃ uuid cred entropy blob, R.emittedUpdate l req = some (uuid, cred) ∧
      R.crypto.newArgon2idHsm entropy cred = some blob ∧
      ((R.stepBranch l.session req).exec l.state).2.db.accountT =
        setPassword l.state.db.accountT uuid blob ∧
      ∀ t, R.stepToken l req = some t → t.uuid = uuid := by
  obtain ⟨session, s⟩ := l
  cases session with
  | success spn => exact .inl ⟨rfl, rfl⟩
  | denied => exact .inl ⟨rfl, rfl⟩
  | inProgress session =>
    cases htoken : session.token with
    | none =>
      unfold emittedUpdate onlineAnswer stepBranch
      simp only [Prog.exec_bind, authStepBranch, htoken]
      exact .inl ⟨trivial, rfl⟩
    | some token =>
      by_cases honline : R.Online session s
      · unfold emittedUpdate
        simp only [stepToken_eq_some]
        rw [R.onlineAnswer_online htoken honline,
          R.exec_stepBranch_online htoken honline]
        rcases R.applyCacheAction_accountT hR token _ _ with
          ⟨hnone, hacc⟩ | ⟨uuid, cred, blob, hsome, hblob, hacc, huuid⟩
        · exact .inl ⟨hnone, hacc⟩
        · refine .inr ⟨uuid, cred, _, blob, hsome, hblob, hacc, fun t ht => huuid t ?_⟩
          exact earlyReturn_eq_ok.mp ht
      · unfold emittedUpdate
        rw [R.onlineAnswer_offline htoken honline,
          R.exec_stepBranch_offline htoken honline]
        exact .inl ⟨rfl, R.authStepOffline_accountT _ _ _ _⟩

/-- The outcome of a step of a session in progress: the session goes on and `account_t`
    stays, or it ends with the step's token, whose uuid keeps its password. -/
theorem authStepFinish_accountT (session : InProgress) (res : Except IdpError AuthResult)
    (s : ResolverState P) :
    let r := (R.authStepFinish (.inProgress session) res).exec s
    (∀ p, r.1.2 = .inProgress p → r.2.db.accountT = s.db.accountT) ∧
    (∀ spn, r.1.2 = .success spn → ∃ t, res = .ok (.success t) ∧
      passwordsOf r.2.db.accountT t.uuid = passwordsOf s.db.accountT t.uuid) := by
  rcases res with e | res
  · -- an error ends nothing
    cases e <;> exact ⟨fun _ _ => rfl, nofun⟩
  · cases res with
    | denied msg => exact ⟨fun _ h => (nomatch h), fun _ h => (nomatch h)⟩
    | next request => exact ⟨fun _ _ => rfl, nofun⟩
    | success t =>
      simp only [exec_authStepFinish_success]
      split
      · exact ⟨fun _ h => (nomatch h), fun _ h => (nomatch h)⟩
      · split
        · rename_i db hcache
          refine ⟨fun _ h => (nomatch h), fun _ _ => ⟨t, rfl, ?_⟩⟩
          have hsame := passwordsOf_cacheToken hcache
          exact hsame
        · exact ⟨fun _ _ => rfl, fun _ h => (nomatch h)⟩

theorem stepLogin_accountT {l : Login P} {session : InProgress}
    (hl : l.session = .inProgress session) (req : PamAuthRequest) :
    let accountT := ((R.stepBranch l.session req).exec l.state).2.db.accountT
    (∀ p, (R.stepLogin l req).session = .inProgress p →
      (R.stepLogin l req).state.db.accountT = accountT) ∧
    (∀ spn, (R.stepLogin l req).session = .success spn → ∃ t, R.stepToken l req = some t ∧
      passwordsOf (R.stepLogin l req).state.db.accountT t.uuid = passwordsOf accountT t.uuid) := by
  obtain ⟨handler, hp⟩ := R.stepBranch_inProgress session req l.state
  rw [← hl] at hp
  simp only [stepLogin, stepToken_eq_some, exec_pamAccountAuthenticateStep]
  split
  · exact ⟨fun _ _ => rfl, fun spn h => by rw [hp] at h; cases h⟩
  · rename_i res hres
    obtain ⟨hgoes, hends⟩ := R.authStepFinish_accountT _ res
      ((R.stepBranch l.session req).exec l.state).2
    rw [hp]
    refine ⟨hgoes, fun spn h => ?_⟩
    obtain ⟨t, rfl, ht⟩ := hends spn h
    exact ⟨t, hres, ht⟩

/-! ## 3. Whole runs -/

def updateFor (uuid : Uuid) : Option (Uuid × String) → Option String
  | some (uuid', cred) => if uuid' = uuid then some cred else none
  | none => none

/-- The last password the provider had written to the row of `uuid` in a run. -/
def lastUpdate (uuid : Uuid) (l : Login P) : List PamAuthRequest → Option String
  | [] => none
  | req :: reqs =>
    (lastUpdate uuid (R.stepLogin l req) reqs).or (updateFor uuid (R.emittedUpdate l req))

/-- The password `cred` of `uuid` can be checked, given the last update of the row since
    the database was `db`. -/
def Checkable (db : Database) (uuid : Uuid) (cred : String) : Option String → Prop
  | some last => cred = last ∧ HasRow db.accountT uuid
  | none => checkAccountPassword R.crypto db uuid cred = .ok true

variable {uuid : Uuid} {db db' : Database}

theorem checkable_or {cred : String} {first : Option String}
    (hcheck : checkAccountPassword R.crypto db' uuid cred = .ok true ↔
      R.Checkable db uuid cred first)
    (hrow : HasRow db'.accountT uuid ↔ HasRow db.accountT uuid) (last : Option String) :
    R.Checkable db' uuid cred last ↔ R.Checkable db uuid cred (last.or first) := by
  cases last with
  | none => exact hcheck
  | some last => exact and_congr_right fun _ => hrow

/-- Up to its outcome, a step makes checkable the password it was asked to write, if the
    row is there, and creates no row. -/
theorem stepBranch_checkable (hR : R.HashesPasswords) (l : Login P) (req : PamAuthRequest)
    (uuid : Uuid) (cred : String) :
    let db := ((R.stepBranch l.session req).exec l.state).2.db
    (checkAccountPassword R.crypto db uuid cred = .ok true ↔
      R.Checkable l.state.db uuid cred (updateFor uuid (R.emittedUpdate l req))) ∧
    (HasRow db.accountT uuid ↔ HasRow l.state.db.accountT uuid) := by
  intro db
  rcases R.stepBranch_accountT hR l req with
    ⟨hnone, hacc⟩ | ⟨uuid', cred', entropy, blob, hsome, hblob, hacc, -⟩
  · rw [hnone, hacc]
    have hsame : passwordsOf db.accountT uuid = passwordsOf l.state.db.accountT uuid := by
      rw [hacc]
    refine ⟨?_, Iff.rfl⟩
    rw [checkAccountPassword_congr R.crypto hsame]
    rfl
  · rw [hsome, hacc]
    refine ⟨?_, hasRow_setPassword _ _⟩
    by_cases h : uuid' = uuid
    · subst h
      rw [checkAccountPassword_setPassword hR.exact hblob hacc]
      simp [updateFor, Checkable]
    · have hkeep : passwordsOf db.accountT uuid = passwordsOf l.state.db.accountT uuid := by
        rw [hacc, passwordsOf_setPassword_of_ne (Ne.symm h)]
      rw [checkAccountPassword_congr R.crypto hkeep]
      simp [updateFor, Checkable, h]

theorem runLogin_checkable (hR : R.HashesPasswords) (uuid : Uuid) (cred : String) :
    ∀ (reqs : List PamAuthRequest) (l : Login P) {p : InProgress},
      (R.runLogin l reqs).session = .inProgress p →
      (checkAccountPassword R.crypto (R.runLogin l reqs).state.db uuid cred = .ok true ↔
        R.Checkable l.state.db uuid cred (R.lastUpdate uuid l reqs)) ∧
      (HasRow (R.runLogin l reqs).state.db.accountT uuid ↔ HasRow l.state.db.accountT uuid) := by
  intro reqs
  induction reqs with
  | nil =>
    intro l p _
    exact ⟨Iff.rfl, Iff.rfl⟩
  | cons req reqs ih =>
    intro l p hp
    rw [runLogin_cons] at hp ⊢
    obtain ⟨p1, hp1⟩ := R.inProgress_of_runLogin hp
    obtain ⟨p0, handler, hp0, -⟩ := R.session_of_stepLogin hp1
    have hacc := (R.stepLogin_accountT hp0 req).1 p1 hp1
    obtain ⟨hcheck, hrow⟩ := R.stepBranch_checkable hR l req uuid cred
    obtain ⟨hcheck', hrow'⟩ := ih (R.stepLogin l req) hp
    rw [← hacc] at hrow
    rw [← checkAccountPassword_congr R.crypto (congrArg (passwordsOf · uuid) hacc)] at hcheck
    exact ⟨hcheck'.trans (R.checkable_or hcheck hrow _), hrow'.trans hrow⟩

theorem lastUpdate_append (uuid : Uuid) (reqs reqs' : List PamAuthRequest) :
    ∀ l : Login P, R.lastUpdate uuid l (reqs ++ reqs') =
      (R.lastUpdate uuid (R.runLogin l reqs) reqs').or (R.lastUpdate uuid l reqs) := by
  induction reqs with
  | nil => intro l; simp [lastUpdate]
  | cons req reqs ih => intro l; simp [lastUpdate, ih, Option.or_assoc]

/-- After a session that ends with the token `t`, the password `cred` of `t` can be checked
    just if it was the last one written to the row of `t`'s uuid and that row was there
    when the session began, or if none was and it could be checked then. -/
theorem checkAccountPassword_iff (hR : R.HashesPasswords) (l : Login P)
    (reqs : List PamAuthRequest) (req : PamAuthRequest) {t : UserToken} {spn : String}
    (ht : R.stepToken (R.runLogin l reqs) req = some t)
    (hend : (R.runLogin l (reqs ++ [req])).session = .success spn) (cred : String) :
    checkAccountPassword R.crypto (R.runLogin l (reqs ++ [req])).state.db t.uuid cred =
        .ok true ↔
      (R.lastUpdate t.uuid l (reqs ++ [req]) = some cred ∧ HasRow l.state.db.accountT t.uuid) ∨
      (R.lastUpdate t.uuid l (reqs ++ [req]) = none ∧
        checkAccountPassword R.crypto l.state.db t.uuid cred = .ok true) := by
  obtain ⟨p, hp⟩ := R.inProgress_of_stepToken ht
  obtain ⟨hcheck, hrow⟩ := R.runLogin_checkable hR t.uuid cred reqs l hp
  obtain ⟨hbranch, -⟩ := R.stepBranch_checkable hR (R.runLogin l reqs) req t.uuid cred
  rw [runLogin_append] at hend ⊢
  -- the transaction that caches `t` keeps the password of its uuid
  obtain ⟨t', ht', hkeep⟩ := (R.stepLogin_accountT hp req).2 spn hend
  cases ht.symm.trans ht'
  have hfinal : checkAccountPassword R.crypto
      (R.stepLogin (R.runLogin l reqs) req).state.db t.uuid cred = .ok true ↔
        R.Checkable l.state.db t.uuid cred (R.lastUpdate t.uuid l (reqs ++ [req])) := by
    rw [checkAccountPassword_congr R.crypto hkeep, hbranch, R.checkable_or hcheck hrow,
      lastUpdate_append]
    rfl
  refine hfinal.trans ?_
  cases R.lastUpdate t.uuid l (reqs ++ [req]) with
  | none => simp [Checkable]
  | some last => simp [Checkable, eq_comm]

end Resolver

def passwordResolver : Resolver Unit where
  __ := outageResolver
  client :=
    { outageProvider with
      unixUserOnlineAuthStep := fun _ _ _ _ handler req ks p =>
        match req with
        | .password cred => ((.ok (.success aliceToken, .passwordHashUpdate cred), handler), ks, p)
        | _ => ((.error .badRequest, handler), ks, p) }

theorem passwordResolver_hashesPasswords : passwordResolver.HashesPasswords where
  exact := by
    refine ⟨fun _ _ _ _ => rfl, ?_⟩
    rintro _ cred _ ⟨⟩ c
    exact congrArg some (Bool.beq_comm ..)
  total := fun _ cred => ⟨cred, rfl⟩

def passwordSession (token : UserToken) : InProgress where
  accountId := "alice@example.com"
  service := "gdm"
  id := .name "alice@example.com"
  token := some token
  onlineAtInit := true
  credHandler := .none
  noHelloPin := false
  forceReauth := false

theorem checkAccountPassword_alice :
    checkAccountPassword passwordResolver.crypto
      (passwordResolver.runLogin ⟨.inProgress (passwordSession aliceToken), aliceState⟩
        ([] ++ [.password "hunter2"])).state.db aliceToken.uuid "hunter2" = .ok true := by
  refine (passwordResolver.checkAccountPassword_iff passwordResolver_hashesPasswords
    ⟨.inProgress (passwordSession aliceToken), aliceState⟩ [] (.password "hunter2")
    (t := aliceToken) rfl (rfl : _ = AuthSession.success "alice@example.com") "hunter2").mpr ?_
  exact .inl ⟨rfl, aliceRow, List.mem_singleton_self _, rfl⟩

/-- The row `unix_user_get` makes up for an account that never logged in: its uuid is
    random. -/
def placeholderToken : UserToken := { aliceToken with uuid := ⟨2⟩, realGidnumber := none }

def placeholderState : ResolverState Unit :=
  { aliceState with
    db := { new with
      accountT := ⟨[{ aliceRow with uuid := ⟨2⟩, token := some placeholderToken }],
        List.pairwise_singleton _ _⟩ } }

/-- The first online login of an account: the password is written to no row. -/
theorem checkAccountPassword_placeholder :
    let l : Login Unit := ⟨.inProgress (passwordSession placeholderToken), placeholderState⟩
    let req : PamAuthRequest := .password "hunter2"
    passwordResolver.emittedUpdate l req = some (aliceToken.uuid, "hunter2") ∧
    passwordResolver.stepToken l req = some aliceToken ∧
    (passwordResolver.runLogin l [req]).session = .success "alice@example.com" ∧
    checkAccountPassword passwordResolver.crypto
      (passwordResolver.runLogin l [req]).state.db aliceToken.uuid "hunter2" = .ok false :=
  ⟨rfl, rfl, rfl, rfl⟩

end Himmelblau
