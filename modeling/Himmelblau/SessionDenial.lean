/-
  **Whether a denial ends a session.**  `pam_account_authenticate_step` sets the response in
  one place and the session in another.  Where it returns early, where it makes a `Denied` of
  a `NotFound`, and where the provider's init refuses, the response is a denial and the
  session goes on: a later step can still succeed.

  The provider is any: nothing here depends on which one it is.
-/
import Himmelblau.ResolverSession
import Himmelblau.Daemon

namespace Himmelblau

open Interface Db LockProgram

variable {P : Type}

/-! ## 1. Responses that are final -/

def Interface.PamAuthResponse.denies : PamAuthResponse → Bool
  | .denied _ | .initDenied _ | .unknown => true
  | _ => false

def Interface.PamAuthResponse.final : PamAuthResponse → Bool
  | .success => true
  | resp => resp.denies

def AuthSession.over : AuthSession → Bool
  | .inProgress _ => false
  | _ => true

variable {session : AuthSession}

theorem AuthSession.over_of_ne (h : ∀ p, session ≠ .inProgress p) : session.over = true := by
  cases session with
  | inProgress p => exact absurd rfl (h p)
  | success spn => rfl
  | denied => rfl

/-- In a list of answers, nothing succeeds after a denial and nothing is answered after a
    success. -/
def DenialFinal (answers : List (Except Unit PamAuthResponse)) : Prop :=
  answers.Pairwise fun r r' =>
    (∀ resp, r = .ok resp → resp.denies = true → r' ≠ .ok .success) ∧
      (r = .ok .success → r' = .error ())

/-- What the provider says that is answered with a denial, but does not end the session. -/
inductive Refuses : Except IdpError AuthResult → Prop
  | notFound (what where_ : String) : Refuses (.error (.notFound what where_))
  | initDenied (msg : String) : Refuses (.ok (.next (.initDenied msg)))

/-- The same of the outcome of a branch: also an early return. -/
inductive OpenOutcome : Except (Except Unit PamAuthResponse) (Except IdpError AuthResult) → Prop
  | early (resp : PamAuthResponse) (h : resp.final = true) : OpenOutcome (.error (.ok resp))
  | refuses (res : Except IdpError AuthResult) (h : Refuses res) : OpenOutcome (.ok res)

theorem openOutcome_ok {res : Except IdpError AuthResult} :
    OpenOutcome (.ok res) ↔ Refuses res := by
  constructor
  · intro h
    cases h with
    | refuses h => assumption
  · exact .refuses res

theorem into_final (req : AuthRequest) : req.into.final = true ↔ ∃ msg, req = .initDenied msg := by
  cases req with
  | initDenied msg => exact iff_of_true rfl ⟨msg, rfl⟩
  | _ =>
    refine iff_of_false Bool.false_ne_true ?_
    rintro ⟨msg, h⟩
    cases h

namespace Resolver

variable (R : Resolver P)

/-- A final response comes with a session that is over. -/
def Closes (l : Login P) (req : PamAuthRequest) : Prop :=
  ∀ resp, R.answer l req = .ok resp → resp.final = true → (R.stepLogin l req).session.over = true

variable {s : ResolverState P} {req : PamAuthRequest}
  {steps : List (ResolverState P × PamAuthRequest)}

theorem closes_of_over (h : session.over = true) : R.Closes ⟨session, s⟩ req := by
  intro resp hanswer hfinal
  cases session with
  | inProgress p => cases h
  | success spn => rfl
  | denied => rfl

theorem closes_iff_outcome (p : InProgress) (s : ResolverState P) (req : PamAuthRequest) :
    R.Closes ⟨.inProgress p, s⟩ req ↔
      ¬ OpenOutcome ((R.stepBranch (.inProgress p) req).exec s).1.1 := by
  obtain ⟨handler, hsession⟩ := R.stepBranch_inProgress p req s
  unfold Closes answer stepLogin
  simp only [exec_pamAccountAuthenticateStep, hsession]
  cases ((R.stepBranch (.inProgress p) req).exec s).1.1 with
  | error early =>
    dsimp only
    constructor
    · rintro h ⟨resp, hfinal⟩
      cases h resp rfl hfinal
    · intro h resp hanswer hfinal
      subst hanswer
      exact absurd (.early resp hfinal) h
  | ok res =>
    dsimp only
    rw [openOutcome_ok]
    rcases res with e | res
    · by_cases hrefuses : Refuses (.error e)
      · refine iff_of_false ?_ (not_not.mpr hrefuses)
        cases hrefuses with
        | notFound what where_ =>
          intro h
          cases h _ rfl rfl
      · refine iff_of_true ?_ hrefuses
        intro resp hanswer
        cases e with
        | notFound what where_ => exact absurd (.notFound what where_) hrefuses
        | _ => cases hanswer
    · cases res with
      | denied msg => exact iff_of_true (fun _ _ _ => rfl) nofun
      | next request =>
        constructor
        · intro h hrefuses
          cases hrefuses with
          | initDenied msg => cases h _ rfl rfl
        · intro h resp hanswer hresp
          cases hanswer
          obtain ⟨msg, rfl⟩ := (into_final request).mp hresp
          exact absurd (.initDenied msg) h
      | success t =>
        refine iff_of_true ?_ nofun
        intro resp hanswer hresp
        rcases R.exec_authStepFinish_success_over (.inProgress { p with credHandler := handler })
          t ((R.stepBranch (.inProgress p) req).exec s).2 with herror | hover
        · rw [herror] at hanswer
          cases hanswer
        · exact AuthSession.over_of_ne hover

/-! ## 2. Steps that deny and go on -/

def worksOffline : AuthCredHandler → Bool
  | .mfa .. | .setupPin _ | .changePassword _ => false
  | _ => true

theorem worksOffline_of_ne {handler : AuthCredHandler}
    (hmfa : ∀ flow password extraData reauthPin,
      handler = .mfa flow password extraData reauthPin → False)
    (hsetup : ∀ token, handler = .setupPin token → False)
    (hchange : ∀ oldCred, handler = .changePassword oldCred → False) :
    worksOffline handler = true := by
  cases handler with
  | mfa flow password extraData reauthPin => exact (hmfa _ _ _ _ rfl).elim
  | setupPin token => exact (hsetup _ rfl).elim
  | changePassword oldCred => exact (hchange _ rfl).elim
  | _ => rfl

/-- The session has no token, or has to be online and is not, or the provider refuses in a way
    that does not end it. -/
inductive OpenDenial (p : InProgress) (s : ResolverState P) (req : PamAuthRequest) : Prop
  | noToken (htoken : p.token = none)
  | forced (token : UserToken) (htoken : p.token = some token) (hoffline : ¬ R.Online p s)
      (hforce : p.forceReauth = true)
  | online (token : UserToken) (htoken : p.token = some token) (honline : R.Online p s)
      (s1 : ResolverState P) (hs1 : ((R.getCachestate (some p.accountId)).exec s).2 = s1)
      (call : (Except IdpError (AuthResult × AuthCacheAction) × AuthCredHandler) × KeyStore × P)
      (hcall : R.client.unixUserOnlineAuthStep p.accountId token p.service p.noHelloPin
        p.credHandler req s1.db.hsmDataT s1.client = call)
      (res : Except IdpError AuthResult)
      (happly : ((R.applyCacheAction token call.1.1).exec (s1.called call.2.1 call.2.2)).1 =
        .ok res) (hrefuses : Refuses res)
  | offline (token : UserToken) (htoken : p.token = some token) (hoffline : ¬ R.Online p s)
      (hforce : p.forceReauth = false) (hhandler : worksOffline p.credHandler = true)
      (hreq : (∃ cred, req = .pin cred) ∨ ∃ cred, req = .helloTOTP cred)
      (s1 : ResolverState P) (hs1 : ((R.getCachestate (some p.accountId)).exec s).2 = s1)
      (hrefuses : Refuses (R.client.unixUserOfflineAuthStep p.accountId token p.credHandler req
        p.onlineAtInit s1.db.hsmDataT s1.client).1.1)

theorem not_openOutcome_error : ¬ OpenOutcome (.error (.error ())) := by
  intro h
  cases h

theorem exec_authStepOffline_asked {p : InProgress} (token : UserToken)
    (hforce : p.forceReauth = false) (hhandler : worksOffline p.credHandler = true)
    (hreq : (∃ cred, req = .pin cred) ∨ ∃ cred, req = .helloTOTP cred) :
    (R.authStepOffline p token req).exec s =
      let call := R.client.unixUserOfflineAuthStep p.accountId token p.credHandler req
        p.onlineAtInit s.db.hsmDataT s.client
      ((.ok call.1.1, { p with credHandler := call.1.2 }), s.called call.2.1 call.2.2) := by
  obtain ⟨accountId, service, id, tok, onlineAtInit, handler, noHelloPin, forceReauth⟩ := p
  cases hforce
  unfold authStepOffline
  rcases hreq with ⟨cred, rfl⟩ | ⟨cred, rfl⟩
  · cases handler with
    | mfa => cases hhandler
    | setupPin => cases hhandler
    | changePassword => cases hhandler
    | _ => rfl
  · cases handler with
    | mfa => cases hhandler
    | setupPin => cases hhandler
    | changePassword => cases hhandler
    | _ => rfl

theorem exec_authStepOffline_unable {p : InProgress} (token : UserToken)
    (hforce : p.forceReauth = false) (hhandler : worksOffline p.credHandler = false)
    (hreq : (∃ cred, req = .pin cred) ∨ ∃ cred, req = .helloTOTP cred) :
    (R.authStepOffline p token req).exec s = ((.error (.error ()), p), s) := by
  obtain ⟨accountId, service, id, tok, onlineAtInit, handler, noHelloPin, forceReauth⟩ := p
  cases hforce
  unfold authStepOffline
  rcases hreq with ⟨cred, rfl⟩ | ⟨cred, rfl⟩
  · cases handler with
    | mfa => rfl
    | setupPin => rfl
    | changePassword => rfl
    | _ => cases hhandler
  · cases handler with
    | mfa => rfl
    | setupPin => rfl
    | changePassword => rfl
    | _ => cases hhandler

theorem openOutcome_offline {p : InProgress} (token : UserToken) (req : PamAuthRequest)
    (s : ResolverState P) :
    OpenOutcome ((R.authStepOffline p token req).exec s).1.1 ↔
      p.forceReauth = true ∨ p.forceReauth = false ∧ worksOffline p.credHandler = true ∧
        ((∃ cred, req = .pin cred) ∨ ∃ cred, req = .helloTOTP cred) ∧
        Refuses (R.client.unixUserOfflineAuthStep p.accountId token p.credHandler req
          p.onlineAtInit s.db.hsmDataT s.client).1.1 := by
  constructor
  · intro h
    cases hforce : p.forceReauth with
    | true => exact .inl rfl
    | false =>
      right
      refine ⟨rfl, ?_⟩
      unfold authStepOffline at h
      rw [hforce] at h
      simp only [Bool.false_eq_true, if_false] at h
      split at h
      · rw [Prog.exec_bind] at h
        split at h
        · cases h with
          | refuses _ h => cases h
        · cases h with
          | refuses _ h => cases h
        · exact absurd h not_openOutcome_error
      · exact absurd h not_openOutcome_error
      · exact absurd h not_openOutcome_error
      · exact absurd h not_openOutcome_error
      · rename_i cred hmfa hsetup hchange
        exact ⟨worksOffline_of_ne hmfa hsetup hchange, .inl ⟨cred, rfl⟩, openOutcome_ok.mp h⟩
      · rename_i cred hmfa hsetup hchange
        exact ⟨worksOffline_of_ne hmfa hsetup hchange, .inr ⟨cred, rfl⟩, openOutcome_ok.mp h⟩
      · exact absurd h not_openOutcome_error
  · rintro (hforce | ⟨hforce, hhandler, hreq, hrefuses⟩)
    · unfold authStepOffline
      rw [hforce]
      exact .early _ rfl
    · rw [R.exec_authStepOffline_asked token hforce hhandler hreq]
      exact .refuses _ hrefuses

theorem openOutcome_iff (p : InProgress) (s : ResolverState P) (req : PamAuthRequest) :
    OpenOutcome ((R.stepBranch (.inProgress p) req).exec s).1.1 ↔ R.OpenDenial p s req := by
  cases htoken : p.token with
  | none =>
    refine iff_of_true ?_ (.noToken htoken)
    unfold stepBranch
    simp only [Prog.exec_bind, authStepBranch, htoken, Prog.exec_pure]
    exact .refuses _ (.notFound _ _)
  | some token =>
    by_cases honline : R.Online p s
    · rw [R.exec_stepBranch_online htoken honline]
      dsimp only
      constructor
      · intro h
        generalize happly : ((R.applyCacheAction token _).exec _).1 = applied at h
        rcases applied with _ | res
        · exact absurd h not_openOutcome_error
        · exact .online token htoken honline _ rfl _ rfl res happly (openOutcome_ok.mp h)
      · intro h
        cases h with
        | noToken hnone => cases hnone.symm.trans htoken
        | forced _ _ hoffline => exact absurd honline hoffline
        | offline _ _ hoffline => exact absurd honline hoffline
        | online token' htoken' _ s1 hs1 call hcall res happly hrefuses =>
          cases htoken'.symm.trans htoken
          subst hs1 hcall
          rw [happly]
          exact .refuses res hrefuses
    · rw [R.exec_stepBranch_offline htoken honline]
      dsimp only
      rw [openOutcome_offline]
      constructor
      · rintro (hforce | ⟨hforce, hhandler, hreq, hrefuses⟩)
        · exact .forced token htoken honline hforce
        · exact .offline token htoken honline hforce hhandler hreq _ rfl hrefuses
      · intro h
        cases h with
        | noToken hnone => cases hnone.symm.trans htoken
        | online _ _ hon => exact absurd hon honline
        | forced _ _ _ hforce => exact .inl hforce
        | offline token' htoken' _ hforce hhandler hreq s1 hs1 hrefuses =>
          cases htoken'.symm.trans htoken
          subst hs1
          exact .inr ⟨hforce, hhandler, hreq, hrefuses⟩

theorem closes_iff (p : InProgress) (s : ResolverState P) (req : PamAuthRequest) :
    R.Closes ⟨.inProgress p, s⟩ req ↔ ¬ R.OpenDenial p s req := by
  rw [closes_iff_outcome, openOutcome_iff]

/-! ## 3. Whole sessions -/

def answers (session : AuthSession) :
    List (ResolverState P × PamAuthRequest) → List (Except Unit PamAuthResponse)
  | [] => []
  | step :: steps =>
    R.answer ⟨session, step.1⟩ step.2 :: answers (R.nextSession session step) steps

def ClosesAll (session : AuthSession) : List (ResolverState P × PamAuthRequest) → Prop
  | [] => True
  | step :: steps =>
    R.Closes ⟨session, step.1⟩ step.2 ∧ ClosesAll (R.nextSession session step) steps

/-- No step of the session denies and goes on. -/
def NeverOpen (session : AuthSession) : List (ResolverState P × PamAuthRequest) → Prop
  | [] => True
  | step :: steps =>
    (∀ p, session = .inProgress p → ¬ R.OpenDenial p step.1 step.2) ∧
      NeverOpen (R.nextSession session step) steps

theorem closesAll_iff (session : AuthSession) (steps : List (ResolverState P × PamAuthRequest)) :
    R.ClosesAll session steps ↔ R.NeverOpen session steps := by
  induction steps generalizing session with
  | nil => exact Iff.rfl
  | cons step steps ih =>
    unfold ClosesAll NeverOpen
    rw [ih]
    refine and_congr_left fun _ => ?_
    cases session with
    | inProgress p =>
      rw [R.closes_iff]
      constructor
      · rintro h _ ⟨⟩
        exact h
      · intro h
        exact h p rfl
    | success spn => exact iff_of_true (R.closes_of_over rfl) fun _ h => nomatch h
    | denied => exact iff_of_true (R.closes_of_over rfl) fun _ h => nomatch h

theorem answers_of_over (h : session.over = true) :
    ∀ r ∈ R.answers session steps, r = .error () := by
  induction steps with
  | nil =>
    intro r hr
    cases hr
  | cons step steps ih =>
    have hanswer : R.answer ⟨session, step.1⟩ step.2 = .error () := by
      cases session with
      | inProgress p => cases h
      | success spn => rfl
      | denied => rfl
    have hnext : R.nextSession session step = session := by
      apply R.stepLogin_of_over (l := ⟨session, step.1⟩)
      rintro p rfl
      cases h
    intro r hr
    unfold answers at hr
    rw [hnext] at hr
    rcases List.mem_cons.mp hr with rfl | hr
    · exact hanswer
    · exact ih r hr

theorem denialFinal_cons {r : Except Unit PamAuthResponse}
    (hover : ∀ resp, r = .ok resp → resp.final = true → session.over = true)
    (h : DenialFinal (R.answers session steps)) : DenialFinal (r :: R.answers session steps) := by
  refine List.Pairwise.cons ?_ h
  intro r' hr'
  constructor
  · rintro resp rfl hdenies
    have hfinal : resp.final = true := by
      cases resp with
      | success => rfl
      | _ => exact hdenies
    rw [R.answers_of_over (hover resp rfl hfinal) r' hr']
    exact nofun
  · rintro rfl
    exact R.answers_of_over (hover .success rfl rfl) r' hr'

theorem denialFinal_of_closesAll (h : R.ClosesAll session steps) :
    DenialFinal (R.answers session steps) := by
  induction steps generalizing session with
  | nil => exact List.Pairwise.nil
  | cons step steps ih => exact R.denialFinal_cons h.1 (ih h.2)

/-- What the provider answers when the session is opened, if it is asked. -/
def initAnswer (accountId service : String) (noHelloPin forceReauth : Bool)
    (s : ResolverState P) : Option (Except IdpError (AuthRequest × AuthCredHandler)) :=
  let prelude := (R.authInitPrelude accountId).exec s
  match prelude.1 with
  | .ok (some (token, true)) =>
    some ((R.authInitOnline accountId service token noHelloPin forceReauth).exec prelude.2).1
  | .ok (some (token, false)) =>
    if forceReauth then none
    else some ((R.authInitOffline accountId token noHelloPin).exec prelude.2).1
  | _ => none

def InitRefused (accountId service : String) (noHelloPin forceReauth : Bool)
    (s : ResolverState P) : Prop :=
  ∃ msg handler, R.initAnswer accountId service noHelloPin forceReauth s =
    some (.ok (.initDenied msg, handler))

theorem authInitFinish_over_iff {accountId service : String} {token : Option UserToken}
    {online noHelloPin forceReauth : Bool}
    {maybeErr : Except IdpError (AuthRequest × AuthCredHandler)} {resp : PamAuthResponse}
    (h : authInitFinish accountId service token online noHelloPin forceReauth maybeErr =
      .ok (session, resp)) :
    (resp.final = true → session.over = true) ↔
      ¬ ∃ msg handler, maybeErr = .ok (.initDenied msg, handler) := by
  unfold authInitFinish at h
  split at h
  · rename_i nextReq handler
    cases h
    rw [into_final]
    constructor
    · rintro hover ⟨msg, handler', heq⟩
      cases heq
      cases hover ⟨msg, rfl⟩
    · rintro hno ⟨msg, rfl⟩
      exact absurd ⟨msg, handler, rfl⟩ hno
  · cases h
    refine iff_of_true (fun _ => rfl) ?_
    rintro ⟨msg, handler, heq⟩
    cases heq
  · cases h

/-- The response to the init comes with a session that is over, if it is final and the provider
    did not refuse. -/
theorem init_over_iff {accountId service : String} {noHelloPin forceReauth : Bool}
    {resp : PamAuthResponse}
    (h : ((R.pamAccountAuthenticateInit accountId service noHelloPin forceReauth).exec s).1 =
      .ok (session, resp)) :
    (resp.final = true → session.over = true) ↔
      ¬ R.InitRefused accountId service noHelloPin forceReauth s := by
  unfold InitRefused initAnswer
  unfold pamAccountAuthenticateInit at h
  rw [Prog.exec_bind] at h
  generalize (R.authInitPrelude accountId).exec s = prelude at h ⊢
  have hover : session = .denied → ∀ answer : Option (Except IdpError
      (AuthRequest × AuthCredHandler)), answer = none → ((resp.final = true → session.over = true) ↔
        ¬ ∃ msg handler, answer = some (.ok (.initDenied msg, handler))) := by
    rintro rfl _ rfl
    exact iff_of_true (fun _ => rfl) fun ⟨_, _, h⟩ => nomatch h
  rcases prelude with ⟨_ | _ | ⟨token, _ | _⟩, s1⟩
  · cases h
  · cases h
    exact hover rfl _ rfl
  · cases forceReauth with
    | true =>
      cases h
      exact hover rfl _ rfl
    | false =>
      simp only [Bool.false_eq_true, if_false, Prog.exec_bind, Prog.exec_pure] at h ⊢
      rw [authInitFinish_over_iff h]
      simp only [Option.some.injEq]
  · simp only [if_true, Prog.exec_bind, Prog.exec_pure] at h ⊢
    rw [authInitFinish_over_iff h]
    simp only [Option.some.injEq]

/-- **Denials are final**, and come with a session that is over, exactly if the provider did not
    refuse to open the session and no step denies and goes on. -/
theorem denial_final_iff {accountId service : String} {noHelloPin forceReauth : Bool}
    {s : ResolverState P} {session : AuthSession} {resp : PamAuthResponse}
    (hinit : ((R.pamAccountAuthenticateInit accountId service noHelloPin forceReauth).exec s).1 =
      .ok (session, resp)) (steps : List (ResolverState P × PamAuthRequest)) :
    ((resp.final = true → session.over = true) ∧ R.ClosesAll session steps ↔
      ¬ R.InitRefused accountId service noHelloPin forceReauth s ∧ R.NeverOpen session steps) ∧
    (¬ R.InitRefused accountId service noHelloPin forceReauth s ∧ R.NeverOpen session steps →
      DenialFinal (.ok resp :: R.answers session steps)) := by
  have hiff : (resp.final = true → session.over = true) ∧ R.ClosesAll session steps ↔
      ¬ R.InitRefused accountId service noHelloPin forceReauth s ∧ R.NeverOpen session steps := by
    rw [R.init_over_iff hinit, R.closesAll_iff]
  refine ⟨hiff, ?_⟩
  intro h
  obtain ⟨hover, hcloses⟩ := hiff.mpr h
  apply R.denialFinal_cons
  · rintro _ ⟨⟩ hfinal
    exact hover hfinal
  · exact R.denialFinal_of_closesAll hcloses

end Resolver

def aliceOnline : ResolverState (Entra.ProviderState Unit) :=
  (sampleState .online aliceKeystore).resolver

def aliceCutOff : ResolverState (Entra.ProviderState Unit) :=
  (sampleState .offline aliceKeystore).resolver

theorem denial_final_alice :
    let R := (sampleDaemon 3 false).resolver
    let steps := [(aliceOnline, .pin "000000"), (aliceOnline, .pin "123456")]
    R.answers (.inProgress aliceSession) steps =
        [.ok (.denied "Failed to authenticate with Hello PIN."), .error ()] ∧
      DenialFinal (.ok .pin :: R.answers (.inProgress aliceSession) steps) := by
  intro R steps
  have hinit : ((R.pamAccountAuthenticateInit "alice@example.com" "login" false false).exec
      aliceOnline).1 = .ok (.inProgress aliceSession, .pin) := by decide +kernel
  have hanswers : R.answers (.inProgress aliceSession) steps =
      [.ok (.denied "Failed to authenticate with Hello PIN."), .error ()] := by decide +kernel
  obtain ⟨hiff, hfinal⟩ := R.denial_final_iff hinit steps
  refine ⟨hanswers, hfinal (hiff.mp ⟨?_, ?_, ?_, trivial⟩)⟩
  · intro h
    cases h
  · intro resp _ _
    decide +kernel
  · intro resp _ _
    decide +kernel

/-- A session that has to be online is denied while it is not, and succeeds later. -/
theorem denial_not_final :
    let R := (sampleDaemon 3 false).resolver
    let p : InProgress := { aliceSession with forceReauth := true }
    let steps := [(aliceCutOff, .pin "123456"), (aliceOnline, .pin "123456")]
    ((R.pamAccountAuthenticateInit "alice@example.com" "login" false true).exec aliceOnline).1 =
        .ok (.inProgress p, .password) ∧
      R.answers (.inProgress p) steps =
        [.ok (.denied "Re-authentication requires network connectivity."), .ok .success] ∧
      ¬ DenialFinal (.ok .password :: R.answers (.inProgress p) steps) := by
  intro R p steps
  have hanswers : R.answers (.inProgress p) steps =
      [.ok (.denied "Re-authentication requires network connectivity."), .ok .success] := by
    decide +kernel
  refine ⟨by decide +kernel, hanswers, ?_⟩
  rw [hanswers]
  intro hfinal
  have hpair := List.rel_of_pairwise_cons (List.Pairwise.of_cons hfinal) (List.mem_singleton_self _)
  exact hpair.1 _ rfl rfl rfl

end Himmelblau
