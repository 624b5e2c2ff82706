/-
  **Whether a session succeeds only with what it asked for.**  The session keeps a credential
  handler, but not what its last response asked for.  A TOTP code, a new PIN and the password
  of a password-first login are checked against the handler, and the handler goes with the
  prompt.  A Hello PIN is taken with any handler, and so is a password offline, or online with
  the single-factor fallback: such a credential completes a session that never asked for it.

  The provider is any that follows the login rules; in the end it is one of the two.
-/
import Himmelblau.LoginRules
import Himmelblau.SessionDenial

namespace Himmelblau

open Interface Db LockProgram Entra

variable {W : Type}

/-! ## 1. Prompts -/

def Interface.PamAuthResponse.demands : PamAuthResponse → PamAuthRequest → Bool
  | .pin, .pin _ => true
  | .password, .password _ | .changePassword _, .password _ => true
  | .helloTOTP _, .helloTOTP _ => true
  | .mfaCode _, .mfaCode _ => true
  | .mfaPoll .., .mfaPoll _ | .mfaPollWait, .mfaPoll _ => true
  | .setupPin _, .setupPin _ => true
  | .fido .., .fido _ | .fido .., .fidoUnavailable => true
  | _, _ => false

/-- The response that a client goes by: an error says nothing. -/
def latest (last : PamAuthResponse) : Except Unit PamAuthResponse → PamAuthResponse
  | .ok resp => resp
  | .error () => last

/-- Whatever is checked against the handler was asked for. -/
def Held (h : AuthCredHandler) (last : PamAuthResponse) : Prop :=
  ∀ req, Kept h req → last.demands req = true

variable {h h' : AuthCredHandler} {req : PamAuthRequest} {last : PamAuthResponse}

theorem Entra.Prompts.held {d : AuthRequest} (hprompts : Prompts h d) : Held h d.into := by
  intro req hkept
  cases h with
  | passwordFirst =>
    cases req with
    | password cred =>
      cases hprompts
      rfl
    | _ => exact hkept.elim
  | setupPin token =>
    cases req with
    | setupPin pin =>
      obtain ⟨msg, rfl⟩ := hprompts
      rfl
    | _ => exact hkept.elim
  | helloTOTP helloPin pending =>
    cases req with
    | helloTOTP cred =>
      obtain ⟨msg, rfl⟩ := hprompts
      rfl
    | _ => exact hkept.elim
  | _ => exact hkept.elim

theorem Entra.Sticky.kept (hsticky : Sticky h h') (hkept : Kept h' req) : Kept h req := by
  rcases hsticky with rfl | ⟨-, hmfa⟩ | ⟨hfirst, hfirst'⟩
  · exact hkept
  · cases h' with
    | mfa => exact hkept.elim
    | _ => cases hmfa
  · cases h with
    | passwordFirst =>
      cases h' with
      | passwordFirst =>
        cases req with
        | password => trivial
        | _ => exact hkept.elim
      | _ => cases hfirst'
    | _ => cases hfirst

theorem Held.of_sticky (hheld : Held h last) (hsticky : Sticky h h') :
    Held h' last := fun req hkept => hheld req (hsticky.kept hkept)

theorem Held.code (hheld : Held h last)
    (hreq : (∃ cred, req = .pin cred) ∨ ∃ cred, req = .helloTOTP cred)
    (hasked : last.demands req = true) (msg : String) : Held h (.helloTOTP msg) := by
  intro req' hkept
  have hlast := hheld req' hkept
  rcases hreq with ⟨cred, rfl⟩ | ⟨cred, rfl⟩
  · cases last with
    | pin =>
      cases req' with
      | pin => cases h <;> exact hkept.elim
      | _ => cases hlast
    | _ => cases hasked
  · cases last with
    | helloTOTP =>
      cases req' with
      | helloTOTP => rfl
      | _ => cases hlast
    | _ => cases hasked

/-! ## 2. What a step of a session can do -/

def Happened (ev : Event → Prop) (before after : ProviderState W) : Prop :=
  ∃ new e, after.trace = new ++ before.trace ∧ e ∈ new ∧ ev e

theorem happened_iff {ev : Event → Prop} {before after : ProviderState W} {new : List Event}
    (h : after.trace = new ++ before.trace) : Happened ev before after ↔ ∃ e ∈ new, ev e := by
  constructor
  · rintro ⟨new', e, h', hmem, he⟩
    cases List.append_cancel_right (h.symm.trans h')
    exact ⟨e, hmem, he⟩
  · rintro ⟨e, hmem, he⟩
    exact ⟨new, e, h, hmem, he⟩

section Turns

variable (R : Resolver (ProviderState W))
  (accepts : String → KeyStore → AuthCredHandler → PamAuthRequest → Prop)
  (ev : String → Event → Prop)

/-- The request is taken although the handler is not one for it. -/
inductive Accepted (p : InProgress) (s : ResolverState (ProviderState W)) (req : PamAuthRequest) :
    Prop
  | provider (h : accepts p.accountId s.db.hsmDataT p.credHandler req)
  | password (hoffline : ¬ R.Online p s) (token : UserToken) (htoken : p.token = some token)
      (cred : String) (hreq : req = .password cred)
      (hcheck : s.db.checkAccountPassword R.crypto token.uuid cred = .ok true)

/-- What speaks for a success of a session that has to be online. -/
def Proven (p : InProgress) (s : ResolverState (ProviderState W)) (req : PamAuthRequest) : Prop :=
  p.forceReauth = true →
    Happened (ev p.accountId) s.client (R.stepLogin ⟨.inProgress p, s⟩ req).state.client ∨
      isEarned p.credHandler = true

inductive Turn (p : InProgress) (s : ResolverState (ProviderState W)) (req : PamAuthRequest) :
    Except Unit PamAuthResponse → AuthSession → Prop
  | failed (h' : AuthCredHandler) (hsticky : Sticky p.credHandler h') :
      Turn p s req (.error ()) (.inProgress { p with credHandler := h' })
  -- the hash of a password could not be stored, and the prompt is lost
  | lost (h' : AuthCredHandler) (cred : String)
      (hhash : R.crypto.newArgon2idHsm s.entropy cred = none)
      (hearned : isEarned h' = true → Proven R ev p s req) :
      Turn p s req (.error ()) (.inProgress { p with credHandler := h' })
  | refused (resp : PamAuthResponse) (h' : AuthCredHandler) (hdenies : resp.denies = true)
      (hopen : R.OpenDenial p s req) (hearned : isEarned h' = true → Proven R ev p s req) :
      Turn p s req (.ok resp) (.inProgress { p with credHandler := h' })
  | denied (resp : PamAuthResponse) (hdenies : resp.denies = true) :
      Turn p s req (.ok resp) .denied
  | asked (d : AuthRequest) (h' : AuthCredHandler) (hprompts : Prompts h' d)
      (hearned : isEarned h' = true → Proven R ev p s req) :
      Turn p s req (.ok d.into) (.inProgress { p with credHandler := h' })
  | code (msg : String) (hreq : (∃ cred, req = .pin cred) ∨ ∃ cred, req = .helloTOTP cred)
      (hground : Kept p.credHandler req ∨ Accepted R accepts p s req) :
      Turn p s req (.ok (.helloTOTP msg)) (.inProgress p)
  | succeeded (spn : String) (hground : Kept p.credHandler req ∨ Accepted R accepts p s req)
      (hproven : Proven R ev p s req) : Turn p s req (.ok .success) (.success spn)

variable {R accepts ev}

variable {p : InProgress} {s : ResolverState (ProviderState W)} {token : UserToken}
  {accountId : String} {noHelloPin forceReauth : Bool}

theorem Proven.of_sticky (hsticky : Sticky p.credHandler h') (hearned : isEarned h' = true) :
    Proven R ev p s req := fun _ => .inr (hsticky.earned hearned)

theorem turn_of_success (hsticky : Sticky p.credHandler h')
    (hground : Kept p.credHandler req ∨ Accepted R accepts p s req)
    (hproven : Proven R ev p s req) (t : UserToken) (s' : ResolverState (ProviderState W)) :
    Turn R accepts ev p s req
      ((R.authStepFinish (.inProgress { p with credHandler := h' }) (.ok (.success t))).exec s').1.1
      ((R.authStepFinish (.inProgress { p with credHandler := h' })
        (.ok (.success t))).exec s').1.2 := by
  rw [Resolver.exec_authStepFinish_success]
  split
  · exact .denied .unknown rfl
  · split
    · exact .succeeded _ hground hproven
    · exact .failed h' hsticky

theorem client_of_online (req : PamAuthRequest) (rules : LoginRules R.client ev accepts)
    (htoken : p.token = some token) (honline : R.Online p s) :
    (R.stepLogin ⟨.inProgress p, s⟩ req).state.client =
      (R.client.unixUserOnlineAuthStep p.accountId token p.service p.noHelloPin p.credHandler req
        s.db.hsmDataT s.client).2.2 := by
  rw [R.client_stepLogin, R.exec_stepBranch_online htoken honline]
  simp only [(R.applyCacheAction_keeps _ _ _).1, Resolver.exec_getCachestate, rules.cachestate]
  rfl

variable (rules : LoginRules R.client ev accepts)

include rules

theorem turn_online (htoken : p.token = some token)
    (honline : R.Online p s) : Turn R accepts ev p s req (R.answer ⟨.inProgress p, s⟩ req)
      (R.nextSession (.inProgress p) (s, req)) := by
  have hclient := client_of_online req rules htoken honline
  have hs1 := rules.exec_getCachestate (some p.accountId) s
  have hopen := (R.openOutcome_iff p s req).mp
  unfold Resolver.answer Resolver.nextSession Resolver.stepLogin
  simp only [R.exec_pamAccountAuthenticateStep]
  simp only [R.exec_stepBranch_online htoken honline, hs1] at hopen ⊢
  change (R.stepLogin ⟨.inProgress p, s⟩ req).state.client = (R.client.unixUserOnlineAuthStep _ _ _
    _ _ _ (s.called s.db.hsmDataT s.client).db.hsmDataT
    (s.called s.db.hsmDataT s.client).client).2.2 at hclient
  generalize hcall : R.client.unixUserOnlineAuthStep p.accountId token p.service p.noHelloPin
    p.credHandler req _ _ = call at hclient hopen ⊢
  obtain ⟨-, hsuits⟩ := rules.step _ _ _ _ _ _ _ _ _ hcall
  -- the evidence of the call is evidence for the step
  have hproven : (False ∨ Evident (ev p.accountId) ⟨s.db.hsmDataT, s.client, p.credHandler⟩
      (afterStep call) ∨
      isEarned p.credHandler = true) → Proven R ev p s req := by
    rintro (h | hev | hearned)
    · exact h.elim
    · intro _
      left
      rw [hclient]
      exact hev
    · exact fun _ => .inr hearned
  obtain ⟨⟨answer, h'⟩, ks', client'⟩ := call
  change Suits _ _ _ answer h' at hsuits
  cases hsuits with
  | error e hsticky =>
    have hfinish : (R.applyCacheAction token (.error e)).exec
        ((s.called s.db.hsmDataT s.client).called ks' client') =
        (.ok (.error e), (s.called s.db.hsmDataT s.client).called ks' client') := rfl
    simp only [hfinish, Resolver.earlyReturn] at hopen ⊢
    cases e with
    | notFound what where_ =>
      refine .refused _ h' rfl (hopen (.refuses _ (.notFound what where_))) ?_
      exact fun hearned => .of_sticky hsticky hearned
    | _ => exact .failed h' hsticky
  | denied msg => exact .denied _ rfl
  | next d action hprompts hearned =>
    rcases R.exec_applyCacheAction_passes token (.next d) (fun _ h => by cases h) action
      ((s.called s.db.hsmDataT s.client).called ks' client') with happly | ⟨happly, cred, hhash⟩
    · simp only [happly, Resolver.earlyReturn]
      exact .asked d h' hprompts fun he => hproven (hearned he)
    · simp only [happly, Resolver.earlyReturn]
      exact .lost h' cred hhash fun he => hproven (hearned he)
  | success t action hsticky hground hevidence =>
    rcases R.exec_applyCacheAction_passes token (.success t) (fun _ h => by cases h) action
      ((s.called s.db.hsmDataT s.client).called ks' client') with happly | ⟨happly, -⟩
    · simp only [happly, Resolver.earlyReturn]
      have hground' : Kept p.credHandler req ∨ Accepted R accepts p s req :=
        hground.imp_right .provider
      exact turn_of_success hsticky hground' (hproven hevidence) t _
    · simp only [happly, Resolver.earlyReturn]
      exact .failed h' hsticky

theorem turn_offline (htoken : p.token = some token)
    (hoffline : ¬ R.Online p s) : Turn R accepts ev p s req (R.answer ⟨.inProgress p, s⟩ req)
      (R.nextSession (.inProgress p) (s, req)) := by
  have hs1 := rules.exec_getCachestate (some p.accountId) s
  have hopen := (R.openOutcome_iff p s req).mp
  unfold Resolver.answer Resolver.nextSession Resolver.stepLogin
  simp only [R.exec_pamAccountAuthenticateStep]
  simp only [R.exec_stepBranch_offline htoken hoffline, hs1] at hopen ⊢
  obtain ⟨handler, hstep, hsession⟩ := R.exec_authStepOffline p token req
    (s.called s.db.hsmDataT s.client)
  rw [hsession]
  generalize ((R.authStepOffline p token req).exec (s.called s.db.hsmDataT s.client)).1.1 = res,
    ((R.authStepOffline p token req).exec (s.called s.db.hsmDataT s.client)).2 = s' at *
  have hproven : p.forceReauth = false → Proven R ev p s req := by
    intro hfree hforce
    cases hfree.symm.trans hforce
  cases hstep with
  | forced hforce =>
    exact .refused _ p.credHandler rfl (hopen (.early _ rfl)) fun he => .of_sticky (.refl _) he
  | verified hforce cred hreq s' hcheck =>
    have haccepted : Accepted R accepts p s req := by
      refine .password hoffline token htoken cred hreq ?_
      rw [R.exec_checkCacheUserpassword] at hcheck
      split at hcheck
      · next ok hok =>
        cases hcheck
        exact hok
      · cases hcheck
    exact turn_of_success (.refl _) (.inr haccepted) (hproven hforce) token s'
  | wrong hforce cred hreq s' hcheck => exact .denied _ rfl
  | refused s' hclient => exact .failed p.credHandler (.refl _)
  | asked hforce hreq call hcall =>
    obtain ⟨hstill, hanswered⟩ := rules.offlineStep _ _ _ _ _ _ _ _ hcall
    obtain ⟨⟨answer, h'⟩, ks', client'⟩ := call
    have hh' : h' = p.credHandler := hstill.1
    subst hh'
    change Answered _ answer at hanswered
    cases hanswered with
    | error e =>
      cases e with
      | notFound what where_ =>
        exact .refused _ p.credHandler rfl (hopen (.refuses _ (.notFound what where_))) fun he =>
          .of_sticky (.refl _) he
      | _ => exact .failed p.credHandler (.refl _)
    | denied msg => exact .denied _ rfl
    | code msg hground => exact .code msg hreq (hground.imp_right .provider)
    | success t hground =>
      have hground' : Kept p.credHandler req ∨ Accepted R accepts p s req :=
        hground.imp_right .provider
      exact turn_of_success (.refl _) hground' (hproven hforce) t _

theorem turn (p : InProgress)
    (s : ResolverState (ProviderState W)) (req : PamAuthRequest) :
    Turn R accepts ev p s req (R.answer ⟨.inProgress p, s⟩ req)
      (R.nextSession (.inProgress p) (s, req)) := by
  cases htoken : p.token with
  | none =>
    have hopen : R.OpenDenial p s req := .noToken htoken
    unfold Resolver.answer Resolver.nextSession Resolver.stepLogin
    unfold Resolver.pamAccountAuthenticateStep
    simp only [Prog.exec_bind, Resolver.authStepBranch, htoken, Prog.exec_pure]
    exact .refused _ p.credHandler rfl hopen fun he => .of_sticky (.refl _) he
  | some token =>
    by_cases honline : R.Online p s
    · exact turn_online rules htoken honline
    · exact turn_offline rules htoken honline

theorem authInitOnlineResult_invites
    (token : Option UserToken) {r : InitAnswer} (h : Invites r) :
    Invites ((R.authInitOnlineResult accountId token noHelloPin forceReauth r).exec s).1 := by
  cases h with
  | asks d handler hprompts hfresh => exact .asks d handler hprompts hfresh
  | error e =>
    change Invites ((R.authInitFallback accountId token noHelloPin forceReauth e).exec s).1
    unfold Resolver.authInitFallback
    split
    · exact .error e
    · rw [Prog.exec_bind]
      split
      · exact .error e
      · exact rules.offlineInit _ _ _ _ _

theorem authInitOnline_invites (service : String)
    (token : Option UserToken) :
    Invites ((R.authInitOnline accountId service token noHelloPin forceReauth).exec s).1 := by
  unfold Resolver.authInitOnline
  simp only [Prog.exec_bind, Prog.exec_pure]
  exact authInitOnlineResult_invites rules _ (rules.init _ _ _ _ _ _ _)

inductive Begins (accountId : String) (forceReauth : Bool) : AuthSession → PamAuthResponse → Prop
  | denied (resp : PamAuthResponse) : Begins accountId forceReauth .denied resp
  | asks (p : InProgress) (haccount : p.accountId = accountId)
      (hforce : p.forceReauth = forceReauth) (hfresh : isEarned p.credHandler = false)
      (d : AuthRequest) (hprompts : Prompts p.credHandler d) :
      Begins accountId forceReauth (.inProgress p) d.into

theorem begins {service : String} {session : AuthSession}
    {resp : PamAuthResponse}
    (hinit : ((R.pamAccountAuthenticateInit accountId service noHelloPin forceReauth).exec s).1 =
      .ok (session, resp)) :
    Begins accountId forceReauth session resp := by
  have hfinish : ∀ {token online maybeErr}, Invites maybeErr →
      Resolver.authInitFinish accountId service token online noHelloPin forceReauth maybeErr =
        .ok (session, resp) → Begins accountId forceReauth session resp := by
    intro token online maybeErr hinvites h
    cases hinvites with
    | error e =>
      cases e with
      | notFound what where_ =>
        cases h
        exact .denied _
      | _ => cases h
    | asks d handler hprompts hfresh =>
      cases h
      apply Begins.asks
      · rfl
      · rfl
      · exact hfresh
      · exact hprompts
  unfold Resolver.pamAccountAuthenticateInit at hinit
  rw [Prog.exec_bind] at hinit
  split at hinit
  · cases hinit
  · cases hinit
    exact .denied _
  · split at hinit
    · rw [Prog.exec_bind] at hinit
      exact hfinish (authInitOnline_invites rules _ _) hinit
    · split at hinit
      · cases hinit
        exact .denied _
      · rw [Prog.exec_bind] at hinit
        exact hfinish (rules.offlineInit _ _ _ _ _) hinit

end Turns

/-! ## 3. Whole sessions -/

section Sessions

variable (R : Resolver (ProviderState W))
  (accepts : String → KeyStore → AuthCredHandler → PamAuthRequest → Prop)

/-- Every step that succeeds was asked for by the response before it. -/
def OnlyAsked (session : AuthSession) (last : PamAuthResponse) :
    List (ResolverState (ProviderState W) × PamAuthRequest) → Prop
  | [] => True
  | step :: steps =>
    (R.answer ⟨session, step.1⟩ step.2 = .ok .success → last.demands step.2 = true) ∧
      OnlyAsked (R.nextSession session step) (latest last (R.answer ⟨session, step.1⟩ step.2)) steps

/-- A step that is not denied in a way that leaves the session open, whose request is asked for
    or not accepted, and during which passwords can be hashed. -/
structure Orderly (p : InProgress) (last : PamAuthResponse)
    (step : ResolverState (ProviderState W) × PamAuthRequest) : Prop where
  closed : ¬ R.OpenDenial p step.1 step.2
  unasked : last.demands step.2 = false → ¬ Accepted R accepts p step.1 step.2
  hashes : ∀ cred, R.crypto.newArgon2idHsm step.1.entropy cred ≠ none

def AllOrderly (session : AuthSession) (last : PamAuthResponse) :
    List (ResolverState (ProviderState W) × PamAuthRequest) → Prop
  | [] => True
  | step :: steps =>
    (∀ p, session = .inProgress p → Orderly R accepts p last step) ∧
      AllOrderly (R.nextSession session step)
        (latest last (R.answer ⟨session, step.1⟩ step.2)) steps

variable {R accepts} {ev : String → Event → Prop}

variable {p : InProgress} {step : ResolverState (ProviderState W) × PamAuthRequest}

theorem Orderly.demands (h : Orderly R accepts p last step) (hheld : Held p.credHandler last)
    (hground : Kept p.credHandler step.2 ∨ Accepted R accepts p step.1 step.2) :
    last.demands step.2 = true := by
  rcases hground with hkept | haccepted
  · exact hheld step.2 hkept
  · cases hasked : last.demands step.2 with
    | true => rfl
    | false => exact absurd haccepted (h.unasked hasked)

/-- One step: a success was asked for, and the handler goes with the latest prompt. -/
theorem Orderly.turn (h : Orderly R accepts p last step) (hheld : Held p.credHandler last)
    {answer : Except Unit PamAuthResponse} {next : AuthSession}
    (hturn : Turn R accepts ev p step.1 step.2 answer next) :
    (answer = .ok .success → last.demands step.2 = true) ∧
      ∀ p', next = .inProgress p' → Held p'.credHandler (latest last answer) := by
  cases hturn with
  | failed h' hsticky =>
    constructor
    · intro hsuccess
      cases hsuccess
    · rintro _ ⟨⟩
      exact hheld.of_sticky hsticky
  | lost h' cred hhash => exact absurd hhash (h.hashes cred)
  | refused resp h' hdenies hopen => exact absurd hopen h.closed
  | denied resp hdenies =>
    constructor
    · rintro ⟨⟩
      cases hdenies
    · intro p' hnext
      cases hnext
  | asked d h' hprompts =>
    constructor
    · intro hsuccess
      cases d with
      | _ => cases hsuccess
    · rintro _ ⟨⟩
      exact hprompts.held
  | code msg hreq hground =>
    constructor
    · intro hsuccess
      cases hsuccess
    · rintro _ ⟨⟩
      exact hheld.code hreq (h.demands hheld hground) msg
  | succeeded spn hground =>
    constructor
    · exact fun _ => h.demands hheld hground
    · intro p' hnext
      cases hnext

theorem onlyAsked_of_over {session : AuthSession} (hover : session.over = true)
    (last : PamAuthResponse) (steps : List (ResolverState (ProviderState W) × PamAuthRequest)) :
    OnlyAsked R session last steps := by
  induction steps generalizing last with
  | nil => trivial
  | cons step steps ih =>
    have hanswer : R.answer ⟨session, step.1⟩ step.2 = .error () := by
      cases session with
      | inProgress p => cases hover
      | success spn => rfl
      | denied => rfl
    have hnext : R.nextSession session step = session := by
      apply R.stepLogin_of_over (l := ⟨session, step.1⟩)
      rintro p rfl
      cases hover
    refine ⟨?_, ?_⟩
    · rw [hanswer]
      exact nofun
    · rw [hnext]
      exact ih _

theorem onlyAsked_of_held (rules : LoginRules R.client ev accepts) {session : AuthSession}
    {steps : List (ResolverState (ProviderState W) × PamAuthRequest)}
    (hheld : ∀ p, session = .inProgress p → Held p.credHandler last)
    (hsteps : AllOrderly R accepts session last steps) : OnlyAsked R session last steps := by
  induction steps generalizing session last with
  | nil => trivial
  | cons step steps ih =>
    cases session with
    | success spn => exact onlyAsked_of_over rfl _ _
    | denied => exact onlyAsked_of_over rfl _ _
    | inProgress p =>
      obtain ⟨hstep, hrest⟩ := hsteps
      obtain ⟨hasked, hnext⟩ := (hstep p rfl).turn (hheld p rfl) (turn rules p step.1 step.2)
      exact ⟨hasked, ih hnext hrest⟩

/-- **A session succeeds only with what it asked for**, if every step that it takes is orderly:
    with either provider, from any init, and whatever happens between its steps. -/
theorem succeeds_with_what_was_asked (hclient : Oidc.IsProvider R.client ev accepts)
    {accountId service : String} {noHelloPin forceReauth : Bool}
    {s : ResolverState (ProviderState W)} {session : AuthSession} {resp : PamAuthResponse}
    (hinit : ((R.pamAccountAuthenticateInit accountId service noHelloPin forceReauth).exec s).1 =
      .ok (session, resp))
    {steps : List (ResolverState (ProviderState W) × PamAuthRequest)}
    (hsteps : AllOrderly R accepts session resp steps) : OnlyAsked R session resp steps := by
  apply onlyAsked_of_held hclient.rules _ hsteps
  rintro p rfl
  cases begins hclient.rules hinit with
  | asks p haccount hforce hfresh d hprompts => exact hprompts.held

end Sessions

theorem succeeds_with_pin_asked :
    let R := (sampleDaemon 3 false).resolver
    let steps := [(aliceOnline, .pin "123456")]
    R.answers (.inProgress aliceSession) steps = [.ok .success] ∧
      OnlyAsked R (.inProgress aliceSession) .pin steps := by
  intro R steps
  have hinit : ((R.pamAccountAuthenticateInit "alice@example.com" "login" false false).exec
      aliceOnline).1 = .ok (.inProgress aliceSession, .pin) := by decide +kernel
  have hcloses : R.Closes ⟨.inProgress aliceSession, aliceOnline⟩ (.pin "123456") := by
    intro resp _ _
    decide +kernel
  refine ⟨by decide +kernel, succeeds_with_what_was_asked (.entra _) hinit ⟨?_, trivial⟩⟩
  rintro _ ⟨⟩
  exact { closed := (R.closes_iff _ _ _).mp hcloses, unasked := nofun, hashes := nofun }

/-- A session that was not to use the PIN asks for the password, and succeeds with the PIN. -/
theorem succeeds_with_pin_unasked :
    let R := (sampleDaemon 3 false).resolver
    let p : InProgress := { aliceSession with noHelloPin := true }
    let steps := [(aliceOnline, .pin "123456")]
    ((R.pamAccountAuthenticateInit "alice@example.com" "login" true false).exec aliceOnline).1 =
        .ok (.inProgress p, .password) ∧
      R.answers (.inProgress p) steps = [.ok .success] ∧
      ¬ OnlyAsked R (.inProgress p) .password steps := by
  intro R p steps
  have hanswer : R.answer ⟨.inProgress p, aliceOnline⟩ (.pin "123456") = .ok .success := by
    decide +kernel
  refine ⟨by decide +kernel, by decide +kernel, ?_⟩
  intro honly
  cases honly.1 hanswer

end Himmelblau
