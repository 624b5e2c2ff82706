/-
  **Whether a forced re-authentication is online.**  A session that was opened with
  `force_reauth` never succeeds in the resolver's offline branch.  The provider's online step
  is not told about the flag.  With the Entra provider, a request for a token that fails on the
  network, or is answered with a demand to set a new password, counts as an outage, and the
  step goes on to a success with the cached token: the PIN alone completes the session.

  `token_validate` is handed a token of the same step, or the one that an earlier step of the
  session put in its handler, so that `validated` in a step of the session tells of a token
  that was issued to the session.
-/
import Himmelblau.SessionPrompts

namespace Himmelblau

open Interface Db LockProgram Entra Oidc

variable {W : Type}

/-- The identity provider's answer to a request for a token of `a` is taken for an outage. -/
def FellBack (a : String) (e : Event) : Prop :=
  ∃ request error, e = .tokenAnswer a request (some error) ∧ fallsBack error = true

theorem validated_or_fellBack {a : String} {e : Event} (h : Shows a e) :
    Validated a e ∨ FellBack a e := by
  cases e with
  | validated b t =>
    cases h
    exact .inl ⟨t, rfl⟩
  | tokenAnswer b request error =>
    cases error with
    | none => exact h.elim
    | some error =>
      obtain ⟨rfl, hfalls⟩ := h
      exact .inr ⟨request, error, rfl, hfalls⟩
  | _ => exact h.elim

section Sessions

variable (R : Resolver (ProviderState W))

def SomeStep (ev : Event → Prop) (session : AuthSession) :
    List (ResolverState (ProviderState W) × PamAuthRequest) → Prop
  | [] => False
  | step :: steps =>
    Happened ev step.1.client (R.stepLogin ⟨session, step.1⟩ step.2).state.client ∨
      SomeStep ev (R.nextSession session step) steps

variable {R} {accepts : String → KeyStore → AuthCredHandler → PamAuthRequest → Prop}
  {ev : String → Event → Prop}

theorem someStep_singleton {ev : Event → Prop} {session : AuthSession}
    {s : ResolverState (ProviderState W)} {request : PamAuthRequest} {new : List Event}
    (htrace : (R.stepLogin ⟨session, s⟩ request).state.client.trace = new ++ s.client.trace) :
    SomeStep R ev session [(s, request)] ↔ ∃ e ∈ new, ev e := by
  unfold SomeStep
  rw [happened_iff htrace]
  exact or_iff_left id

variable {steps : List (ResolverState (ProviderState W) × PamAuthRequest)}

theorem SomeStep.of_imp {ev1 ev2 ev3 : Event → Prop} (himp : ∀ e, ev1 e → ev2 e ∨ ev3 e)
    {session : AuthSession} (h : SomeStep R ev1 session steps) :
    SomeStep R ev2 session steps ∨ SomeStep R ev3 session steps := by
  induction steps generalizing session with
  | nil => exact h.elim
  | cons step steps ih =>
    rcases h with ⟨new, e, htrace, hmem, he⟩ | h
    · rcases himp e he with he | he
      · exact .inl (.inl ⟨new, e, htrace, hmem, he⟩)
      · exact .inr (.inl ⟨new, e, htrace, hmem, he⟩)
    · rcases ih h with h | h
      · exact .inl (.inr h)
      · exact .inr (.inr h)

theorem Turn.forced {p : InProgress} {s : ResolverState (ProviderState W)} {req : PamAuthRequest}
    {answer : Except Unit PamAuthResponse} {next : AuthSession}
    (hturn : Turn R accepts ev p s req answer next) (hforce : p.forceReauth = true) :
    (∀ p', next = .inProgress p' → p'.forceReauth = true ∧ p'.accountId = p.accountId ∧
      (isEarned p'.credHandler = true →
        Happened (ev p.accountId) s.client (R.stepLogin ⟨.inProgress p, s⟩ req).state.client ∨
          isEarned p.credHandler = true)) ∧
    ∀ spn, next = .success spn →
      Happened (ev p.accountId) s.client (R.stepLogin ⟨.inProgress p, s⟩ req).state.client ∨
        isEarned p.credHandler = true := by
  constructor
  · rintro p' rfl
    cases hturn with
    | failed h' hsticky => exact ⟨hforce, rfl, fun he => .inr (hsticky.earned he)⟩
    | lost h' cred hhash hearned => exact ⟨hforce, rfl, fun he => hearned he hforce⟩
    | refused resp h' hdenies hopen hearned => exact ⟨hforce, rfl, fun he => hearned he hforce⟩
    | asked d h' hprompts hearned => exact ⟨hforce, rfl, fun he => hearned he hforce⟩
    | code msg hreq hground => exact ⟨hforce, rfl, .inr⟩
  · rintro spn rfl
    cases hturn with
    | succeeded spn hground hproven => exact hproven hforce

theorem evidence_of_success (rules : LoginRules R.client ev accepts) {p : InProgress} {E : Prop}
    (hforce : p.forceReauth = true) (hearned : isEarned p.credHandler = true → E) {spn : String}
    (hrun : R.runSession (.inProgress p) steps = .success spn) :
    E ∨ SomeStep R (ev p.accountId) (.inProgress p) steps := by
  induction steps generalizing p E with
  | nil => cases hrun
  | cons step steps ih =>
    obtain ⟨hgoes, hsucceeds⟩ := (turn rules p step.1 step.2).forced hforce
    change R.runSession (R.nextSession (.inProgress p) step) steps = .success spn at hrun
    unfold SomeStep
    have hstep : Happened (ev p.accountId) step.1.client
        (R.stepLogin ⟨.inProgress p, step.1⟩ step.2).state.client ∨
          isEarned p.credHandler = true → E ∨ (Happened (ev p.accountId) step.1.client
        (R.stepLogin ⟨.inProgress p, step.1⟩ step.2).state.client ∨
          SomeStep R (ev p.accountId) (R.nextSession (.inProgress p) step) steps) := by
      rintro (hhappened | he)
      · exact .inr (.inl hhappened)
      · exact .inl (hearned he)
    cases hnext : R.nextSession (.inProgress p) step with
    | denied =>
      rw [hnext, R.runSession_denied] at hrun
      cases hrun
    | success spn' => rw [← hnext]; exact hstep (hsucceeds spn' hnext)
    | inProgress p' =>
      obtain ⟨hforce', haccount, hearned'⟩ := hgoes p' hnext
      rw [hnext] at hrun
      rw [← haccount]
      rcases ih hforce' hearned' hrun with h | h
      · rw [haccount, ← hnext]
        exact hstep h
      · exact .inr (.inr h)

/-- **A forced re-authentication is online**: if it succeeds, then a token was issued for the
    account in one of its steps.  With the Entra provider this takes that no answer to a request
    for a token was taken for an outage. -/
theorem forced_reauth_online (hclient : IsProvider R.client ev accepts)
    {accountId service : String} {noHelloPin : Bool} {s : ResolverState (ProviderState W)}
    {session : AuthSession} {resp : PamAuthResponse}
    (hinit : ((R.pamAccountAuthenticateInit accountId service noHelloPin true).exec s).1 =
      .ok (session, resp))
    {steps : List (ResolverState (ProviderState W) × PamAuthRequest)}
    (hsteady : ∀ P, R.client = entraProvider P → ¬ SomeStep R (FellBack accountId) session steps)
    {spn : String} (hrun : R.runSession session steps = .success spn) :
    SomeStep R (Validated accountId) session steps := by
  have hev : SomeStep R (ev accountId) session steps := by
    cases begins hclient.rules hinit with
    | denied =>
      rw [R.runSession_denied] at hrun
      cases hrun
    | asks p haccount hforce hfresh d hprompts =>
      subst haccount
      have hearned : isEarned p.credHandler = true → False := by
        intro he
        cases hfresh.symm.trans he
      exact (evidence_of_success hclient.rules hforce hearned hrun).resolve_left id
  generalize hR : R.client = client at hclient
  cases hclient with
  | entra P => exact (hev.of_imp fun _ => validated_or_fellBack).resolve_right (hsteady P hR)
  | oidc O => exact hev

end Sessions

def unreachableProvider : HimmelblauProvider Unit :=
  { sampleProvider 3 false with
    outside := { sampleOutside with
      acquireTokenByHelloForBusinessKey := fun _ _ _ _ _ w => (.error (.requestFailed "timeout"), w)
      exchangePrtForAccessToken := fun _ _ _ _ _ w => (.error (.requestFailed "timeout"), w)
      acquireTokenByRefreshToken := fun _ _ _ w => (.error (.requestFailed "timeout"), w) } }

def unreachableResolver : Resolver (ProviderState Unit) :=
  { outageResolver with client := entraProvider unreachableProvider }

theorem forced_reauth_alice :
    let R := (sampleDaemon 3 false).resolver
    let p : InProgress := { aliceSession with forceReauth := true }
    let steps := [(aliceOnline, .pin "123456")]
    R.runSession (.inProgress p) steps = .success "alice@example.com" ∧
      SomeStep R (Validated "alice@example.com") (.inProgress p) steps := by
  intro R p steps
  have hinit : ((R.pamAccountAuthenticateInit "alice@example.com" "login" false true).exec
      aliceOnline).1 = .ok (.inProgress p, .password) := by decide +kernel
  have hrun : R.runSession (.inProgress p) steps = .success "alice@example.com" := by
    decide +kernel
  have htrace : (R.stepLogin ⟨.inProgress p, aliceOnline⟩ (.pin "123456")).state.client.trace =
      [.success "alice@example.com", .validated "alice@example.com" aliceFresh,
        .reset "alice@example.com", .tokenAnswer "alice@example.com" .helloKey none,
        .pinTried "alice@example.com" true] ++ aliceOnline.client.trace := by decide +kernel
  refine ⟨hrun, forced_reauth_online (.entra _) hinit ?_ hrun⟩
  intro P _ hfell
  obtain ⟨e, hmem, request, error, rfl, -⟩ := (someStep_singleton htrace).mp hfell
  simp at hmem

/-- The PIN completes the session although nothing is heard from the identity provider. -/
theorem forced_reauth_unreachable :
    let R := unreachableResolver
    let p : InProgress := { aliceSession with forceReauth := true }
    let steps := [(aliceOnline, .pin "123456")]
    ((R.pamAccountAuthenticateInit "alice@example.com" "login" false true).exec aliceOnline).1 =
        .ok (.inProgress p, .password) ∧
      R.runSession (.inProgress p) steps = .success "alice@example.com" ∧
      ¬ SomeStep R (Validated "alice@example.com") (.inProgress p) steps := by
  intro R p steps
  have htrace : (R.stepLogin ⟨.inProgress p, aliceOnline⟩ (.pin "123456")).state.client.trace =
      [.success "alice@example.com",
        .tokenAnswer "alice@example.com" .helloKey (some (.requestFailed "timeout")),
        .pinTried "alice@example.com" true] ++ aliceOnline.client.trace := by decide +kernel
  refine ⟨by decide +kernel, by decide +kernel, ?_⟩
  intro hvalidated
  obtain ⟨e, hmem, t, rfl⟩ := (someStep_singleton htrace).mp hvalidated
  simp at hmem

end Himmelblau
