/-
  **Whole conversations of the PAM client**, over every sequence of answers.

  The poll counter is set when a push is announced and never cleared, so that only the first push
  of a conversation can be polled for.  A denial makes the client start again by itself, so that a
  daemon that denies every start keeps it going for ever.  The stored authtok is sent once at most.
-/
import Himmelblau.PamConversation

namespace Himmelblau.PamClient

open Interface Runs Conversation

variable {C : Client} {x : Conversation} {t : Turn} (sent : List ClientRequest)

/-! ## 1. One step -/

theorem step_done {code : PamResultCode} (h : x.result = some code) : x.step C t = x := by
  unfold step
  rw [h]

theorem step_cases (C : Client) (h : x.result = none) (t : Turn) :
    (∃ req s', Outcome C x.state t (.next req) s' ∧
      x.step C t = ⟨x.sent ++ [req], s', some t, none⟩) ∨
    (∃ code s', Outcome C x.state t (.finish code) s' ∧
      x.step C t = ⟨x.sent, s', some t, some code⟩) := by
  have houtcome := outcome C x.state t
  unfold step
  rw [h]
  rcases hrun : (C.authenticateRequestResponse t).run x.state with ⟨what, s'⟩
  rw [hrun] at houtcome
  cases what with
  | next req => exact Or.inl ⟨req, s', houtcome, rfl⟩
  | finish code => exact Or.inr ⟨code, s', houtcome, rfl⟩

/-! ## 2. The poll counter -/

def lastAttempt : Option UInt32 :=
  (sent.filterMap pollAttemptOf).getLast?

def nextAttempt : UInt32 :=
  match lastAttempt sent with
  | none => 0
  | some n => n + 1

def Conversation.followsPoll (x : Conversation) : Bool :=
  match x.last with
  | some p => p.startsPoll || p.waits
  | none => false

def AnsweredBy (C : Client) (x : Conversation) (t : Turn) (req : ClientRequest) : Prop :=
  (x.step C t).result = none ∧ (x.step C t).sent = x.sent ++ [req]

/-- A push that is announced outside a poll is polled for from attempt 0, and a poll that has to
    wait goes on with the attempt that follows. -/
def PollsInOrder (C : Client) (x : Conversation) (t : Turn) : Prop :=
  x.result = none →
    (t.startsPoll = true → x.followsPoll = false → AnsweredBy C x t (poll 0)) ∧
    (t.waits = true → AnsweredBy C x t (poll (nextAttempt x.sent)))

/-- No poll was sent before a push is announced, and none that has to wait has passed the range of
    the counter.  (Past its range the counter is negative, and then a push is polled for again.) -/
def OnePoll (x : Conversation) (t : Turn) : Prop :=
  x.result = none →
    (t.startsPoll = true → x.followsPoll = false →
      ∀ n, lastAttempt x.sent = some n → 2 ^ 31 ≤ n.toNat) ∧
    (t.waits = true → ∀ n, lastAttempt x.sent = some n → n.toNat < 2 ^ 31)

/-- The counter is the attempt that was sent last, if there is one. -/
def Counts (x : Conversation) : Prop :=
  (x.state.pollAttempt = -1 ∧ lastAttempt x.sent = none) ∨
  ((0 ≤ x.state.pollAttempt ∨ x.state.pollAttempt = Int32.minValue) ∧
    lastAttempt x.sent = some x.state.pollAttempt.toUInt32)

theorem lastAttempt_poll (n : UInt32) : lastAttempt (sent ++ [poll n]) = some n := by
  simp [lastAttempt, poll, pollAttemptOf]

variable {req : ClientRequest} {kind : CredentialKind} {cred : String} {s' s : AuthenticateState}

theorem lastAttempt_other (h : pollAttemptOf req = none) (sent : List ClientRequest) :
    lastAttempt (sent ++ [req]) = lastAttempt sent := by
  simp [lastAttempt, h]

theorem int32_lt_zero_iff (n : Int32) : n < 0 ↔ 2 ^ 31 ≤ n.toUInt32.toNat := by
  rw [Int32.lt_iff_toInt_lt, ← Int32.toInt_toBitVec, ← UInt32.toNat_toBitVec,
    Int32.toBitVec_toUInt32, BitVec.toInt_eq_toNat_cond, Int32.toInt_zero]
  have hbound := n.toBitVec.isLt
  split <;> omega

theorem int32_next {n : Int32} (h : 0 ≤ n) : 0 ≤ n + 1 ∨ n + 1 = Int32.minValue := by
  have hlt := n.toInt_lt
  rw [Int32.le_iff_toInt_le, Int32.toInt_zero] at h ⊢
  rw [← Int32.toInt_inj, Int32.toInt_add, Int32.toInt_one, Int32.toInt_minValue,
    Int.bmod_eq_emod]
  split <;> omega

theorem not_poll_of_credential (h : credential req = some (kind, cred)) :
    pollAttemptOf req = none := by
  unfold credential at h
  split at h
  all_goals first | rfl | cases h

theorem Counts.other (hx : Counts x) (hreq : pollAttemptOf req = none)
    (hs' : s'.pollAttempt = x.state.pollAttempt) : Counts ⟨x.sent ++ [req], s', some t, none⟩ := by
  unfold Counts
  rw [hs', lastAttempt_other hreq]
  exact hx

theorem Counts.step (hx : Counts x) (t : Turn) : Counts (x.step C t) := by
  rcases hresult : x.result with _ | code
  swap
  · rwa [step_done hresult]
  rcases step_cases C hresult t with ⟨req, s', houtcome, hstep⟩ | ⟨code, s', houtcome, hstep⟩
  · rw [hstep]
    cases houtcome with
    | typed _ _ _ hreq htalks => exact hx.other (not_poll_of_credential hreq) htalks.pollAttempt
    | authtok _ _ _ _ hreq => exact hx.other (not_poll_of_credential hreq) rfl
    | ceremony _ _ _ assertion htalks => exact hx.other rfl htalks.pollAttempt
    | automatic _ _ _ hreq htalks =>
      refine hx.other ?_ htalks.pollAttempt
      rcases hreq with rfl | rfl <;> rfl
    | pollStarted _ _ _ _ hattempt =>
      refine Or.inr ⟨Or.inl ?_, ?_⟩
      · exact hattempt ▸ Int32.le_refl 0
      · rw [lastAttempt_poll, hattempt]
        rfl
    | pollWaited _ hattempt hs' =>
      refine Or.inr ⟨?_, ?_⟩
      · rw [hs', hattempt]
        dsimp only
        split
        · exact Or.inl (Int32.le_refl 0)
        · exact int32_next (Int32.not_lt.mp ‹_›)
      · rw [lastAttempt_poll, hs']
  · have hcounter : s'.pollAttempt = x.state.pollAttempt := by
      cases houtcome with
      | finished _ _ _ _ htalks => exact htalks.pollAttempt
      | pollRefused _ _ htalks => exact htalks.pollAttempt
    rw [hstep]
    unfold Counts
    rw [hcounter]
    exact hx

theorem Turn.not_waits_of_startsPoll (h : t.startsPoll = true) : t.waits = false := by
  unfold Turn.startsPoll at h
  unfold Turn.waits
  split at h
  next hresponse => rw [hresponse]
  next => cases h

theorem Outcome.of_startsPoll {what : PamWhatNext} (h : Outcome C s t what s')
    (hstart : t.startsPoll = true) : (what = .next (poll 0) ∧ s.pollAttempt < 0) ∨
    (what = .finish .abort ∧ ¬ s.pollAttempt < 0) := by
  cases h with
  | pollStarted _ hneg => exact Or.inl ⟨rfl, hneg⟩
  | pollRefused _ hneg => exact Or.inr ⟨rfl, hneg⟩
  | pollWaited hwait => exact absurd hwait (Bool.eq_false_iff.mp (t.not_waits_of_startsPoll hstart))
  | finished hstart' | typed hstart' | authtok hstart' | ceremony hstart' | automatic hstart' =>
    exact absurd hstart (Bool.eq_false_iff.mp hstart')

theorem Outcome.of_waits {what : PamWhatNext} (h : Outcome C s t what s') (hwait : t.waits = true) :
    what = .next (poll (if s.pollAttempt < 0 then 0 else s.pollAttempt + 1).toUInt32) := by
  cases h with
  | pollWaited _ hattempt => rw [hattempt]
  | pollStarted hstart | pollRefused hstart =>
    exact absurd hwait (Bool.eq_false_iff.mp (t.not_waits_of_startsPoll hstart))
  | finished _ hwait' | typed _ hwait' | authtok _ hwait' | ceremony _ hwait'
  | automatic _ hwait' =>
    exact absurd hwait (Bool.eq_false_iff.mp hwait')

theorem startsPoll_answered (hresult : x.result = none) (hstart : t.startsPoll = true) :
    AnsweredBy C x t (poll 0) ↔ x.state.pollAttempt < 0 := by
  unfold AnsweredBy
  rcases step_cases C hresult t with ⟨req, s', houtcome, hstep⟩ | ⟨code, s', houtcome, hstep⟩
  · rw [hstep]
    rcases houtcome.of_startsPoll hstart with ⟨hreq, hneg⟩ | ⟨hfinish, _⟩
    · cases hreq
      exact iff_of_true ⟨rfl, rfl⟩ hneg
    · cases hfinish
  · rw [hstep]
    rcases houtcome.of_startsPoll hstart with ⟨hreq, _⟩ | ⟨_, hneg⟩
    · cases hreq
    · exact iff_of_false (fun h => nomatch h.1) hneg

theorem waits_answered (hresult : x.result = none) (hwait : t.waits = true) (n : UInt32) :
    AnsweredBy C x t (poll n) ↔
      (if x.state.pollAttempt < 0 then 0 else x.state.pollAttempt + 1).toUInt32 = n := by
  unfold AnsweredBy
  rcases step_cases C hresult t with ⟨req, s', houtcome, hstep⟩ | ⟨code, s', houtcome, hstep⟩
  · rw [hstep]
    cases houtcome.of_waits hwait
    simp [poll]
  · cases houtcome.of_waits hwait

theorem Counts.free_iff (hx : Counts x) :
    x.state.pollAttempt < 0 ↔ ∀ n, lastAttempt x.sent = some n → 2 ^ 31 ≤ n.toNat := by
  rcases hx with ⟨hfree, hlast⟩ | ⟨_, hlast⟩
  · rw [hfree, hlast]
    exact iff_of_true (by decide) fun n h => nomatch h
  · rw [hlast, int32_lt_zero_iff]
    constructor
    · rintro h n ⟨⟩
      exact h
    · intro h
      exact h _ rfl

/-- The attempt that follows is the next one until the counter has passed its range. -/
theorem Counts.next_iff (hx : Counts x) :
    (if x.state.pollAttempt < 0 then 0 else x.state.pollAttempt + 1).toUInt32 =
      nextAttempt x.sent ↔ ∀ n, lastAttempt x.sent = some n → n.toNat < 2 ^ 31 := by
  unfold nextAttempt
  rcases hx with ⟨hfree, hlast⟩ | ⟨hrange, hlast⟩
  · rw [hfree, hlast]
    exact iff_of_true (by decide) fun n h => nomatch h
  · rw [hlast]
    rcases hrange with hrange | hmin
    · have hused := Int32.not_lt.mpr hrange
      rw [if_neg hused, Int32.toUInt32_add]
      refine iff_of_true rfl ?_
      rintro n ⟨⟩
      rw [int32_lt_zero_iff] at hused
      exact Nat.lt_of_not_le hused
    · rw [hmin]
      refine iff_of_false (by decide) ?_
      intro h
      exact absurd (h _ rfl) (by decide)

/-- In every conversation, each push and each wait is polled for as it should be if and only if no
    push is announced once a poll has been sent. -/
theorem polls_in_order_iff (C : Client) (authtok : Option String) (input : List String)
    (turns : List Turn) :
    Along (step C) (PollsInOrder C) turns (start C authtok input) ↔
      Along (step C) OnePoll turns (start C authtok input) := by
  refine along_congr Counts ?_ (fun x t _ hx _ => hx.step t) (Or.inl ⟨rfl, rfl⟩)
  intro x t _ hx
  refine imp_congr_right fun hresult => and_congr ?_ ?_
  · refine imp_congr_right fun hstart => imp_congr_right fun _ => ?_
    rw [startsPoll_answered hresult hstart]
    exact hx.free_iff
  · refine imp_congr_right fun hwait => ?_
    rw [waits_answered hresult hwait]
    exact hx.next_iff

def sampleClient : Client where
  accountId := "alice@example.com"
  service := "login"
  opts := ⟨false, false, false, false⟩
  oidcIssuerUrl := none
  entraIdPasswordPrompt := "Use the password for your account."
  helloPinPrompt := "Use your PIN."
  helloPinMinLength := 6
  policyCache := some fun _ => none
  generateUnicodeQr _ := none
  urlQr _ := none
  helloTotpEnrollFallbackMsg msg := .ok msg

/-- A first push is denied, and the second one ends the conversation. -/
theorem second_push_aborts :
    let push : Turn := { response := some (.mfaPoll "Approve" 5) }
    let denied : Turn := { response := some (.denied "Denied") }
    let x := [push, denied].foldl (step sampleClient)
      (start sampleClient none [])
    x.result = none ∧ x.sent = [sampleClient.init, poll 0, sampleClient.init] ∧
      x.followsPoll = false ∧ (x.step sampleClient push).result = some .abort := by
  decide

/-! ## 3. Progress -/

/-- What was sent last waited for the user or for a poll: a prompt was answered, a security key
    was used, the stored authtok was taken, or it is a poll. -/
def drivenBy (x y : Conversation) : Bool :=
  (y.sent.getLast?.bind pollAttemptOf).isSome ||
  (y.state.transcript.drop x.state.transcript.length).any PamEvent.isUser ||
  (x.state.authtok.isSome && y.state.authtok.isNone)

/-- A conversation, and whether the request that was sent last was driven. -/
structure Watched where
  conversation : Conversation
  driven : Bool

def Watched.start (C : Client) (authtok : Option String) (input : List String) : Watched :=
  ⟨Conversation.start C authtok input, false⟩

def Watched.step (C : Client) (w : Watched) (t : Turn) : Watched :=
  let y := w.conversation.step C t
  ⟨y, drivenBy w.conversation y⟩

/-- Of a request that is sent and the one before it, at least one was driven. -/
def Progresses (C : Client) (w : Watched) (t : Turn) : Prop :=
  w.conversation.result = none → (w.step C t).conversation.result = none →
    w.driven = true ∨ (w.step C t).driven = true

/-- What the client answers by itself comes after an answer of which that is not so. -/
def Spaced (C : Client) (w : Watched) (t : Turn) : Prop :=
  w.conversation.result = none → C.automatic t = true →
    ∃ p, w.conversation.last = some p ∧ C.automatic p = false

/-- Whether a request was driven depends on the answer that led to it. -/
def Watches (C : Client) (w : Watched) : Prop :=
  w.conversation.result = none →
    w.driven = match w.conversation.last with
      | none => false
      | some p => !C.automatic p

theorem drop_of_talks {new : List PamEvent} (h : Talks s new s') :
    s'.transcript.drop s.transcript.length = new := by
  rw [h.transcript, List.drop_left]

theorem any_isUser_of_typed {new : List PamEvent} (h : cred ∈ typed new) :
    new.any PamEvent.isUser = true := by
  obtain ⟨e, he, hcred⟩ := List.mem_filterMap.mp h
  refine List.any_eq_true.mpr ⟨e, he, ?_⟩
  cases e with
  | prompt text answer =>
    dsimp only at hcred
    rw [hcred]
    rfl
  | text | slept | ceremony => cases hcred

theorem Client.not_automatic_of_startsPoll (h : t.startsPoll = true) : C.automatic t = false := by
  unfold Turn.startsPoll at h
  unfold Client.automatic
  split at h
  next hresponse => rw [hresponse]
  next => cases h

theorem Client.not_automatic_of_waits (h : t.waits = true) : C.automatic t = false := by
  unfold Turn.waits at h
  unfold Client.automatic
  split at h
  next hresponse => rw [hresponse]
  next => cases h

theorem drivenBy_next (h : Outcome C x.state t (.next req) s') :
    drivenBy x ⟨x.sent ++ [req], s', some t, none⟩ = !C.automatic t := by
  unfold drivenBy
  rw [List.getLast?_concat, Option.bind_some]
  cases h with
  | typed _ _ hauto hreq htalks hcred =>
    simp [drop_of_talks htalks, any_isUser_of_typed hcred, hauto]
  | authtok _ _ hauto htok hreq => simp [htok, hauto]
  | ceremony _ _ hauto assertion htalks hceremony =>
    have huser := (List.any_eq_true (p := PamEvent.isUser)).mpr ⟨_, hceremony, rfl⟩
    simp [drop_of_talks htalks, huser, hauto]
  | automatic _ _ hauto hreq htalks hquiet =>
    have hpoll : pollAttemptOf req = none := by
      rcases hreq with rfl | rfl <;> rfl
    have hsilent := List.any_eq_false.mpr fun e he => Bool.eq_false_iff.mp (hquiet e he)
    simp [drop_of_talks htalks, hsilent, hpoll, hauto, htalks.authtok]
  | pollStarted hstart => simp [poll, pollAttemptOf, Client.not_automatic_of_startsPoll hstart]
  | pollWaited hwait => simp [poll, pollAttemptOf, Client.not_automatic_of_waits hwait]

theorem Outcome.not_automatic_of_finish {code : PamResultCode}
    (h : Outcome C s t (.finish code) s') : C.automatic t = false := by
  cases h with
  | finished _ _ hauto => exact hauto
  | pollRefused hstart => exact Client.not_automatic_of_startsPoll hstart

theorem watches_step (w : Watched) (t : Turn) : Watches C (w.step C t) := by
  intro hresult
  rcases hbefore : w.conversation.result with _ | code
  · rcases step_cases C hbefore t with ⟨req, s', houtcome, hstep⟩ | ⟨code, s', _, hstep⟩
    · unfold Watched.step
      rw [hstep]
      exact drivenBy_next houtcome
    · change (w.conversation.step C t).result = none at hresult
      rw [hstep] at hresult
      cases hresult
  · change (w.conversation.step C t).result = none at hresult
    rw [step_done hbefore, hbefore] at hresult
    cases hresult

/-- In every conversation, no two requests in a row are sent without the user and without a poll if
    and only if no answer that the client handles by itself comes first, or after another one. -/
theorem progresses_iff (C : Client) (authtok : Option String) (input : List String)
    (turns : List Turn) :
    Along (Watched.step C) (Progresses C) turns (Watched.start C authtok input) ↔
      Along (Watched.step C) (Spaced C) turns (Watched.start C authtok input) := by
  refine along_congr (Watches C) ?_ (fun w t _ _ _ => watches_step w t) fun _ => rfl
  intro w t _ hw
  refine forall_congr' fun hresult => ?_
  have hdriven := hw hresult
  unfold Watched.step
  rcases step_cases C hresult t with ⟨req, s', houtcome, hstep⟩ | ⟨code, s', houtcome, hstep⟩
  · dsimp only
    rw [hstep, drivenBy_next houtcome, hdriven]
    cases C.automatic t with
    | false => simp
    | true =>
      cases w.conversation.last with
      | none => simp
      | some p => simp
  · dsimp only
    rw [hstep, houtcome.not_automatic_of_finish]
    simp

section Resolver

variable {P : Type}

theorem denied_step (hresult : x.result = none) (msg : String) :
    (x.step C { response := some (.denied msg) }).result = none ∧
      (x.step C { response := some (.denied msg) }).sent = x.sent ++ [C.init] := by
  unfold step
  rw [hresult]
  exact ⟨rfl, rfl⟩

def answerInit (R : Resolver P) (C : Client) (s : ResolverState P) : Turn × ResolverState P :=
  match (R.pamAccountAuthenticateInit C.accountId C.service C.opts.noHelloPin
    C.opts.forceReauth).exec s with
  | (.ok (_, resp), s) => ({ response := some resp }, s)
  | (.error (), s) => ({ response := none }, s)

def restart (R : Resolver P) (C : Client) (x : Conversation × ResolverState P) :
    Conversation × ResolverState P :=
  (x.1.step C (answerInit R C x.2).1, (answerInit R C x.2).2)

def unservedResolver : Resolver Unit :=
  { outageResolver with
    client := { outageProvider with
      unixUserOnlineAuthInit := fun _ _ _ _ _ ks p =>
        (.error (.notFound "domain: example.com" "providers"), ks, p) } }

theorem unserved_answerInit (ticks : ℕ) :
    ∃ ticks', answerInit unservedResolver sampleClient { aliceState with ticks := ticks } =
      ({ response := some (.denied "NotFound: domain: example.com in providers") },
        { aliceState with ticks := ticks' }) := by
  exact ⟨_, rfl⟩

theorem unserved_restart (n : ℕ) :
    ∃ x ticks, (restart unservedResolver sampleClient)^[n]
        (start sampleClient none [], aliceState) =
      (x, { aliceState with ticks := ticks }) ∧
      x.result = none ∧ x.sent = List.replicate (n + 1) sampleClient.init := by
  induction n with
  | zero => exact ⟨_, aliceState.ticks, rfl, rfl, rfl⟩
  | succ n ih =>
    obtain ⟨x, ticks, hrun, hresult, hsent⟩ := ih
    obtain ⟨ticks', hanswer⟩ := unserved_answerInit ticks
    obtain ⟨hresult', hsent'⟩ := denied_step (C := sampleClient) hresult
      "NotFound: domain: example.com in providers"
    refine ⟨_, ticks', ?_, hresult', ?_⟩
    · rw [Function.iterate_succ_apply', hrun, restart, hanswer]
    · rw [hsent', hsent, ← List.replicate_succ']

/-- The resolver denies the start, the client starts again, and so on. -/
theorem denied_restarts_forever :
    ¬ Progresses sampleClient (Watched.start sampleClient none [])
      (answerInit unservedResolver sampleClient aliceState).1 ∧
    ∀ n, ((restart unservedResolver sampleClient)^[n]
        (Conversation.start sampleClient none [], aliceState)).1.result = none ∧
      ((restart unservedResolver sampleClient)^[n]
        (Conversation.start sampleClient none [], aliceState)).1.sent =
        List.replicate (n + 1) sampleClient.init := by
  constructor
  · intro h
    rcases h rfl rfl with h | h <;> cases h
  · intro n
    obtain ⟨x, ticks, hrun, hresult, hsent⟩ := unserved_restart n
    rw [hrun]
    exact ⟨hresult, hsent⟩

end Resolver

/-! ## 4. The stored authtok -/

def credentials : List (CredentialKind × String) :=
  sent.filterMap credential

/-- The credentials were typed, each at a prompt of its own, in this order. -/
def Typed (creds : List (CredentialKind × String)) (x : Conversation) : Prop :=
  List.Sublist (creds.map Prod.snd) (typed x.state.transcript)

/-- One of the credentials is the authtok, as a password or a PIN; the others were typed. -/
def UsedOnce (tok : String) (x : Conversation) : Prop :=
  ∃ before kind after, credentials x.sent = before ++ (kind, tok) :: after ∧
    (kind = .password ∨ kind = .pin) ∧ Typed (before ++ after) x

def Stored (authtok : Option String) (x : Conversation) : Prop :=
  (x.state.authtok = authtok ∧ Typed (credentials x.sent) x) ∨
  (x.state.authtok = none ∧ ∃ tok, authtok = some tok ∧ UsedOnce tok x)

section Authtok

variable {y : Conversation} {authtok : Option String} {creds : List (CredentialKind × String)}
  {new : List PamEvent} (hnew : y.state.transcript = x.state.transcript ++ new)

include hnew

theorem Typed.mono (h : Typed creds x) : Typed creds y := by
  unfold Typed
  rw [hnew, typed_append]
  exact h.trans (List.sublist_append_left _ _)

theorem Typed.snoc (h : Typed creds x) (hcred : cred ∈ typed new) :
    Typed (creds ++ [(kind, cred)]) y := by
  unfold Typed
  rw [hnew, typed_append, List.map_append]
  exact List.Sublist.append h (List.singleton_sublist.mpr hcred)

theorem Stored.quiet (hx : Stored authtok x) (hauthtok : y.state.authtok = x.state.authtok)
    (hcreds : credentials y.sent = credentials x.sent) : Stored authtok y := by
  unfold Stored UsedOnce
  rw [hauthtok, hcreds]
  rcases hx with ⟨hstored, htyped⟩ | ⟨hnone, tok, htok, before, kind, after, hsent, hkind, htyped⟩
  · exact Or.inl ⟨hstored, htyped.mono hnew⟩
  · exact Or.inr ⟨hnone, tok, htok, before, kind, after, hsent, hkind, htyped.mono hnew⟩

theorem Stored.typed (hx : Stored authtok x) (hauthtok : y.state.authtok = x.state.authtok)
    (hcred : cred ∈ PamClient.typed new)
    (hcreds : credentials y.sent = credentials x.sent ++ [(kind, cred)]) : Stored authtok y := by
  unfold Stored UsedOnce
  rw [hauthtok, hcreds]
  rcases hx with ⟨hstored, htyped⟩ | ⟨hnone, tok, htok, before, kind', after, hsent, hkind, htyped⟩
  · exact Or.inl ⟨hstored, htyped.snoc hnew hcred⟩
  · refine Or.inr ⟨hnone, tok, htok, before, kind', after ++ [(kind, cred)], ?_, hkind, ?_⟩
    · rw [hsent, List.append_assoc, List.cons_append]
    · rw [← List.append_assoc]
      exact htyped.snoc hnew hcred

end Authtok

theorem Stored.use {y : Conversation} {authtok : Option String} (hx : Stored authtok x)
    {tok : String} (htok : x.state.authtok = some tok) (hauthtok : y.state.authtok = none)
    (htranscript : y.state.transcript = x.state.transcript) (hkind : kind = .password ∨ kind = .pin)
    (hcreds : credentials y.sent = credentials x.sent ++ [(kind, tok)]) : Stored authtok y := by
  rcases hx with ⟨hstored, htyped⟩ | ⟨hnone, _⟩
  · refine Or.inr ⟨hauthtok, tok, hstored.symm.trans htok, credentials x.sent, kind, [], hcreds,
      hkind, ?_⟩
    rw [List.append_nil]
    exact htyped.mono (htranscript.trans (List.append_nil _).symm)
  · rw [htok] at hnone
    cases hnone

theorem credentials_append {cred : Option (CredentialKind × String)} (h : credential req = cred)
    (sent : List ClientRequest) :
    credentials (sent ++ [req]) = credentials sent ++ cred.toList := by
  unfold credentials
  rw [List.filterMap_append]
  subst h
  cases hreq : credential req <;> simp [hreq]

theorem Stored.step {authtok : Option String} (hx : Stored authtok x) (t : Turn) :
    Stored authtok (x.step C t) := by
  rcases hresult : x.result with _ | code
  swap
  · rwa [step_done hresult]
  rcases step_cases C hresult t with ⟨req, s', houtcome, hstep⟩ | ⟨code, s', houtcome, hstep⟩
  · rw [hstep]
    cases houtcome with
    | typed _ _ _ hreq htalks hcred =>
      exact hx.typed htalks.transcript htalks.authtok hcred (credentials_append hreq _)
    | authtok _ _ _ htok hreq hkind =>
      exact hx.use htok rfl rfl hkind (credentials_append hreq _)
    | ceremony _ _ _ assertion htalks =>
      refine hx.quiet htalks.transcript htalks.authtok ?_
      exact (credentials_append rfl _).trans (List.append_nil _)
    | automatic _ _ _ hreq htalks =>
      refine hx.quiet htalks.transcript htalks.authtok ?_
      have hnone : credential req = none := by
        rcases hreq with rfl | rfl <;> rfl
      exact (credentials_append hnone _).trans (List.append_nil _)
    | pollStarted _ _ htalks hauthtok _ htranscript =>
      rw [htalks.transcript, List.append_assoc] at htranscript
      refine hx.quiet htranscript (hauthtok.trans htalks.authtok) ?_
      exact (credentials_append rfl _).trans (List.append_nil _)
    | pollWaited _ _ hs' =>
      refine hx.quiet (congrArg (·.transcript) hs') (congrArg (·.authtok) hs') ?_
      exact (credentials_append rfl _).trans (List.append_nil _)
  · rw [hstep]
    cases houtcome with
    | finished _ _ _ _ htalks => exact hx.quiet htalks.transcript htalks.authtok rfl
    | pollRefused _ _ htalks => exact hx.quiet htalks.transcript htalks.authtok rfl

/-- In every conversation, all credentials but one were typed at prompts of that conversation, and
    that one, if there is one, is the stored authtok, sent as a password or a PIN. -/
theorem authtok_used_once (C : Client) (authtok : Option String) (input : List String)
    (turns : List Turn) :
    let x := turns.foldl (step C) (start C authtok input)
    Typed (credentials x.sent) x ∨ ∃ tok, authtok = some tok ∧ UsedOnce tok x := by
  intro x
  have hstored : Stored authtok x := by
    refine List.foldlRecOn turns _ (Or.inl ⟨rfl, List.nil_sublist _⟩) ?_
    intro x hx t _
    exact hx.step t
  rcases hstored with ⟨_, htyped⟩ | ⟨_, hused⟩
  · exact Or.inl htyped
  · exact Or.inr hused

end Himmelblau.PamClient
