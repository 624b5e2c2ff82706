/-
  **What one answer of the daemon can make the PAM client do.**  Most handlers only talk to the
  user: they leave the stored authtok and the poll counter alone, and a request that they send
  carries what was typed.  `Outcome` lists all the ways in which an answer is handled.
-/
import Himmelblau.PamClient
import Himmelblau.Runs

namespace Himmelblau.PamClient

open Interface Config FunctionBody Client

variable {α β : Type} {C : Client} {s s' s'' : AuthenticateState} {t : Turn}

/-! ## 1. Talking to the user -/

def typed (events : List PamEvent) : List String :=
  events.filterMap fun
    | .prompt _ answer => answer
    | _ => none

theorem typed_append (new new' : List PamEvent) : typed (new ++ new') = typed new ++ typed new' :=
  List.filterMap_append

def PamEvent.isUser : PamEvent → Bool
  | .prompt _ answer => answer.isSome
  | .ceremony _ => true
  | _ => false

/-- Nothing has changed but for what happened at the terminal. -/
structure Talks (s : AuthenticateState) (new : List PamEvent) (s' : AuthenticateState) : Prop where
  authtok : s'.authtok = s.authtok
  pollAttempt : s'.pollAttempt = s.pollAttempt
  transcript : s'.transcript = s.transcript ++ new

theorem Talks.refl (s : AuthenticateState) : Talks s [] s :=
  ⟨rfl, rfl, (List.append_nil _).symm⟩

variable {new : List PamEvent} {request : String → ClientRequest} {msg : String}

theorem Talks.trans {new' : List PamEvent} (h : Talks s new s') (h' : Talks s' new' s'') :
    Talks s (new ++ new') s'' where
  authtok := h'.authtok.trans h.authtok
  pollAttempt := h'.pollAttempt.trans h.pollAttempt
  transcript := by rw [h'.transcript, h.transcript, List.append_assoc]

def Fails (s : AuthenticateState) (what : PamWhatNext) (s' : AuthenticateState) : Prop :=
  what = .finish .abort ∧ ∃ new, Talks s new s'

theorem Fails.after (h : Talks s new s') {what : PamWhatNext} (h' : Fails s' what s'') :
    Fails s what s'' := by
  obtain ⟨hwhat, new', hnew⟩ := h'
  exact ⟨hwhat, new ++ new', h.trans hnew⟩

/-- The handler talks, and then goes on with a value that fits what happened, or fails. -/
def Chat (p : Handler α) (Q : α → List PamEvent → Prop) : Prop :=
  ∀ s, p.Ensures s (fun a s' => ∃ new, Talks s new s' ∧ Q a new) (Fails s)

namespace Chat

variable {p : Handler α} {f : α → Handler β} {Q : α → List PamEvent → Prop}
  {S : β → List PamEvent → Prop}

theorem pure {a : α} (h : Q a []) : Chat (pure a) Q := fun s => ⟨[], .refl s, h⟩

theorem bind (hp : Chat p Q)
    (hf : ∀ a new, Q a new → Chat (f a) fun b new' => S b (new ++ new')) : Chat (p >>= f) S := by
  intro s
  rw [Body.ensures_bind]
  refine (hp s).mono ?_ fun _ _ h => h
  rintro a s' ⟨new, htalks, hQ⟩
  refine (hf a new hQ s').mono ?_ fun _ _ h => h.after htalks
  rintro b s'' ⟨new', htalks', hS⟩
  exact ⟨new ++ new', htalks.trans htalks', hS⟩

theorem mono {Q' : α → List PamEvent → Prop} (hp : Chat p Q) (h : ∀ a new, Q a new → Q' a new) :
    Chat p Q' := fun s =>
  (hp s).mono (fun a _ ⟨new, htalks, hQ⟩ => ⟨new, htalks, h a new hQ⟩) fun _ _ h => h

theorem record (e : PamEvent) : Chat (PamClient.record e) fun _ new => new = [e] :=
  fun _ => ⟨[e], ⟨rfl, rfl, rfl⟩, rfl⟩

theorem printText (msg : String) : Chat (PamClient.printText msg) fun _ new => new = [.text msg] :=
  record _

theorem sleep (secs : ℕ) : Chat (PamClient.sleep secs) fun _ new => new = [.slept secs] :=
  record _

theorem asked (prompt : String) (answer : Option String) (rest : List String) :
    Chat (PamClient.asked prompt answer rest) fun _ new => new = [.prompt prompt answer] :=
  fun _ => ⟨[.prompt prompt answer], ⟨rfl, rfl, rfl⟩, rfl⟩

theorem pamFail (msg : String) (ret : PamResultCode) : Chat (PamClient.pamFail msg ret) Q := by
  unfold PamClient.pamFail
  refine (printText _).bind fun _ new _ => (sleep 2).bind fun _ new' _ => ?_
  exact fun s => ⟨rfl, [], .refl s⟩

theorem promptEchoOff (prompt : String) :
    Chat (PamClient.promptEchoOff prompt) fun a new => new = [.prompt prompt a] := by
  intro s
  unfold PamClient.promptEchoOff
  rw [Body.ensures_bind]
  cases h : s.input with
  | nil =>
    simp only [Body.ensures_get, h]
    exact (asked prompt none []).bind (fun _ new hnew => .pure (by rw [hnew]; rfl)) s
  | cons cred rest =>
    simp only [Body.ensures_get, h]
    exact (asked prompt (some cred) rest).bind (fun _ new hnew => .pure (by rw [hnew]; rfl)) s

theorem promptOrFail (prompt missing : String) :
    Chat (PamClient.promptOrFail prompt missing) fun cred new =>
      new = [.prompt prompt (some cred)] := by
  unfold PamClient.promptOrFail
  refine (promptEchoOff prompt).bind fun a new hnew => ?_
  cases a with
  | none => exact pamFail missing .credInsufficient
  | some cred =>
    refine .pure ?_
    rw [hnew]
    rfl

theorem skip {f : α → Handler String} (hp : Chat p Q)
    (hf : ∀ a, Chat (f a) fun cred new => cred ∈ typed new) :
    Chat (p >>= f) fun cred new => cred ∈ typed new := by
  refine hp.bind fun a new _ => (hf a).mono fun cred new' hcred => ?_
  rw [typed_append]
  exact List.mem_append_right _ hcred

theorem newSecretLoop (texts : SecretTexts) (refuse : String → Option (String × Bool)) :
    ∀ answers, Chat (PamClient.newSecretLoop texts refuse answers) fun cred new => cred ∈ typed new
  | [] => by
    unfold PamClient.newSecretLoop
    exact (printText _).skip fun _ => (asked _ _ _).skip fun _ => pamFail _ _
  | cred :: rest => by
    unfold PamClient.newSecretLoop
    refine (printText _).skip fun _ => ?_
    -- the answer counts if it is accepted; otherwise another one does, further on
    refine (asked texts.new (some cred) rest).bind fun _ new hnew => ?_
    cases refuse cred with
    | some refusal =>
      obtain ⟨why, pause⟩ := refusal
      have hloop := newSecretLoop texts refuse rest
      refine ((printText why).skip fun _ => ?_).mono fun _ new' h => ?_
      · cases pause with
        | false => exact hloop
        | true => exact (sleep 2).skip fun _ => hloop
      · rw [typed_append]
        exact List.mem_append_right _ h
    | none =>
      have hmine : ∀ new', cred ∈ typed (new ++ new') := by
        intro new'
        rw [hnew, typed_append]
        exact List.mem_append_left _ List.mem_cons_self
      refine (printText _).bind fun _ new1 _ => ?_
      cases rest with
      | nil => exact (asked _ _ _).bind fun _ _ _ => pamFail _ _
      | cons confirm rest =>
        refine (asked _ _ _).bind fun _ new2 _ => ?_
        by_cases hsame : cred = confirm
        · rw [if_pos hsame]
          exact .pure (hmine _)
        · have hloop := newSecretLoop texts refuse rest
          rw [if_neg hsame]
          have hskip := (printText "Inputs did not match. Try again.").skip fun _ =>
            (sleep 2).skip fun _ => hloop
          refine hskip.mono fun b new3 hb => ?_
          simp only [typed_append, List.mem_append]
          exact Or.inr (Or.inr (Or.inr hb))

end Chat

/-! ## 2. What an answer can lead to -/

inductive CredentialKind where
  | password
  | mfaCode
  | helloTOTP
  | setupPin
  | pin
  deriving DecidableEq, Repr

def credential : ClientRequest → Option (CredentialKind × String)
  | .pamAuthenticateStep (.password cred) => some (.password, cred)
  | .pamAuthenticateStep (.mfaCode cred) => some (.mfaCode, cred)
  | .pamAuthenticateStep (.helloTOTP cred) => some (.helloTOTP, cred)
  | .pamAuthenticateStep (.setupPin pin) => some (.setupPin, pin)
  | .pamAuthenticateStep (.pin cred) => some (.pin, cred)
  | _ => none

def pollAttemptOf : ClientRequest → Option UInt32
  | .pamAuthenticateStep (.mfaPoll pollAttempt) => some pollAttempt
  | _ => none

def poll (pollAttempt : UInt32) : ClientRequest := .pamAuthenticateStep (.mfaPoll pollAttempt)

def Turn.startsPoll (t : Turn) : Bool :=
  match t.response with
  | some (.mfaPoll _ _) => true
  | _ => false

def Turn.waits (t : Turn) : Bool :=
  match t.response with
  | some .mfaPollWait => true
  | _ => false

def Client.hasHardware (C : Client) (t : Turn) (hasPhysicalSecurityKey hasCrossDevice : Bool) :
    Bool :=
  hasPhysicalSecurityKey || (hasCrossDevice && t.bluetooth == .poweredOn) ||
    (C.awaitsBluetooth t hasCrossDevice && (t.bluetoothEnabledAt.filter (· < 30)).isSome)

/-- The client answers by itself: a denial, or a security key that it has no hardware for. -/
def Client.automatic (C : Client) (t : Turn) : Bool :=
  match t.response with
  | some (.denied _) => true
  | some (.fido _ _ hasPhysicalSecurityKey hasCrossDevice) =>
    !C.hasHardware t hasPhysicalSecurityKey hasCrossDevice
  | _ => false

/-- All that can come of one answer of the daemon. -/
inductive Outcome (C : Client) (s : AuthenticateState) (t : Turn) :
    PamWhatNext → AuthenticateState → Prop
  | finished (hstart : t.startsPoll = false) (hwait : t.waits = false)
      (hauto : C.automatic t = false) (code : PamResultCode) {new : List PamEvent}
      {s' : AuthenticateState} (h : Talks s new s') : Outcome C s t (.finish code) s'
  | typed (hstart : t.startsPoll = false) (hwait : t.waits = false)
      (hauto : C.automatic t = false) {req : ClientRequest} {kind : CredentialKind}
      {cred : String} (hreq : credential req = some (kind, cred)) {new : List PamEvent}
      {s' : AuthenticateState} (h : Talks s new s') (hcred : cred ∈ PamClient.typed new) :
      Outcome C s t (.next req) s'
  | authtok (hstart : t.startsPoll = false) (hwait : t.waits = false)
      (hauto : C.automatic t = false) {tok : String} (htok : s.authtok = some tok)
      {req : ClientRequest} {kind : CredentialKind} (hreq : credential req = some (kind, tok))
      (hkind : kind = .password ∨ kind = .pin) :
      Outcome C s t (.next req) { s with authtok := none }
  | ceremony (hstart : t.startsPoll = false) (hwait : t.waits = false)
      (hauto : C.automatic t = false) (assertion : String) {new : List PamEvent}
      {s' : AuthenticateState} (h : Talks s new s') (hnew : .ceremony true ∈ new) :
      Outcome C s t (.next (.pamAuthenticateStep (.fido assertion))) s'
  | automatic (hstart : t.startsPoll = false) (hwait : t.waits = false)
      (hauto : C.automatic t = true) {req : ClientRequest}
      (hreq : req = C.init ∨ req = .pamAuthenticateStep .fidoUnavailable) {new : List PamEvent}
      {s' : AuthenticateState} (h : Talks s new s') (hquiet : ∀ e ∈ new, e.isUser = false) :
      Outcome C s t (.next req) s'
  | pollStarted (hstart : t.startsPoll = true) (hneg : s.pollAttempt < 0) {new : List PamEvent}
      {s1 s' : AuthenticateState} (h : Talks s new s1) (hauthtok : s'.authtok = s1.authtok)
      (hattempt : s'.pollAttempt = 0) {secs : ℕ}
      (htranscript : s'.transcript = s1.transcript ++ [.slept secs]) :
      Outcome C s t (.next (poll 0)) s'
  | pollRefused (hstart : t.startsPoll = true) (hneg : ¬ s.pollAttempt < 0) {new : List PamEvent}
      {s' : AuthenticateState} (h : Talks s new s') : Outcome C s t (.finish .abort) s'
  | pollWaited (hwait : t.waits = true) {attempt : Int32}
      (hattempt : attempt = if s.pollAttempt < 0 then 0 else s.pollAttempt + 1) {secs : ℕ}
      {s' : AuthenticateState}
      (hs' : s' = { s with pollAttempt := attempt, transcript := s.transcript ++ [.slept secs] }) :
      Outcome C s t (.next (poll attempt.toUInt32)) s'

/-! ## 3. Handler by handler -/

def Sends (what : PamWhatNext) (new : List PamEvent) : Prop :=
  ∃ req kind cred, what = .next req ∧ credential req = some (kind, cred) ∧ cred ∈ typed new

theorem Chat.send {p : Handler String} (hp : Chat p fun cred new => cred ∈ typed new)
    {kind : CredentialKind} (hreq : ∀ cred, credential (request cred) = some (kind, cred)) :
    Chat (do let cred ← p; return .next (request cred)) Sends := by
  refine hp.bind fun cred new hcred => .pure ?_
  rw [List.append_nil]
  exact ⟨_, kind, cred, rfl, hreq cred, hcred⟩

theorem Chat.skipSends {p : Handler α} {Q : α → List PamEvent → Prop}
    {f : α → Handler PamWhatNext} (hp : Chat p Q) (hf : ∀ a, Chat (f a) Sends) :
    Chat (p >>= f) Sends := by
  refine hp.bind fun a new _ => (hf a).mono fun what new' h => ?_
  obtain ⟨req, kind, cred, hwhat, hreq, hcred⟩ := h
  refine ⟨req, kind, cred, hwhat, hreq, ?_⟩
  rw [typed_append]
  exact List.mem_append_right _ hcred

theorem promptOrFail_typed (prompt missing : String) :
    Chat (promptOrFail prompt missing) fun cred new => cred ∈ typed new := by
  refine (Chat.promptOrFail prompt missing).mono fun cred new hnew => ?_
  rw [hnew]
  exact List.mem_cons_self

theorem mfacode_sends : Chat (handlePamAuthResponseMfacode msg) Sends :=
  (Chat.printText msg).skipSends fun _ => (promptOrFail_typed _ _).send fun _ => rfl

theorem hellototp_sends : Chat (C.handlePamAuthResponseHellototp msg) Sends := by
  unfold handlePamAuthResponseHellototp
  have hprompt : Chat (do
      let cred ← promptOrFail "TOTP Code: " "No Hello TOTP code was supplied."
      return .next (.pamAuthenticateStep (.helloTOTP cred))) Sends :=
    (promptOrFail_typed _ _).send fun _ => rfl
  dsimp only
  split
  · split
    · exact (Chat.printText _).skipSends fun _ => hprompt
    · split
      · exact (Chat.printText _).skipSends fun _ => hprompt
      · exact (Chat.pamFail (Q := fun _ _ => True) _ _).skipSends fun _ => hprompt
  · exact (Chat.printText _).skipSends fun _ => hprompt

theorem Chat.get {f : AuthenticateState → Handler β} {S : β → List PamEvent → Prop}
    (hf : ∀ s, Chat (f s) S) : Chat (Body.get >>= f) S := by
  intro s
  rw [Body.ensures_bind, Body.ensures_get]
  exact hf s s

theorem setupPin_sends : Chat (C.handlePamAuthResponseSetupPin msg) Sends := by
  unfold handlePamAuthResponseSetupPin
  refine .get fun s => ?_
  refine (Chat.newSecretLoop _ C.refusePin s.input).bind fun pin new hpin => ?_
  refine (Chat.printText _).bind fun _ new' _ => .pure ⟨_, .setupPin, pin, rfl, rfl, ?_⟩
  rw [typed_append]
  exact List.mem_append_left _ hpin

theorem changePassword_sends : Chat (handlePamAuthResponseChangePassword msg) Sends := by
  unfold handlePamAuthResponseChangePassword
  refine .get fun s => ?_
  refine (Chat.newSecretLoop _ refusePassword s.input).bind fun password new hcred => ?_
  refine (Chat.printText _).bind fun _ new' _ => .pure ⟨_, .password, password, rfl, rfl, ?_⟩
  rw [typed_append]
  exact List.mem_append_left _ hcred

theorem canQrBluetooth_ensures (t : Turn) (key cross : Bool) :
    (C.canQrBluetooth t key cross).Ensures s (fun usable s' => ∃ new, Talks s new s' ∧
      (∀ e ∈ new, e.isUser = false) ∧ (key || usable) = C.hasHardware t key cross)
      fun _ _ => False := by
  unfold canQrBluetooth hasHardware
  dsimp only
  split
  next hwaits =>
    simp only [Bool.and_eq_true, Bool.not_eq_true'] at hwaits
    obtain ⟨⟨hkey, hoff⟩, hawaits⟩ := hwaits
    rw [hkey, hoff, hawaits]
    have htalks : ∀ msg secs, Talks s [.text msg, .slept secs]
        { s with transcript := s.transcript ++ [.text msg] ++ [.slept secs] } := by
      intro msg secs
      exact ⟨rfl, rfl, List.append_assoc _ _ _⟩
    cases t.bluetoothEnabledAt.filter (· < 30) with
    | some i => exact ⟨_, htalks _ (i + 1), by simp [PamEvent.isUser], rfl⟩
    | none => exact ⟨_, htalks _ 30, by simp [PamEvent.isUser], rfl⟩
  next hwaits =>
    refine ⟨[], .refl s, by simp, ?_⟩
    revert hwaits
    cases key <;> cases (cross && t.bluetooth == .poweredOn) <;> cases C.awaitsBluetooth t cross <;>
      simp

theorem securityKeyCeremony_chat (t : Turn) (failure : String) :
    Chat (securityKeyCeremony t failure) fun _ new => .ceremony true ∈ new := by
  unfold securityKeyCeremony
  cases t.assertion with
  | ok assertion =>
    refine (Chat.record _).bind fun _ new hnew => .pure ?_
    rw [hnew]
    exact List.mem_cons_self
  | error e => exact (Chat.record _).bind fun _ _ _ => Chat.pamFail _ _

section Answers

variable (hstart : t.startsPoll = false) (hwait : t.waits = false)

include hstart hwait

theorem denied_outcome (hauto : C.automatic t = true) :
    Outcome C s t ((C.handlePamAuthResponseDenied msg).run s).1
      ((C.handlePamAuthResponseDenied msg).run s).2 := by
  have htalks : Talks s [.text msg, .slept 2] ((C.handlePamAuthResponseDenied msg).run s).2 :=
    ⟨rfl, rfl, List.append_assoc _ _ _⟩
  refine .automatic hstart hwait hauto (Or.inl rfl) htalks ?_
  intro e he
  rcases List.mem_pair.mp he with rfl | rfl <;> rfl

variable (hauto : C.automatic t = false)

include hauto

variable {p : Handler PamWhatNext}

theorem Chat.outcome {Q : PamWhatNext → List PamEvent → Prop} (hp : Chat p Q)
    (h : ∀ what new s', Talks s new s' → Q what new → Outcome C s t what s') :
    Outcome C s t (p.run s).1 (p.run s).2 := by
  refine Body.Ensures.run (X := Outcome C s t) ((hp s).mono ?_ ?_)
  · rintro what s' ⟨new, htalks, hQ⟩
    exact h what new s' htalks hQ
  · rintro what s' ⟨rfl, new, htalks⟩
    exact .finished hstart hwait hauto .abort htalks

theorem Chat.outcome_sends (hp : Chat p Sends) : Outcome C s t (p.run s).1 (p.run s).2 := by
  refine hp.outcome hstart hwait hauto ?_
  rintro what new s' htalks ⟨req, kind, cred, rfl, hreq, hcred⟩
  exact .typed hstart hwait hauto hreq htalks hcred

theorem takeAuthtok_outcome {kind : CredentialKind}
    (hreq : ∀ cred, credential (request cred) = some (kind, cred))
    (hkind : kind = .password ∨ kind = .pin) {rest : Handler PamWhatNext} (hrest : Chat rest Sends)
    (hp : p = takeAuthtok >>= fun
      | some cred => pure (.next (request cred))
      | none => rest) :
    Outcome C s t (p.run s).1 (p.run s).2 := by
  subst hp
  unfold takeAuthtok
  rw [Body.run_call_bind]
  cases htok : s.authtok with
  | some tok => exact .authtok hstart hwait hauto htok (hreq tok) hkind
  | none =>
    have hsame : { s with authtok := none } = s := by
      rw [← htok]
    dsimp only
    rw [hsame]
    exact hrest.outcome_sends hstart hwait hauto

theorem password_outcome :
    Outcome C s t (C.handlePamAuthResponsePassword.run s).1
      (C.handlePamAuthResponsePassword.run s).2 := by
  refine takeAuthtok_outcome hstart hwait hauto (fun _ => rfl) (Or.inl rfl) ?_ rfl
  have hprompt : Chat (do
      let cred ← promptOrFail
        (if C.oidcIssuerUrl.isSome then "Cloud Password:" else "Entra Id Password:")
        "No Entra Id password was supplied."
      return .next (.pamAuthenticateStep (.password cred))) Sends :=
    (promptOrFail_typed _ _).send fun _ => rfl
  dsimp only
  split
  · exact (Chat.printText _).skipSends fun _ => hprompt
  · exact hprompt

theorem pin_outcome :
    Outcome C s t (C.handlePamAuthResponsePin.run s).1 (C.handlePamAuthResponsePin.run s).2 := by
  refine takeAuthtok_outcome hstart hwait hauto (fun _ => rfl) (Or.inr rfl) ?_ rfl
  exact (Chat.printText _).skipSends fun _ => (promptOrFail_typed _ _).send fun _ => rfl

end Answers

theorem fido_outcome (hstart : t.startsPoll = false) (hwait : t.waits = false) {key cross : Bool}
    (hauto : C.automatic t = !C.hasHardware t key cross) :
    Outcome C s t ((C.handlePamAuthResponseFido t key cross).run s).1
      ((C.handlePamAuthResponseFido t key cross).run s).2 := by
  refine Body.Ensures.run (X := Outcome C s t) ?_
  unfold handlePamAuthResponseFido
  rw [Body.ensures_bind]
  refine (canQrBluetooth_ensures t key cross).mono ?_ fun _ _ h => h.elim
  rintro usable s1 ⟨new, htalks, hquiet, husable⟩
  rw [← husable, Bool.not_or] at hauto
  by_cases hnone : (!key && !usable) = true
  · rw [if_pos hnone]
    exact .automatic hstart hwait (hauto.trans hnone) (Or.inr rfl) htalks hquiet
  · have hauto := hauto.trans (Bool.eq_false_of_not_eq_true hnone)
    rw [if_neg hnone, Body.ensures_bind]
    refine (securityKeyCeremony_chat t _ s1).mono ?_ ?_
    · rintro assertion s2 ⟨new', htalks', hceremony⟩
      exact .ceremony hstart hwait hauto assertion (htalks.trans htalks')
        (List.mem_append_right new hceremony)
    · rintro what s2 ⟨rfl, new', htalks'⟩
      exact .finished hstart hwait hauto .abort (htalks.trans htalks')

theorem promptEchoOff_talks (prompt : String) :
    (promptEchoOff prompt).Ensures s (fun _ s' => ∃ new, Talks s new s') fun _ _ => False := by
  unfold promptEchoOff
  rw [Body.ensures_bind, Body.ensures_get]
  cases s.input with
  | nil => exact ⟨_, rfl, rfl, rfl⟩
  | cons cred rest => exact ⟨_, rfl, rfl, rfl⟩

theorem showPoll_talks :
    (C.showPoll msg).Ensures s (fun _ s' => ∃ new, Talks s new s') fun _ _ => False := by
  unfold showPoll
  have hprompt : ∀ s1 new, Talks s new s1 → (do
      if C.opts.mfaPollPrompt && containsText C.service "ssh" && Sids.trim msg != "" then
        let _ ← promptEchoOff "Press enter to continue" : Handler Unit).Ensures s1
        (fun _ s' => ∃ new, Talks s new s') fun _ _ => False := by
    intro s1 new h
    by_cases hssh : (C.opts.mfaPollPrompt && containsText C.service "ssh" &&
        Sids.trim msg != "") = true
    · rw [if_pos hssh, Body.ensures_bind]
      refine (promptEchoOff_talks _).mono ?_ fun _ _ h => h
      rintro _ s2 ⟨new', h'⟩
      exact ⟨new ++ new', h.trans h'⟩
    · rw [if_neg hssh]
      exact ⟨new, h⟩
  by_cases hmsg : (Sids.trim msg != "") = true
  · rw [if_pos hmsg]
    exact hprompt _ [.text msg] ⟨rfl, rfl, rfl⟩
  · rw [if_neg hmsg]
    exact hprompt s [] (.refl s)

theorem startPoll_ensures {C : Client} (hstart : t.startsPoll = true) {s1 : AuthenticateState}
    (h : Talks s new s1) (pollingInterval : UInt32) :
    (startPoll pollingInterval).Ensures s1 (Outcome C s t) (Outcome C s t) := by
  unfold startPoll
  rw [Body.ensures_bind, Body.ensures_get, h.pollAttempt]
  by_cases hused : 0 ≤ s.pollAttempt
  · rw [if_pos hused]
    refine (Chat.pamFail (Q := fun _ _ => False) _ _ s1).mono ?_ ?_
    · rintro what s' ⟨new', _, hQ⟩
      exact hQ.elim
    · rintro what s' ⟨rfl, new', h'⟩
      exact .pollRefused hstart (Int32.not_lt.mpr hused) (h.trans h')
  · rw [if_neg hused]
    exact .pollStarted hstart (Int32.not_le.mp hused) h rfl rfl rfl

theorem mfapoll_outcome (hstart : t.startsPoll = true) (pollingInterval : UInt32) :
    Outcome C s t ((C.handlePamAuthResponseMfapoll msg pollingInterval).run s).1
      ((C.handlePamAuthResponseMfapoll msg pollingInterval).run s).2 := by
  refine Body.Ensures.run (X := Outcome C s t) ?_
  unfold handlePamAuthResponseMfapoll
  generalize C.pollText msg = shown
  rw [Body.ensures_bind]
  refine (showPoll_talks).mono ?_ fun _ _ h => h.elim
  rintro _ s1 ⟨new, h⟩
  exact startPoll_ensures hstart h pollingInterval

theorem mfapollwait_outcome (hwait : t.waits = true) :
    Outcome C s t (handlePamAuthResponseMfapollwait.run s).1
      (handlePamAuthResponseMfapollwait.run s).2 :=
  .pollWaited hwait rfl rfl

theorem outcome (C : Client) (s : AuthenticateState) (t : Turn) :
    Outcome C s t ((C.authenticateRequestResponse t).run s).1
      ((C.authenticateRequestResponse t).run s).2 := by
  unfold authenticateRequestResponse
  obtain ⟨response, bluetooth, bluetoothEnabledAt, assertion⟩ := t
  rcases response with _ | response
  · exact (Chat.pamFail (Q := fun _ _ => False) _ _).outcome rfl rfl rfl fun _ _ _ _ h => h.elim
  cases response with
  | unknown => exact .finished rfl rfl rfl _ (.refl s)
  | success => exact .finished rfl rfl rfl _ (.refl s)
  | denied msg => exact denied_outcome rfl rfl rfl
  | initDenied msg =>
    exact (Chat.pamFail (Q := fun _ _ => False) _ _).outcome rfl rfl rfl fun _ _ _ _ h => h.elim
  | password => exact password_outcome rfl rfl rfl
  | mfaCode msg => exact (mfacode_sends).outcome_sends rfl rfl rfl
  | helloTOTP msg => exact (hellototp_sends).outcome_sends rfl rfl rfl
  | mfaPoll msg pollingInterval => exact mfapoll_outcome rfl pollingInterval
  | mfaPollWait => exact mfapollwait_outcome rfl
  | setupPin msg => exact (setupPin_sends).outcome_sends rfl rfl rfl
  | pin => exact pin_outcome rfl rfl rfl
  | fido => exact fido_outcome rfl rfl rfl
  | changePassword msg => exact (changePassword_sends).outcome_sends rfl rfl rfl

end Himmelblau.PamClient
