/-
  **Which PINs the two prompts accept**: the one of a login (`handle_pam_auth_response_setup_pin`)
  and the one of a password change (mirror of `sm_chauthtok` of `pam/src/pam/mod.rs`).

  Both ask until a PIN is not refused and typed twice.  They refuse PINs that are too short or
  simple; only the prompt of a login looks at the policy of the administrator.
-/
import Himmelblau.PamConversation
import Himmelblau.UserTokens
import Himmelblau.ServerConfig

namespace Himmelblau.PinChange

open Interface Config FunctionBody NameMapping UserTokens PinPolicy PamClient

/-! ## 1. The prompt of a password change -/

abbrev ConvAnswer := Except PamResultCode (Option String)

/-- Where a conversation has got to: an answer is still awaited, the function returns, or it goes
    on with a PIN and the answers that are left. -/
inductive Dialog where
  | waiting (transcript : List PamEvent)
  | returns (code : PamResultCode) (transcript : List PamEvent)
  | chosen (pin : String) (rest : List ConvAnswer) (transcript : List PamEvent)

def tooShort (minLength : ℕ) : String :=
  "Chosen pin is too short! " ++ toString minLength ++ " chars required."

/-- Why a PIN is refused, and what happens at the terminal then. -/
def refusal (minLength : ℕ) (cred : String) : Option (String × List PamEvent) :=
  if cred.utf8ByteSize < minLength then some (tooShort minLength, [])
  else if isSimplePin cred then
    some ("PIN must not use repeating or predictable sequences. " ++
      "Avoid patterns like '111111', '123456', or '135791'.", [.slept 2])
  else none

def newPinLoop (minLength : ℕ) : List ConvAnswer → List PamEvent → Dialog
  | [], events => .waiting events
  | .error err :: _, events => .returns err events
  | .ok none :: _, events => .returns .credInsufficient (events ++ [.prompt "New PIN: " none])
  | .ok (some cred) :: rest, events =>
    let events := events ++ [.prompt "New PIN: " (some cred)]
    match refusal minLength cred with
    | some (why, pause) =>
      match rest with
      | [] => .waiting events
      | .error err :: _ => .returns err events
      | .ok _ :: rest => newPinLoop minLength rest (events ++ [.text why] ++ pause)
    | none =>
      match rest with
      | [] => .waiting events
      | .error err :: _ => .returns err events
      | .ok none :: _ => .returns .credInsufficient (events ++ [.prompt "Confirm PIN: " none])
      | .ok (some confirm) :: rest =>
        let events := events ++ [.prompt "Confirm PIN: " (some confirm)]
        if cred = confirm then .chosen cred rest events
        else
          match rest with
          | [] => .waiting events
          | .error err :: _ => .returns err events
          | .ok _ :: rest =>
            newPinLoop minLength rest (events ++ [.text "Inputs did not match. Try again."])

variable {minLength : ℕ}

theorem newPinLoop_chosen {answers rest : List ConvAnswer} {events transcript : List PamEvent}
    {pin : String} (h : newPinLoop minLength answers events = .chosen pin rest transcript) :
    refusal minLength pin = none := by
  -- along the loop: every round but the last goes on with fewer answers
  fun_induction newPinLoop minLength answers events with
  | case6 =>
    rename_i ih
    exact ih h
  | case10 =>
    obtain ⟨rfl, -⟩ := Dialog.chosen.inj h
    assumption
  | case13 =>
    rename_i ih
    exact ih h
  | _ => cases h

theorem newPinLoop_twice {pin : String} (h : refusal minLength pin = none)
    (rest : List ConvAnswer) (events : List PamEvent) :
    ∃ transcript, newPinLoop minLength (.ok (some pin) :: .ok (some pin) :: rest) events =
      .chosen pin rest transcript := by
  unfold newPinLoop
  simp only [h]
  exact ⟨_, rfl⟩

/-! ## 2. `sm_chauthtok` -/

/-- What the function finds: whether it runs for the daemon itself, its arguments and flags, the
    user, the configuration, the daemon and the conversation function.  `acquireToken` is the flow
    that proves who the user is (`none` while an answer is awaited): it yields an access token, if
    there is one, and a refresh token. -/
structure ChangeRequest where
  shouldSkipDaemonCall : Bool
  optsValid : Bool
  user : Option String
  names : Option NameConfig
  nameCache : Option MappedNameCache
  userMapFile : Option String
  helloPinMinLength : ℕ
  prelimCheck : Bool
  updateAuthtok : Bool
  daemonAvailable : Bool
  pamConv : Option PamResultCode
  acquireToken : (accountId : String) → List ConvAnswer →
    Option (Except PamResultCode (Option String × String))
  callAndWait : ClientRequest → Bool

/-- The code that is returned, if no answer is awaited, and the request that was sent. -/
structure ChangeResult where
  code : Option PamResultCode
  request : Option ClientRequest
  deriving DecidableEq, Repr

namespace ChangeRequest

variable (M : ChangeRequest)

/-- The checks before the user is asked for anything. -/
def prepare : Except PamResultCode String :=
  if M.shouldSkipDaemonCall then .error .ignore
  else if !M.optsValid then .error .serviceErr
  else
    match M.user, M.names with
    | none, _ | some _, none => .error .serviceErr
    | some user, some cfg =>
      let accountId :=
        match (UserMap.new cfg.toLowercase M.userMapFile).getUpnFromLocal user with
        | some accountId => accountId
        | none => (cfg.mapNameToUpn M.nameCache user).1
      match splitUsername accountId with
      -- Local user (no UPN): not a Himmelblau/Entra account.
      | none => .error .ignore
      | some _ =>
        if M.prelimCheck then .error .success
        else if !M.updateAuthtok then .error .serviceErr
        else if !M.daemonAvailable then .error .ignore
        else
          match M.pamConv with
          | some err => .error err
          | none => .ok accountId

def changePin (accountId pin : String) (answers : List ConvAnswer) : ChangeResult :=
  match M.acquireToken accountId answers with
  | none => ⟨none, none⟩
  | some (.error err) => ⟨some err, none⟩
  | some (.ok (none, _)) => ⟨some .authErr, none⟩
  | some (.ok (some accessToken, refreshToken)) =>
    let req := .pamChangeAuthToken accountId accessToken refreshToken pin
    ⟨some (if M.callAndWait req then .success else .authErr), some req⟩

def smChauthtok (answers : List ConvAnswer) : ChangeResult :=
  match M.prepare with
  | .error code => ⟨some code, none⟩
  | .ok accountId =>
    -- This command changes your local Hello PIN, NOT your Entra Id password.
    match answers with
    | [] => ⟨none, none⟩
    | .error err :: _ => ⟨some err, none⟩
    | .ok _ :: answers =>
      match newPinLoop M.helloPinMinLength answers
        [.text "This command changes your local Hello PIN, NOT your Entra Id password."] with
      | .waiting _ => ⟨none, none⟩
      | .returns code _ => ⟨some code, none⟩
      | .chosen pin rest _ => M.changePin accountId pin rest

def Accepts (pin : String) : Prop :=
  ∃ answers accountId accessToken refreshToken, (M.smChauthtok answers).request =
    some (.pamChangeAuthToken accountId accessToken refreshToken pin)

/-- A cloud user is asked for a new PIN, and can prove who they are. -/
def Ready : Prop :=
  ∃ accountId answers accessToken refreshToken, M.prepare = .ok accountId ∧
    M.acquireToken accountId answers = some (.ok (some accessToken, refreshToken))

variable {M} {pin : String}

theorem request_of_smChauthtok {answers : List ConvAnswer} {req : ClientRequest}
    (h : (M.smChauthtok answers).request = some req) :
    ∃ accountId pin accessToken refreshToken,
      req = .pamChangeAuthToken accountId accessToken refreshToken pin ∧
        refusal M.helloPinMinLength pin = none := by
  unfold smChauthtok at h
  split at h
  · cases h
  · rename_i accountId _
    split at h
    · cases h
    · cases h
    · split at h
      · cases h
      · cases h
      · rename_i pin rest _ hloop
        unfold changePin at h
        split at h
        · cases h
        · cases h
        · cases h
        · cases h
          exact ⟨_, _, _, _, rfl, newPinLoop_chosen hloop⟩

theorem accepts_iff (hready : M.Ready) :
    M.Accepts pin ↔ refusal M.helloPinMinLength pin = none := by
  constructor
  · rintro ⟨answers, accountId, accessToken, refreshToken, h⟩
    obtain ⟨_, _, _, _, heq, hpin⟩ := request_of_smChauthtok h
    cases heq
    exact hpin
  · intro h
    obtain ⟨accountId, answers, accessToken, refreshToken, hprepare, htoken⟩ := hready
    obtain ⟨transcript, hloop⟩ := newPinLoop_twice h answers
      [.text "This command changes your local Hello PIN, NOT your Entra Id password."]
    refine ⟨.ok none :: .ok (some pin) :: .ok (some pin) :: answers, accountId, accessToken,
      refreshToken, ?_⟩
    unfold smChauthtok
    simp only [hprepare, hloop, changePin, htoken]

end ChangeRequest

/-! ## 3. The prompt of a login -/

section Login

variable {C : Client} {pin : String}

variable {refuse : String → Option (String × Bool)}

theorem newSecretLoop_unrefused (texts : SecretTexts) :
    ∀ answers, Chat (newSecretLoop texts refuse answers) fun cred _ => refuse cred = none
  | [] => by
    unfold newSecretLoop
    exact (Chat.printText _).bind fun _ _ _ => (Chat.asked _ _ _).bind fun _ _ _ => .pamFail _ _
  | cred :: rest => by
    unfold newSecretLoop
    refine (Chat.printText _).bind fun _ _ _ => (Chat.asked _ _ _).bind fun _ _ _ => ?_
    cases hrefused : refuse cred with
    | some refusal =>
      obtain ⟨why, pause⟩ := refusal
      refine (Chat.printText why).bind fun _ _ _ => ?_
      cases pause with
      | false => exact newSecretLoop_unrefused texts rest
      | true =>
        exact (Chat.sleep 2).bind fun _ _ _ => newSecretLoop_unrefused texts rest
    | none =>
      refine (Chat.printText _).bind fun _ _ _ => ?_
      cases rest with
      | nil => exact (Chat.asked _ _ _).bind fun _ _ _ => .pamFail _ _
      | cons confirm rest =>
        refine (Chat.asked _ _ _).bind fun _ _ _ => ?_
        by_cases hsame : cred = confirm
        · rw [if_pos hsame]
          exact .pure hrefused
        · rw [if_neg hsame]
          exact (Chat.printText _).bind fun _ _ _ => (Chat.sleep 2).bind fun _ _ _ =>
            newSecretLoop_unrefused texts rest

theorem newSecretLoop_twice (texts : SecretTexts) (h : refuse pin = none) (rest : List String)
    (s : AuthenticateState) :
    ∃ s', newSecretLoop texts refuse (pin :: pin :: rest) s = (.ok pin, s') := by
  unfold newSecretLoop
  simp only [h, if_true]
  exact ⟨_, rfl⟩

variable (C) in
def SetupAccepts (pin : String) : Prop :=
  ∃ msg s, ((C.handlePamAuthResponseSetupPin msg).run s).1 =
    .next (.pamAuthenticateStep (.setupPin pin))

theorem setupAccepts_iff : SetupAccepts C pin ↔ C.refusePin pin = none := by
  constructor
  · rintro ⟨msg, s, h⟩
    have hsends : Chat (C.handlePamAuthResponseSetupPin msg) fun what _ =>
        ∀ pin, what = .next (.pamAuthenticateStep (.setupPin pin)) → C.refusePin pin = none := by
      unfold Client.handlePamAuthResponseSetupPin
      refine .get fun s => ?_
      refine (newSecretLoop_unrefused _ s.input).bind fun pin _ hpin => ?_
      refine (Chat.printText _).bind fun _ _ _ => .pure ?_
      rintro pin' heq
      cases heq
      exact hpin
    have hrun : (C.handlePamAuthResponseSetupPin msg).Ensures s
        (fun what _ => ∀ pin, what = .next (.pamAuthenticateStep (.setupPin pin)) →
          C.refusePin pin = none)
        fun what _ => ∀ pin, what = .next (.pamAuthenticateStep (.setupPin pin)) →
          C.refusePin pin = none :=
      (hsends s).mono (fun _ _ ⟨_, _, hwhat⟩ => hwhat)
        fun _ _ hfails _ heq => nomatch hfails.1.symm.trans heq
    exact hrun.run pin h
  · intro h
    have hprompt : ∀ texts, ((do
        let pin ← newSecretLoop texts C.refusePin [pin, pin]
        printText "Enrolling the Hello PIN. Please wait..."
        return .next (.pamAuthenticateStep (.setupPin pin)) : Handler PamWhatNext).run
          ⟨none, 0, 0, [pin, pin], []⟩).1 = .next (.pamAuthenticateStep (.setupPin pin)) := by
      intro texts
      obtain ⟨s', hloop⟩ := newSecretLoop_twice texts h [] ⟨none, 0, 0, [pin, pin], []⟩
      rw [Body.run_bind hloop]
      rfl
    exact ⟨"", ⟨none, 0, 0, [pin, pin], []⟩, hprompt _⟩

end Login

/-! ## 4. Both prompts -/

section Paths

variable {M : ChangeRequest} {C : Client} {pin : String}

/-- The prompt of a login refuses what a password change refuses, and what the policy does. -/
theorem refusePin_eq_none_iff : C.refusePin pin = none ↔
    refusal C.helloPinMinLength pin = none ∧
      meetsIntunePinPolicy C.policyCache pin = .ok () := by
  unfold Client.refusePin refusal
  split
  · simp
  · split
    · simp
    · cases meetsIntunePinPolicy C.policyCache pin with
      | error msg => simp
      | ok u => simp

theorem refusal_eq_none_iff : refusal minLength pin = none ↔
    minLength ≤ pin.utf8ByteSize ∧ isSimplePin pin = false := by
  unfold refusal
  split
  · simp_all
  · split
    · simp_all
    · simp_all

/-- For every configuration, policy and PIN: the prompts agree on it exactly if the policy allows
    it, or it is too short or simple. -/
theorem accepts_iff_setupAccepts_iff (hready : M.Ready)
    (hmin : M.helloPinMinLength = C.helloPinMinLength) :
    (M.Accepts pin ↔ SetupAccepts C pin) ↔
      (meetsIntunePinPolicy C.policyCache pin = .ok () ∨
        pin.utf8ByteSize < C.helloPinMinLength ∨ isSimplePin pin = true) := by
  rw [ChangeRequest.accepts_iff hready, setupAccepts_iff, refusePin_eq_none_iff, hmin,
    refusal_eq_none_iff]
  by_cases hmeets : meetsIntunePinPolicy C.policyCache pin = .ok ()
  · simp [hmeets]
  · cases hsimple : isSimplePin pin with
    | false => simp [hmeets]
    | true => simp

end Paths

def symbolClient : Client where
  accountId := "alice@example.com"
  service := "login"
  opts := ⟨false, false, false, false⟩
  oidcIssuerUrl := none
  entraIdPasswordPrompt := ""
  helloPinPrompt := ""
  helloPinMinLength := 6
  policyCache := some fun key =>
    if key = "linux_passwordpolicy_minimumsymbols" then some (.int 1) else none
  generateUnicodeQr _ := none
  urlQr _ := none
  helloTotpEnrollFallbackMsg _ := .error ""

def aliceChange : ChangeRequest where
  shouldSkipDaemonCall := false
  optsValid := true
  user := some "alice@example.com"
  names := some
    { nameMappingScript := none, cnNameMapping := false, configuredDomains := ["example.com"],
      etcPasswd := ["root"], runScript := fun _ _ => none,
      toLowercase := ServerConfig.asciiLower }
  nameCache := none
  userMapFile := none
  helloPinMinLength := 6
  prelimCheck := false
  updateAuthtok := true
  daemonAvailable := true
  pamConv := none
  acquireToken _ _ := some (.ok (some "access", "refresh"))
  callAndWait _ := true

theorem aliceChange_ready : aliceChange.Ready := by
  refine ⟨"alice@example.com", [], "access", "refresh", ?_, rfl⟩
  decide +kernel

/-- `248163` has no symbol: the prompt of a login refuses it, and the password change takes it. -/
theorem digits_change :
    aliceChange.smChauthtok [.ok none, .ok (some "248163"), .ok (some "248163")] =
        ⟨some .success,
          some (.pamChangeAuthToken "alice@example.com" "access" "refresh" "248163")⟩ ∧
      aliceChange.helloPinMinLength = symbolClient.helloPinMinLength ∧
      ¬SetupAccepts symbolClient "248163" := by
  refine ⟨by decide +kernel, rfl, ?_⟩
  rw [setupAccepts_iff]
  decide +kernel

theorem symbol_agrees : aliceChange.Accepts "24816#" ↔ SetupAccepts symbolClient "24816#" := by
  have hmeets : meetsIntunePinPolicy symbolClient.policyCache "24816#" = .ok () := by
    decide +kernel
  exact (accepts_iff_setupAccepts_iff aliceChange_ready rfl).mpr (.inl hmeets)

end Himmelblau.PinChange
