/-
  **Remote and local sessions.**  `unix_user_online_auth_init`, `request_reauth` and the password
  step each classify the PAM service on their own before they choose the options of a flow, and so
  does the init of the OIDC provider.
-/
import Himmelblau.LoginRules

namespace Himmelblau.Entra

open Interface Config Msal FunctionBody Ctx

variable {W ρ α : Type}

/-- Where the Entra provider classifies a service and opens a flow. -/
inductive Place
  | init
  | reauth
  | password

namespace HimmelblauProvider

variable (P : HimmelblauProvider W)

def remoteAt (service : String) : Place → Bool
  | .password => P.config.isRemoteService service ||
      containsText (P.outside.toLowercase service) "ssh"
  | _ => P.config.isRemoteService service

/-- The options of the flow; `h` is the handler of the password. -/
def optionsAt (service : String) (h : AuthCredHandler) : Place → List AuthOption
  | .password => P.flowOptions false (P.remoteAt service .password) ++
      if (reauthHelloPin h).isNone && P.config.enableSfaFallback then [.noDAGFallback] else []
  | place =>
    if P.config.enableExperimentalMfa then
      P.flowOptions P.config.enablePasswordless (P.remoteAt service place)
    else P.deviceFlowOptions (P.remoteAt service place)

/-- Flows with other options are opened in another way. -/
def answering (opts : List AuthOption) (other : Outside W) : HimmelblauProvider W :=
  { P with
    outside := { P.outside with
      checkUserExists := fun a o =>
        if o = opts then P.outside.checkUserExists a o else other.checkUserExists a o
      initiateMfaFlow := fun a cred o authInit method =>
        if o = opts then P.outside.initiateMfaFlow a cred o authInit method
        else other.initiateMfaFlow a cred o authInit method
      initiateDeviceFlow := fun o =>
        if o = opts then P.outside.initiateDeviceFlow o else other.initiateDeviceFlow o } }

/-- Whatever flow the function opens, it opens with these options: how flows with other options
    are opened does not matter to it. -/
def OpensWith (opts : List AuthOption) (p : HimmelblauProvider W → Fn W ρ α) : Prop :=
  ∀ other, p (P.answering opts other) = p P

variable {P} {a service : String} {h : AuthCredHandler}

section Opening

variable {opts : List AuthOption} {other : Outside W} {remote : Bool}

theorem initMfa_answering (hopts : P.flowOptions P.config.enablePasswordless remote = opts) :
    (P.answering opts other).initMfa a remote = P.initMfa a remote := by
  set Q := P.answering opts other
  have huser : Q.outside.checkUserExists a (Q.flowOptions Q.config.enablePasswordless remote) = _ :=
    if_pos hopts
  have hflow : ∀ authInit, Q.outside.initiateMfaFlow a none
      (Q.flowOptions Q.config.enablePasswordless remote) authInit Q.config.mfaMethod = _ :=
    fun _ => if_pos hopts
  unfold initMfa
  simp only [huser, hflow]
  rfl

theorem initDeviceFlow_answering (hopts : P.deviceFlowOptions remote = opts) :
    (P.answering opts other).initDeviceFlow remote = P.initDeviceFlow remote := by
  set Q := P.answering opts other
  have hdevice : Q.outside.initiateDeviceFlow (Q.deviceFlowOptions remote) = _ := if_pos hopts
  unfold initDeviceFlow
  simp only [hdevice]
  rfl

end Opening

theorem init_opensWith {noHelloPin forceReauth : Bool} : P.OpensWith (P.optionsAt service h .init)
    fun P => P.unixUserOnlineAuthInit a service noHelloPin forceReauth := by
  intro other
  set Q := P.answering (P.optionsAt service h .init) other
  have hflow : (if Q.config.enableExperimentalMfa then
        Q.initMfa a (Q.config.isRemoteService service)
      else Q.initDeviceFlow (Q.config.isRemoteService service)) =
      if P.config.enableExperimentalMfa then P.initMfa a (P.config.isRemoteService service)
      else P.initDeviceFlow (P.config.isRemoteService service) := by
    change (if P.config.enableExperimentalMfa then _ else _) = _
    split
    · next hmfa => exact initMfa_answering (if_pos hmfa).symm
    · next hmfa => exact initDeviceFlow_answering (if_neg hmfa).symm
  unfold unixUserOnlineAuthInit
  simp only [hflow]
  rfl

theorem requestReauth_opensWith {pin : String} : P.OpensWith (P.optionsAt service h .reauth)
    fun P => (P.requestReauth a service pin : Fn W StepAnswer α) := by
  intro other
  set Q := P.answering (P.optionsAt service h .reauth) other
  cases hmfa : P.config.enableExperimentalMfa with
  | true =>
    have hflow : Q.outside.initiateMfaFlow a none (Q.flowOptions Q.config.enablePasswordless
        (Q.config.isRemoteService service)) none Q.config.mfaMethod = _ := if_pos (if_pos hmfa).symm
    have hmfa' : Q.config.enableExperimentalMfa = true := hmfa
    simp only [requestReauth, hmfa, hmfa', hflow, if_true]
    rfl
  | false =>
    have hdevice : Q.outside.initiateDeviceFlow (Q.deviceFlowOptions
        (Q.config.isRemoteService service)) = _ := if_pos (if_neg (by simp [hmfa])).symm
    have hmfa' : Q.config.enableExperimentalMfa = false := hmfa
    simp only [requestReauth, hmfa, hmfa', hdevice, Bool.false_eq_true, if_false]
    rfl

theorem passwordStep_opensWith {cred : String} : P.OpensWith (P.optionsAt service h .password)
    fun P => P.passwordStep a service h cred := by
  intro other
  set Q := P.answering (P.optionsAt service h .password) other
  have hflow : ∀ cred, Q.outside.initiateMfaFlow a (some cred) (Q.flowOptions false
      (Q.config.isRemoteService service || containsText (Q.outside.toLowercase service) "ssh") ++
        if (reauthHelloPin h).isNone && Q.config.enableSfaFallback then [.noDAGFallback] else [])
      none Q.config.mfaMethod = _ := fun _ => if_pos rfl
  unfold passwordStep
  simp only [hflow]
  rfl

variable (P)

def OpensAt (service : String) (h : AuthCredHandler) : Place → Prop
  | .init => ∀ a noHelloPin forceReauth, P.OpensWith (P.optionsAt service h .init)
      fun P => P.unixUserOnlineAuthInit a service noHelloPin forceReauth
  | .reauth => ∀ (α : Type) (a pin : String), P.OpensWith (P.optionsAt service h .reauth)
      fun P => (P.requestReauth a service pin : Fn W StepAnswer α)
  | .password => ∀ a cred, P.OpensWith (P.optionsAt service h .password)
      fun P => P.passwordStep a service h cred

/-- All take the service for the same; the options go together, and what is remote to the password
    step is not let in as local by an init. -/
structure OneNotion (service : String) : Prop where
  opens : ∀ place h, P.OpensAt service h place
  classes : ∀ place, P.remoteAt service place = P.config.isRemoteService service
  options : ∀ o, o = .forceMFA ∨ o = .remoteSession → ∀ place place' h h',
    (o ∈ P.optionsAt service h place ↔ o ∈ P.optionsAt service h' place')
  init : P.remoteAt service .password = true → ∀ a noHelloPin forceReauth c,
    Offers true (P.config.enableHelloTotp = true ∨ P.config.allowRemoteHello = true)
      ((P.unixUserOnlineAuthInit a service noHelloPin forceReauth).run c).1
  oidcInit : P.remoteAt service .password = true → ∀ O : Oidc.OidcProvider W,
    O.config = P.config → ∀ a noHelloPin forceReauth c,
      Offers true (P.config.enableHelloTotp = true ∨ P.config.allowRemoteHello = true)
        ((O.unixUserOnlineAuthInit a service noHelloPin forceReauth).run c).1

variable {P}

theorem opensAt (service : String) (place : Place) (h : AuthCredHandler) :
    P.OpensAt service h place := by
  cases place with
  | init => exact fun _ _ _ => init_opensWith
  | reauth => exact fun _ _ _ => requestReauth_opensWith
  | password => exact fun _ _ => passwordStep_opensWith

theorem mem_optionsAt {o : AuthOption} {place : Place} (ho : o = .forceMFA ∨ o = .remoteSession) :
    o ∈ P.optionsAt service h place ↔ P.remoteAt service place = true ∨
      (o = .forceMFA ∧ P.config.allowConsolePasswordOnly = false) := by
  have hflow : ∀ passwordless remote, o ∈ P.flowOptions passwordless remote ↔ remote = true ∨
      (o = .forceMFA ∧ P.config.allowConsolePasswordOnly = false) := by
    intro passwordless remote
    rcases ho with rfl | rfl <;> cases remote <;> simp [flowOptions]
  have hdevice : ∀ remote, o ∈ P.deviceFlowOptions remote ↔ remote = true ∨
      (o = .forceMFA ∧ P.config.allowConsolePasswordOnly = false) := by
    intro remote
    rcases ho with rfl | rfl <;> cases remote <;> simp [deviceFlowOptions]
  have hother : o ≠ .noDAGFallback := by
    rcases ho with rfl | rfl <;> nofun
  cases place with
  | password => simp [optionsAt, hflow, hother]
  | _ => simp only [optionsAt]; split <;> simp only [hflow, hdevice]

/-- **There is one notion of a remote session** exactly for the services that do not have `ssh` in
    them, in any case, unless `is_remote_service` has them as remote. -/
theorem oneNotion_iff (P : HimmelblauProvider W) (service : String) :
    P.OneNotion service ↔ (containsText (P.outside.toLowercase service) "ssh" = true →
      P.config.isRemoteService service = true) := by
  constructor
  · intro h hssh
    rw [← h.classes .password, remoteAt, hssh, Bool.or_true]
  · intro h
    have hclasses : ∀ place, P.remoteAt service place = P.config.isRemoteService service := by
      rintro ⟨⟩ <;> simp only [remoteAt]
      grind
    refine ⟨opensAt service, hclasses, fun o ho place place' h h' => ?_,
      fun hremote a noHelloPin reauth c => ?_, fun hremote O hconfig a noHelloPin reauth c => ?_⟩
    · simp only [mem_optionsAt ho, hclasses]
    · rw [hclasses] at hremote
      have hinit : Offers _ _ ((P.unixUserOnlineAuthInit a service noHelloPin reauth).run c).1 :=
        (P.unixUserOnlineAuthInit_opens service reauth).run.2
      rw [hremote] at hinit
      exact hinit.mono fun hhello => hhello.1 hremote
    · rw [hclasses] at hremote
      have hinit := (O.unixUserOnlineAuthInit_offers a service noHelloPin reauth).run c
      rw [hconfig, hremote] at hinit
      exact hinit.mono fun hhello => hhello hremote

/-- The password step takes `sshd` for remote where it is not on the list, and the init asks for
    the password first as on a console. -/
theorem sshd_local_at_init :
    let P := { sampleProvider 3 false with
      config := { sampleConfig 3 false with
        allowConsolePasswordOnly := true
        passwordOnlyRemoteServicesDenyList := ["telnet"] } }
    AuthOption.remoteSession ∈ P.optionsAt "sshd" .none .password ∧
      .remoteSession ∉ P.optionsAt "sshd" .none .init ∧
      ((P.unixUserOnlineAuthInit "alice@example.com" "sshd" false false).run
        ⟨sampleKeystore [], sampleProviderState .online, .none⟩).1 =
          .ok (.password, .passwordFirst [.fido] true) ∧
      ¬ P.OneNotion "sshd" :=
  ⟨by decide, by decide, by rfl, fun h => nomatch h.classes .password⟩

end HimmelblauProvider

end Himmelblau.Entra
