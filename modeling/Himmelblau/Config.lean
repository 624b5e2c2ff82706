/-
  **The configuration** (mirror of `config.rs`): splitting user names, and the values
  of `himmelblau.conf` that the Entra provider reads for its domain.
-/
import Mathlib

namespace Himmelblau.Config

/-- The local part and the domain of a user name: both sides of its only `@`. -/
def splitUsername (username : String) : Option (String × String) :=
  match username.toList.splitOn '@' with
  | [name, domain] => some (String.ofList name, String.ofList domain)
  | _ => none

def containsText (text part : String) : Bool :=
  text.toList.tails.any fun rest => part.toList.isPrefixOf rest

structure HimmelblauConfig where
  appId : Option String
  applyPolicy : Bool
  allowConsolePasswordOnly : Bool
  allowRemoteHello : Bool
  enableExperimentalMfa : Bool
  enableExperimentalPasswordlessFido : Bool
  enableHello : Bool
  enableHelloTotp : Bool
  enablePasswordless : Bool
  enablePasswordlessQrBluetooth : Bool
  enablePasswordlessSecurityKey : Bool
  enableSfaFallback : Bool
  helloPinRetryCount : UInt32
  mfaMethod : Option String
  offlineBreakglassEnabled : Bool
  offlineBreakglassTtl : ℕ
  passwordOnlyRemoteServicesDenyList : List String
  shell : String
  deriving DecidableEq, Repr

/-- A service is remote if PAM marked it so or a listed name occurs in it. -/
def HimmelblauConfig.isRemoteService (config : HimmelblauConfig) (service : String) : Bool :=
  "remote:".toList.isPrefixOf service.toList ||
    config.passwordOnlyRemoteServicesDenyList.any fun s => s != "" && containsText service s

end Himmelblau.Config
