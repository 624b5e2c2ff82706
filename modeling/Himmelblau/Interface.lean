/-
  **The data that the resolver and its identity providers exchange** (mirror of
  `idprovider/interface.rs` and `unix_proto.rs`), and the provider interface
  itself as a record of functions.

  Types of other crates appear with the parts this repository reads: a
  `UnixUserToken` shows its decoded claims (`none` when a claim does not decode),
  sealed data and Hello keys are the blobs the keystore saves, and an MFA flow
  shows what the prompts are built from.  `SystemTime` is a number of seconds since the
  epoch.
-/
import Mathlib

namespace Himmelblau.Interface

/-! ## 1. Tokens -/

structure Uuid where
  bits : BitVec 128
  deriving DecidableEq, Repr

def hexDigit (n : ℕ) : Char := "0123456789abcdef".toList.getD n '0'

def Uuid.hexDigits (u : Uuid) : List Char :=
  (List.range 32).map fun i => hexDigit ((u.bits.toNat >>> (4 * (31 - i))) % 16)

/-- The text form `8-4-4-4-12`, as it stands in the database and in group lists. -/
def Uuid.hyphenated (u : Uuid) : String :=
  let d := u.hexDigits
  String.ofList (d.take 8 ++ '-' :: (d.drop 8).take 4 ++ '-' :: (d.drop 12).take 4 ++
    '-' :: (d.drop 16).take 4 ++ '-' :: d.drop 20)

theorem hexDigit_injective {m n : ℕ} (hm : m < 16) (hn : n < 16) (h : hexDigit m = hexDigit n) :
    m = n := by
  have hall : ∀ a b : Fin 16, hexDigit a = hexDigit b → a = b := by decide
  exact congrArg Fin.val (hall ⟨m, hm⟩ ⟨n, hn⟩ h)

theorem Uuid.hexDigits_injective {u v : Uuid} (h : u.hexDigits = v.hexDigits) : u = v := by
  have hdigit : ∀ i < 32, (u.bits.toNat >>> (4 * (31 - i))) % 2 ^ 4 =
      (v.bits.toNat >>> (4 * (31 - i))) % 2 ^ 4 := by
    intro i hi
    have hmap := List.map_inj_left.mp h i (List.mem_range.mpr hi)
    exact hexDigit_injective (Nat.mod_lt _ (by decide)) (Nat.mod_lt _ (by decide)) hmap
  have hbits : u.bits.toNat = v.bits.toNat := by
    apply Nat.eq_of_testBit_eq
    intro k
    by_cases hk : k < 128
    · -- bit `k` is one of the four bits of a digit
      have hnibble := congrArg (Nat.testBit · (k % 4)) (hdigit (31 - k / 4) (by omega))
      have hsum : 4 * (31 - (31 - k / 4)) + k % 4 = k := by omega
      have hlt : k % 4 < 4 := Nat.mod_lt _ (by decide)
      simpa only [Nat.testBit_mod_two_pow, Nat.testBit_shiftRight, hsum, hlt, decide_true,
        Bool.true_and] using hnibble
    · have hge : 2 ^ 128 ≤ 2 ^ k := Nat.pow_le_pow_right (by decide) (Nat.le_of_not_lt hk)
      rw [Nat.testBit_lt_two_pow (Nat.lt_of_lt_of_le u.bits.isLt hge),
        Nat.testBit_lt_two_pow (Nat.lt_of_lt_of_le v.bits.isLt hge)]
  obtain ⟨ubits⟩ := u
  obtain ⟨vbits⟩ := v
  exact congrArg Uuid.mk (BitVec.eq_of_toNat_eq hbits)

theorem Uuid.filter_hyphenated (u : Uuid) :
    u.hyphenated.toList.filter (· != '-') = u.hexDigits := by
  have hdigit : ∀ c ∈ u.hexDigits, (c != '-') = true := by
    intro c hc
    obtain ⟨i, -, rfl⟩ := List.mem_map.mp hc
    have hall : ∀ a : Fin 16, (hexDigit a != '-') = true := by decide
    exact hall ⟨_, Nat.mod_lt _ (by decide)⟩
  have hpiece : ∀ l : List Char, l.Sublist u.hexDigits → l.filter (· != '-') = l := fun l hl =>
    List.filter_eq_self.mpr fun c hc => hdigit c (hl.subset hc)
  have hmiddle : ∀ m n, ((u.hexDigits.drop m).take n).filter (· != '-') =
      (u.hexDigits.drop m).take n := fun m n =>
    hpiece _ ((List.take_sublist _ _).trans (List.drop_sublist _ _))
  have hdrop : ∀ m, u.hexDigits.drop (m + 4) = (u.hexDigits.drop m).drop 4 := fun m => by
    rw [List.drop_drop]
  simp only [Uuid.hyphenated, String.toList_ofList, List.filter_append, List.filter_cons, hmiddle,
    hpiece _ (List.take_sublist _ _), hpiece _ (List.drop_sublist _ _), bne_self_eq_false,
    Bool.false_eq_true, if_false]
  rw [hdrop 16, List.append_assoc, List.take_append_drop, hdrop 12, List.append_assoc,
    List.take_append_drop, hdrop 8, List.append_assoc, List.take_append_drop,
    List.take_append_drop]

theorem Uuid.hyphenated_injective {u v : Uuid} (h : u.hyphenated = v.hyphenated) : u = v := by
  apply Uuid.hexDigits_injective
  rw [← u.filter_hyphenated, ← v.filter_hyphenated, h]

inductive Id where
  | name (name : String)
  | gid (gid : UInt32)
  deriving DecidableEq, Repr

structure GroupToken where
  name : String
  spn : String
  uuid : Uuid
  gidnumber : UInt32
  deriving DecidableEq, Repr

/-- `gidnumber` is the uid of the user, `realGidnumber` the primary gid. -/
structure UserToken where
  name : String
  spn : String
  uuid : Uuid
  realGidnumber : Option UInt32
  gidnumber : UInt32
  displayname : String
  shell : Option String
  groups : List GroupToken
  tenantId : Option Uuid
  valid : Bool
  deriving DecidableEq, Repr

structure SealedData where
  blob : String
  deriving DecidableEq, Repr

structure LoadableMsHelloKey where
  blob : String
  deriving DecidableEq, Repr

structure UnixUserToken where
  tokenType : String
  spn : Option String
  uuid : Option Uuid
  amrNgcmfa : Option Bool
  tenantId : Option String
  prt : Option SealedData
  refreshToken : String
  accessToken : Option String
  deriving DecidableEq, Repr

/-! ## 2. Errors and states -/

inductive IdpError where
  | transport
  | providerUnauthorised
  | badRequest
  | notFound (what where_ : String)
  | keyStore
  | tpm
  deriving DecidableEq, Repr

inductive CacheState where
  | online
  | offline
  | offlineNextCheck (time : ℕ)
  deriving DecidableEq, Repr

inductive UserTokenState where
  | useCached
  | notFound
  | update (token : UserToken)
  deriving DecidableEq, Repr

/-! ## 3. Authentication -/

inductive AuthOption where
  | fido
  | passwordless
  | passwordlessFido
  | passwordlessQrBluetooth
  | passwordlessSecurityKey
  | noDAGFallback
  | forceMFA
  | remoteSession
  deriving DecidableEq, Repr

structure MFAAuthContinue where
  msg : String
  mfaMethod : String
  pollingInterval : Option UInt32
  maxPollAttempts : Option UInt32
  fidoChallenge : Option String
  fidoAllowList : Option (List String)
  hasPhysicalSecurityKey : Bool
  hasCrossDevicePasskey : Bool
  deriving DecidableEq, Repr

inductive AuthCredHandler where
  | mfa (flow : MFAAuthContinue) (password extraData reauthHelloPin : Option String)
  | reauthPassword (reauthHelloPin : String)
  | setupPin (token : Option UnixUserToken)
  | helloTOTP (cred : String) (pendingSealedTotp : Option SealedData)
  | changePassword (oldCred : String)
  | passwordFirst (authOptions : List AuthOption) (isDomainJoined : Bool)
  | none
  deriving DecidableEq, Repr

inductive AuthRequest where
  | password
  | mfaCode (msg : String)
  | helloTOTP (msg : String)
  | mfaPoll (msg : String) (pollingInterval : UInt32)
  | mfaPollWait
  | setupPin (msg : String)
  | pin
  | fido (fidoChallenge : String) (fidoAllowList : List String)
      (hasPhysicalSecurityKey hasCrossDevice : Bool)
  | changePassword (msg : String)
  | initDenied (msg : String)
  deriving DecidableEq, Repr

inductive AuthResult where
  | success (token : UserToken)
  | denied (msg : String)
  | next (request : AuthRequest)
  deriving DecidableEq, Repr

inductive AuthCacheAction where
  | none
  | passwordHashUpdate (cred : String)
  deriving DecidableEq, Repr

/-! ## 4. The wire types (`unix_proto.rs`) -/

structure NssUser where
  name : String
  uid : UInt32
  gid : UInt32
  gecos : String
  homedir : String
  shell : String
  deriving DecidableEq, Repr

structure NssGroup where
  name : String
  gid : UInt32
  members : List String
  deriving DecidableEq, Repr

structure HomeDirectoryInfo where
  uid : UInt32
  gid : UInt32
  name : String
  aliases : List String
  deriving DecidableEq, Repr

inductive PamAuthResponse where
  | unknown
  | success
  | denied (msg : String)
  | password
  | mfaCode (msg : String)
  | helloTOTP (msg : String)
  | mfaPoll (msg : String) (pollingInterval : UInt32)
  | mfaPollWait
  | setupPin (msg : String)
  | pin
  | fido (fidoChallenge : String) (fidoAllowList : List String)
      (hasPhysicalSecurityKey hasCrossDevice : Bool)
  | changePassword (msg : String)
  | initDenied (msg : String)
  deriving DecidableEq, Repr

inductive PamAuthRequest where
  | password (cred : String)
  | mfaCode (cred : String)
  | helloTOTP (cred : String)
  | mfaPoll (pollAttempt : UInt32)
  | setupPin (pin : String)
  | pin (cred : String)
  | fido (assertion : String)
  | fidoUnavailable
  deriving DecidableEq, Repr

def AuthRequest.into : AuthRequest → PamAuthResponse
  | .password => .password
  | .mfaCode msg => .mfaCode msg
  | .helloTOTP msg => .helloTOTP msg
  | .mfaPoll msg pollingInterval => .mfaPoll msg pollingInterval
  | .mfaPollWait => .mfaPollWait
  | .setupPin msg => .setupPin msg
  | .pin => .pin
  | .fido challenge allowList physical crossDevice => .fido challenge allowList physical crossDevice
  | .changePassword msg => .changePassword msg
  | .initDenied msg => .initDenied msg

/-! ## 5. The keystore and the provider interface -/

/-- A value of `hsm_data_t`: what `insert_tagged_hsm_key` serialised. -/
inductive StoredKey where
  | helloKey (key : LoadableMsHelloKey)
  | sealedData (data : SealedData)
  | other (json : String)
  deriving DecidableEq, Repr

abbrev KeyStore := String → Option StoredKey

structure UserTgts where
  cloudCcache : Option String
  adCcache : Option String
  topLevelNames : Option String
  tenantId : Option String
  deriving DecidableEq, Repr

/-- `trait IdProvider`: every method sees the provider's own state `P`, and the
    keystore where the source passes one, and leaves both.  The TPM and the
    network answer through the provider's state. -/
structure IdProvider (P : Type) where
  checkOnline : (now : ℕ) → P → Bool × P
  unixUserGet : Id → Option UserToken → KeyStore → P →
    Except IdpError UserTokenState × KeyStore × P
  unixUserAccess : Id → (scopes : List String) → Option UserToken →
    (clientId redirectUri reqCnf : Option String) → KeyStore → P →
    Except IdpError UnixUserToken × KeyStore × P
  unixUserTgts : Id → Option UserToken → KeyStore → P → UserTgts × KeyStore × P
  unixUserPrtCookie : Id → Option UserToken → (ssoNonce : Option String) → KeyStore → P →
    Except IdpError String × KeyStore × P
  changeAuthToken : (accountId : String) → UnixUserToken → (newTok : String) → KeyStore → P →
    Except IdpError Bool × KeyStore × P
  unixUserOnlineAuthInit : (accountId : String) → Option UserToken → (service : String) →
    (noHelloPin forceReauth : Bool) → KeyStore → P →
    Except IdpError (AuthRequest × AuthCredHandler) × KeyStore × P
  unixUserOnlineAuthStep : (accountId : String) → (oldToken : UserToken) → (service : String) →
    (noHelloPin : Bool) → AuthCredHandler → PamAuthRequest → KeyStore → P →
    (Except IdpError (AuthResult × AuthCacheAction) × AuthCredHandler) × KeyStore × P
  unixUserOfflineAuthInit : (accountId : String) → Option UserToken → (noHelloPin : Bool) →
    KeyStore → P → Except IdpError (AuthRequest × AuthCredHandler) × KeyStore × P
  unixUserOfflineAuthStep : (accountId : String) → UserToken → AuthCredHandler →
    PamAuthRequest → (onlineAtInit : Bool) → KeyStore → P →
    (Except IdpError AuthResult × AuthCredHandler) × KeyStore × P
  unixGroupGet : Id → P → Except IdpError GroupToken × P
  getCachestate : (accountId : Option String) → KeyStore → P → CacheState × KeyStore × P
  offlineBreakGlass : (ttl : Option ℕ) → P → Except IdpError Unit × P
  exportBrokerPrts : P → Except Unit String × P
  importBrokerPrts : (data : String) → P → Except Unit Unit × P

end Himmelblau.Interface
