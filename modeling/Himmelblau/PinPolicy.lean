/-
  **Which Hello PINs are refused**, mirror of `common/src/hello_pin_complexity.rs`: PINs that are
  too simple, and PINs that the policy of the administrator does not allow.
-/
import Mathlib

namespace Himmelblau.PinPolicy

/-! ## 1. The checks -/

def defaultHelloPinMinLen : ℕ := 6

def toDigit (c : Char) : Option ℕ := if c.isDigit then some (c.toNat - '0'.toNat) else none

def windows {α : Type} (items : List α) : List (α × α) := items.zip items.tail

/-- Too short, or digits with a constant difference modulo 10. -/
def isSimplePin (pin : String) : Bool :=
  if pin.utf8ByteSize < defaultHelloPinMinLen then true
  else
    match pin.toList.mapM toDigit with
    | none => false
    | some digits =>
      let deltas := (windows digits).map fun pair => (10 + pair.2 - pair.1) % 10
      (windows deltas).all fun w => w.1 == w.2

inductive PolicyValue where
  | int (value : UInt32)
  | text (value : String)
  deriving DecidableEq, Repr

/-- The policies on the device; `none` if the cache cannot be loaded. -/
abbrev PolicyCache := Option (String → Option PolicyValue)

def checkPolicy (policies : String → Option PolicyValue) (key : String) (actual : ℕ)
    (label : String) : Except String Unit :=
  match policies key with
  | some (.int min) =>
    if actual < min.toNat then
      .error ("PIN is not compliant with administrator policy: must contain at least " ++
        toString min.toNat ++ " " ++ label ++ " character" ++ (if min = 1 then "" else "s") ++ ".")
    else .ok ()
  | _ => .ok ()

def meetsIntunePinPolicy (policyCache : PolicyCache) (pin : String) : Except String Unit :=
  match policyCache with
  | none => .error "Failed to load policy cache."
  | some policies => do
    let count (p : Char → Bool) := (pin.toList.filter p).length
    checkPolicy policies "linux_passwordpolicy_minimumlength" pin.length "total"
    checkPolicy policies "linux_passwordpolicy_minimumdigits" (count Char.isDigit) "digit"
    checkPolicy policies "linux_passwordpolicy_minimumlowercase" (count Char.isLower) "lowercase"
    checkPolicy policies "linux_passwordpolicy_minimumuppercase" (count Char.isUpper) "uppercase"
    checkPolicy policies "linux_passwordpolicy_minimumsymbols"
      (count fun c => !c.isAlphanum) "symbol"

/-! ## 2. Simple PINs -/

theorem toDigit_lt {c : Char} {d : ℕ} (h : toDigit c = some d) : d < 10 := by
  simp only [toDigit, Char.isDigit, Bool.and_eq_true, decide_eq_true_eq] at h
  split at h
  · rename_i hc
    have hle : c.toNat ≤ 57 := hc.2
    have h0 : '0'.toNat = 48 := rfl
    simp only [Option.some.injEq] at h
    omega
  · simp at h

theorem mapM_toDigit_iff {text : List Char} {digits : List ℕ} :
    text.mapM toDigit = some digits ↔ text.map toDigit = digits.map some := by
  induction text generalizing digits with
  | nil => cases digits <;> simp
  | cons c text ih =>
    rw [List.mapM_cons]
    cases hc : toDigit c <;> cases digits <;>
      simp_all [Option.bind_eq_some_iff, ← ih, and_comm]

theorem lt_of_mapM {text : List Char} {digits : List ℕ} (h : text.mapM toDigit = some digits) :
    ∀ d ∈ digits, d < 10 := by
  intro d hd
  have hmem : some d ∈ text.map toDigit := by simp [mapM_toDigit_iff.mp h, hd]
  obtain ⟨c, -, hc⟩ := List.mem_map.mp hmem
  exact toDigit_lt hc

theorem all_windows_iff (items : List ℕ) :
    ((windows items).all fun w => w.1 == w.2) = true ↔ ∃ k, ∀ x ∈ items, x = k := by
  induction items with
  | nil => simp [windows]
  | cons x items ih =>
    cases items with
    | nil => simp [windows]
    | cons y items =>
      have hcons : windows (x :: y :: items) = (x, y) :: windows (y :: items) := rfl
      rw [hcons, List.all_cons, Bool.and_eq_true, ih]
      constructor
      · simp +contextual
      · rintro ⟨k, h⟩
        simp only [List.mem_cons, forall_eq_or_imp] at h ⊢
        exact ⟨by simp [h.1, h.2.1], k, h.2⟩

theorem windows_iff {d k : ℕ} {ds : List ℕ} (hlt : ∀ e ∈ d :: ds, e < 10) :
    (∀ w ∈ windows (d :: ds), (10 + w.2 - w.1) % 10 = k % 10) ↔
      ∀ i e, (d :: ds)[i]? = some e → e = (d + i * k) % 10 := by
  induction ds generalizing d with
  | nil =>
    simp only [List.mem_singleton, forall_eq] at hlt
    constructor
    · intro _ i e he
      cases i <;> simp at he
      omega
    · simp [windows]
  | cons e ds ih =>
    obtain ⟨hd, hlt⟩ := List.forall_mem_cons.mp hlt
    have he := hlt e (by simp)
    have hcons : windows (d :: e :: ds) = (d, e) :: windows (e :: ds) := rfl
    rw [hcons, List.forall_mem_cons, ih hlt]
    -- the rest is a progression from its own first digit
    have hshift : e = (d + k) % 10 → ∀ i, (e + i * k) % 10 = (d + (i + 1) * k) % 10 := by
      intro h i
      rw [Nat.succ_mul]
      omega
    constructor
    · rintro ⟨h, hrest⟩ i x hx
      cases i with
      | zero =>
        simp at hx
        omega
      | succ i =>
        rw [← hshift (by omega)]
        exact hrest i x hx
    · intro h
      have hstep : e = (d + k) % 10 := by simpa using h 1 e rfl
      refine ⟨by simp only; omega, fun i x hx => ?_⟩
      rw [hshift hstep]
      exact h (i + 1) x hx

theorem steady_iff {digits : List ℕ} (hlt : ∀ d ∈ digits, d < 10) :
    (∃ k, ∀ w ∈ windows digits, (10 + w.2 - w.1) % 10 = k) ↔
      ∃ d0 k, ∀ i e, digits[i]? = some e → e = (d0 + i * k) % 10 := by
  cases digits with
  | nil => simp [windows]
  | cons d ds =>
    constructor
    · rintro ⟨k, h⟩
      refine ⟨d, k, (windows_iff hlt).mp fun w hw => ?_⟩
      have := h w hw
      omega
    · rintro ⟨d0, k, h⟩
      refine ⟨k % 10, (windows_iff hlt).mpr fun i e he => ?_⟩
      have hhead := h 0 d rfl
      rw [h i e he]
      omega

/-- **What a simple PIN is**: one with too few bytes, or one of decimal digits that form an
    arithmetic progression modulo 10.  No difference underflows. -/
theorem isSimplePin_iff (pin : String) :
    (isSimplePin pin = true ↔ pin.utf8ByteSize < defaultHelloPinMinLen ∨
        ∃ d0 k, ∀ i c, pin.toList[i]? = some c → toDigit c = some ((d0 + i * k) % 10)) ∧
      ∀ digits, pin.toList.mapM toDigit = some digits → ∀ w ∈ windows digits,
        w.1 ≤ 10 + w.2 ∧ 10 + w.2 < 2 ^ 8 := by
  constructor
  · unfold isSimplePin
    split
    · simp [*]
    · rename_i hlen
      simp only [hlen, false_or]
      split
      · rename_i hnone
        simp only [Bool.false_eq_true, false_iff]
        rintro ⟨d0, k, h⟩
        have hall : pin.toList.map toDigit =
            (pin.toList.map fun c => (toDigit c).getD 0).map some := by
          rw [List.map_map]
          refine List.map_congr_left fun c hc => ?_
          obtain ⟨i, hi⟩ := List.mem_iff_getElem?.mp hc
          simp [h i c hi]
        simp [mapM_toDigit_iff.mpr hall] at hnone
      · rename_i digits hdigits
        rw [all_windows_iff]
        simp only [List.mem_map, forall_exists_index, and_imp, forall_apply_eq_imp_iff₂]
        rw [steady_iff (lt_of_mapM hdigits)]
        refine exists_congr fun d0 => exists_congr fun k => forall_congr' fun i => ?_
        have hi := congrArg (·[i]?) (mapM_toDigit_iff.mp hdigits)
        simp only [List.getElem?_map] at hi
        cases hc : pin.toList[i]? <;> cases hd : digits[i]? <;> simp_all
  · intro digits h w hw
    obtain ⟨h1, h2⟩ := List.of_mem_zip hw
    have hlt1 := lt_of_mapM h w.1 h1
    have hlt2 := lt_of_mapM h w.2 (List.mem_of_mem_tail h2)
    omega

end Himmelblau.PinPolicy
