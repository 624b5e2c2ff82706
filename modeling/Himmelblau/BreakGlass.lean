/-
  **How long the break-glass mode lasts**, mirror of `parse_ttl_to_seconds` of
  `common/src/config.rs`, and of the sum in `impl_offline_break_glass!`, with what makes them panic.
-/
import Himmelblau.Daemon
import Himmelblau.Sids

namespace Himmelblau.BreakGlass

open Interface Entra FunctionBody Sids

/-! ## 1. What can panic, with `none` for a panic -/

def utf8Len (text : List Char) : ℕ := (text.map Char.utf8Size).sum

/-- `&text[..size]`, which has to cut between two characters. -/
def sliceTo : List Char → ℕ → Option (List Char)
  | _, 0 => some []
  | [], _ + 1 => none
  | c :: text, size + 1 =>
    if c.utf8Size ≤ size + 1 then (sliceTo text (size + 1 - c.utf8Size)).map (c :: ·) else none

theorem sliceTo_utf8Len (text rest : List Char) :
    sliceTo (text ++ rest) (utf8Len text) = some text := by
  induction text with
  | nil => cases rest <;> rfl
  | cons c text ih =>
    have hpos := c.utf8Size_pos
    have hlen : utf8Len (c :: text) = (c.utf8Size - 1 + utf8Len text) + 1 := by
      simp only [utf8Len, List.map_cons, List.sum_cons]
      omega
    rw [hlen, List.cons_append, sliceTo, if_pos (by omega)]
    rw [show c.utf8Size - 1 + utf8Len text + 1 - c.utf8Size = utf8Len text by omega, ih]
    rfl

/-- A product of two `u64`: a build that checks arithmetic panics where another one wraps. -/
def mulU64 (checks : Bool) (a b : ℕ) : Option ℕ :=
  if a * b < 2 ^ 64 then some (a * b) else if checks then none else some (a * b % 2 ^ 64)

/-- `time + Duration::from_secs(secs)`: the seconds of a time are an `i64`. -/
def addSecs (time secs : ℕ) : Option ℕ := if time + secs < 2 ^ 63 then some (time + secs) else none

/-! ## 2. The text of a duration -/

section Ttl

variable (checks : Bool)

def secondsOf (number : ℕ) : Char → Option (Option ℕ)
  | 's' => some (some number)
  | 'm' => (mulU64 checks number 60).map some
  | 'h' => (mulU64 checks number 3600).map some
  | 'd' => (mulU64 checks number 86400).map some
  | _ => some none

def ttlSeconds (text : List Char) : Option (Option ℕ) :=
  match text.getLast? with
  | none => some none
  | some last => do
    let (numPart, suffix) ←
      if last.isAlpha then (sliceTo text (utf8Len text - 1)).map fun numPart => (numPart, last)
      else some (text, 's')
    match parseUnsigned 64 (String.ofList numPart) with
    | none => some none
    | some number => secondsOf checks number suffix

variable (toLowercase : String → String)

def normalized (ttlStr : String) : List Char := (toLowercase (trim ttlStr)).toList

def parseTtlToSeconds (ttlStr : String) : Option (Option ℕ) :=
  ttlSeconds checks (normalized toLowercase ttlStr)

def units : List (List Char × ℕ) :=
  [([], 1), (['s'], 1), (['m'], 60), (['h'], 3600), (['d'], 86400)]

/-- A decimal number that a `u64` holds, and a unit or none. -/
def IsTtl (text : List Char) (number unit : ℕ) : Prop :=
  ∃ digits suffix, text = digits ++ suffix ∧
    parseUnsigned 64 (String.ofList digits) = some number ∧ (suffix, unit) ∈ units

def Exact (ttlStr : String) : Prop :=
  parseTtlToSeconds checks toLowercase ttlStr ≠ none ∧
    ∀ n, parseTtlToSeconds checks toLowercase ttlStr = some (some n) →
      (∃ number unit, IsTtl (normalized toLowercase ttlStr) number unit) ∧
        ∀ number unit, IsTtl (normalized toLowercase ttlStr) number unit → n = number * unit

variable {checks} {text : List Char} {number unit : ℕ}

theorem ttlSeconds_concat (init : List Char) (last : Char) :
    ttlSeconds checks (init ++ [last]) =
      match parseUnsigned 64 (String.ofList (if last.isAlpha then init else init ++ [last])) with
      | none => some none
      | some number => secondsOf checks number (if last.isAlpha then last else 's') := by
  unfold ttlSeconds
  rw [List.getLast?_concat]
  dsimp only
  by_cases halpha : last.isAlpha = true
  · -- a letter is one byte, and the slice ends before it
    have hsize : last.utf8Size = 1 := by
      have hrange := halpha
      simp only [Char.isAlpha, Char.isUpper, Char.isLower, Bool.or_eq_true, Bool.and_eq_true,
        decide_eq_true_eq, UInt32.le_iff_toNat_le] at hrange
      have hsmall : last.val ≤ 0x7f := UInt32.le_iff_toNat_le.mpr (by
        rcases hrange with h | h <;> exact h.2.trans (by decide))
      simp [Char.utf8Size, hsmall]
    have hlen : utf8Len (init ++ [last]) - 1 = utf8Len init := by simp [utf8Len, hsize]
    rw [if_pos halpha, if_pos halpha, if_pos halpha, hlen, sliceTo_utf8Len]
    rfl
  · rw [if_neg halpha, if_neg halpha, if_neg halpha]
    rfl

theorem getLast?_signless (h : signless text ≠ []) :
    (signless text).getLast? = text.getLast? := by
  cases text with
  | nil => rfl
  | cons c rest =>
    unfold signless at h ⊢
    split
    · rename_i rest' heq
      cases heq
      obtain ⟨c, text, rfl⟩ := List.exists_cons_of_ne_nil h
      rw [List.getLast?_cons_cons]
    · rfl

theorem parseUnsigned_some {digits : List Char}
    (h : parseUnsigned 64 (String.ofList digits) = some number) :
    number < 2 ^ 64 ∧ ∃ init last, digits = init ++ [last] ∧ last.isAlpha = false := by
  unfold parseUnsigned at h
  rw [String.toList_ofList] at h
  dsimp only at h
  split at h
  · rename_i hdigits
    split at h
    · cases h
      refine ⟨‹_›, ?_⟩
      have hlast := getLast?_signless hdigits.1
      rcases List.eq_nil_or_concat digits with rfl | ⟨init, last, rfl⟩
      · exact absurd rfl hdigits.1
      · refine ⟨init, last, List.concat_eq_append, ?_⟩
        rw [List.concat_eq_append, List.getLast?_concat] at hlast
        have hdigit := List.all_eq_true.mp hdigits.2 last (by
          rw [List.concat_eq_append]
          exact List.mem_of_getLast? hlast)
        simp only [Char.isDigit, Char.isAlpha, Char.isUpper, Char.isLower, Bool.and_eq_true,
          decide_eq_true_eq, UInt32.le_iff_toNat_le, Bool.or_eq_false_iff, Bool.and_eq_false_iff,
          decide_eq_false_iff_not] at hdigit ⊢
        simp at hdigit ⊢
        omega
    · cases h
  · cases h

theorem ttlSeconds_of_isTtl (h : IsTtl text number unit) :
    ttlSeconds checks text = (mulU64 checks number unit).map some := by
  obtain ⟨digits, suffix, rfl, hnumber, hunit⟩ := h
  obtain ⟨hlt, init, last, hinit, hlast⟩ := parseUnsigned_some hnumber
  have hone : mulU64 checks number 1 = some number := by rw [mulU64, Nat.mul_one, if_pos hlt]
  simp only [units, List.mem_cons, Prod.mk.injEq, List.not_mem_nil, or_false] at hunit
  rcases hunit with ⟨rfl, rfl⟩ | ⟨rfl, rfl⟩ | ⟨rfl, rfl⟩ | ⟨rfl, rfl⟩ | ⟨rfl, rfl⟩
  · rw [List.append_nil, hinit, ttlSeconds_concat, hlast, ← hinit]
    simp only [Bool.false_eq_true, if_false, hnumber, secondsOf, hone, Option.map_some]
  all_goals
    rw [ttlSeconds_concat, if_pos (by decide), if_pos (by decide), hnumber]
    simp [secondsOf, hone]

theorem exists_isTtl (h : ttlSeconds checks text ≠ some none) :
    ∃ number unit, IsTtl text number unit := by
  rcases List.eq_nil_or_concat text with rfl | ⟨init, last, rfl⟩
  · exact absurd rfl h
  · rw [List.concat_eq_append] at h ⊢
    rw [ttlSeconds_concat] at h
    split at h
    · exact absurd rfl h
    · rename_i number hnumber
      cases halpha : last.isAlpha with
      | false =>
        rw [halpha, if_neg Bool.false_ne_true] at hnumber
        exact ⟨number, 1, _, [], (List.append_nil _).symm, hnumber, by decide⟩
      | true =>
        rw [halpha, if_pos rfl] at h hnumber
        unfold secondsOf at h
        split at h
        · exact ⟨number, 1, init, _, rfl, hnumber, by decide⟩
        · exact ⟨number, 60, init, _, rfl, hnumber, by decide⟩
        · exact ⟨number, 3600, init, _, rfl, hnumber, by decide⟩
        · exact ⟨number, 86400, init, _, rfl, hnumber, by decide⟩
        · exact absurd rfl h

theorem exact_iff {toLowercase : String → String} {ttlStr : String} :
    Exact checks toLowercase ttlStr ↔ ∀ number unit,
      IsTtl (normalized toLowercase ttlStr) number unit → number * unit < 2 ^ 64 := by
  unfold Exact parseTtlToSeconds
  generalize normalized toLowercase ttlStr = text
  constructor
  · rintro ⟨hpanic, hexact⟩ number unit httl
    have hparse : ttlSeconds checks text = _ := ttlSeconds_of_isTtl httl
    by_contra hover
    cases checks with
    | true => exact hpanic (by rw [hparse, mulU64, if_neg hover]; rfl)
    | false =>
      -- it wraps, and is below the product
      have hwraps := (hexact (number * unit % 2 ^ 64)
        (by rw [hparse, mulU64, if_neg hover]; rfl)).2 number unit httl
      exact hover (hwraps ▸ Nat.mod_lt (number * unit) (by decide))
  · intro h
    have hparse : ∀ number unit, IsTtl text number unit →
        ttlSeconds checks text = some (some (number * unit)) := by
      intro number unit httl
      rw [ttlSeconds_of_isTtl httl, mulU64, if_pos (h number unit httl)]
      rfl
    refine ⟨fun hnone => ?_, fun n hn => ⟨exists_isTtl (by rw [hn]; simp), ?_⟩⟩
    · obtain ⟨number, unit, httl⟩ := exists_isTtl (by rw [hnone]; simp)
      exact nomatch hnone.symm.trans (hparse number unit httl)
    · intro number unit httl
      simpa using hn.symm.trans (hparse number unit httl)

end Ttl

/-! ## 3. The sum -/

variable {W : Type}

def offlineBreakGlass (P : HimmelblauProvider W) (ttl : Option ℕ) (c : Ctx W) :
    Option (Except IdpError Unit × Ctx W) :=
  let now := (P.outside.now c.provider.world).1
  if P.config.offlineBreakglassEnabled &&
      (addSecs now (ttl.getD P.config.offlineBreakglassTtl)).isNone then none
  else some ((P.offlineBreakGlass ttl).run c)

/-- The text is read exactly and nothing panics, if and only if the product fits 64 bits and, with
    break-glass enabled, the sum fits the seconds of a time. -/
theorem breakGlass_iff (checks : Bool) (toLowercase : String → String) (ttlStr : String)
    (P : HimmelblauProvider W) (ttl : Option ℕ) (c : Ctx W) :
    (Exact checks toLowercase ttlStr ∧ offlineBreakGlass P ttl c ≠ none) ↔
      (∀ number unit, IsTtl (normalized toLowercase ttlStr) number unit →
        number * unit < 2 ^ 64) ∧
      (P.config.offlineBreakglassEnabled = true → (P.outside.now c.provider.world).1 +
        ttl.getD P.config.offlineBreakglassTtl < 2 ^ 63) := by
  rw [exact_iff]
  refine and_congr_right fun _ => ?_
  unfold offlineBreakGlass addSecs
  cases P.config.offlineBreakglassEnabled <;> simp

/-- The product of a text wraps or panics, and a time that is sent to the socket panics. -/
theorem long_ttl_overflows :
    parseTtlToSeconds false id "307445734561825861m" = some (some 44) ∧
    parseTtlToSeconds true id "307445734561825861m" = none ∧
    let P := { sampleProvider 3 false with
      config := { sampleConfig 3 false with offlineBreakglassEnabled := true } }
    (offlineBreakGlass P (some (2 ^ 63))
      ⟨sampleKeystore [], sampleProviderState .online, .none⟩).isNone = true := by
  decide +kernel

end Himmelblau.BreakGlass
