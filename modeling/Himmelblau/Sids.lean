/-
  **Numbers and SIDs as text**, mirror of `AadSid::from_sid_str` of `idmap/src/lib.rs` and of the
  `trim` and `parse` of Rust's strings that it uses.

  The name-to-SID service answers with the text of a SID; the text that is usual for a SID is read
  back as the SID.
-/
import Himmelblau.DirectoryGroups

namespace Himmelblau.Sids

open Interface IdMap NameMapping DirectoryGroups

/-! ## 1. Text -/

def isWhitespace (c : Char) : Bool :=
  (9 ≤ c.toNat && c.toNat ≤ 13) || (0x2000 ≤ c.toNat && c.toNat ≤ 0x200a) ||
    [0x20, 0x85, 0xa0, 0x1680, 0x2028, 0x2029, 0x202f, 0x205f, 0x3000].contains c.toNat

def trim (text : String) : String :=
  String.ofList ((text.toList.dropWhile isWhitespace).reverse.dropWhile isWhitespace).reverse

theorem dropWhile_eq_self {α : Type} {p : α → Bool} {l : List α} (h : ∀ a ∈ l, p a = false) :
    l.dropWhile p = l := by
  cases l with
  | nil => rfl
  | cons a l => rw [List.dropWhile_cons, h a List.mem_cons_self, if_neg Bool.false_ne_true]

theorem trim_eq_self {text : String} (h : ∀ c ∈ text.toList, isWhitespace c = false) :
    trim text = text := by
  unfold trim
  rw [dropWhile_eq_self h, dropWhile_eq_self (by simpa using h), List.reverse_reverse,
    String.ofList_toList]

/-- The text of a number without its optional sign. -/
def signless : List Char → List Char
  | '+' :: rest => rest
  | digits => digits

def digitsValue (digits : List Char) : ℕ :=
  digits.foldl (fun n c => 10 * n + (c.toNat - '0'.toNat)) 0

/-- `text.parse` of an unsigned integer of so many bits. -/
def parseUnsigned (bits : ℕ) (text : String) : Option ℕ :=
  let digits := signless text.toList
  if digits ≠ [] ∧ digits.all Char.isDigit then
    if digitsValue digits < 2 ^ bits then some (digitsValue digits) else none
  else none

theorem parseU32_eq (text : String) : parseU32 text = (parseUnsigned 32 text).map UInt32.ofNat := by
  change (if signless text.toList ≠ [] ∧ (signless text.toList).all Char.isDigit then
    if digitsValue (signless text.toList) < 2 ^ 32 then
      some (UInt32.ofNat (digitsValue (signless text.toList)))
    else none
  else none) = _
  unfold parseUnsigned
  dsimp only
  split
  · split <;> rfl
  · rfl

theorem parseUnsigned_repr {bits n : ℕ} (h : n < 2 ^ bits) :
    parseUnsigned bits n.repr = some n := by
  have hdigit : ∀ c ∈ Nat.toDigits 10 n, c.isDigit = true := fun c hc =>
    Nat.isDigit_of_mem_toDigits (by decide) (by decide) hc
  have hvalue : digitsValue (Nat.toDigits 10 n) = n := by
    unfold digitsValue
    rw [← Nat.ofDigitChars_eq_foldl]
    exact Nat.ofDigitChars_toDigits (by decide) (by decide)
  have hsign : signless (Nat.toDigits 10 n) = Nat.toDigits 10 n := by
    unfold signless
    split
    · next heq => exact absurd (hdigit '+' (heq ▸ List.mem_cons_self)) (by decide)
    · rfl
  unfold parseUnsigned
  rw [Nat.repr_eq_ofList_toDigits, String.toList_ofList]
  dsimp only
  rw [hsign, if_pos ⟨Nat.toDigits_ne_nil, List.all_eq_true.mpr hdigit⟩, hvalue, if_pos h]

/-! ## 2. SIDs -/

/-- `AadSid::from_sid_str`; `none` is `IDMAP_SID_INVALID`.  The revision number has to parse, but
    nothing reads it. -/
def fromSidStr (sidStr : String) : Option AadSid :=
  match split '-' (trim sidStr) with
  | _ :: revision :: idAuth :: sub :: subs =>
    if !(['S', '-'].isPrefixOf sidStr.toList) then none
    else
      match parseUnsigned 8 revision, parseUnsigned 64 idAuth, (sub :: subs).mapM parseU32 with
      | some _, some idAuth, some subAuths =>
        if 15 < subAuths.length then none
        else some { numAuths := subAuths.length, idAuth := idAuth, subAuths := subAuths }
      | _, _, _ => none
  | _ => none

def sidParts (sid : AadSid) : List (List Char) :=
  ['S'] :: ['1'] :: Nat.toDigits 10 sid.idAuth :: sid.subAuths.map fun a => Nat.toDigits 10 a.toNat

def sidText (sid : AadSid) : String := String.ofList (['-'].intercalate (sidParts sid))

theorem parseU32_toDigits (a : UInt32) :
    parseU32 (String.ofList (Nat.toDigits 10 a.toNat)) = some a := by
  rw [parseU32_eq, ← Nat.repr_eq_ofList_toDigits, parseUnsigned_repr a.toNat_lt]
  exact congrArg some (UInt32.ofNat_toNat)

theorem mapM_parseU32 (subAuths : List UInt32) :
    ((subAuths.map fun a => Nat.toDigits 10 a.toNat).map String.ofList).mapM parseU32 =
      some subAuths := by
  induction subAuths with
  | nil => rfl
  | cons a subAuths ih =>
    rw [List.map_cons, List.map_cons, List.mapM_cons, ih, parseU32_toDigits]
    rfl

theorem mem_sidParts {sid : AadSid} {part : List Char} (hpart : part ∈ sidParts sid) {c : Char}
    (hc : c ∈ part) : c ≠ '-' ∧ isWhitespace c = false := by
  have hdigits : ∀ n, c ∈ Nat.toDigits 10 n → c ≠ '-' ∧ isWhitespace c = false := by
    intro n hn
    have hdigit := Nat.isDigit_of_mem_toDigits (by decide) (by decide) hn
    simp only [Char.isDigit, Bool.and_eq_true, decide_eq_true_eq] at hdigit
    have hrange : 48 ≤ c.toNat ∧ c.toNat ≤ 57 :=
      ⟨UInt32.le_iff_toNat_le.mp hdigit.1, UInt32.le_iff_toNat_le.mp hdigit.2⟩
    refine ⟨fun heq => absurd hrange (heq ▸ by decide), ?_⟩
    unfold isWhitespace
    obtain ⟨hlow, hhigh⟩ := hrange
    generalize c.toNat = n at hlow hhigh
    have hsmall : ∀ m : Fin 10, ((9 ≤ m.val + 48 && m.val + 48 ≤ 13) ||
        (0x2000 ≤ m.val + 48 && m.val + 48 ≤ 0x200a) ||
        [0x20, 0x85, 0xa0, 0x1680, 0x2028, 0x2029, 0x202f, 0x205f, 0x3000].contains
          (m.val + 48)) = false := by decide
    obtain ⟨m, rfl⟩ := Nat.exists_eq_add_of_le' hlow
    exact hsmall ⟨m, by omega⟩
  simp only [sidParts, List.mem_cons, List.mem_map] at hpart
  rcases hpart with rfl | rfl | rfl | ⟨a, -, rfl⟩
  · rw [List.mem_singleton.mp hc]
    decide
  · rw [List.mem_singleton.mp hc]
    decide
  · exact hdigits _ hc
  · exact hdigits _ hc

theorem split_trim_sidText (sid : AadSid) :
    split '-' (trim (sidText sid)) = (sidParts sid).map String.ofList := by
  have hchars : ∀ c ∈ (sidText sid).toList, isWhitespace c = false := by
    intro c hc
    rw [sidText, String.toList_ofList] at hc
    rcases mem_intercalate hc with rfl | ⟨part, hpart, hc⟩
    · decide
    · exact (mem_sidParts hpart hc).2
  rw [trim_eq_self hchars]
  exact split_ofList_intercalate (List.cons_ne_nil _ _) fun part hpart hc =>
    (mem_sidParts hpart hc).1 rfl

theorem fromSidStr_sidText {sid : AadSid} (hauth : sid.idAuth < 2 ^ 64)
    (hnum : sid.numAuths = sid.subAuths.length) (hpos : sid.subAuths ≠ [])
    (hmax : sid.subAuths.length ≤ 15) : fromSidStr (sidText sid) = some sid := by
  have hsplit := split_trim_sidText sid
  have hstarts : ['S', '-'].isPrefixOf (sidText sid).toList = true := by
    rw [sidText, String.toList_ofList]
    rfl
  obtain ⟨numAuths, idAuth, subAuths⟩ := sid
  obtain ⟨a, rest, rfl⟩ := List.exists_cons_of_ne_nil hpos
  have hsubs := mapM_parseU32 (a :: rest)
  have hidAuth : parseUnsigned 64 (String.ofList (Nat.toDigits 10 idAuth)) = some idAuth := by
    rw [← Nat.repr_eq_ofList_toDigits]
    exact parseUnsigned_repr hauth
  have hrevision : parseUnsigned 8 (String.ofList ['1']) = some 1 := by decide +kernel
  unfold fromSidStr
  rw [hsplit]
  simp only [sidParts, List.map_cons] at hsubs ⊢
  rw [hstarts, hrevision, hidAuth, hsubs]
  simp only [Bool.not_true, Bool.false_eq_true, if_false]
  rw [if_neg (Nat.not_lt.mpr hmax)]
  cases hnum
  rfl

theorem fromSidStr_fromObjectId (objectId : Uuid) :
    fromSidStr (sidText (.fromObjectId objectId)) = some (.fromObjectId objectId) :=
  fromSidStr_sidText (by decide : 12 < 2 ^ 64) rfl (List.cons_ne_nil _ _) (by decide : 5 ≤ 15)

end Himmelblau.Sids
