/-
  **Codecs whose messages end by themselves.**  A message is encoded as bytes without a length or a
  delimiter; what is decoded from the front of a stream of encoded messages is the first message as
  a whole, neither less nor more of it.

  Nothing here is about a particular program.
-/
import Mathlib

namespace Himmelblau.Codecs

def EncodedAs {M : Type} (encode : M → Option (List UInt8)) (msgs : List M)
    (encs : List (List UInt8)) : Prop :=
  List.Forall₂ (fun msg enc => encode msg = some enc) msgs encs

structure Codec (M : Type) where
  encode : M → Option (List UInt8)
  decode : List UInt8 → Option M
  decode_nil : decode [] = none
  decode_encode : ∀ {msg enc}, encode msg = some enc → decode enc = some msg
  delimited : ∀ {msg enc msgs encs part}, EncodedAs encode (msg :: msgs) (enc :: encs) →
    part <+: enc ++ encs.flatten → (decode part).isSome → part = enc

namespace Codec

variable {M : Type} (C : Codec M) {msg : M} {enc part : List UInt8} {msgs : List M}
  {encs : List (List UInt8)}

def Encodes (msgs : List M) (encs : List (List UInt8)) : Prop := EncodedAs C.encode msgs encs

variable {C}

theorem encode_ne_nil (h : C.encode msg = some enc) : enc ≠ [] := by
  rintro rfl
  have hdecode := C.decode_encode h
  rw [C.decode_nil] at hdecode
  cases hdecode

theorem decode_eq_none (h : C.Encodes (msg :: msgs) (enc :: encs))
    (hpart : part <+: enc ++ encs.flatten) (hne : part ≠ enc) : C.decode part = none := by
  cases hdecode : C.decode part with
  | none => rfl
  | some msg' => exact absurd (C.delimited h hpart (by rw [hdecode]; rfl)) hne

theorem decode_prefix_eq_none (h : C.encode msg = some enc) (hpart : part <+: enc)
    (hne : part ≠ enc) : C.decode part = none :=
  decode_eq_none (.cons h .nil) (hpart.trans (List.prefix_append enc _)) hne

end Codec

/-! A codec: a number in unary notation, with a zero at its end -/

def unaryEncode (n : ℕ) : List UInt8 := List.replicate n 1 ++ [0]

def unaryDecode (bytes : List UInt8) : Option ℕ :=
  if bytes = unaryEncode (bytes.length - 1) then some (bytes.length - 1) else none

theorem unaryDecode_eq_some {bytes : List UInt8} {n : ℕ} :
    unaryDecode bytes = some n ↔ bytes = unaryEncode n := by
  unfold unaryDecode
  constructor
  · intro h
    split at h
    · next heq =>
      cases h
      exact heq
    · cases h
  · rintro rfl
    have hlength : (unaryEncode n).length - 1 = n := by simp [unaryEncode]
    rw [hlength, if_pos rfl]

theorem unaryEncode_first {m n : ℕ} {rest : List UInt8}
    (h : unaryEncode m <+: unaryEncode n ++ rest) : m = n := by
  induction n generalizing m with
  | zero =>
    cases m with
    | zero => rfl
    | succ m =>
      have hhead := (List.cons_prefix_cons.mp h).1
      exact absurd hhead (by decide)
  | succ n ih =>
    cases m with
    | zero =>
      have hhead := (List.cons_prefix_cons.mp h).1
      exact absurd hhead (by decide)
    | succ m => exact congrArg Nat.succ (ih (List.cons_prefix_cons.mp h).2)

def unary : Codec ℕ where
  encode n := some (unaryEncode n)
  decode := unaryDecode
  decode_nil := rfl
  decode_encode h := unaryDecode_eq_some.mpr (Option.some.inj h).symm
  delimited := by
    intro msg enc msgs encs part h hpart hdecode
    obtain ⟨m, hm⟩ := Option.isSome_iff_exists.mp hdecode
    cases h with
    | cons henc _ =>
      cases henc
      rw [unaryDecode_eq_some] at hm
      rw [hm] at hpart ⊢
      rw [unaryEncode_first hpart]

end Himmelblau.Codecs
