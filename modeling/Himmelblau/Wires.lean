/-
  **One direction of a socket** between two ends that frame their messages with the codecs of
  `Framing`.  Bytes of a message are written and read in parts of any size; what is still unsent, in
  flight or buffered makes up the message as long as it has not been read.
-/
import Himmelblau.Framing

namespace Himmelblau.Wires

open Codecs

/-- Bytes to be sent, bytes on their way, and bytes that were read and not decoded yet. -/
structure Wire where
  unsent : List UInt8
  inFlight : List UInt8
  buffer : List UInt8
  deriving DecidableEq, Repr

namespace Wire

variable {M : Type} {C : Codec M} {msg : M} {enc : List UInt8} {w : Wire}

def empty : Wire := ⟨[], [], []⟩

def write (w : Wire) (n : ℕ) : Wire :=
  ⟨w.unsent.drop n, w.inFlight ++ w.unsent.take n, w.buffer⟩

def read (C : Codec M) (w : Wire) (n : ℕ) : Option M × Wire :=
  match Framing.decode C (w.buffer ++ w.inFlight.take n) with
  | (.ok (some msg), buffer) => (some msg, ⟨w.unsent, w.inFlight.drop n, buffer⟩)
  | (_, buffer) => (none, ⟨w.unsent, w.inFlight.drop n, buffer⟩)

def content (w : Wire) : List UInt8 := w.buffer ++ w.inFlight ++ w.unsent

@[simp] theorem content_write (w : Wire) (n : ℕ) : (w.write n).content = w.content := by
  simp [content, write, List.append_assoc]

theorem read_of_some {n : ℕ} (h : C.decode (w.buffer ++ w.inFlight.take n) = some msg) :
    w.read C n = (some msg, ⟨w.unsent, w.inFlight.drop n, []⟩) := by
  unfold read Framing.decode
  rw [h]

theorem read_of_none {n : ℕ} (h : C.decode (w.buffer ++ w.inFlight.take n) = none) :
    w.read C n = (none, ⟨w.unsent, w.inFlight.drop n, w.buffer ++ w.inFlight.take n⟩) := by
  unfold read Framing.decode
  rw [h]

theorem content_read_of_none {n : ℕ} (h : C.decode (w.buffer ++ w.inFlight.take n) = none) :
    (w.read C n).2.content = w.content := by
  rw [read_of_none h]
  simp [content, List.append_assoc]

theorem read_nothing (h : w.content = []) (n : ℕ) :
    (w.read C n).1 = none ∧ (w.read C n).2.content = [] := by
  have hparts := List.append_eq_nil_iff.mp h
  obtain ⟨hbuffer, hflight⟩ := List.append_eq_nil_iff.mp hparts.1
  have hnone : C.decode (w.buffer ++ w.inFlight.take n) = none := by
    rw [hbuffer, hflight, List.take_nil]
    exact C.decode_nil
  rw [content_read_of_none hnone, read_of_none hnone]
  exact ⟨rfl, h⟩

/-- A wire that carries a message yields nothing before the message has been written as a whole,
    and then the message. -/
theorem read_message (henc : C.encode msg = some enc) (h : w.content = enc) (n : ℕ) :
    ((w.read C n).1 = none ∧ (w.read C n).2.content = enc ∧ (w.read C n).2.unsent = w.unsent) ∨
    (w.unsent = [] ∧ w.read C n = (some msg, empty)) := by
  have hsplit : w.buffer ++ w.inFlight.take n ++ (w.inFlight.drop n ++ w.unsent) = enc := by
    rw [← h, content, List.append_assoc, List.append_assoc, ← List.append_assoc (w.inFlight.take n),
      List.take_append_drop]
  by_cases hwhole : w.buffer ++ w.inFlight.take n = enc
  · rw [hwhole, List.append_right_eq_self] at hsplit
    obtain ⟨hflight, hunsent⟩ := List.append_eq_nil_iff.mp hsplit
    have hdecode : C.decode (w.buffer ++ w.inFlight.take n) = some msg := by
      rw [hwhole]
      exact C.decode_encode henc
    refine Or.inr ⟨hunsent, ?_⟩
    rw [read_of_some hdecode, hunsent, hflight]
    rfl
  · have hpart : w.buffer ++ w.inFlight.take n <+: enc := ⟨_, hsplit⟩
    have hnone := Codec.decode_prefix_eq_none henc hpart hwhole
    refine Or.inl ⟨?_, (content_read_of_none hnone).trans h, ?_⟩ <;> rw [read_of_none hnone]

end Wire

end Himmelblau.Wires
