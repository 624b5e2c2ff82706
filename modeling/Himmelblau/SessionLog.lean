/-
  **The length of a log message**, mirror of `truncate_log_message` of
  `orchestrator/src/session.rs`.
-/
import Mathlib

namespace Himmelblau.SessionLog

def maxSessionLogMessageBytes : ℕ := 512

def truncatedLogSuffix : String := "...<truncated>"

/-- The message can still be truncated here. -/
def Fits (text : String) : Prop :=
  text.utf8ByteSize + truncatedLogSuffix.utf8ByteSize ≤ maxSessionLogMessageBytes

def pushFitting (truncated : String) : List Char → String
  | [] => truncated
  | ch :: rest =>
    if truncated.utf8ByteSize + ch.utf8Size + truncatedLogSuffix.utf8ByteSize >
      maxSessionLogMessageBytes then truncated
    else pushFitting (truncated.push ch) rest

def truncateLogMessage (message : String) : String :=
  if message.utf8ByteSize ≤ maxSessionLogMessageBytes then message
  else pushFitting "" message.toList ++ truncatedLogSuffix

/-- The loop keeps the longest part of the rest that fits. -/
theorem pushFitting_spec {truncated : String} (h : Fits truncated) (rest : List Char) :
    ∃ kept, pushFitting truncated rest = truncated ++ String.ofList kept ∧ kept <+: rest ∧
      Fits (truncated ++ String.ofList kept) ∧
      ∀ more, more <+: rest → Fits (truncated ++ String.ofList more) → more <+: kept := by
  induction rest generalizing truncated with
  | nil => exact ⟨[], by simp_all [pushFitting]⟩
  | cons ch rest ih =>
    simp only [pushFitting]
    split
    · rename_i hfull
      refine ⟨[], by simp, List.nil_prefix, by simpa using h, ?_⟩
      intro more hmore hfits
      cases more with
      | nil => exact List.nil_prefix
      | cons c more =>
        -- then the next character would fit
        obtain ⟨rfl, -⟩ := List.cons_prefix_cons.mp hmore
        simp [Fits] at hfits hfull
        omega
    · rename_i hroom
      have hpush : Fits (truncated.push ch) := by
        simp only [Fits, String.utf8ByteSize_push]
        omega
      obtain ⟨kept, heq, hkept, hfits, hlongest⟩ := ih hpush
      have hcons : ∀ text, truncated ++ String.ofList (ch :: text) =
          truncated.push ch ++ String.ofList text := by
        intro text
        simp [← String.append_singleton, String.append_assoc]
      refine ⟨ch :: kept, by rw [heq, hcons], List.cons_prefix_cons.mpr ⟨rfl, hkept⟩,
        by rwa [hcons], ?_⟩
      intro more hmore hmoreFits
      cases more with
      | nil => exact List.nil_prefix
      | cons c more =>
        obtain ⟨rfl, htail⟩ := List.cons_prefix_cons.mp hmore
        rw [hcons] at hmoreFits
        exact List.cons_prefix_cons.mpr ⟨rfl, hlongest more htail hmoreFits⟩

/-- **A log message has at most 512 bytes.**  A message that fits is kept; of a longer one, the
    longest prefix of whole characters that leaves room for the suffix, followed by the suffix. -/
theorem truncateLogMessage_spec (message : String) :
    (truncateLogMessage message).utf8ByteSize ≤ maxSessionLogMessageBytes ∧
      (message.utf8ByteSize ≤ maxSessionLogMessageBytes → truncateLogMessage message = message) ∧
      (maxSessionLogMessageBytes < message.utf8ByteSize → ∃ kept : String,
        truncateLogMessage message = kept ++ truncatedLogSuffix ∧
        kept.toList <+: message.toList ∧ Fits kept ∧
        ∀ other : String, other.toList <+: message.toList → Fits other →
          other.toList <+: kept.toList) := by
  obtain ⟨kept, heq, hkept, hfits, hlongest⟩ :=
    pushFitting_spec (by simp [Fits]; decide : Fits "") message.toList
  simp only [String.empty_append] at heq hfits hlongest
  simp only [truncateLogMessage, heq]
  split
  · rename_i hshort
    exact ⟨hshort, fun _ => rfl, fun hlong => by omega⟩
  · rename_i hlong
    refine ⟨by simpa [Fits] using hfits, fun h => absurd h hlong, fun _ => ⟨_, rfl, ?_⟩⟩
    simp only [String.toList_ofList]
    exact ⟨hkept, hfits, fun other h hother => hlongest _ h (by simpa using hother)⟩

end Himmelblau.SessionLog
