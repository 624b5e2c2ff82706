/-
  **The user map** as it comes of its file (`common/src/user_map.rs`): the first line that names a
  local user or a UPN wins, and a later line is accepted only if it names neither again.
-/
import Himmelblau.UserTokens

namespace Himmelblau.UserTokens.UserMap

open NameMapping Sids

variable (toLowercase : String → String)

/-- The pair of a well-formed line: it is no comment, and both of its parts have text. -/
def entry (line : String) : Option (String × String) :=
  let localName := trim (String.ofList (line.toList.takeWhile (· != ':')))
  let upn := toLowercase (trim (String.ofList ((line.toList.dropWhile (· != ':')).drop 1)))
  if ['#'].isPrefixOf (line.toList.dropWhile isWhitespace) || trim line == "" ||
    localName == "" || upn == "" then none else some (localName, upn)

def load (lines : List String) : UserMap := lines.foldl (addLine toLowercase) ⟨[], []⟩

/-- One of the lines has this pair and was added to the map. -/
def Accepted (lines : List String) (pair : String × String) : Prop :=
  ∃ before line after, lines = before ++ line :: after ∧ entry toLowercase line = some pair ∧
    load toLowercase (before ++ [line]) ≠ load toLowercase before

variable {toLowercase} {map : UserMap} {line localName upn l u : String}

theorem addLine_none (h : entry toLowercase line = none) : map.addLine toLowercase line = map := by
  simp only [entry] at h
  simp only [addLine]
  split_ifs at h ⊢ <;> simp_all

theorem addLine_some (h : entry toLowercase line = some (localName, upn)) :
    map.addLine toLowercase line =
      if (map.forward.lookup localName).isSome || (map.reverse.lookup upn).isSome then map
      else ⟨(localName, upn) :: map.forward, (upn, localName) :: map.reverse⟩ := by
  simp only [entry] at h
  simp only [addLine]
  split_ifs at h ⊢ <;> simp_all

theorem lookup_cons (table : List (String × String)) (k a b : String) :
    ((a, b) :: table).lookup k = if k = a then some b else table.lookup k := by
  by_cases h : k = a
  · simp [h]
  · simp [List.lookup, beq_false_of_ne h, h]

theorem load_concat (lines : List String) (line : String) :
    load toLowercase (lines ++ [line]) = (load toLowercase lines).addLine toLowercase line := by
  simp [load]

theorem accepted_concat {lines : List String} {pair : String × String} :
    Accepted toLowercase (lines ++ [line]) pair ↔ Accepted toLowercase lines pair ∨
      (entry toLowercase line = some pair ∧
        load toLowercase (lines ++ [line]) ≠ load toLowercase lines) := by
  constructor
  · rintro ⟨before, line', after, heq, hentry, hnew⟩
    rcases List.eq_nil_or_concat after with rfl | ⟨after, last, rfl⟩
    · obtain ⟨rfl, hlast⟩ := List.append_inj' heq rfl
      cases hlast
      exact .inr ⟨hentry, hnew⟩
    · rw [List.concat_eq_append, ← List.cons_append, ← List.append_assoc] at heq
      obtain ⟨rfl, -⟩ := List.append_inj' heq rfl
      exact .inl ⟨before, line', after, rfl, hentry, hnew⟩
  · rintro (⟨before, line', after, rfl, h⟩ | h)
    · exact ⟨before, line', after ++ [line], by simp, h⟩
    · exact ⟨lines, line, [], rfl, h⟩

variable (toLowercase) in
/-- The two tables are inverse to each other, and hold what was accepted. -/
structure Paired (lines : List String) (map : UserMap) : Prop where
  inverse : ∀ l u, map.forward.lookup l = some u ↔ map.reverse.lookup u = some l
  accepted : ∀ l u, map.forward.lookup l = some u ↔ Accepted toLowercase lines (l, u)

variable (toLowercase) in
theorem paired_load (lines : List String) :
    Paired toLowercase lines (load toLowercase lines) := by
  induction lines using List.reverseRecOn with
  | nil => exact ⟨by simp [load], by simp [load, Accepted]⟩
  | append_singleton lines line ih =>
    have hsame : load toLowercase (lines ++ [line]) = load toLowercase lines →
        Paired toLowercase (lines ++ [line]) (load toLowercase (lines ++ [line])) := by
      intro heq
      refine ⟨by rw [heq]; exact ih.inverse, fun l u => ?_⟩
      simp [accepted_concat, heq, ih.accepted]
    rcases hentry : entry toLowercase line with _ | ⟨localName, upn⟩
    · exact hsame (by rw [load_concat, addLine_none hentry])
    · have hload := @load_concat toLowercase lines line
      rw [addLine_some hentry] at hload
      split at hload
      · exact hsame hload
      · rename_i hnew
        simp only [Bool.or_eq_true, not_or, Option.not_isSome_iff_eq_none] at hnew
        have hne : load toLowercase (lines ++ [line]) ≠ load toLowercase lines := by
          intro h
          simpa [hload] using congrArg (·.forward.length) h
        obtain ⟨hforward, hreverse⟩ := hnew
        refine ⟨fun l u => ?_, fun l u => ?_⟩
        · simp only [hload, lookup_cons]
          split <;> split
          · simp_all
          · rename_i hl hu
            simp [hl, Ne.symm hu, ← ih.inverse, hforward]
          · rename_i hl hu
            simp [hu, Ne.symm hl, ih.inverse, hreverse]
          · exact ih.inverse l u
        · rw [accepted_concat, ← ih.accepted]
          simp only [hload, lookup_cons, hentry]
          split
          · rename_i hl
            subst hl
            simp [hforward, hne, ← hload]
          · rename_i hl
            simp [Ne.symm hl]

theorem entry_some {pair : String × String} (h : entry toLowercase line = some pair) :
    pair.2 ≠ "" ∧ ∃ x, pair.2 = toLowercase x := by
  simp only [entry] at h
  split_ifs at h with hskip
  rw [← Option.some.inj h]
  simp only [Bool.or_eq_true, not_or, beq_iff_eq] at hskip
  exact ⟨hskip.2, _, rfl⟩

variable (toLowercase) in
theorem paired_new (file : Option String) :
    ∃ lines, Paired toLowercase lines (new toLowercase file) := by
  cases file with
  | none => exact ⟨[], paired_load toLowercase []⟩
  | some contents => exact ⟨_, paired_load toLowercase (split '\n' contents)⟩

variable (toLowercase) in
/-- **The user map is a partial bijection**, whose UPNs are lower-cased and not empty.  The pair of
    a well-formed line is in it exactly if every accepted line before that has its local name or
    its UPN has both. -/
theorem userMap_bijection (file : Option String) :
    (∀ l u, (new toLowercase file).getUpnFromLocal l = some u ↔
        (new toLowercase file).getLocalFromUpn u = some l) ∧
      (∀ l u, (new toLowercase file).getUpnFromLocal l = some u →
        u ≠ "" ∧ ∃ x, u = toLowercase x) ∧
      ∀ contents before line after l u, file = some contents →
        split '\n' contents = before ++ line :: after →
        entry toLowercase line = some (l, u) →
          ((new toLowercase file).getUpnFromLocal l = some u ↔
            ∀ l' u', Accepted toLowercase before (l', u') → l' = l ∨ u' = u →
              l' = l ∧ u' = u) := by
  obtain ⟨lines, hpaired⟩ := paired_new toLowercase file
  refine ⟨hpaired.inverse, fun l u h => ?_, ?_⟩
  · obtain ⟨before, line, after, -, hentry, -⟩ := (hpaired.accepted l u).mp h
    exact entry_some hentry
  · rintro contents before line after l u rfl hsplit hentry
    have hbefore := paired_load toLowercase before
    have hall := paired_load toLowercase (split '\n' contents)
    have hkept : ∀ p, Accepted toLowercase before p →
        Accepted toLowercase (split '\n' contents) p := by
      rintro p ⟨b, line', a, rfl, h⟩
      exact ⟨b, line', a ++ line :: after, by simp [hsplit], h⟩
    constructor
    · intro h l' u' hacc hsame
      have h' := (hall.accepted l' u').mpr (hkept _ hacc)
      rcases hsame with rfl | rfl
      · exact ⟨rfl, Option.some.inj (h'.symm.trans h)⟩
      · have h1 := (hall.inverse l u').mp h
        have h2 := (hall.inverse l' u').mp h'
        exact ⟨Option.some.inj (h2.symm.trans h1), rfl⟩
    · intro h
      refine (hall.accepted l u).mpr ?_
      cases hl : (load toLowercase before).forward.lookup l with
      | some u' =>
        have hacc := (hbefore.accepted l u').mp hl
        obtain ⟨-, rfl⟩ := h l u' hacc (.inl rfl)
        exact hkept _ hacc
      | none =>
        cases hu : (load toLowercase before).reverse.lookup u with
        | some l' =>
          have hl' := (hbefore.inverse l' u).mpr hu
          obtain ⟨rfl, -⟩ := h l' u ((hbefore.accepted l' u).mp hl') (.inr rfl)
          exact nomatch hl.symm.trans hl'
        | none =>
          refine ⟨before, line, after, hsplit, hentry, fun heq => ?_⟩
          rw [load_concat, addLine_some hentry] at heq
          simpa [hl, hu] using congrArg (·.forward.length) heq

/-- The pair of a line that is there twice is in the map, though an accepted line before the
    second one has its name. -/
theorem repeated_line_in_map :
    split '\n' "alice:alice@example.com\nalice:alice@example.com" =
        ["alice:alice@example.com"] ++ "alice:alice@example.com" :: [] ∧
      (new id (some "alice:alice@example.com\nalice:alice@example.com")).getUpnFromLocal "alice" =
        some "alice@example.com" ∧
      Accepted id ["alice:alice@example.com"] ("alice", "alice@example.com") :=
  ⟨by decide +kernel, by decide +kernel,
    [], _, [], rfl, by decide +kernel, by decide +kernel⟩

end Himmelblau.UserTokens.UserMap
