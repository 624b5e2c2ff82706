/-
  **A reader of comma-separated values**, with the default rules for quotes: a quote at the start
  of a field opens a quotation, in which delimiters and line ends are text; a doubled quote is a
  quote, and a single one ends the quotation.  `\r`, `\n` and `\r\n` end a record, and empty lines
  are skipped.

  The rest of the file is about texts that are lines of fields joined by the delimiter, written by
  someone who knows nothing of quotes.  `read_render_iff` says for which of them every line is read
  as a record that begins with the line's first field.  The argument counts delimiters: if there
  are as many records as lines and none is shorter than a line, then no delimiter can be quoted,
  and each record holds the delimiters of its own line.
-/
import Mathlib

namespace Himmelblau.Csv

open List

/-! ## 1. The reader -/

inductive Mode where
  | startRecord
  | startField
  | inField
  | inQuotedField
  | inDoubleEscapedQuote
  deriving DecidableEq, Repr

/-- What is done with a character: the field goes on in some mode, with some text, or the field or
    the record ends. -/
inductive Action where
  | go (mode : Mode) (text : List Char)
  | endField
  | endRecord
  deriving DecidableEq, Repr

def isTerminator (c : Char) : Bool := c == '\r' || c == '\n'

variable (sep : Char)

def plainAction (c : Char) : Action :=
  if c = sep then .endField
  else if isTerminator c then .endRecord
  else .go .inField [c]

def startAction (c : Char) : Action :=
  if c = '"' then .go .inQuotedField [] else plainAction sep c

def action : Mode → Char → Action
  | .startRecord, c => if isTerminator c then .go .startRecord [] else startAction sep c
  | .startField, c => startAction sep c
  | .inField, c => plainAction sep c
  | .inQuotedField, c =>
    if c = '"' then .go .inDoubleEscapedQuote [] else .go .inQuotedField [c]
  | .inDoubleEscapedQuote, c =>
    if c = '"' then .go .inQuotedField [c] else plainAction sep c

/-- The mode, the field so far, the fields before it in the record, and the records before. -/
structure Reader where
  mode : Mode
  field : List Char
  fields : List (List Char)
  records : List (List (List Char))
  deriving DecidableEq, Repr

namespace Reader

def new : Reader := ⟨.startRecord, [], [], []⟩

def apply (r : Reader) : Action → Reader
  | .go mode text => { r with mode := mode, field := r.field ++ text }
  | .endField => ⟨.startField, [], r.fields ++ [r.field], r.records⟩
  | .endRecord => ⟨.startRecord, [], [], r.records ++ [r.fields ++ [r.field]]⟩

def step (r : Reader) (c : Char) : Reader := r.apply (action sep r.mode c)

def finish (r : Reader) : List (List (List Char)) :=
  match r.mode with
  | .startRecord => r.records
  | _ => r.records ++ [r.fields ++ [r.field]]

def final (r : Reader) (text : List Char) : List (List (List Char)) :=
  (text.foldl (step sep) r).finish

end Reader

def read (text : List Char) : List (List (List Char)) := Reader.new.final sep text

/-! ## 2. What a character can do -/

structure Delimits (c : Char) : Prop where
  notQuote : c ≠ '"'
  notTerminator : isTerminator c = false

variable {sep}

theorem action_sep (h : Delimits sep) (m : Mode) :
    action sep m sep =
      if m = .inQuotedField then .go .inQuotedField [sep] else .endField := by
  cases m <;> simp [action, startAction, plainAction, h.notQuote, h.notTerminator]

variable {c : Char} {m m' : Mode} {v : List Char}

theorem action_ne_endField (h : c ≠ sep) : action sep m c ≠ .endField := by
  intro heq
  cases m <;> simp only [action, startAction, plainAction] at heq <;> (repeat' split at heq) <;>
    simp_all

theorem action_eq_endRecord (h : action sep m c = .endRecord) :
    isTerminator c = true ∧ m ≠ .inQuotedField ∧ m ≠ .startRecord := by
  cases m <;> simp only [action, startAction, plainAction] at h <;> (repeat' split at h) <;>
    simp_all

theorem action_go_startRecord {text : List Char} (h : action sep m c = .go .startRecord text) :
    m = .startRecord ∧ text = [] ∧ isTerminator c = true := by
  cases m <;> simp only [action, startAction, plainAction] at h <;> (repeat' split at h) <;>
    simp_all

theorem action_go_text {text : List Char} (h : action sep m c = .go m' text) :
    text = [] ∨ text = [c] := by
  cases m <;> simp only [action, startAction, plainAction] at h <;> (repeat' split at h) <;>
    cases h <;> simp

theorem action_newline (h : Delimits sep) (m : Mode) :
    action sep m '\n' = match m with
      | .startRecord => .go .startRecord []
      | .inQuotedField => .go .inQuotedField ['\n']
      | _ => .endRecord := by
  have hne : '\n' ≠ sep := by
    rintro rfl
    exact nomatch h.notTerminator
  cases m <;> simp [action, startAction, plainAction, isTerminator, hne]

/-! ## 3. Inside a field -/

/-- What is read of a piece of text that ends neither a field nor a record: the mode after it, and
    what it adds to the field. -/
def scan (sep : Char) : Mode → List Char → Option (Mode × List Char)
  | m, [] => some (m, [])
  | m, c :: text =>
    match action sep m c with
    | .go m' v => (scan sep m' text).map fun after => (after.1, v ++ after.2)
    | _ => none

theorem scan_cons_go (h : action sep m c = .go m' v) (text : List Char) :
    scan sep m (c :: text) =
      (scan sep m' text).map fun after => (after.1, v ++ after.2) := by
  rw [scan, h]

theorem scan_cons_inv {text : List Char} (h : scan sep m (c :: text) = some (m', v)) :
    ∃ m1 v1 w, action sep m c = .go m1 v1 ∧ scan sep m1 text = some (m', w) ∧ v = v1 ++ w := by
  unfold scan at h
  split at h
  · rename_i m1 v1 haction
    obtain ⟨⟨m2, w⟩, hrest, heq⟩ := Option.map_eq_some_iff.mp h
    cases heq
    exact ⟨m1, v1, w, haction, hrest, rfl⟩
  · cases h

theorem foldl_of_scan {text v : List Char} {r : Reader} {m : Mode}
    (h : scan sep r.mode text = some (m, v)) :
    text.foldl (Reader.step sep) r = { r with mode := m, field := r.field ++ v } := by
  induction text generalizing r v with
  | nil =>
    cases h
    rw [append_nil]
    rfl
  | cons c text ih =>
    obtain ⟨m1, v1, w, haction, hrest, rfl⟩ := scan_cons_inv h
    have hstep : r.step sep c = { r with mode := m1, field := r.field ++ v1 } := by
      unfold Reader.step
      rw [haction]
      rfl
    rw [foldl_cons, hstep, ih hrest, append_assoc]

theorem exists_endRecord_of_scan_eq_none {text : List Char} (h : sep ∉ text)
    (hnone : scan sep m text = none) : ∃ before c after m' v, text = before ++ c :: after ∧
      scan sep m before = some (m', v) ∧ action sep m' c = .endRecord := by
  induction text generalizing m with
  | nil => cases hnone
  | cons c text ih =>
    obtain ⟨hc, htext⟩ := not_or.mp (mt mem_cons.mpr h)
    unfold scan at hnone
    cases haction : action sep m c with
    | go m' v =>
      rw [haction] at hnone
      obtain ⟨before, c', after, m'', w, rfl, hbefore, hend⟩ :=
        ih htext (Option.map_eq_none_iff.mp hnone)
      refine ⟨c :: before, c', after, m'', v ++ w, rfl, ?_, hend⟩
      rw [scan_cons_go haction, hbefore]
      rfl
    | endField => exact absurd haction (action_ne_endField (Ne.symm hc))
    | endRecord => exact ⟨[], c, text, m, [], rfl, rfl, haction⟩

theorem length_le_of_scan {text : List Char} (h : scan sep m text = some (m', v)) :
    v.length ≤ text.length := by
  induction text generalizing m v with
  | nil =>
    cases h
    exact le_refl _
  | cons c text ih =>
    obtain ⟨m1, v1, w, haction, hrest, rfl⟩ := scan_cons_inv h
    have hone : v1.length ≤ 1 := by
      rcases action_go_text haction with rfl | rfl
      · exact Nat.zero_le 1
      · exact le_refl 1
    have hmore := ih hrest
    rw [length_append, length_cons]
    omega

/-! ## 4. Records are only added -/

namespace Reader

theorem final_cons (r : Reader) (c : Char) (text : List Char) :
    r.final sep (c :: text) = (r.step sep c).final sep text := rfl

variable {r : Reader}

theorem final_nil (h : r.mode ≠ .startRecord) :
    r.final sep [] = r.records ++ [r.fields ++ [r.field]] := by
  unfold final finish
  dsimp only [foldl_nil]
  split
  · exact absurd ‹_› h
  · rfl

theorem final_append (r : Reader) (text text' : List Char) :
    r.final sep (text ++ text') = (text.foldl (step sep) r).final sep text' := by
  unfold final
  rw [foldl_append]

theorem step_go (h : action sep r.mode c = .go m v) :
    r.step sep c = { r with mode := m, field := r.field ++ v } := by
  unfold step
  rw [h]
  rfl

theorem step_endField {r : Reader} {c : Char} (h : action sep r.mode c = .endField) :
    r.step sep c = ⟨.startField, [], r.fields ++ [r.field], r.records⟩ := by
  unfold step
  rw [h]
  rfl

theorem step_endRecord (h : action sep r.mode c = .endRecord) :
    r.step sep c = ⟨.startRecord, [], [], r.records ++ [r.fields ++ [r.field]]⟩ := by
  unfold step
  rw [h]
  rfl

theorem final_grows (sep : Char) (text : List Char) (r : Reader) :
    (∃ rest, r.final sep text = r.records ++ rest) ∧
      (r.mode ≠ .startRecord → ∃ last more rest,
        r.final sep text = r.records ++ (r.fields ++ last :: more) :: rest) := by
  induction text generalizing r with
  | nil =>
    unfold final finish
    dsimp only [foldl_nil]
    split
    · rename_i hmode
      exact ⟨⟨[], (append_nil _).symm⟩, fun h => absurd hmode h⟩
    · exact ⟨⟨_, rfl⟩, fun _ => ⟨r.field, [], [], rfl⟩⟩
  | cons c text ih =>
    rw [final_cons]
    cases haction : action sep r.mode c with
    | go m v =>
      rw [step_go haction]
      obtain ⟨hrecords, hfields⟩ := ih { r with mode := m, field := r.field ++ v }
      refine ⟨hrecords, fun hmode => hfields ?_⟩
      rintro rfl
      exact hmode (action_go_startRecord haction).1
    | endField =>
      rw [step_endField haction]
      obtain ⟨hrecords, hfields⟩ := ih ⟨.startField, [], r.fields ++ [r.field], r.records⟩
      refine ⟨hrecords, fun _ => ?_⟩
      obtain ⟨last, more, rest, heq⟩ := hfields nofun
      exact ⟨r.field, last :: more, rest, by rw [heq, append_assoc]; rfl⟩
    | endRecord =>
      rw [step_endRecord haction]
      obtain ⟨⟨rest, heq⟩, -⟩ := ih ⟨.startRecord, [], [], r.records ++ [r.fields ++ [r.field]]⟩
      rw [append_assoc] at heq
      exact ⟨⟨_, heq⟩, fun _ => ⟨r.field, [], rest, heq⟩⟩

/-! ## 5. Counting delimiters -/

def separators (records : List (List (List Char))) : ℕ :=
  (records.map fun record => record.length - 1).sum

/-- The delimiters of the text that are inside a quotation. -/
def lost (sep : Char) : Reader → List Char → ℕ
  | _, [] => 0
  | r, c :: text =>
    (if c = sep ∧ r.mode = .inQuotedField then 1 else 0) +
      lost sep (r.step sep c) text

def Idle (r : Reader) : Prop := r.mode = .startRecord → r.fields = []

theorem Idle.step (sep : Char) {r : Reader} (h : r.Idle) (c : Char) : (r.step sep c).Idle := by
  intro hmode
  cases haction : action sep r.mode c with
  | go m v =>
    rw [step_go haction] at hmode ⊢
    cases hmode
    exact h (action_go_startRecord haction).1
  | endField =>
    rw [step_endField haction] at hmode
    cases hmode
  | endRecord => rw [step_endRecord haction]

theorem separators_append_singleton (records : List (List (List Char)))
    (record : List (List Char)) :
    separators (records ++ [record]) = separators records + (record.length - 1) := by
  simp [separators]

theorem separators_final (hd : Delimits sep) (text : List Char) (h : r.Idle) :
    separators (r.final sep text) + lost sep r text =
      separators r.records + r.fields.length + text.count sep := by
  induction text generalizing r with
  | nil =>
    unfold final finish lost
    dsimp only [foldl_nil]
    split
    · rename_i hmode
      rw [h hmode]
      rfl
    · rw [separators_append_singleton]
      simp
  | cons c text ih =>
    have hrest := ih (h.step sep c)
    rw [final_cons]
    unfold lost
    rw [count_cons]
    by_cases hc : c = sep
    · subst hc
      have haction := action_sep hd r.mode
      by_cases hmode : r.mode = .inQuotedField
      · rw [if_pos hmode] at haction
        rw [step_go haction] at hrest ⊢
        simp [hmode] at hrest ⊢
        omega
      · rw [if_neg hmode] at haction
        rw [step_endField haction] at hrest ⊢
        simp [hmode] at hrest ⊢
        omega
    · cases haction : action sep r.mode c with
      | go m v =>
        rw [step_go haction] at hrest ⊢
        simp [hc] at hrest ⊢
        omega
      | endField => exact absurd haction (action_ne_endField hc)
      | endRecord =>
        rw [step_endRecord haction] at hrest ⊢
        rw [separators_append_singleton] at hrest
        simp [hc] at hrest ⊢
        omega

/-! ## 6. Readers that lose nothing -/

/-- No delimiter of the rest is lost, and all records have so many fields. -/
structure Good (sep : Char) (k : ℕ) (r : Reader) (text : List Char) : Prop where
  lost : lost sep r text = 0
  length : ∀ record ∈ r.final sep text, record.length = k

namespace Good

variable {k : ℕ} {r : Reader} {text text' : List Char}

theorem step {c : Char} (h : Good sep k r (c :: text)) :
    Good sep k (r.step sep c) text where
  lost := by
    have hlost := h.lost
    unfold Reader.lost at hlost
    omega
  length := h.length

theorem foldl (h : Good sep k r (text ++ text')) :
    Good sep k (text.foldl (Reader.step sep) r) text' := by
  induction text generalizing r with
  | nil => exact h
  | cons c text ih => exact ih h.step

theorem mode_ne (h : Good sep k r (sep :: text)) : r.mode ≠ .inQuotedField := by
  intro hmode
  have hlost := h.lost
  unfold Reader.lost at hlost
  rw [if_pos ⟨rfl, hmode⟩] at hlost
  omega

theorem record_length (h : Good sep k r text) {record : List (List Char)}
    (hmem : record ∈ r.records) : record.length = k := by
  obtain ⟨⟨rest, heq⟩, -⟩ := final_grows sep text r
  exact h.length record (heq ▸ mem_append_left rest hmem)

theorem fields_lt (h : Good sep k r text) (hmode : r.mode ≠ .startRecord) :
    r.fields.length < k := by
  obtain ⟨-, hfields⟩ := final_grows sep text r
  obtain ⟨last, more, rest, heq⟩ := hfields hmode
  have hlength := h.length (r.fields ++ last :: more)
    (heq ▸ mem_append_right _ mem_cons_self)
  rw [length_append, length_cons] at hlength
  omega

theorem scan_isSome (h : Good sep k r (text ++ text')) (hk : r.fields.length + 1 ≠ k)
    (hd : sep ∉ text) : ∃ m v, scan sep r.mode text = some (m, v) := by
  cases hscan : scan sep r.mode text with
  | some after => exact ⟨after.1, after.2, rfl⟩
  | none =>
    obtain ⟨before, c, after, m, v, rfl, hbefore, hend⟩ :=
      exists_endRecord_of_scan_eq_none hd hscan
    rw [append_assoc] at h
    have hgood := h.foldl
    rw [foldl_of_scan hbefore] at hgood
    have hended := hgood.step
    rw [step_endRecord hend] at hended
    have hlength := hended.record_length (mem_append_right _ mem_cons_self)
    rw [length_append] at hlength
    exact absurd hlength hk

end Good

end Reader

/-! ## 7. What is read of a field -/

inductive Doubled : List Char → Prop
  | nil : Doubled []
  | char {c : Char} {text : List Char} (hc : c ≠ '"') (h : Doubled text) : Doubled (c :: text)
  | quote {text : List Char} (h : Doubled text) : Doubled ('"' :: '"' :: text)

/-- The field opens no quotation, or one that it closes, and no `\r` is outside of it. -/
def Balanced (f : List Char) : Prop :=
  (f.head? ≠ some '"' ∧ '\r' ∉ f) ∨
    ∃ q u, f = '"' :: (q ++ '"' :: u) ∧ Doubled q ∧ u.head? ≠ some '"' ∧ '\r' ∉ u

def Unclosed (f : List Char) : Prop := ∃ q, f = '"' :: q ∧ Doubled q

def BalancedAtEnd (f : List Char) : Prop := ∃ g n, f = g ++ replicate n '\r' ∧ Balanced g

section Quotations

variable {f u : List Char}

theorem scan_inField (hd : sep ∉ f) (h : scan sep .inField f = some (m, v)) :
    m = .inField ∧ v = f ∧ ∀ c ∈ f, isTerminator c = false := by
  induction f generalizing v with
  | nil =>
    cases h
    exact ⟨rfl, rfl, nofun⟩
  | cons c f ih =>
    obtain ⟨hc, hf⟩ := not_or.mp (mt mem_cons.mpr hd)
    cases hterm : isTerminator c with
    | true =>
      simp [scan, action, plainAction, Ne.symm hc, hterm] at h
    | false =>
      obtain ⟨m1, v1, w, haction, hrest, rfl⟩ := scan_cons_inv h
      simp only [action, plainAction, if_neg (Ne.symm hc), hterm, Bool.false_eq_true,
        if_false] at haction
      cases haction
      obtain ⟨rfl, rfl, hall⟩ := ih hf hrest
      exact ⟨rfl, rfl, forall_mem_cons.mpr ⟨hterm, hall⟩⟩

theorem scan_plain (hd : sep ∉ f) (hterm : ∀ c ∈ f, isTerminator c = false) :
    scan sep .inField f = some (.inField, f) := by
  induction f with
  | nil => rfl
  | cons c f ih =>
    obtain ⟨hc, hf⟩ := not_or.mp (mt mem_cons.mpr hd)
    obtain ⟨htc, htf⟩ := forall_mem_cons.mp hterm
    have haction : action sep .inField c = .go .inField [c] := by
      simp [action, plainAction, Ne.symm hc, htc]
    rw [scan_cons_go haction, ih hf htf]
    rfl

theorem scan_unquoted (hm : m = .startField ∨ m = .inDoubleEscapedQuote) (hc : c ≠ '"')
    (text : List Char) : scan sep m (c :: text) = scan sep .inField (c :: text) := by
  rcases hm with rfl | rfl <;> simp only [scan, action, startAction, if_neg hc]

theorem plain_of_scan (hd : sep ∉ f) (h : scan sep .startField f = some (m, f)) :
    f.head? ≠ some '"' ∧ ∀ c ∈ f, isTerminator c = false := by
  cases f with
  | nil => exact ⟨nofun, nofun⟩
  | cons c f =>
    by_cases hquote : c = '"'
    · obtain ⟨m1, v1, w, haction, hrest, heq⟩ := scan_cons_inv h
      simp only [action, startAction, if_pos hquote] at haction
      cases haction
      have hlength := length_le_of_scan hrest
      rw [← nil_append w, ← heq] at hlength
      exact absurd hlength (Nat.not_succ_le_self _)
    · rw [scan_unquoted (.inl rfl) hquote] at h
      exact ⟨by simpa using hquote, (scan_inField hd h).2.2⟩

theorem scan_startField_plain (hd : sep ∉ f) (hquote : f.head? ≠ some '"')
    (hterm : ∀ c ∈ f, isTerminator c = false) :
    ∃ m, scan sep .startField f = some (m, f) ∧ m ≠ .inQuotedField := by
  cases f with
  | nil => exact ⟨.startField, rfl, nofun⟩
  | cons c f =>
    refine ⟨.inField, ?_, nofun⟩
    rw [scan_unquoted (.inl rfl) (by simpa using hquote), scan_plain hd hterm]

theorem scan_ne_startRecord (h : scan sep m f = some (m', v)) (hm : m ≠ .startRecord) :
    m' ≠ .startRecord := by
  induction f generalizing m v with
  | nil =>
    cases h
    exact hm
  | cons c f ih =>
    obtain ⟨m1, v1, w, haction, hrest, rfl⟩ := scan_cons_inv h
    refine ih hrest ?_
    rintro rfl
    exact hm (action_go_startRecord haction).1

theorem Doubled.scan_append {q : List Char} (h : Doubled q) (sep : Char) :
    ∃ w, ∀ rest, scan sep .inQuotedField (q ++ rest) =
      (scan sep .inQuotedField rest).map fun after => (after.1, w ++ after.2) := by
  induction h with
  | nil =>
    refine ⟨[], fun rest => ?_⟩
    rw [nil_append]
    cases scan sep .inQuotedField rest <;> rfl
  | @char c text hc h ih =>
    obtain ⟨w, hw⟩ := ih
    refine ⟨c :: w, fun rest => ?_⟩
    have haction : action sep .inQuotedField c = .go .inQuotedField [c] := by
      simp [action, hc]
    rw [cons_append, scan_cons_go haction, hw]
    cases scan sep .inQuotedField rest <;> rfl
  | @quote text h ih =>
    obtain ⟨w, hw⟩ := ih
    refine ⟨'"' :: w, fun rest => ?_⟩
    have hfirst : action sep .inQuotedField '"' = .go .inDoubleEscapedQuote [] := by
      simp [action]
    have hsecond : action sep .inDoubleEscapedQuote '"' = .go .inQuotedField ['"'] := by
      simp [action]
    rw [cons_append, cons_append, scan_cons_go hfirst, scan_cons_go hsecond, hw]
    cases scan sep .inQuotedField rest <;> rfl

/-- A quotation is closed by the first quote that is not doubled, if there is one. -/
theorem doubled_or_closes : ∀ text : List Char,
    Doubled text ∨ ∃ q u, text = q ++ '"' :: u ∧ Doubled q ∧ u.head? ≠ some '"'
  | [] => .inl .nil
  | [c] => by
    by_cases hc : c = '"'
    · exact .inr ⟨[], [], by rw [hc]; rfl, .nil, nofun⟩
    · exact .inl (.char hc .nil)
  | c :: c' :: text => by
    by_cases hc : c = '"'
    · by_cases hc' : c' = '"'
      · subst hc hc'
        rcases doubled_or_closes text with hall | ⟨q, u, rfl, hq, hu⟩
        · exact .inl (.quote hall)
        · exact .inr ⟨'"' :: '"' :: q, u, rfl, .quote hq, hu⟩
      · exact .inr ⟨[], c' :: text, by rw [hc]; rfl, .nil, by simpa using hc'⟩
    · rcases doubled_or_closes (c' :: text) with hall | ⟨q, u, heq, hq, hu⟩
      · exact .inl (.char hc hall)
      · exact .inr ⟨c :: q, u, by rw [heq]; rfl, .char hc hq, hu⟩

theorem noTerminator_iff (hu : '\n' ∉ u) : (∀ c ∈ u, isTerminator c = false) ↔ '\r' ∉ u := by
  constructor
  · intro h hr
    exact nomatch h '\r' hr
  · intro hr c hc
    have hne : c ≠ '\n' := by
      rintro rfl
      exact hu hc
    have hne' : c ≠ '\r' := by
      rintro rfl
      exact hr hc
    simp [isTerminator, hne, hne']

theorem scan_afterQuotation (hd : sep ∉ u) (hu : '\n' ∉ u) (hquote : u.head? ≠ some '"') :
    ('\r' ∉ u ∧ ∃ m, scan sep .inDoubleEscapedQuote u = some (m, u) ∧ m ≠ .inQuotedField) ∨
      ('\r' ∈ u ∧ scan sep .inDoubleEscapedQuote u = none) := by
  cases u with
  | nil => exact .inl ⟨nofun, .inDoubleEscapedQuote, rfl, nofun⟩
  | cons c u =>
    rw [scan_unquoted (.inr rfl) (by simpa using hquote)]
    by_cases hr : '\r' ∈ c :: u
    · refine .inr ⟨hr, Option.eq_none_iff_forall_ne_some.mpr ?_⟩
      rintro ⟨m, v⟩ hscan
      exact (noTerminator_iff hu).mp (scan_inField hd hscan).2.2 hr
    · exact .inl ⟨hr, .inField, scan_plain hd ((noTerminator_iff hu).mpr hr), nofun⟩

theorem Doubled.scan_closed {q : List Char} (hq : Doubled q) (hd : sep ∉ u) (hu : '\n' ∉ u)
    (hquote : u.head? ≠ some '"') :
    ('\r' ∉ u ∧ ∃ m v, scan sep .inQuotedField (q ++ '"' :: u) = some (m, v) ∧
        m ≠ .inQuotedField) ∨
      ('\r' ∈ u ∧ scan sep .inQuotedField (q ++ '"' :: u) = none) := by
  obtain ⟨w, hw⟩ := hq.scan_append sep
  have hclose : action sep .inQuotedField '"' = .go .inDoubleEscapedQuote [] := by
    simp [action]
  rw [hw, scan_cons_go hclose]
  rcases scan_afterQuotation hd hu hquote with ⟨hr, m, hafter, hm⟩ | ⟨hr, hafter⟩
  · rw [hafter]
    exact .inl ⟨hr, m, _, rfl, hm⟩
  · rw [hafter]
    exact .inr ⟨hr, rfl⟩

theorem Doubled.scan_open {q : List Char} (hq : Doubled q) (sep : Char) :
    ∃ v, scan sep .inQuotedField q = some (.inQuotedField, v) := by
  obtain ⟨w, hw⟩ := hq.scan_append sep
  have hscan := hw []
  rw [append_nil] at hscan
  exact ⟨_, hscan⟩

theorem scan_quote (sep : Char) (q : List Char) :
    scan sep .startField ('"' :: q) = scan sep .inQuotedField q := by
  have hopen : action sep .startField '"' = .go .inQuotedField [] := by
    simp [action, startAction]
  rw [scan_cons_go hopen]
  cases scan sep .inQuotedField q <;> rfl

theorem Balanced.scan_eq (hd : sep ∉ f) (hf : '\n' ∉ f) (h : Balanced f) :
    ∃ m v, scan sep .startField f = some (m, v) ∧ m ≠ .inQuotedField := by
  rcases h with ⟨hquote, hr⟩ | ⟨q, u, rfl, hq, hu, hr⟩
  · obtain ⟨m, hscan, hm⟩ := scan_startField_plain hd hquote ((noTerminator_iff hf).mpr hr)
    exact ⟨m, f, hscan, hm⟩
  · have hdu : sep ∉ u := fun h => hd (by simp [h])
    have hnu : '\n' ∉ u := fun h => hf (by simp [h])
    rcases hq.scan_closed hdu hnu hu with ⟨-, hscan⟩ | ⟨hr', -⟩
    · rw [scan_quote]
      exact hscan
    · exact absurd hr' hr

theorem Unclosed.scan_eq (h : Unclosed f) (sep : Char) :
    ∃ v, scan sep .startField f = some (.inQuotedField, v) := by
  obtain ⟨q, rfl, hq⟩ := h
  rw [scan_quote]
  exact hq.scan_open sep

theorem balanced_or_unclosed_of_scan (hd : sep ∉ f) (hf : '\n' ∉ f)
    (h : scan sep .startField f = some (m, v)) :
    (Balanced f ∧ m ≠ .inQuotedField) ∨ (Unclosed f ∧ m = .inQuotedField) := by
  by_cases hquote : f.head? = some '"'
  · obtain ⟨q, rfl⟩ : ∃ q, f = '"' :: q := by
      cases f with
      | nil => cases hquote
      | cons c q => exact ⟨q, by rw [Option.some.inj hquote]⟩
    rw [scan_quote] at h
    rcases doubled_or_closes q with hall | ⟨q, u, rfl, hq, hu⟩
    · obtain ⟨w, hscan⟩ := hall.scan_open sep
      rw [hscan] at h
      cases h
      exact .inr ⟨⟨q, rfl, hall⟩, rfl⟩
    · have hdu : sep ∉ u := fun h => hd (by simp [h])
      have hnu : '\n' ∉ u := fun h => hf (by simp [h])
      rcases hq.scan_closed hdu hnu hu with ⟨hr, m', w, hscan, hm⟩ | ⟨-, hscan⟩
      · rw [hscan] at h
        cases h
        exact .inl ⟨.inr ⟨q, u, rfl, hq, hu, hr⟩, hm⟩
      · rw [hscan] at h
        cases h
  · left
    cases f with
    | nil =>
      cases h
      exact ⟨.inl ⟨nofun, nofun⟩, nofun⟩
    | cons c f =>
      rw [scan_unquoted (.inl rfl) (by simpa using hquote)] at h
      obtain ⟨rfl, -, hterm⟩ := scan_inField hd h
      exact ⟨.inl ⟨hquote, (noTerminator_iff hf).mp hterm⟩, nofun⟩

theorem balanced_of_scan (hd : sep ∉ f) (hf : '\n' ∉ f)
    (h : scan sep .startField f = some (m, v)) (hm : m ≠ .inQuotedField) : Balanced f := by
  rcases balanced_or_unclosed_of_scan hd hf h with ⟨h, -⟩ | ⟨-, hm'⟩
  · exact h
  · exact absurd hm' hm

theorem newline_mem_of_scan (hd : Delimits sep) (h : scan sep m f = some (m', v))
    (hm : m ≠ .startRecord) (hf : '\n' ∈ f) : '\n' ∈ v := by
  induction f generalizing m v with
  | nil => cases hf
  | cons c f ih =>
    obtain ⟨m1, v1, w, haction, hrest, rfl⟩ := scan_cons_inv h
    have hm1 : m1 ≠ .startRecord := by
      rintro rfl
      exact hm (action_go_startRecord haction).1
    rcases mem_cons.mp hf with rfl | hmore
    · rw [action_newline hd] at haction
      cases m with
      | startRecord => exact absurd rfl hm
      | inQuotedField =>
        cases haction
        exact mem_append_left _ mem_cons_self
      | startField | inField | inDoubleEscapedQuote => cases haction
    · exact mem_append_right _ (ih hrest hm1 hmore)

end Quotations

/-! ## 8. Fields of a line -/

section Fields

variable {k : ℕ} {f : List Char} {F : List (List Char)} {R : List (List (List Char))}
  {text : List Char}

abbrev between (R : List (List (List Char))) : Reader := ⟨.startRecord, [], [], R⟩

abbrev before (F : List (List Char)) (R : List (List (List Char))) : Reader :=
  ⟨.startField, [], F, R⟩

theorem step_between (h : isTerminator c = false) :
    (between R).step sep c = (before [] R).step sep c := by
  have haction : action sep .startRecord c = action sep .startField c := by
    simp [action, h]
  unfold Reader.step
  dsimp only
  rw [haction]
  cases action sep .startField c <;> rfl

theorem step_between_terminator (h : isTerminator c = true) :
    (between R).step sep c = between R := by
  simp [Reader.step, action, h, Reader.apply]

theorem foldl_blank (hterm : ∀ c ∈ text, isTerminator c = true) :
    text.foldl (Reader.step sep) (between R) = between R := by
  induction text with
  | nil => rfl
  | cons c text ih =>
    obtain ⟨hc, hrest⟩ := forall_mem_cons.mp hterm
    rw [foldl_cons, step_between_terminator hc, ih hrest]

theorem isTerminator_of_mem_replicate {n : ℕ} (hc : c ∈ replicate n '\r') :
    isTerminator c = true := by
  rw [eq_of_mem_replicate hc]
  decide

theorem eq_cr_of_isTerminator (h : isTerminator c = true) (hc : c ≠ '\n') : c = '\r' := by
  unfold isTerminator at h
  simpa [hc] using h

theorem returns_or_begins (hf : '\n' ∉ f) : ∃ n rest, f = replicate n '\r' ++ rest ∧
    (rest = [] ∨ ∃ c g, rest = c :: g ∧ isTerminator c = false) := by
  induction f with
  | nil => exact ⟨0, [], rfl, .inl rfl⟩
  | cons c f ih =>
    obtain ⟨hc, hrest⟩ := not_or.mp (mt mem_cons.mpr hf)
    cases hterm : isTerminator c with
    | true =>
      obtain ⟨n, rest, rfl, h⟩ := ih hrest
      exact ⟨n + 1, rest, by rw [eq_cr_of_isTerminator hterm (Ne.symm hc)]; rfl, h⟩
    | false => exact ⟨0, c :: f, rfl, .inr ⟨c, f, rfl, hterm⟩⟩

theorem Reader.Good.begin (h : isTerminator c = false)
    (hgood : Good sep k (between R) (c :: text)) :
    Good sep k (before [] R) (c :: text) where
  lost := by
    have hlost := hgood.lost
    unfold Reader.lost at hlost ⊢
    rw [← step_between h]
    simpa using hlost
  length := by
    rw [Reader.final_cons, ← step_between h]
    exact hgood.length

variable {r : Reader} {hs : List (Option (List Char))} {name : List Char}

theorem foldl_field (hd : Delimits sep) (hscan : scan sep r.mode f = some (m, v))
    (hm : m ≠ .inQuotedField) : (f ++ [sep]).foldl (Reader.step sep) r =
      before (r.fields ++ [r.field ++ v]) r.records := by
  rw [foldl_append, foldl_of_scan hscan]
  have haction := action_sep hd m
  rw [if_neg hm] at haction
  exact Reader.step_endField haction

theorem foldl_endRecord (hscan : scan sep r.mode f = some (m, v))
    (hend : action sep m c = .endRecord) : (f ++ [c]).foldl (Reader.step sep) r =
      between (r.records ++ [r.fields ++ [r.field ++ v]]) := by
  rw [foldl_append, foldl_of_scan hscan]
  exact Reader.step_endRecord hend

theorem Reader.Good.field (hd : Delimits sep) (hf : sep ∉ f) {r : Reader}
    (h : Good sep k r (f ++ sep :: text)) (hk : r.fields.length + 1 ≠ k) :
    ∃ m v, scan sep r.mode f = some (m, v) ∧ m ≠ .inQuotedField ∧
      (f ++ [sep]).foldl (Reader.step sep) r =
        before (r.fields ++ [r.field ++ v]) r.records := by
  obtain ⟨m, v, hscan⟩ := h.scan_isSome hk hf
  have hgood := h.foldl
  rw [foldl_of_scan hscan] at hgood
  exact ⟨m, v, hscan, hgood.mode_ne, foldl_field hd hscan hgood.mode_ne⟩

/-- The first field of a record is no longer than the text before its delimiter, and it is that
    text only if the text has no quote at its start and no `\r`. -/
theorem Reader.Good.first (hd : Delimits sep) (hk : 2 ≤ k) (hf : sep ∉ f)
    (h : Good sep k (between R) (f ++ sep :: text)) :
    ∃ v, (f ++ [sep]).foldl (Reader.step sep) (between R) = before [v] R ∧
      v.length ≤ f.length ∧
      (v = f → f.head? ≠ some '"' ∧ ∀ c ∈ f, isTerminator c = false) := by
  induction f with
  | nil =>
    have haction := action_sep hd .startRecord
    refine ⟨[], Reader.step_endField haction, le_refl _, fun _ => ⟨nofun, nofun⟩⟩
  | cons c f ih =>
    obtain ⟨hc, hrest⟩ := not_or.mp (mt mem_cons.mpr hf)
    cases hterm : isTerminator c with
    | true =>
      -- it is skipped, and the field gets shorter
      have hgood := h.step
      rw [step_between_terminator hterm] at hgood
      obtain ⟨v, hfold, hlength, -⟩ := ih hrest hgood
      refine ⟨v, ?_, Nat.le_succ_of_le hlength, ?_⟩
      · rw [cons_append, foldl_cons, step_between_terminator hterm, hfold]
      · rintro rfl
        exact absurd hlength (Nat.not_succ_le_self _)
    | false =>
      have hgood := Good.begin hterm h
      obtain ⟨m, v, hscan, -, hfold⟩ := hgood.field hd hf (by simp; omega)
      refine ⟨v, ?_, length_le_of_scan hscan, ?_⟩
      · rw [cons_append, foldl_cons, step_between hterm]
        exact hfold
      · rintro rfl
        exact plain_of_scan hf hscan

/-- The records that are read after those of `R` begin with these fields. -/
def Reader.Heads (sep : Char) (R : List (List (List Char))) (r : Reader) (text : List Char)
    (hs : List (Option (List Char))) : Prop :=
  (r.final sep text).map head? = R.map head? ++ hs

theorem Reader.Heads.foldl {text' : List Char} (h : Heads sep R r (text ++ text') hs) :
    Heads sep R (text.foldl (step sep) r) text' hs := by
  rwa [Heads, final_append] at h

theorem Reader.Heads.begun (h : Heads sep R (before (v :: F) R) text hs) :
    ∃ hs', hs = some v :: hs' := by
  obtain ⟨-, hfields⟩ := Reader.final_grows sep text (before (v :: F) R)
  obtain ⟨last, more, rest, heq⟩ := hfields nofun
  rw [Heads, heq, map_append, map_cons] at h
  exact ⟨_, (append_cancel_left h).symm⟩

theorem Reader.Heads.ended {record : List (List Char)} {first : Option (List Char)}
    (h : Heads sep R (between (R ++ [record])) text (first :: hs)) :
    Heads sep (R ++ [record]) (between (R ++ [record])) text hs := by
  obtain ⟨⟨rest, heq⟩, -⟩ := Reader.final_grows sep text (between (R ++ [record]))
  rw [Heads, heq, map_append, map_append, append_assoc] at h
  have hrest : rest.map head? = hs := (cons.inj (append_cancel_left h)).2
  rw [Heads, heq, map_append, hrest]

theorem Delimits.ne_newline (hd : Delimits sep) : sep ≠ '\n' := by
  rintro rfl
  exact nomatch hd.notTerminator

theorem action_terminator (hd : Delimits sep) (hc : isTerminator c = true)
    (hm : m ≠ .inQuotedField) (hm' : m ≠ .startRecord) : action sep m c = .endRecord := by
  have hquote : c ≠ '"' := by
    rintro rfl
    exact nomatch hc
  have hne : c ≠ sep := by
    rintro rfl
    exact nomatch hd.notTerminator.symm.trans hc
  cases m <;> simp_all [action, startAction, plainAction]

/-- Between the end of a record and the line end there is nothing but `\r`, if the next record
    begins with the next line. -/
theorem Reader.Good.blank (hd : Delimits sep) (hk : 2 ≤ k) (hf : sep ∉ f)
    (hf' : '\n' ∉ f) (hname : sep ∉ name) (hname' : '\n' ∉ name)
    (h : Good sep k (between R) ((f ++ '\n' :: name) ++ sep :: text))
    (hheads : Heads sep R (between R) ((f ++ '\n' :: name) ++ sep :: text) (some name :: hs)) :
    ∃ n, f = replicate n '\r' := by
  obtain ⟨n, rest, rfl, rfl | ⟨c, g, rfl, hterm⟩⟩ := returns_or_begins hf'
  · exact ⟨n, append_nil _⟩
  · -- a record begins here, and its first field has the line end
    exfalso
    rw [append_assoc, append_assoc] at h hheads
    have hgood := h.foldl
    have hheads := hheads.foldl
    rw [foldl_blank fun _ => isTerminator_of_mem_replicate] at hgood hheads
    have hpiece : sep ∉ c :: g ++ '\n' :: name := by
      simp only [mem_append, not_or] at hf ⊢
      exact ⟨hf.2, by simp [hd.ne_newline, hname]⟩
    rw [← append_assoc] at hgood hheads
    obtain ⟨m, v, hscan, -, hfold⟩ :=
      (Good.begin hterm hgood).field hd hpiece (by simp; omega)
    have hline : '\n' ∈ v :=
      newline_mem_of_scan hd hscan nofun (mem_append_right _ mem_cons_self)
    rw [Heads, cons_append, cons_append, Reader.final_cons, step_between hterm,
      ← Reader.final_cons, ← cons_append, ← cons_append, append_cons] at hheads
    have hheads : Heads sep R _ _ _ := Heads.foldl hheads
    rw [hfold] at hheads
    obtain ⟨hs', heq⟩ := hheads.begun
    cases heq
    exact hname' hline

theorem foldl_returns (n : ℕ) {nl : List Char} (hnl : nl = [] ∨ nl = ['\n']) :
    (replicate n '\r' ++ nl).foldl (Reader.step sep) (between R) = between R := by
  refine foldl_blank fun c hc => ?_
  rcases mem_append.mp hc with hmem | hmem
  · exact isTerminator_of_mem_replicate hmem
  · rcases hnl with rfl | rfl
    · cases hmem
    · rw [mem_singleton.mp hmem]
      decide

theorem Reader.Good.last (hd : Delimits sep) (hk : 2 ≤ k) (hF : F.length + 1 = k)
    (hf : sep ∉ f) (hf' : '\n' ∉ f) (hname : sep ∉ name) (hname' : '\n' ∉ name)
    (h : Good sep k (before F R) ((f ++ '\n' :: name) ++ sep :: text)) {first : Option (List Char)}
    (hheads : Heads sep R (before F R) ((f ++ '\n' :: name) ++ sep :: text)
      (first :: some name :: hs)) :
    BalancedAtEnd f ∧ ∃ v,
      (f ++ ['\n']).foldl (Reader.step sep) (before F R) = between (R ++ [F ++ [v]]) := by
  have hpiece : sep ∉ f ++ '\n' :: name := by simp [hf, hd.ne_newline, hname]
  cases hscan : scan sep .startField (f ++ '\n' :: name) with
  | some after =>
    -- then the record would get another field
    exfalso
    have hgood := h.foldl
    rw [foldl_of_scan hscan] at hgood
    rw [append_cons] at h
    have hmore := h.foldl
    rw [foldl_field hd hscan hgood.mode_ne] at hmore
    have hroom : (F ++ [after.2]).length < k := hmore.fields_lt nofun
    rw [length_append, length_singleton] at hroom
    omega
  | none =>
    obtain ⟨g, c, after, m, v, heq, hg, hend⟩ := exists_endRecord_of_scan_eq_none hpiece hscan
    obtain ⟨hterm, hm, -⟩ := action_eq_endRecord hend
    have hended : (g ++ [c]).foldl (Reader.step sep) (before F R) =
      between (R ++ [F ++ [v]]) := foldl_endRecord hg hend
    -- what follows is read after this record
    have hafter : (f ++ '\n' :: name) ++ sep :: text =
        (g ++ [c]) ++ (after ++ sep :: text) := by
      rw [heq]
      simp
    rw [hafter] at h hheads
    have hgood := h.foldl
    have hmore := hheads.foldl
    rw [hended] at hgood hmore
    have hnext := hmore.ended
    rcases append_eq_append_iff.mp heq with ⟨g', rfl, hg'⟩ | ⟨f', rfl, hf1⟩
    · rcases cons_eq_append_iff.mp hg' with ⟨rfl, hsame⟩ | ⟨g', rfl, rfl⟩
      · cases hsame
        rw [append_nil] at hg hended
        exact ⟨⟨f, 0, (append_nil f).symm, balanced_of_scan hf hf' hg hm⟩, v, hended⟩
      · -- the next record begins inside the name of the next line
        exfalso
        have hafter' : sep ∉ after := fun hmem =>
          hname (mem_append_right _ (mem_cons_of_mem _ hmem))
        obtain ⟨w, hfold, hlength, -⟩ := hgood.first hd hk hafter'
        rw [append_cons after] at hnext
        have hbegun := hnext.foldl
        rw [hfold] at hbegun
        obtain ⟨hs', hhead⟩ := hbegun.begun
        cases hhead
        rw [length_append, length_cons] at hlength
        omega
    · have hbalanced : Balanced g :=
        balanced_of_scan (fun h => hf (mem_append_left _ h))
          (fun h => hf' (mem_append_left _ h)) hg hm
      rcases cons_eq_append_iff.mp hf1 with ⟨rfl, hsame⟩ | ⟨f', rfl, rfl⟩
      · cases hsame
        rw [append_nil] at hf hf' ⊢
        exact ⟨⟨g, 0, (append_nil g).symm, hbalanced⟩, v, hended⟩
      · have hrest : sep ∉ f' := fun hmem =>
          hf (mem_append_right _ (mem_cons_of_mem _ hmem))
        have hrest' : '\n' ∉ f' := fun hmem =>
          hf' (mem_append_right _ (mem_cons_of_mem _ hmem))
        have hc : c ≠ '\n' := by
          rintro rfl
          exact hf' (mem_append_right _ mem_cons_self)
        obtain ⟨n, rfl⟩ := hgood.blank hd hk hrest hrest' hname hname' hnext
        obtain rfl := eq_cr_of_isTerminator hterm hc
        refine ⟨⟨g, n + 1, rfl, hbalanced⟩, v, ?_⟩
        rw [append_cons g, append_assoc (g ++ ['\r']), foldl_append, hended,
          foldl_returns n (.inr rfl)]

/-- At the end of the text there is nothing but `\r` after the last record, whether or not it has
    a final line end. -/
theorem Reader.Good.blankEnd (hk : 2 ≤ k) {nl : List Char} (hf : sep ∉ f)
    (hf' : '\n' ∉ f) (hnl : sep ∉ nl) (h : Good sep k (between R) (f ++ nl)) :
    ∃ n, f = replicate n '\r' := by
  obtain ⟨n, rest, rfl, rfl | ⟨c, g, rfl, hterm⟩⟩ := returns_or_begins hf'
  · exact ⟨n, append_nil _⟩
  · -- a record with one field
    exfalso
    rw [append_assoc] at h
    have hgood := h.foldl
    rw [foldl_blank fun _ => isTerminator_of_mem_replicate] at hgood
    have hpiece : sep ∉ c :: g ++ nl := by
      simp only [mem_append, not_or] at hf ⊢
      exact ⟨hf.2, hnl⟩
    have hgood : Good sep k (before [] R) ((c :: g ++ nl) ++ []) := by
      rw [append_nil]
      exact Good.begin hterm hgood
    obtain ⟨m, v, hscan⟩ := hgood.scan_isSome (by simp; omega) hpiece
    have hroom := hgood.foldl.length
    have hm := scan_ne_startRecord hscan nofun
    rw [foldl_of_scan hscan, Reader.final_nil hm] at hroom
    have hlength := hroom _ (mem_append_right _ mem_cons_self)
    rw [length_append, length_singleton] at hlength
    change 0 + 1 = k at hlength
    omega

theorem Reader.Good.lastOfText (hk : 2 ≤ k) {nl : List Char} (hf : sep ∉ f)
    (hf' : '\n' ∉ f) (hnl : sep ∉ nl) (h : Good sep k (before F R) (f ++ nl)) :
    Unclosed f ∨ BalancedAtEnd f := by
  cases hscan : scan sep .startField f with
  | some after =>
    rcases balanced_or_unclosed_of_scan hf hf' hscan with ⟨h, -⟩ | ⟨h, -⟩
    · exact .inr ⟨f, 0, (append_nil f).symm, h⟩
    · exact .inl h
  | none =>
    right
    obtain ⟨g, c, after, m, v, rfl, hg, hend⟩ := exists_endRecord_of_scan_eq_none hf hscan
    obtain ⟨hterm, hm, -⟩ := action_eq_endRecord hend
    rw [append_cons g, append_assoc] at h
    have hgood := h.foldl
    rw [foldl_endRecord hg hend] at hgood
    simp only [mem_append, mem_cons, not_or] at hf hf'
    obtain ⟨n, rfl⟩ := hgood.blankEnd hk hf.2.2 hf'.2.2 hnl
    obtain rfl := eq_cr_of_isTerminator hterm (Ne.symm hf'.2.1)
    exact ⟨g, n + 1, rfl, balanced_of_scan hf.1 hf'.1 hg hm⟩

end Fields

/-! ## 9. Texts of lines -/

structure Line where
  name : List Char
  middle : List (List Char)
  last : List Char
  deriving DecidableEq, Repr

def fieldsText (sep : Char) : List (List Char) → List Char → List Char
  | [], last => last
  | f :: fs, last => f ++ sep :: fieldsText sep fs last

def Line.text (sep : Char) (l : Line) : List Char :=
  l.name ++ sep :: fieldsText sep l.middle l.last

/-- The lines joined by line ends, `nl` being what is at the end of the text. -/
def render (sep : Char) (nl : List Char) : List Line → List Char
  | [] => []
  | [l] => l.text sep ++ nl
  | l :: ls => l.text sep ++ '\n' :: render sep nl ls

/-- The fields have neither the delimiter nor a line end; any other character may be there. -/
structure Line.Plain (sep : Char) (l : Line) : Prop where
  name : sep ∉ l.name ∧ '\n' ∉ l.name
  middle : ∀ f ∈ l.middle, sep ∉ f ∧ '\n' ∉ f
  last : sep ∉ l.last ∧ '\n' ∉ l.last

/-- The line without its last field: no quote opens the first field and no `\r` is in it, and the
    fields after it are balanced. -/
structure Line.Opens (l : Line) : Prop where
  unquoted : l.name.head? ≠ some '"'
  noReturn : '\r' ∉ l.name
  balanced : ∀ f ∈ l.middle, Balanced f

/-- The lines are read as they are meant.  Only the last field of the text may leave a quotation
    open. -/
def Legible : List Line → Prop
  | [] => True
  | [l] => l.Opens ∧ (Unclosed l.last ∨ BalancedAtEnd l.last)
  | l :: ls => l.Opens ∧ BalancedAtEnd l.last ∧ Legible ls

section Lines

variable {k : ℕ} {nl : List Char} {R : List (List (List Char))} {text : List Char}

theorem render_cons_cons (sep : Char) (nl : List Char) (l l' : Line) (ls : List Line) :
    render sep nl (l :: l' :: ls) =
      l.text sep ++ '\n' :: render sep nl (l' :: ls) := rfl

theorem exists_render_eq (sep : Char) (nl : List Char) (l : Line) (ls : List Line) :
    ∃ rest, ∀ name,
      render sep nl ({ l with name := name } :: ls) = name ++ sep :: rest := by
  cases ls with
  | nil => exact ⟨fieldsText sep l.middle l.last ++ nl, by simp [render, Line.text]⟩
  | cons l' ls =>
    exact ⟨fieldsText sep l.middle l.last ++ '\n' :: render sep nl (l' :: ls), by
      simp [render, Line.text]⟩

variable {mids : List (List Char)} {ls : List Line} {name : List Char}

theorem Reader.Good.middle (hd : Delimits sep) {last : List Char} {F : List (List Char)}
    (hmids : ∀ f ∈ mids, sep ∉ f ∧ '\n' ∉ f) (hF : F.length + mids.length + 1 = k)
    (h : Good sep k (before F R) (fieldsText sep mids last ++ text)) :
    (∀ f ∈ mids, Balanced f) ∧ ∃ G, (F ++ G).length + 1 = k ∧
      Good sep k (before (F ++ G) R) (last ++ text) ∧
      (before F R).final sep (fieldsText sep mids last ++ text) =
        (before (F ++ G) R).final sep (last ++ text) := by
  induction mids generalizing F with
  | nil =>
    refine ⟨nofun, [], ?_, ?_, ?_⟩
    · simpa using hF
    · rw [append_nil]
      exact h
    · rw [append_nil]
      rfl
  | cons f mids ih =>
    obtain ⟨hf, hmids⟩ := forall_mem_cons.mp hmids
    rw [length_cons] at hF
    unfold fieldsText at h ⊢
    rw [append_assoc, cons_append] at h ⊢
    obtain ⟨m, v, hscan, hm, hfold⟩ := h.field hd hf.1 (by dsimp only; omega)
    rw [append_cons f] at h ⊢
    have hgood := h.foldl
    rw [hfold] at hgood
    obtain ⟨hclosed, G, hG, hrest, hfinal⟩ := ih hmids
      (F := F ++ [v]) (by rw [length_append, length_singleton]; omega) hgood
    refine ⟨forall_mem_cons.mpr ⟨balanced_of_scan hf.1 hf.2 hscan hm, hclosed⟩, v :: G, ?_,
      ?_, ?_⟩
    · simpa using hG
    · rw [append_cons]
      exact hrest
    · rw [Reader.final_append, hfold, append_cons F v G]
      exact hfinal

theorem Reader.Good.line (hd : Delimits sep) {l : Line} (hl : l.Plain sep)
    (hk : l.middle.length + 2 = k) (h : Good sep k (between R) (l.text sep ++ text))
    {hs : List (Option (List Char))}
    (hheads : Heads sep R (between R) (l.text sep ++ text) (some l.name :: hs)) :
    l.Opens ∧ ∃ F, F.length + 1 = k ∧ Good sep k (before F R) (l.last ++ text) ∧
      Heads sep R (before F R) (l.last ++ text) (some l.name :: hs) := by
  unfold Line.text at h hheads
  rw [append_assoc, cons_append] at h hheads
  obtain ⟨v, hfold, -, hname⟩ := h.first hd (by omega) hl.name.1
  rw [append_cons l.name] at h hheads
  have hgood := h.foldl
  have hheads := hheads.foldl
  rw [hfold] at hgood hheads
  obtain ⟨hs', hhead⟩ := hheads.begun
  cases hhead
  obtain ⟨hquote, hterm⟩ := hname rfl
  obtain ⟨hclosed, G, hG, hlast, hfinal⟩ := hgood.middle hd hl.middle
    (by rw [length_singleton]; omega)
  rw [Heads, hfinal] at hheads
  exact ⟨⟨hquote, (noTerminator_iff hl.name.2).mp hterm, hclosed⟩, _, hG, hlast, hheads⟩

theorem legible_of_good (hd : Delimits sep) (hnl : sep ∉ nl) (hk : 2 ≤ k)
    (hplain : ∀ l ∈ ls, l.Plain sep ∧ l.middle.length + 2 = k)
    (h : Reader.Good sep k (between R) (render sep nl ls))
    (hheads : Reader.Heads sep R (between R) (render sep nl ls) (ls.map fun l => some l.name)) :
    Legible ls := by
  induction ls generalizing R with
  | nil => trivial
  | cons l ls ih =>
    obtain ⟨⟨hl, hmiddle⟩, hrest⟩ := forall_mem_cons.mp hplain
    cases ls with
    | nil =>
      unfold render at h hheads
      obtain ⟨hopens, F, -, hlast, -⟩ := h.line hd hl hmiddle hheads
      exact ⟨hopens, hlast.lastOfText hk hl.last.1 hl.last.2 hnl⟩
    | cons l' ls =>
      obtain ⟨rest, hnext⟩ := exists_render_eq sep nl l' ls
      rw [render_cons_cons] at h hheads
      obtain ⟨hopens, F, hF, hlast, hheads⟩ := h.line hd hl hmiddle hheads
      obtain ⟨⟨hl', -⟩, -⟩ := forall_mem_cons.mp hrest
      have hjoin : l.last ++ '\n' :: render sep nl (l' :: ls) =
          (l.last ++ '\n' :: l'.name) ++ sep :: rest := by
        rw [show render sep nl (l' :: ls) = _ from hnext l'.name]
        simp
      have hgood := hlast
      have hheads' := hheads
      rw [hjoin] at hgood hheads'
      obtain ⟨hend, v, hfold⟩ := hgood.last hd hk hF hl.last.1 hl.last.2 hl'.name.1 hl'.name.2
        hheads'
      rw [append_cons l.last] at hlast hheads
      have hnextGood := hlast.foldl
      have hheads := hheads.foldl
      rw [hfold] at hnextGood hheads
      exact ⟨hopens, hend, ih hrest hnextGood hheads.ended⟩

theorem count_fieldsText {last : List Char} (hmids : ∀ f ∈ mids, sep ∉ f ∧ '\n' ∉ f)
    (hlast : sep ∉ last) : (fieldsText sep mids last).count sep = mids.length := by
  induction mids with
  | nil => exact count_eq_zero.mpr hlast
  | cons f mids ih =>
    obtain ⟨hf, hmids⟩ := forall_mem_cons.mp hmids
    unfold fieldsText
    rw [count_append, count_cons_self, ih hmids, count_eq_zero.mpr hf.1,
      length_cons, Nat.zero_add]

theorem Line.Plain.count_text {l : Line} (h : l.Plain sep) :
    (l.text sep).count sep = l.middle.length + 1 := by
  unfold Line.text
  rw [count_append, count_cons_self, count_fieldsText h.middle h.last.1,
    count_eq_zero.mpr h.name.1, Nat.zero_add]

theorem count_render (hd : Delimits sep) (hnl : sep ∉ nl)
    (hplain : ∀ l ∈ ls, l.Plain sep ∧ l.middle.length + 2 = k) :
    (render sep nl ls).count sep = ls.length * (k - 1) := by
  induction ls with
  | nil => rw [length_nil, Nat.zero_mul]; rfl
  | cons l ls ih =>
    obtain ⟨⟨hl, hmiddle⟩, hrest⟩ := forall_mem_cons.mp hplain
    have htext : (l.text sep).count sep = k - 1 := by
      rw [hl.count_text]
      omega
    cases ls with
    | nil =>
      unfold render
      rw [count_append, htext, count_eq_zero.mpr hnl, length_singleton,
        Nat.one_mul, Nat.add_zero]
    | cons l' ls =>
      have hne : ('\n' == sep) = false := by simpa using Ne.symm hd.ne_newline
      have hlength : (l :: l' :: ls).length = (l' :: ls).length + 1 := rfl
      rw [render_cons_cons, count_append, htext, count_cons, ih hrest, hne, hlength,
        Nat.succ_mul, Nat.add_comm]
      rfl

theorem separators_of_length (hk : 1 ≤ k) {records : List (List (List Char))}
    (hlong : ∀ record ∈ records, k ≤ record.length) :
    records.length * (k - 1) ≤ Reader.separators records ∧
      (Reader.separators records ≤ records.length * (k - 1) →
        ∀ record ∈ records, record.length = k) := by
  induction records with
  | nil => exact ⟨by simp, fun _ => nofun⟩
  | cons record records ih =>
    obtain ⟨hrecord, hlong⟩ := forall_mem_cons.mp hlong
    obtain ⟨hle, heq⟩ := ih hlong
    have hsum : Reader.separators (record :: records) =
        (record.length - 1) + Reader.separators records := by
      simp [Reader.separators]
    rw [hsum, length_cons, Nat.succ_mul]
    refine ⟨by omega, fun hmost => forall_mem_cons.mpr ⟨by omega, heq (by omega)⟩⟩

/-- As many records as lines, none of them shorter: then nothing is lost. -/
theorem good_of_lengths (hd : Delimits sep) (hnl : sep ∉ nl) (hk : 2 ≤ k)
    (hplain : ∀ l ∈ ls, l.Plain sep ∧ l.middle.length + 2 = k)
    (hlong : ∀ record ∈ read sep (render sep nl ls), k ≤ record.length)
    (hlength : (read sep (render sep nl ls)).length = ls.length) :
    Reader.Good sep k (between []) (render sep nl ls) := by
  have hcount := Reader.separators_final hd (render sep nl ls)
    (r := between []) (fun _ => rfl)
  rw [count_render hd hnl hplain] at hcount
  obtain ⟨hle, heq⟩ := separators_of_length (by omega) hlong
  rw [hlength] at hle heq
  have hnew : read sep (render sep nl ls) =
    (between []).final sep (render sep nl ls) := rfl
  have hzero : Reader.separators (between []).records + (between []).fields.length = 0 := rfl
  rw [hnew] at hle heq
  exact ⟨by omega, heq (by omega)⟩

theorem length_first_le (hd : Delimits sep) (hnl : sep ∉ nl) (hk : 2 ≤ k) {l : Line}
    (hplain : ∀ l' ∈ l :: ls, l'.Plain sep ∧ l'.middle.length + 2 = k)
    (hlong : ∀ record ∈ read sep (render sep nl (l :: ls)), k ≤ record.length)
    {names : List (Option (List Char))} (hlength : names.length = ls.length)
    (hheads : (read sep (render sep nl (l :: ls))).map head? = some name :: names) :
    name.length ≤ l.name.length := by
  have hcount := congrArg length hheads
  rw [length_map, length_cons, hlength] at hcount
  have hgood := good_of_lengths hd hnl hk hplain hlong hcount
  obtain ⟨rest, hrest⟩ := exists_render_eq sep nl l ls
  have htext : render sep nl (l :: ls) = l.name ++ sep :: rest := hrest l.name
  rw [htext] at hgood
  obtain ⟨v, hfold, hle, -⟩ := hgood.first hd hk (hplain l mem_cons_self).1.name.1
  have hfinal : read sep (render sep nl (l :: ls)) =
      (before [v] []).final sep rest := by
    rw [htext, append_cons, read, Reader.final_append]
    exact congrArg (Reader.final sep · rest) hfold
  rw [hfinal] at hheads
  obtain ⟨names', heq⟩ := Reader.Heads.begun (R := []) hheads
  cases heq
  exact hle

/-! ## 10. How legible lines are read -/

def fieldValue (sep : Char) (f : List Char) : List Char :=
  ((scan sep .startField f).map Prod.snd).getD f

/-- The record of a line; its last field depends on the end of the line. -/
def RecordOf (sep : Char) (l : Line) (record : List (List Char)) : Prop :=
  ∃ last, record = l.name :: l.middle.map (fieldValue sep) ++ [last]

theorem fieldValue_plain {f : List Char} (hd : sep ∉ f) (hquote : f.head? ≠ some '"')
    (hterm : ∀ c ∈ f, isTerminator c = false) : fieldValue sep f = f := by
  obtain ⟨m, hscan, -⟩ := scan_startField_plain hd hquote hterm
  unfold fieldValue
  rw [hscan]
  rfl

theorem foldl_name (hd : Delimits sep) (hname : sep ∉ name)
    (hquote : name.head? ≠ some '"') (hterm : ∀ c ∈ name, isTerminator c = false) :
    (name ++ [sep]).foldl (Reader.step sep) (between R) = before [name] R := by
  obtain ⟨m, hscan, hm⟩ := scan_startField_plain hname hquote hterm
  have hfold := foldl_field hd (r := before [] R) hscan hm
  cases name with
  | nil => exact Reader.step_endField (action_sep hd .startRecord)
  | cons c name =>
    rw [cons_append, foldl_cons, step_between (hterm c mem_cons_self)]
    exact hfold

theorem foldl_middle (hd : Delimits sep) {last : List Char}
    (hmids : ∀ f ∈ mids, sep ∉ f ∧ '\n' ∉ f) (h : ∀ f ∈ mids, Balanced f) (F : List (List Char)) :
    (before F R).final sep (fieldsText sep mids last ++ text) =
      (before (F ++ mids.map (fieldValue sep)) R).final sep (last ++ text) := by
  induction mids generalizing F with
  | nil =>
    rw [map_nil, append_nil]
    rfl
  | cons f mids ih =>
    obtain ⟨hf, hmids⟩ := forall_mem_cons.mp hmids
    obtain ⟨hbalanced, h⟩ := forall_mem_cons.mp h
    obtain ⟨m, v, hscan, hm⟩ := hbalanced.scan_eq hf.1 hf.2
    have hvalue : fieldValue sep f = v := by
      unfold fieldValue
      rw [hscan]
      rfl
    have hfold := foldl_field hd (r := before F R) hscan hm
    unfold fieldsText
    rw [append_assoc, cons_append, append_cons f, Reader.final_append, hfold,
      map_cons, hvalue, append_cons F v]
    exact ih hmids h (F ++ [v])

section Last

variable {f : List Char} (hd : Delimits sep) (hf : sep ∉ f ∧ '\n' ∉ f)

include hd hf

/-- A last field is scanned, or a `\r` in it ends the record and only `\r` follow. -/
theorem BalancedAtEnd.cases (h : BalancedAtEnd f) (F : List (List Char)) :
    (∃ m v, scan sep .startField f = some (m, v) ∧ m ≠ .inQuotedField) ∨
      ∃ v g n, f = g ++ replicate n '\r' ∧
        g.foldl (Reader.step sep) (before F R) = between (R ++ [F ++ [v]]) := by
  obtain ⟨g, n, rfl, hg⟩ := h
  obtain ⟨m, v, hscan, hm⟩ := hg.scan_eq (fun h => hf.1 (mem_append_left _ h))
    (fun h => hf.2 (mem_append_left _ h))
  cases n with
  | zero =>
    left
    rw [replicate_zero, append_nil]
    exact ⟨m, v, hscan, hm⟩
  | succ n =>
    right
    have hend : action sep m '\r' = .endRecord :=
      action_terminator hd (by decide) hm (scan_ne_startRecord hscan nofun)
    refine ⟨v, g ++ ['\r'], n, ?_, foldl_endRecord hscan hend⟩
    rw [replicate_succ, append_assoc]
    rfl

theorem foldl_last (h : BalancedAtEnd f) (F : List (List Char)) :
    ∃ v, (f ++ ['\n']).foldl (Reader.step sep) (before F R) = between (R ++ [F ++ [v]]) := by
  rcases h.cases hd hf (R := R) F with ⟨m, v, hscan, hm⟩ | ⟨v, g, n, rfl, hfold⟩
  · exact ⟨v, foldl_endRecord hscan
      (action_terminator hd (by decide) hm (scan_ne_startRecord hscan nofun))⟩
  · refine ⟨v, ?_⟩
    rw [append_assoc, foldl_append, hfold, foldl_returns n (.inr rfl)]

theorem final_last (h : Unclosed f ∨ BalancedAtEnd f) (hnl : nl = [] ∨ nl = ['\n'])
    (F : List (List Char)) : ∃ v, (before F R).final sep (f ++ nl) = R ++ [F ++ [v]] := by
  have hopen : ∀ m v, scan sep .startField f = some (m, v) →
      ∃ v, (before F R).final sep (f ++ nl) = R ++ [F ++ [v]] := by
    intro m v hscan
    have hm := scan_ne_startRecord hscan nofun
    rw [Reader.final_append, foldl_of_scan hscan]
    rcases hnl with rfl | rfl
    · exact ⟨v, Reader.final_nil hm⟩
    · rw [Reader.final_cons]
      by_cases hquoted : m = .inQuotedField
      · subst hquoted
        have haction : action sep .inQuotedField '\n' = .go .inQuotedField ['\n'] :=
          action_newline hd .inQuotedField
        rw [Reader.step_go haction]
        exact ⟨_, Reader.final_nil nofun⟩
      · rw [Reader.step_endRecord (action_terminator hd (by decide) hquoted hm)]
        exact ⟨v, rfl⟩
  rcases h with h | h
  · obtain ⟨v, hscan⟩ := h.scan_eq sep
    exact hopen _ v hscan
  · rcases h.cases hd hf (R := R) F with ⟨m, v, hscan, -⟩ | ⟨v, g, n, rfl, hfold⟩
    · exact hopen m v hscan
    · refine ⟨v, ?_⟩
      rw [append_assoc, Reader.final_append, hfold]
      unfold Reader.final
      rw [foldl_returns n hnl]
      rfl

end Last

theorem Line.Opens.final_text (hd : Delimits sep) {l : Line} (hl : l.Plain sep) (h : l.Opens) :
    (between R).final sep (l.text sep ++ text) =
      (before (l.name :: l.middle.map (fieldValue sep)) R).final sep
        (l.last ++ text) := by
  unfold Line.text
  rw [append_assoc, cons_append, append_cons l.name, Reader.final_append,
    foldl_name hd hl.name.1 h.unquoted ((noTerminator_iff hl.name.2).mpr h.noReturn),
    foldl_middle hd hl.middle h.balanced [l.name]]
  rfl

theorem Legible.final_render (hd : Delimits sep) (hnl : nl = [] ∨ nl = ['\n'])
    (hplain : ∀ l ∈ ls, l.Plain sep) (h : Legible ls) :
    ∃ records, (between R).final sep (render sep nl ls) = R ++ records ∧
      Forall₂ (RecordOf sep) ls records := by
  induction ls generalizing R with
  | nil => exact ⟨[], (append_nil R).symm, .nil⟩
  | cons l ls ih =>
    obtain ⟨hl, hrest⟩ := forall_mem_cons.mp hplain
    cases ls with
    | nil =>
      obtain ⟨hopens, hlast⟩ := h
      obtain ⟨v, hfinal⟩ := final_last hd hl.last hlast hnl
        (R := R) (l.name :: l.middle.map (fieldValue sep))
      refine ⟨_, ?_, .cons ⟨v, rfl⟩ .nil⟩
      rw [render, hopens.final_text hd hl, hfinal]
    | cons l' ls =>
      obtain ⟨hopens, hend, hmore⟩ := h
      obtain ⟨v, hfold⟩ := foldl_last hd hl.last hend
        (R := R) (l.name :: l.middle.map (fieldValue sep))
      obtain ⟨records, hfinal, hrecords⟩ := ih (R := R ++ [_]) hrest hmore
      refine ⟨_ :: records, ?_, .cons ⟨v, rfl⟩ hrecords⟩
      rw [render_cons_cons, hopens.final_text hd hl, append_cons l.last, Reader.final_append,
        hfold, hfinal, append_assoc]
      rfl

/-- Every line has its record, which begins with the line's first field, exactly if the lines are
    legible. -/
theorem read_render_iff (hd : Delimits sep) (hnl : nl = [] ∨ nl = ['\n']) (hk : 2 ≤ k)
    (hplain : ∀ l ∈ ls, l.Plain sep ∧ l.middle.length + 2 = k) :
    ((∀ record ∈ read sep (render sep nl ls), k ≤ record.length) ∧
        (read sep (render sep nl ls)).map head? = ls.map fun l => some l.name) ↔
      Legible ls := by
  have hnl' : sep ∉ nl := by
    rcases hnl with rfl | rfl
    · exact not_mem_nil
    · simpa using hd.ne_newline
  constructor
  · rintro ⟨hlong, hheads⟩
    have hlength := congrArg length hheads
    rw [length_map, length_map] at hlength
    exact legible_of_good hd hnl' hk hplain (good_of_lengths hd hnl' hk hplain hlong hlength)
      hheads
  · intro h
    obtain ⟨records, hfinal, hrecords⟩ := h.final_render hd hnl (R := []) fun l hl =>
      (hplain l hl).1
    have hread : read sep (render sep nl ls) = records := hfinal
    rw [hread]
    clear hread hfinal h
    induction hrecords with
    | nil => exact ⟨nofun, rfl⟩
    | cons hrecord hrest ih =>
      obtain ⟨hl, hplain⟩ := forall_mem_cons.mp hplain
      obtain ⟨hlong, hheads⟩ := ih hplain
      obtain ⟨last, rfl⟩ := hrecord
      refine ⟨forall_mem_cons.mpr ⟨?_, hlong⟩, ?_⟩
      · simp only [length_append, length_cons, length_map, length_nil]
        omega
      · rw [map_cons, map_cons, hheads]
        rfl

end Lines

end Himmelblau.Csv
