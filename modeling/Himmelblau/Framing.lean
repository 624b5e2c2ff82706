/-
  **The messages on the sockets**, mirror of `ClientCodec` and `TaskCodec` of
  `daemon/src/daemon.rs`, `daemon/src/tasks_daemon.rs` and `common/src/client.rs`, which differ only
  in the types of the messages, and of `Framed`, which feeds them.

  The whole buffer is parsed as one JSON value, and every failure to do so means that more bytes are
  needed.
-/
import Himmelblau.Codecs

namespace Himmelblau.Framing

open Codecs List

variable {M : Type} (C : Codec M)

/-! ## 1. The codecs -/

/-- `encode`: the message is put behind what is still to be sent. -/
def encode (dst : List UInt8) (msg : M) : Except String (List UInt8) :=
  match C.encode msg with
  | some data => .ok (dst ++ data)
  | none => .error "JSON encode error"

def decode (src : List UInt8) : Except String (Option M) × List UInt8 :=
  match C.decode src with
  | some msg => (.ok (some msg), [])
  | none => (.ok none, src)

/-- What `Framed` yields from the buffer before it reads again.  After a message the buffer is
    empty, which is no JSON value. -/
def items (src : List UInt8) : List (Except String M) × List UInt8 :=
  match decode C src with
  | (.ok (some msg), src) => ([.ok msg], src)
  | (.ok none, src) => ([], src)
  | (.error e, src) => ([.error e], src)

def run (src : List UInt8) : List (List UInt8) → List (Except String M) × List UInt8
  | [] => ([], src)
  | chunk :: chunks =>
    ((items C (src ++ chunk)).1 ++ (run (items C (src ++ chunk)).2 chunks).1,
      (run (items C (src ++ chunk)).2 chunks).2)

variable {C} {msg : M} {msgs : List M} {enc src chunk : List UInt8}
  {encs chunks : List (List UInt8)}

theorem items_of_some (h : C.decode src = some msg) : items C src = ([.ok msg], []) := by
  unfold items decode
  rw [h]

theorem items_of_none (h : C.decode src = none) : items C src = ([], src) := by
  unfold items decode
  rw [h]

theorem foldlM_encode (h : C.Encodes msgs encs) (dst : List UInt8) :
    msgs.foldlM (encode C) dst = .ok (dst ++ encs.flatten) := by
  induction h generalizing dst with
  | nil =>
    rw [flatten_nil, append_nil]
    rfl
  | @cons msg enc msgs encs henc _ ih =>
    have hfirst : encode C dst msg = .ok (dst ++ enc) := by
      unfold encode
      rw [henc]
    rw [foldlM_cons, hfirst, flatten_cons, ← append_assoc]
    exact ih (dst ++ enc)

theorem isOk_of_mem_run {item : Except String M} (h : item ∈ (run C src chunks).1) :
    ∃ msg, item = .ok msg := by
  induction chunks generalizing src with
  | nil => cases h
  | cons chunk chunks ih =>
    rcases mem_append.mp h with hnow | hlater
    · cases hdecode : C.decode (src ++ chunk) with
      | none =>
        rw [items_of_none hdecode] at hnow
        cases hnow
      | some msg =>
        rw [items_of_some hdecode] at hnow
        exact ⟨msg, mem_singleton.mp hnow⟩
    · exact ih hlater

/-! ## 2. Messages in time -/

/-- How many of the messages are complete in the first `n` bytes. -/
def arrived : List (List UInt8) → ℕ → ℕ
  | [], _ => 0
  | enc :: encs, n => if enc.length ≤ n then arrived encs (n - enc.length) + 1 else 0

/-- At any time, what has been yielded is the messages that have arrived. -/
def InTime (C : Codec M) (msgs : List M) (encs : List (List UInt8)) (src : List UInt8)
    (chunks : List (List UInt8)) : Prop :=
  ∀ before after, chunks = before ++ after → (run C src before).1 =
    (msgs.take (arrived encs (src.length + before.flatten.length))).map .ok

def Aligned (encs : List (List UInt8)) (src : List UInt8) (chunks : List (List UInt8)) : Prop :=
  ∀ i, 0 < i → i ≤ encs.length → ∃ before after, chunks = before ++ after ∧
    src.length + before.flatten.length = (encs.take i).flatten.length

def Unfinished (encs : List (List UInt8)) (src : List UInt8) : Prop :=
  match encs with
  | [] => src = []
  | enc :: _ => src.length < enc.length

theorem arrived_of_lt {n : ℕ} (h : n < enc.length) : arrived (enc :: encs) n = 0 := by
  rw [arrived, if_neg (Nat.not_le.mpr h)]

theorem arrived_add (n : ℕ) : arrived (enc :: encs) (enc.length + n) = arrived encs n + 1 := by
  rw [arrived, if_pos (Nat.le_add_right _ _), Nat.add_sub_cancel_left]

/-! ## 3. One chunk -/

section Splits

variable {α : Type} {a : α} {l : List α} {Q : List α → Prop}

theorem forall_split_cons :
    (∀ before after, a :: l = before ++ after → Q before) ↔
      Q [] ∧ ∀ before after, l = before ++ after → Q (a :: before) := by
  constructor
  · intro h
    exact ⟨h [] _ rfl, fun before after heq => h (a :: before) after (congrArg (a :: ·) heq)⟩
  · rintro ⟨hnil, hcons⟩ before after heq
    cases before with
    | nil => exact hnil
    | cons b before =>
      obtain ⟨rfl, hrest⟩ := cons.inj heq
      exact hcons before after hrest

theorem exists_split_cons :
    (∃ before after, a :: l = before ++ after ∧ Q before) ↔
      Q [] ∨ ∃ before after, l = before ++ after ∧ Q (a :: before) := by
  constructor
  · rintro ⟨before, after, heq, hq⟩
    cases before with
    | nil => exact .inl hq
    | cons b before =>
      obtain ⟨rfl, hrest⟩ := cons.inj heq
      exact .inr ⟨before, after, hrest, hq⟩
  · rintro (hnil | ⟨before, after, heq, hq⟩)
    · exact ⟨[], _, rfl, hnil⟩
    · exact ⟨a :: before, after, congrArg (a :: ·) heq, hq⟩

end Splits

theorem inTime_of_lt (hdecode : C.decode (src ++ chunk) = none)
    (h : src.length + chunk.length < enc.length) :
    InTime C (msg :: msgs) (enc :: encs) src (chunk :: chunks) ↔
      InTime C (msg :: msgs) (enc :: encs) (src ++ chunk) chunks := by
  have hstart : src.length + ([] : List (List UInt8)).flatten.length < enc.length := by
    simp only [flatten_nil, length_nil]
    omega
  unfold InTime
  rw [forall_split_cons, and_iff_right (by rw [arrived_of_lt hstart]; rfl)]
  simp only [run, items_of_none hdecode, nil_append, flatten_cons, length_append,
    Nat.add_assoc]

theorem length_le_flatten_take {i : ℕ} (hi : 0 < i) :
    enc.length ≤ (((enc :: encs).take i).flatten).length := by
  obtain ⟨j, rfl⟩ := Nat.exists_eq_succ_of_ne_zero (Nat.ne_of_gt hi)
  rw [take_succ_cons, flatten_cons, length_append]
  exact Nat.le_add_right _ _

theorem aligned_of_lt (h : src.length + chunk.length < enc.length) :
    Aligned (enc :: encs) src (chunk :: chunks) ↔ Aligned (enc :: encs) (src ++ chunk) chunks := by
  unfold Aligned
  refine forall_congr' fun i => forall_congr' fun hi => forall_congr' fun _ => ?_
  have hend : enc.length ≤ (((enc :: encs).take i).flatten).length := length_le_flatten_take hi
  rw [exists_split_cons, or_iff_right (by simp only [flatten_nil, length_nil]; omega)]
  simp only [flatten_cons, length_append, Nat.add_assoc]

theorem inTime_of_eq (hdecode : C.decode (src ++ chunk) = some msg) (hsrc : src.length < enc.length)
    (h : src.length + chunk.length = enc.length) :
    InTime C (msg :: msgs) (enc :: encs) src (chunk :: chunks) ↔ InTime C msgs encs [] chunks := by
  have hstart : src.length + ([] : List (List UInt8)).flatten.length < enc.length := hsrc
  unfold InTime
  rw [forall_split_cons, and_iff_right (by rw [arrived_of_lt hstart]; rfl)]
  simp only [run, items_of_some hdecode, flatten_cons, length_append, length_nil,
    Nat.zero_add, ← Nat.add_assoc, h, arrived_add, take_succ_cons, map_cons,
    singleton_append, cons.injEq, true_and]

theorem aligned_of_eq (hsrc : src.length < enc.length)
    (h : src.length + chunk.length = enc.length) :
    Aligned (enc :: encs) src (chunk :: chunks) ↔ Aligned encs [] chunks := by
  have hshift : ∀ i, (∃ before after, chunk :: chunks = before ++ after ∧
      src.length + before.flatten.length = (((enc :: encs).take (i + 1)).flatten).length) ↔
      ∃ before after, chunks = before ++ after ∧
        ([] : List UInt8).length + before.flatten.length = ((encs.take i).flatten).length := by
    intro i
    have hend : enc.length ≤ (((enc :: encs).take (i + 1)).flatten).length :=
      length_le_flatten_take (Nat.succ_pos i)
    rw [exists_split_cons, or_iff_right (by simp only [flatten_nil, length_nil]; omega)]
    simp only [take_succ_cons, flatten_cons, length_append, length_nil,
      Nat.zero_add, ← Nat.add_assoc, h, Nat.add_left_cancel_iff]
  constructor
  · intro haligned i _ hle
    exact (hshift i).mp (haligned (i + 1) (Nat.succ_pos i) (Nat.succ_le_succ hle))
  · intro haligned i hi hle
    obtain ⟨j, rfl⟩ := Nat.exists_eq_succ_of_ne_zero (Nat.ne_of_gt hi)
    refine (hshift j).mpr ?_
    by_cases hj : j = 0
    · exact ⟨[], chunks, rfl, by rw [hj]; rfl⟩
    · exact haligned j (Nat.pos_of_ne_zero hj) (Nat.le_of_succ_le_succ hle)

/-- A chunk that goes on after the first message: it is not decoded, then or later. -/
theorem not_inTime_of_gt (hdecode : C.decode (src ++ chunk) = none)
    (h : enc.length < src.length + chunk.length) :
    ¬InTime C (msg :: msgs) (enc :: encs) src (chunk :: chunks) := by
  intro hin
  have hnow := hin [chunk] chunks rfl
  obtain ⟨n, hn⟩ := Nat.exists_eq_add_of_lt h
  have hlength : src.length + [chunk].flatten.length = enc.length + (n + 1) := by
    simp only [flatten_cons, flatten_nil, append_nil]
    omega
  rw [hlength, arrived_add, take_succ_cons, map_cons] at hnow
  simp only [run, items_of_none hdecode] at hnow
  cases hnow

theorem not_aligned_of_gt (hsrc : src.length < enc.length)
    (h : enc.length < src.length + chunk.length) :
    ¬Aligned (enc :: encs) src (chunk :: chunks) := by
  intro haligned
  have hfirst := haligned 1 Nat.one_pos (Nat.succ_le_succ (Nat.zero_le _))
  rw [exists_split_cons] at hfirst
  simp only [take_succ_cons, take_zero, flatten_cons, flatten_nil,
    length_append, length_nil] at hfirst
  rcases hfirst with hstart | ⟨before, after, -, hend⟩
  · omega
  · omega

/-! ## 4. The whole stream -/

theorem unfinished_nil (h : C.Encodes msgs encs) : Unfinished encs [] := by
  cases h with
  | nil => rfl
  | cons henc _ => exact length_pos_iff.mpr (Codec.encode_ne_nil henc)

/-- By induction on the chunks: the buffer is always a proper part of the next message. -/
theorem inTime_iff_aligned (hencs : C.Encodes msgs encs) (hne : ∀ chunk ∈ chunks, chunk ≠ [])
    (hsrc : Unfinished encs src) (hbytes : src ++ chunks.flatten = encs.flatten) :
    InTime C msgs encs src chunks ↔ Aligned encs src chunks := by
  induction chunks generalizing src msgs encs with
  | nil =>
    cases hencs with
    | nil =>
      refine iff_of_true ?_ fun i hi hle => absurd hi (Nat.not_lt.mpr hle)
      intro before after heq
      obtain ⟨rfl, -⟩ := append_eq_nil_iff.mp heq.symm
      rfl
    | cons henc hrest =>
      have hlength := congrArg length hbytes
      simp only [flatten_nil, append_nil, flatten_cons,
        length_append] at hlength
      exact absurd hsrc (by unfold Unfinished; omega)
  | cons chunk chunks ih =>
    have hlater : ∀ c ∈ chunks, c ≠ [] := fun c hc => hne c (mem_cons_of_mem chunk hc)
    rw [flatten_cons, ← append_assoc] at hbytes
    cases hencs with
    | nil =>
      have hnil := append_eq_nil_iff.mp (append_eq_nil_iff.mp hbytes).1
      exact absurd hnil.2 (hne chunk mem_cons_self)
    | @cons msg enc msgs encs henc hrest =>
      have hstream : C.Encodes (msg :: msgs) (enc :: encs) := .cons henc hrest
      have hpart : src ++ chunk <+: enc ++ encs.flatten := ⟨chunks.flatten, hbytes⟩
      have hlength : (src ++ chunk).length = src.length + chunk.length := length_append
      rcases Nat.lt_trichotomy (src.length + chunk.length) enc.length with hlt | heq | hgt
      · have hdecode : C.decode (src ++ chunk) = none :=
          Codec.decode_eq_none hstream hpart fun h => by rw [h] at hlength; omega
        rw [inTime_of_lt hdecode hlt, aligned_of_lt hlt]
        exact ih hstream hlater (Nat.lt_of_le_of_lt (Nat.le_of_eq hlength) hlt) hbytes
      · -- the buffer is the first message
        have hwhole : src ++ chunk = enc :=
          (append_inj hbytes (hlength.trans heq)).1
        have hdecode : C.decode (src ++ chunk) = some msg := hwhole ▸ C.decode_encode henc
        rw [inTime_of_eq hdecode hsrc heq, aligned_of_eq hsrc heq]
        refine ih hrest hlater (unfinished_nil hrest) ?_
        exact (append_inj hbytes (hlength.trans heq)).2
      · have hdecode : C.decode (src ++ chunk) = none :=
          Codec.decode_eq_none hstream hpart fun h => by rw [h] at hlength; omega
        exact iff_of_false (not_inTime_of_gt hdecode hgt) (not_aligned_of_gt hsrc hgt)

/-- No continuation of the bytes is a stream of messages. -/
def Malformed (C : Codec M) (bytes : List UInt8) : Prop :=
  ∀ msgs encs, C.Encodes msgs encs → ¬bytes <+: encs.flatten

/-- The messages of a stream are yielded as they arrive, and a malformed stream is reported. -/
structure Handled (C : Codec M) (chunks : List (List UInt8)) : Prop where
  messages : ∀ msgs encs, C.Encodes msgs encs → msgs.foldlM (encode C) [] = .ok chunks.flatten →
    InTime C msgs encs [] chunks
  malformed : Malformed C chunks.flatten → ∃ e, .error e ∈ (run C [] chunks).1

/-- **Decoding undoes encoding** exactly for well-formed streams whose messages all end where a
    chunk ends. -/
theorem handled_iff (C : Codec M) {chunks : List (List UInt8)}
    (hne : ∀ chunk ∈ chunks, chunk ≠ []) :
    Handled C chunks ↔ ¬Malformed C chunks.flatten ∧ ∀ msgs encs, C.Encodes msgs encs →
      msgs.foldlM (encode C) [] = .ok chunks.flatten → Aligned encs [] chunks := by
  have hiff : ∀ msgs encs, C.Encodes msgs encs → msgs.foldlM (encode C) [] = .ok chunks.flatten →
      (InTime C msgs encs [] chunks ↔ Aligned encs [] chunks) := by
    intro msgs encs hencs hsent
    rw [foldlM_encode hencs] at hsent
    exact inTime_iff_aligned hencs hne (unfinished_nil hencs) (Except.ok.inj hsent).symm
  constructor
  · intro h
    constructor
    · intro hmalformed
      obtain ⟨e, he⟩ := h.malformed hmalformed
      obtain ⟨msg, hmsg⟩ := isOk_of_mem_run he
      cases hmsg
    · intro msgs encs hencs hbytes
      exact (hiff msgs encs hencs hbytes).mp (h.messages msgs encs hencs hbytes)
  · rintro ⟨hwell, haligned⟩
    refine ⟨fun msgs encs hencs hsent => ?_, fun hmalformed => absurd hmalformed hwell⟩
    exact (hiff msgs encs hencs hsent).mpr (haligned msgs encs hencs hsent)

/-! Two numbers in unary notation -/

theorem malformed_of_head {bytes : List UInt8} {b : UInt8} (hone : b ≠ 1) (hzero : b ≠ 0) :
    Malformed unary (b :: bytes) := by
  intro msgs encs hencs hstarts
  cases hencs with
  | nil => cases prefix_nil.mp hstarts
  | @cons n enc msgs encs henc _ =>
    cases henc
    cases n with
    | zero => exact hzero (cons_prefix_cons.mp hstarts).1
    | succ n => exact hone (cons_prefix_cons.mp hstarts).1

theorem handled_bytewise : Handled unary [[1], [0], [0]] := by
  refine (handled_iff unary (by decide)).mpr ⟨fun hmalformed => ?_, ?_⟩
  · exact hmalformed [1, 0] [[1, 0], [0]] (.cons rfl (.cons rfl .nil)) (prefix_refl _)
  · intro msgs encs hencs hsent i _ _
    rw [foldlM_encode hencs, nil_append] at hsent
    have hle : ((encs.take i).flatten).length ≤ 3 := by
      have hall := congrArg length (Except.ok.inj hsent).symm
      rw [← take_append_drop i encs, flatten_append, length_append] at hall
      have hthree : ([[1], [0], [0]] : List (List UInt8)).flatten.length = 3 := rfl
      omega
    -- the chunks end everywhere
    generalize ((encs.take i).flatten).length = n at hle
    match n, hle with
    | 0, _ => exact ⟨[], [[1], [0], [0]], rfl, rfl⟩
    | 1, _ => exact ⟨[[1]], [[0], [0]], rfl, rfl⟩
    | 2, _ => exact ⟨[[1], [0]], [[0]], rfl, rfl⟩
    | 3, _ => exact ⟨[[1], [0], [0]], [], rfl, rfl⟩

/-- In one chunk two messages are never yielded, and bytes that begin no message are waited on. -/
theorem coalesced_messages_lost :
    unary.Encodes [0, 0] [[0], [0]] ∧ (run unary [] [[0, 0]]).1 = [] ∧
      (run unary [] [[0, 0], [0], [0]]).1 = [] ∧ Malformed unary [7] ∧
      (run unary [] [[7]]).1 = [] :=
  ⟨.cons rfl (.cons rfl .nil), rfl, rfl, malformed_of_head (by decide) (by decide), rfl⟩

end Himmelblau.Framing
