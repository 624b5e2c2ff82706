/-
  **The blocking client**, mirror of `DaemonClientBlocking::call_and_wait` of
  `common/src/client_sync.rs`, which the NSS and PAM modules use.

  The response has no length and no delimiter: the end of it is guessed from a read that does not
  fill the buffer.
-/
import Himmelblau.Codecs

namespace Himmelblau.BlockingClient

open Codecs List

/-! ## 1. `call_and_wait` -/

def bufferSize : ℕ := 1024

abbrev Buffer := { bytes : List UInt8 // bytes.length ≤ bufferSize }

def Buffer.filled (buffer : Buffer) : List UInt8 :=
  buffer.val ++ replicate (bufferSize - buffer.val.length) 0

/-- `wouldBlock` is also `TimedOut`: no data arrived within a second. -/
inductive ReadResult where
  | ok (bytes : Buffer)
  | wouldBlock
  | failed (e : String)
  deriving DecidableEq, Repr

/-- One round of the loop: the time since the start when it begins, what is read, and the time after
    that; `none` if the clock went back. -/
structure Round where
  durr : Option ℕ
  result : ReadResult
  durrAfter : Option ℕ
  deriving DecidableEq, Repr

inductive CallError where
  | encode
  | setup (e : String)
  | write (e : String)
  | clock
  | timedOut
  | read (e : String)
  | decode
  deriving DecidableEq, Repr

structure Stream where
  setReadTimeout : Option String
  setWriteTimeout : Option String
  writeAll : List UInt8 → Option String

structure LoopState where
  readStarted : Bool
  data : List UInt8
  counter : ℕ
  deriving DecidableEq, Repr

variable {Q R : Type} (requests : Codec Q) (C : Codec R) (timeout : ℕ)

def finish (s : LoopState) : Except CallError R :=
  match C.decode (s.data.take s.counter) with
  | some cr => .ok cr
  | none => .error .decode

/-- The loop; `none` if it is still waiting after these rounds. -/
def wait (s : LoopState) : List Round → Option (Except CallError R)
  | [] => none
  | round :: rounds =>
    match round.durr with
    | none => some (.error .clock)
    | some durr =>
      if timeout < durr then some (finish C s)
      else
        match round.result with
        | .ok buffer =>
          if buffer.val = [] then
            if s.readStarted then some (finish C s) else wait s rounds
          else
            let data := s.data ++ buffer.filled
            let counter := s.counter + buffer.val.length
            if buffer.val.length = bufferSize then wait ⟨true, data, counter⟩ rounds
            else some (finish C ⟨s.readStarted, data, counter⟩)
        | .wouldBlock =>
          match round.durrAfter with
          | none => some (.error .clock)
          | some durr => if timeout < durr then some (.error .timedOut) else wait s rounds
        | .failed e => some (.error (.read e))

def callAndWait (stream : Stream) (req : Q) (rounds : List Round) :
    Option (Except CallError R) :=
  match requests.encode req with
  | none => some (.error .encode)
  | some data =>
    match stream.setReadTimeout, stream.setWriteTimeout, stream.writeAll data with
    | some e, _, _ => some (.error (.setup e))
    | none, some e, _ => some (.error (.setup e))
    | none, none, some e => some (.error (.write e))
    | none, none, none => wait C timeout ⟨false, [], 0⟩ rounds

/-! ## 2. A response that arrives in time -/

variable {requests C timeout}

/-- The connection is open, and the time is not over: some bytes are read, or none arrived yet. -/
def Round.Open (timeout : ℕ) (round : Round) : Prop :=
  (∃ durr ≤ timeout, round.durr = some durr) ∧ (∃ durr ≤ timeout, round.durrAfter = some durr) ∧
    (round.result = .wouldBlock ∨ ∃ buffer : Buffer, buffer.val ≠ [] ∧ round.result = .ok buffer)

def chunks (rounds : List Round) : List (List UInt8) :=
  rounds.filterMap fun round =>
    match round.result with
    | .ok buffer => some buffer.val
    | _ => none

/-- Every read but the last fills the buffer, and the last does not. -/
def ShortAtTheEnd (reads : List (List UInt8)) : Prop :=
  ∃ full last, reads = full ++ [last] ∧ (∀ read ∈ full, read.length = bufferSize) ∧
    last.length ≠ bufferSize

section Reads

variable {read : List UInt8} {reads : List (List UInt8)}

theorem not_shortAtTheEnd_nil : ¬ShortAtTheEnd [] := by
  rintro ⟨full, last, heq, -⟩
  cases full <;> cases heq

theorem shortAtTheEnd_cons_full (h : read.length = bufferSize) :
    ShortAtTheEnd (read :: reads) ↔ ShortAtTheEnd reads := by
  constructor
  · rintro ⟨full, last, heq, hfull, hlast⟩
    cases full with
    | nil =>
      obtain ⟨rfl, -⟩ := cons.inj heq
      exact absurd h hlast
    | cons _ full =>
      obtain ⟨rfl, hreads⟩ := cons.inj heq
      exact ⟨full, last, hreads, fun r hr => hfull r (mem_cons_of_mem _ hr), hlast⟩
  · rintro ⟨full, last, rfl, hfull, hlast⟩
    exact ⟨read :: full, last, rfl, forall_mem_cons.mpr ⟨h, hfull⟩, hlast⟩

theorem shortAtTheEnd_cons_short (h : read.length ≠ bufferSize) :
    ShortAtTheEnd (read :: reads) ↔ reads = [] := by
  constructor
  · rintro ⟨full, last, heq, hfull, -⟩
    cases full with
    | nil => exact (cons.inj heq).2
    | cons _ full =>
      obtain ⟨rfl, -⟩ := cons.inj heq
      exact absurd (hfull read mem_cons_self) h
  · rintro rfl
    exact ⟨[], read, rfl, forall_mem_nil _, h⟩

end Reads

section Rounds

variable {s : LoopState} {round : Round} {rounds : List Round} {buffer : Buffer}

theorem wait_wouldBlock (hopen : round.Open timeout) (hresult : round.result = .wouldBlock) :
    wait C timeout s (round :: rounds) = wait C timeout s rounds := by
  obtain ⟨⟨durr, hdurr, htop⟩, ⟨durr', hdurr', hafter⟩, -⟩ := hopen
  rw [wait, htop, hresult, hafter]
  dsimp only
  rw [if_neg (Nat.not_lt.mpr hdurr), if_neg (Nat.not_lt.mpr hdurr')]

theorem wait_full (hopen : round.Open timeout) (hresult : round.result = .ok buffer)
    (hfull : buffer.val.length = bufferSize) :
    wait C timeout s (round :: rounds) =
      wait C timeout ⟨true, s.data ++ buffer.val, s.counter + buffer.val.length⟩ rounds := by
  obtain ⟨⟨durr, hdurr, htop⟩, -, -⟩ := hopen
  have hne : buffer.val ≠ [] := by
    intro hnil
    rw [hnil] at hfull
    cases hfull
  have hfilled : buffer.filled = buffer.val := by
    rw [Buffer.filled, hfull, Nat.sub_self]
    exact append_nil _
  rw [wait, htop, hresult]
  dsimp only
  rw [if_neg (Nat.not_lt.mpr hdurr), if_neg hne, if_pos hfull, hfilled]

theorem wait_short (hopen : round.Open timeout) (hresult : round.result = .ok buffer)
    (hne : buffer.val ≠ []) (hshort : buffer.val.length ≠ bufferSize) :
    wait C timeout s (round :: rounds) =
      some (finish C ⟨s.readStarted, s.data ++ buffer.filled, s.counter + buffer.val.length⟩) := by
  obtain ⟨⟨durr, hdurr, htop⟩, -, -⟩ := hopen
  rw [wait, htop, hresult]
  dsimp only
  rw [if_neg (Nat.not_lt.mpr hdurr), if_neg hne, if_neg hshort]

theorem finish_eq_ok_iff (hcounter : s.counter = s.data.length) {response : R} {enc : List UInt8}
    (henc : C.encode response = some enc) (hstarts : s.data ++ buffer.val <+: enc) :
    finish C ⟨s.readStarted, s.data ++ buffer.filled, s.counter + buffer.val.length⟩ =
      .ok response ↔ s.data ++ buffer.val = enc := by
  have htaken : (s.data ++ buffer.filled).take (s.counter + buffer.val.length) =
      s.data ++ buffer.val := by
    rw [hcounter, Buffer.filled, ← append_assoc, ← length_append, take_left]
  unfold finish
  dsimp only
  rw [htaken]
  by_cases heq : s.data ++ buffer.val = enc
  · rw [heq, C.decode_encode henc]
    exact iff_of_true rfl rfl
  · rw [Codec.decode_prefix_eq_none henc hstarts heq]
    exact iff_of_false nofun heq

theorem ne_nil_of_mem_chunks (hopen : ∀ round ∈ rounds, round.Open timeout) {read : List UInt8}
    (h : read ∈ chunks rounds) : read ≠ [] := by
  obtain ⟨round, hround, hread⟩ := mem_filterMap.mp h
  obtain ⟨-, -, hresult | ⟨buffer, hne, hresult⟩⟩ := hopen round hround
  · rw [hresult] at hread
    cases hread
  · rw [hresult] at hread
    cases hread
    exact hne

/-- By induction on the rounds, while the buffer was filled each time: what is collected is what
    was received. -/
theorem wait_eq_ok_iff {response : R} {enc : List UInt8} (henc : C.encode response = some enc)
    (hopen : ∀ round ∈ rounds, round.Open timeout) (hcounter : s.counter = s.data.length)
    (hbytes : s.data ++ (chunks rounds).flatten = enc) :
    wait C timeout s rounds = some (.ok response) ↔ ShortAtTheEnd (chunks rounds) := by
  induction rounds generalizing s with
  | nil => exact iff_of_false nofun not_shortAtTheEnd_nil
  | cons round rounds ih =>
    obtain ⟨hround, hrounds⟩ := forall_mem_cons.mp hopen
    rcases hround.2.2 with hresult | ⟨buffer, hne, hresult⟩
    · have hchunks : chunks (round :: rounds) = chunks rounds := by
        unfold chunks
        rw [filterMap_cons_none (by rw [hresult])]
      rw [wait_wouldBlock hround hresult, hchunks]
      exact ih hrounds hcounter (hchunks ▸ hbytes)
    · have hchunks : chunks (round :: rounds) = buffer.val :: chunks rounds := by
        unfold chunks
        rw [filterMap_cons_some (by rw [hresult])]
      rw [hchunks, flatten_cons, ← append_assoc] at hbytes
      rw [hchunks]
      by_cases hfull : buffer.val.length = bufferSize
      · rw [wait_full hround hresult hfull, shortAtTheEnd_cons_full hfull]
        refine ih hrounds ?_ hbytes
        rw [hcounter, length_append]
      · rw [wait_short hround hresult hne hfull, shortAtTheEnd_cons_short hfull, Option.some.injEq,
          finish_eq_ok_iff hcounter henc ⟨_, hbytes⟩, ← hbytes, self_eq_append_right,
          flatten_eq_nil_iff]
        constructor
        · intro hall
          refine eq_nil_iff_forall_not_mem.mpr fun read hread => ?_
          exact ne_nil_of_mem_chunks hrounds hread (hall read hread)
        · intro hnil read hread
          rw [hnil] at hread
          cases hread

end Rounds

/-! ## 3. The call -/

def Sends (requests : Codec Q) (stream : Stream) (req : Q) : Prop :=
  ∃ data, requests.encode req = some data ∧ stream.setReadTimeout = none ∧
    stream.setWriteTimeout = none ∧ stream.writeAll data = none

/-- **The wire format of the blocking client.**  A response that arrives in time is returned exactly
    if every read but the last fills the buffer and the last does not. -/
theorem callAndWait_eq_ok_iff {stream : Stream} {req : Q} (hsent : Sends requests stream req)
    {response : R} {enc : List UInt8} (henc : C.encode response = some enc) {rounds : List Round}
    (hopen : ∀ round ∈ rounds, round.Open timeout) (hbytes : (chunks rounds).flatten = enc) :
    callAndWait requests C timeout stream req rounds = some (.ok response) ↔
      ShortAtTheEnd (chunks rounds) := by
  obtain ⟨data, hdata, hread, hwrite, hsend⟩ := hsent
  unfold callAndWait
  rw [hdata]
  dsimp only
  rw [hread, hwrite, hsend]
  exact wait_eq_ok_iff henc hopen rfl hbytes

/-! Numbers in unary notation -/

def readyStream : Stream := ⟨none, none, fun _ => none⟩

def readOf (bytes : List UInt8) (h : bytes.length ≤ bufferSize) : Round :=
  ⟨some 0, .ok ⟨bytes, h⟩, some 0⟩

theorem readOf_open {bytes : List UInt8} (h : bytes.length ≤ bufferSize) (hbytes : bytes ≠ []) :
    (readOf bytes h).Open 60 :=
  ⟨⟨0, Nat.zero_le _, rfl⟩, ⟨0, Nat.zero_le _, rfl⟩, .inr ⟨_, hbytes, rfl⟩⟩

/-- The number 1030 comes in a full read, a wait and a read of the rest. -/
theorem callAndWait_in_two_reads :
    callAndWait unary unary 60 readyStream 0
      [readOf (replicate bufferSize 1) (by decide +kernel), ⟨some 1, .wouldBlock, some 2⟩,
        readOf [1, 1, 1, 1, 1, 1, 0] (by decide)] = some (.ok 1030) := by
  have henc : unary.encode 1030 = some (unaryEncode 1030) := rfl
  refine (callAndWait_eq_ok_iff ⟨_, rfl, rfl, rfl, rfl⟩ henc ?_ (by decide +kernel)).mpr
    ⟨[replicate bufferSize 1], [1, 1, 1, 1, 1, 1, 0], rfl, by simp, by decide⟩
  simp only [forall_mem_cons]
  refine ⟨readOf_open _ (cons_ne_nil _ _), ?_, readOf_open _ (cons_ne_nil _ _), nofun⟩
  exact ⟨⟨1, by decide, rfl⟩, ⟨2, by decide, rfl⟩, .inl rfl⟩

/-- The number 1023, whose encoding fills the buffer once, is waited for until the time is over; and
    the number one is not read if its bytes arrive one by one. -/
theorem callAndWait_misses_the_end :
    let full := readOf (unaryEncode 1023) (by decide +kernel)
    let silence : Round := ⟨some 59, .wouldBlock, some 60⟩
    let overdue : Round := ⟨some 60, .wouldBlock, some 61⟩
    callAndWait unary unary 60 readyStream 0 [full, silence] = none ∧
      callAndWait unary unary 60 readyStream 0 [full, silence, overdue] = some (.error .timedOut) ∧
      callAndWait unary unary 60 readyStream 0
        [readOf [1] (by decide), readOf [0] (by decide)] = some (.error .decode) := by
  decide +kernel

end Himmelblau.BlockingClient
