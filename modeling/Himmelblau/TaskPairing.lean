/-
  **What the wires between the two daemons carry.**  On one connection the requests that were
  written, the requests that were handled and the answers that were given are paired by their
  position, and the wires carry at most one message, the one that is missing in the pairing.
-/
import Himmelblau.TaskQueue

namespace Himmelblau.TaskQueue

open Codecs TaskDaemon Wires

variable {F : Type} {P : Tasking F} {S S' : State F} {conn conn' : Conn}

/-! ## 1. The history of a connection -/

section History

variable (k : ℕ) (trace : List (Event F))

/-- The requests that were written as a whole on a connection, with their callers. -/
def wroteOn : List (ℕ × TaskRequest) :=
  trace.filterMap fun
    | .wrote j c r => if j = k then some (c, r) else none
    | _ => none

/-- The requests that were handled at the other end, each in a state of the machine. -/
def handledOn : List (TaskRequest × F) :=
  trace.filterMap fun
    | .handled j r m => if j = k then some (r, m) else none
    | _ => none

def answeredOn : List (ℕ × TaskOutcome) :=
  trace.filterMap fun
    | .answered j c o => if j = k then some (c, o) else none
    | _ => none

end History

variable {k : ℕ} {r : TaskRequest} {trace : List (Event F)}

theorem mem_wroteOn {c : ℕ} : (c, r) ∈ wroteOn k trace ↔ .wrote k c r ∈ trace := by
  unfold wroteOn
  rw [List.mem_filterMap]
  constructor
  · rintro ⟨e, he, heq⟩
    cases e with
    | wrote j c' r' =>
      by_cases hj : j = k
      · simp only [hj, if_true] at heq
        cases heq
        exact hj ▸ he
      · simp [hj] at heq
    | queued | requeued | handled | answered => cases heq
  · intro h
    exact ⟨_, h, if_pos rfl⟩

/-- The histories of a connection, with what an event adds to them. -/
structure Histories (F : Type) where
  wrote : List (ℕ × TaskRequest)
  handled : List (TaskRequest × F)
  answered : List (ℕ × TaskOutcome)

def historiesOn (k : ℕ) (trace : List (Event F)) : Histories F :=
  ⟨wroteOn k trace, handledOn k trace, answeredOn k trace⟩

def Event.apart (k : ℕ) : Event F → Prop
  | .wrote j _ _ | .handled j _ _ | .answered j _ _ => j ≠ k
  | _ => True

theorem historiesOn_apart {e : Event F} (h : e.apart k) :
    historiesOn k (trace ++ [e]) = historiesOn k trace := by
  unfold historiesOn wroteOn handledOn answeredOn
  cases e with
  | queued | requeued => simp
  | wrote j | handled j | answered j =>
    have hne : j ≠ k := h
    simp [hne]

theorem historiesOn_wrote (c : ℕ) : historiesOn k (trace ++ [.wrote k c r]) =
      { historiesOn k trace with wrote := (historiesOn k trace).wrote ++ [(c, r)] } := by
  simp [historiesOn, wroteOn, handledOn, answeredOn]

theorem historiesOn_handled (m : F) : historiesOn k (trace ++ [.handled k r m]) =
      { historiesOn k trace with handled := (historiesOn k trace).handled ++ [(r, m)] } := by
  simp [historiesOn, wroteOn, handledOn, answeredOn]

theorem historiesOn_answered (c : ℕ) (o : TaskOutcome) :
    historiesOn k (trace ++ [.answered k c o]) =
      { historiesOn k trace with answered := (historiesOn k trace).answered ++ [(c, o)] } := by
  simp [historiesOn, wroteOn, handledOn, answeredOn]

/-! ## 2. What the wires carry -/

/-- As many requests were written, handled and answered, the one after the other, each answer for
    the caller of the request. -/
inductive Matched (P : Tasking F) : Histories F → Prop
  | nil : Matched P ⟨[], [], []⟩
  | snoc {W : List (ℕ × TaskRequest)} {H : List (TaskRequest × F)} {A : List (ℕ × TaskOutcome)}
      (h : Matched P ⟨W, H, A⟩) (c : ℕ) (r : TaskRequest) (m : F) :
      Matched P ⟨W ++ [(c, r)], H ++ [(r, m)], A ++ [(c, .ofResponse (P.handle r m).1)]⟩

/-- The tasks daemon waits for a request, if it is there. -/
def Conn.listens (conn : Conn) : Prop := conn.tasks = .reading ∨ conn.tasks = .gone

structure Idle (P : Tasking F) (conn : Conn) (h : Histories F) : Prop where
  matched : Matched P h
  requests : conn.requests.content = []
  responses : conn.responses.content = []
  listens : conn.listens

/-- A request is being written, or was given up before its end. -/
structure Sending (P : Tasking F) (r : TaskRequest) (conn : Conn) (h : Histories F) : Prop where
  matched : Matched P h
  requests : P.requests.encode r = some conn.requests.content
  unsent : conn.requests.unsent ≠ []
  responses : conn.responses.content = []
  listens : conn.listens

/-- The request of a caller was written and has not been answered. -/
inductive Waiting (P : Tasking F) (c : ℕ) (r : TaskRequest) (conn : Conn) : Histories F → Prop
  | requested {W : List (ℕ × TaskRequest)} {H : List (TaskRequest × F)}
      {A : List (ℕ × TaskOutcome)} (matched : Matched P ⟨W, H, A⟩)
      (requests : P.requests.encode r = some conn.requests.content)
      (unsent : conn.requests.unsent = []) (responses : conn.responses.content = [])
      (listens : conn.listens) : Waiting P c r conn ⟨W ++ [(c, r)], H, A⟩
  | working {W : List (ℕ × TaskRequest)} {H : List (TaskRequest × F)}
      {A : List (ℕ × TaskOutcome)} (matched : Matched P ⟨W, H, A⟩)
      (requests : conn.requests.content = []) (responses : conn.responses.content = [])
      (tasks : conn.tasks = .working r ∨ conn.tasks = .gone) :
      Waiting P c r conn ⟨W ++ [(c, r)], H, A⟩
  | replied {W : List (ℕ × TaskRequest)} {H : List (TaskRequest × F)}
      {A : List (ℕ × TaskOutcome)} {m : F} (matched : Matched P ⟨W, H, A⟩)
      (requests : conn.requests.content = [])
      (responses : P.responses.encode (P.handle r m).1 = some conn.responses.content)
      (tasks : (conn.tasks = .replying ∧ conn.responses.unsent ≠ []) ∨
        (conn.tasks = .reading ∧ conn.responses.unsent = []) ∨ conn.tasks = .gone) :
      Waiting P c r conn ⟨W ++ [(c, r)], H ++ [(r, m)], A⟩
  | failed {W : List (ℕ × TaskRequest)} {H : List (TaskRequest × F)}
      {A : List (ℕ × TaskOutcome)} {m : F} (matched : Matched P ⟨W, H, A⟩)
      (requests : conn.requests.content = []) (responses : conn.responses.content = [])
      (tasks : conn.tasks = .gone) : Waiting P c r conn ⟨W ++ [(c, r)], H ++ [(r, m)], A⟩

/-- A connection that the worker may have left. -/
def Known (P : Tasking F) (conn : Conn) (h : Histories F) : Prop :=
  Idle P conn h ∨ (∃ r, Sending P r conn h) ∨ ∃ c r, Waiting P c r conn h

/-! ## 3. The ends of a connection -/

section Ends

variable {h : Histories F} {r : TaskRequest} {c : ℕ}

theorem Idle.move (hidle : Idle P conn h) (hmove : TasksMove P conn conn') : Idle P conn' h := by
  cases hmove with
  | readNone n htasks hnone =>
    obtain ⟨_, hcontent⟩ := Wire.read_nothing (C := P.requests) hidle.requests n
    exact ⟨hidle.matched, hcontent, hidle.responses, Or.inl htasks⟩
  | readSome n _ hsome =>
    rw [(Wire.read_nothing hidle.requests n).1] at hsome
    cases hsome
  | reply n htasks => rcases hidle.listens with h | h <;> cases htasks.symm.trans h
  | go => exact ⟨hidle.matched, hidle.requests, hidle.responses, Or.inr rfl⟩

theorem Sending.move (hsend : Sending P r conn h) (hmove : TasksMove P conn conn') :
    Sending P r conn' h := by
  cases hmove with
  | readNone n htasks hnone =>
    rcases Wire.read_message hsend.requests rfl n with ⟨_, hcontent, hunsent⟩ | ⟨hunsent, _⟩
    · refine ⟨hsend.matched, ?_, ?_, hsend.responses, Or.inl htasks⟩
      · rw [hcontent]
        exact hsend.requests
      · rw [hunsent]
        exact hsend.unsent
    · exact absurd hunsent hsend.unsent
  | readSome n _ hsome =>
    rcases Wire.read_message hsend.requests rfl n with ⟨hnone, _⟩ | ⟨hunsent, _⟩
    · rw [hnone] at hsome
      cases hsome
    · exact absurd hunsent hsend.unsent
  | reply n htasks => rcases hsend.listens with h | h <;> cases htasks.symm.trans h
  | go =>
    exact ⟨hsend.matched, hsend.requests, hsend.unsent, hsend.responses, Or.inr rfl⟩

theorem Waiting.move (hwait : Waiting P c r conn h) (hmove : TasksMove P conn conn') :
    Waiting P c r conn' h := by
  cases hwait with
  | requested matched requests unsent responses listens =>
    cases hmove with
    | readNone n htasks hnone =>
      rcases Wire.read_message requests rfl n with ⟨_, hcontent, hunsent⟩ | ⟨_, hread⟩
      · exact .requested matched (requests.trans (congrArg some hcontent.symm))
          (hunsent.trans unsent) responses (Or.inl htasks)
      · rw [hread] at hnone
        cases hnone
    | readSome n _ hsome =>
      rcases Wire.read_message requests rfl n with ⟨hnone, _⟩ | ⟨_, hread⟩
      · rw [hnone] at hsome
        cases hsome
      · rw [hread] at hsome ⊢
        cases hsome
        exact .working matched rfl responses (Or.inl rfl)
    | reply n htasks => rcases listens with h | h <;> cases htasks.symm.trans h
    | go => exact .requested matched requests unsent responses (Or.inr rfl)
  | working matched requests responses tasks =>
    cases hmove with
    | readNone n htasks | readSome n htasks | reply n htasks =>
      rcases tasks with h | h <;> cases htasks.symm.trans h
    | go => exact .working matched requests responses (Or.inr rfl)
  | replied matched requests responses tasks =>
    cases hmove with
    | readNone n htasks _ =>
      obtain ⟨_, hcontent⟩ := Wire.read_nothing (C := P.requests) requests n
      exact .replied matched hcontent responses tasks
    | readSome n _ hsome =>
      rw [(Wire.read_nothing requests n).1] at hsome
      cases hsome
    | reply n _ =>
      refine .replied matched requests (responses.trans ?_) ?_
      · exact congrArg some (Wire.content_write _ n).symm
      · by_cases hrest : (conn.responses.write n).unsent = []
        · exact Or.inr (Or.inl ⟨if_pos hrest, hrest⟩)
        · exact Or.inl ⟨if_neg hrest, hrest⟩
    | go => exact .replied matched requests responses (Or.inr (Or.inr rfl))
  | failed matched requests responses tasks =>
    cases hmove with
    | readNone n htasks | readSome n htasks | reply n htasks => cases htasks.symm.trans tasks
    | go => exact .failed matched requests responses rfl

theorem Known.move (hknown : Known P conn h) (hmove : TasksMove P conn conn') :
    Known P conn' h := by
  rcases hknown with hidle | ⟨r, hsend⟩ | ⟨c, r, hwait⟩
  · exact Or.inl (hidle.move hmove)
  · exact Or.inr (Or.inl ⟨r, hsend.move hmove⟩)
  · exact Or.inr (Or.inr ⟨c, r, hwait.move hmove⟩)

theorem Conn.listens.not_working (hlistens : conn.listens) (htasks : conn.tasks = .working r) :
    False := by
  rcases hlistens with h | h <;> cases htasks.symm.trans h

theorem Waiting.worked (hwait : Waiting P c r conn h) {r' : TaskRequest}
    (htasks : conn.tasks = .working r') {m : F} (hworked : Worked P (P.handle r' m).1 conn conn') :
    Waiting P c r conn' { h with handled := h.handled ++ [(r', m)] } := by
  cases hwait with
  | requested _ _ _ _ listens => exact (listens.not_working htasks).elim
  | working matched requests responses tasks =>
    rcases tasks with htasks' | htasks'
    swap
    · cases htasks.symm.trans htasks'
    cases htasks.symm.trans htasks'
    rcases hworked with ⟨enc, henc, rfl⟩ | rfl
    · have hempty := List.append_eq_nil_iff.mp responses
      have hcontent : enc = conn.responses.buffer ++ conn.responses.inFlight ++
          (conn.responses.unsent ++ enc) := by
        rw [hempty.1, hempty.2]
        rfl
      refine .replied matched requests (henc.trans (congrArg some hcontent)) (Or.inl ⟨rfl, ?_⟩)
      dsimp only
      rw [hempty.2]
      exact Codec.encode_ne_nil henc
    · exact .failed matched requests responses rfl
  | replied _ _ _ tasks =>
    rcases tasks with ⟨h, _⟩ | ⟨h, _⟩ | h <;> cases htasks.symm.trans h
  | failed _ _ _ tasks => cases htasks.symm.trans tasks

theorem Known.worked (hknown : Known P conn h) (htasks : conn.tasks = .working r) {m : F}
    (hworked : Worked P (P.handle r m).1 conn conn') :
    Known P conn' { h with handled := h.handled ++ [(r, m)] } := by
  rcases hknown with hidle | ⟨r', hsend⟩ | ⟨c, r', hwait⟩
  · exact (hidle.listens.not_working htasks).elim
  · exact (hsend.listens.not_working htasks).elim
  · exact Or.inr (Or.inr ⟨c, r', hwait.worked htasks hworked⟩)

theorem Idle.received (hidle : Idle P conn h) {enc : List UInt8}
    (henc : P.requests.encode r = some enc) :
    Sending P r { conn with
      requests := { conn.requests with unsent := conn.requests.unsent ++ enc } } h := by
  have hempty := List.append_eq_nil_iff.mp hidle.requests
  have hcontent : enc = conn.requests.buffer ++ conn.requests.inFlight ++
      (conn.requests.unsent ++ enc) := by
    rw [hempty.1, hempty.2]
    rfl
  refine ⟨hidle.matched, henc.trans (congrArg some hcontent), ?_, hidle.responses, hidle.listens⟩
  dsimp only
  rw [hempty.2]
  exact Codec.encode_ne_nil henc

theorem Sending.wrotePart (hsend : Sending P r conn h) {n : ℕ}
    (hrest : (conn.requests.write n).unsent ≠ []) :
    Sending P r { conn with requests := conn.requests.write n } h := by
  refine ⟨hsend.matched, hsend.requests.trans ?_, hrest, hsend.responses, hsend.listens⟩
  exact congrArg some (Wire.content_write _ n).symm

theorem Sending.wroteAll (hsend : Sending P r conn h) {n : ℕ}
    (hrest : (conn.requests.write n).unsent = []) (c : ℕ) :
    Waiting P c r { conn with requests := conn.requests.write n }
      { h with wrote := h.wrote ++ [(c, r)] } := by
  refine .requested hsend.matched (hsend.requests.trans ?_) hrest hsend.responses hsend.listens
  exact congrArg some (Wire.content_write _ n).symm

theorem Waiting.readPart (hwait : Waiting P c r conn h) {n : ℕ}
    (hnone : (conn.responses.read P.responses n).1 = none) :
    Waiting P c r { conn with responses := (conn.responses.read P.responses n).2 } h := by
  cases hwait with
  | requested matched requests unsent responses listens =>
    exact .requested matched requests unsent (Wire.read_nothing responses n).2 listens
  | working matched requests responses tasks =>
    exact .working matched requests (Wire.read_nothing responses n).2 tasks
  | replied matched requests responses tasks =>
    rcases Wire.read_message responses rfl n with ⟨_, hcontent, hunsent⟩ | ⟨_, hread⟩
    · refine .replied matched requests (responses.trans (congrArg some hcontent.symm)) ?_
      rw [hunsent]
      exact tasks
    · rw [hread] at hnone
      cases hnone
  | failed matched requests responses tasks =>
    exact .failed matched requests (Wire.read_nothing responses n).2 tasks

theorem Waiting.answered (hwait : Waiting P c r conn h) {n : ℕ} {resp : TaskResponse}
    (hsome : (conn.responses.read P.responses n).1 = some resp) :
    Idle P { conn with responses := (conn.responses.read P.responses n).2 }
      { h with answered := h.answered ++ [(c, .ofResponse resp)] } := by
  cases hwait with
  | requested _ _ _ responses | working _ _ responses | failed _ _ responses =>
    rw [(Wire.read_nothing responses n).1] at hsome
    cases hsome
  | replied matched requests responses tasks =>
    rcases Wire.read_message responses rfl n with ⟨hnone, _⟩ | ⟨hunsent, hread⟩
    · rw [hnone] at hsome
      cases hsome
    · rw [hread] at hsome ⊢
      cases hsome
      refine ⟨matched.snoc c r _, requests, rfl, ?_⟩
      rcases tasks with ⟨_, hne⟩ | ⟨hreading, _⟩ | hgone
      · exact absurd hunsent hne
      · exact Or.inl hreading
      · exact Or.inr hgone

end Ends

/-! ## 4. All connections -/

inductive Role where
  | receiving
  | sending (v : Pending)
  | awaiting (v : Pending)
  | absent

def Worker.role (k : ℕ) : Worker → Role
  | .receiving j => if j = k then .receiving else .absent
  | .sending j v => if j = k then .sending v else .absent
  | .awaiting j v => if j = k then .awaiting v else .absent
  | _ => .absent

def Fits (P : Tasking F) : Role → Conn → Histories F → Prop
  | .receiving, conn, h => Idle P conn h
  | .sending v, conn, h => Sending P v.request conn h
  | .awaiting v, conn, h => Waiting P v.caller v.request conn h
  | .absent, conn, h => Known P conn h

theorem Fits.known {role : Role} {h : Histories F} (hfits : Fits P role conn h) :
    Known P conn h := by
  cases role with
  | receiving => exact Or.inl hfits
  | sending v => exact Or.inr (Or.inl ⟨v.request, hfits⟩)
  | awaiting v => exact Or.inr (Or.inr ⟨v.caller, v.request, hfits⟩)
  | absent => exact hfits

theorem Fits.move {role : Role} {h : Histories F} (hfits : Fits P role conn h)
    (hmove : TasksMove P conn conn') : Fits P role conn' h := by
  cases role with
  | receiving => exact Idle.move hfits hmove
  | sending v => exact Sending.move hfits hmove
  | awaiting v => exact Waiting.move hfits hmove
  | absent => exact Known.move hfits hmove

theorem Fits.worked {role : Role} {h : Histories F} (hfits : Fits P role conn h)
    (htasks : conn.tasks = .working r) {m : F} (hworked : Worked P (P.handle r m).1 conn conn') :
    Fits P role conn' { h with handled := h.handled ++ [(r, m)] } := by
  cases role with
  | receiving => exact (Idle.listens hfits |>.not_working htasks).elim
  | sending v => exact (Sending.listens hfits |>.not_working htasks).elim
  | awaiting v => exact Waiting.worked hfits htasks hworked
  | absent => exact Known.worked hfits htasks hworked

structure Wired (P : Tasking F) (S : State F) : Prop where
  fits : ∀ k, Fits P (S.worker.role k) (S.conns k) (historiesOn k S.trace)
  /-- Nothing has happened on a connection before it is opened. -/
  fresh : ∀ k, S.opened ≤ k → historiesOn k S.trace = ⟨[], [], []⟩
  current : ∀ k, S.opened ≤ k → S.worker.role k = .absent

theorem Wired.change (hS : Wired P S) (hk : k < S.opened) {conn : Conn}
    (hopened : S'.opened = S.opened) (hconns : S'.conns = Function.update S.conns k conn)
    (hothers : ∀ j, j ≠ k → historiesOn j S'.trace = historiesOn j S.trace)
    (hroles : ∀ j, j ≠ k → S'.worker.role j = S.worker.role j ∨ S'.worker.role j = .absent)
    {role : Role} (hrole : S'.worker.role k = role) {h : Histories F}
    (hhistories : historiesOn k S'.trace = h) (hfits : Fits P role conn h) : Wired P S' where
  fits j := by
    rw [hconns]
    by_cases hj : j = k
    · subst hj
      rw [Function.update_self, hrole, hhistories]
      exact hfits
    · rw [Function.update_of_ne hj, hothers j hj]
      rcases hroles j hj with hrole | hrole
      · rw [hrole]
        exact hS.fits j
      · rw [hrole]
        exact (hS.fits j).known
  fresh j hj := by
    rw [hopened] at hj
    rw [hothers j (Nat.ne_of_gt (Nat.lt_of_lt_of_le hk hj))]
    exact hS.fresh j hj
  current j hj := by
    rw [hopened] at hj
    rcases hroles j (Nat.ne_of_gt (Nat.lt_of_lt_of_le hk hj)) with hrole | hrole
    · exact hrole.trans (hS.current j hj)
    · exact hrole

theorem Wired.keep (hS : Wired P S) (hopened : S'.opened = S.opened) (hconns : S'.conns = S.conns)
    (htrace : ∀ k, historiesOn k S'.trace = historiesOn k S.trace)
    (hroles : ∀ k, S'.worker.role k = S.worker.role k ∨ S'.worker.role k = .absent) :
    Wired P S' where
  fits k := by
    rw [hconns, htrace]
    rcases hroles k with hrole | hrole
    · rw [hrole]
      exact hS.fits k
    · rw [hrole]
      exact (hS.fits k).known
  fresh k hk := by
    rw [hopened] at hk
    rw [htrace]
    exact hS.fresh k hk
  current k hk := by
    rw [hopened] at hk
    rcases hroles k with hrole | hrole
    · exact hrole.trans (hS.current k hk)
    · exact hrole

@[simp] theorem role_receiving (k : ℕ) : (Worker.receiving k).role k = .receiving := if_pos rfl

@[simp] theorem role_sending (k : ℕ) (v : Pending) : (Worker.sending k v).role k = .sending v :=
  if_pos rfl

@[simp] theorem role_awaiting (k : ℕ) (v : Pending) : (Worker.awaiting k v).role k = .awaiting v :=
  if_pos rfl

def Worker.on (k : ℕ) : Worker → Prop
  | .receiving j | .sending j _ | .awaiting j _ => j = k
  | _ => True

theorem role_of_ne (worker : Worker) {j k : ℕ} (h : worker.on k) (hj : j ≠ k) :
    worker.role j = .absent := by
  cases worker with
  | receiving i | sending i | awaiting i =>
    have hi : i = k := h
    subst hi
    exact if_neg hj.symm
  | accepting | requeueing | stopped => rfl

theorem Wired.at_worker (hS : Wired P S) {worker : Worker} (hworker : S.worker = worker)
    {role : Role} (hrole : worker.role k = role) :
    Fits P role (S.conns k) (historiesOn k S.trace) := by
  have hfits := hS.fits k
  rwa [hworker, hrole] at hfits

theorem Wired.worker_lt (hS : Wired P S) {worker : Worker} (hworker : S.worker = worker)
    {role : Role} (hrole : worker.role k = role) (hne : role ≠ .absent) : k < S.opened := by
  refine Nat.lt_of_not_le fun hle => hne ?_
  rw [← hrole, ← hworker]
  exact hS.current k hle

theorem Wired.accepted (hS : Wired P S) (hopened : S'.opened = S.opened + 1)
    (hconns : S'.conns = Function.update S.conns S.opened .fresh) (htrace : S'.trace = S.trace)
    (hworker : S'.worker = .receiving S.opened) : Wired P S' where
  fits k := by
    rw [hconns, htrace, hworker]
    by_cases hk : k = S.opened
    · subst hk
      rw [Function.update_self, role_receiving, hS.fresh _ (Nat.le_refl _)]
      exact ⟨.nil, rfl, rfl, Or.inl rfl⟩
    · rw [Function.update_of_ne hk, role_of_ne (.receiving S.opened) rfl hk]
      exact (hS.fits k).known
  fresh k hk := by
    rw [htrace]
    rw [hopened] at hk
    exact hS.fresh k (Nat.le_of_succ_le hk)
  current k hk := by
    rw [hworker]
    rw [hopened] at hk
    exact role_of_ne (.receiving S.opened) rfl (Nat.ne_of_gt hk)

theorem Wired.moves (hS : Wired P S) (h : Moves P S S') : Wired P S' := by
  cases h with
  | same => exact hS
  | queued r =>
    exact hS.keep rfl rfl (fun k => historiesOn_apart (e := .queued S.next r) trivial)
      fun k => Or.inl rfl
  | hungUp closed => exact hS.keep rfl rfl (fun _ => rfl) fun _ => Or.inl rfl
  | changed machine => exact hS.keep rfl rfl (fun _ => rfl) fun _ => Or.inl rfl
  | left h =>
    refine hS.keep rfl rfl (fun _ => rfl) fun _ => Or.inr ?_
    rcases h with rfl | rfl <;> rfl
  | accepted hworker => exact hS.accepted rfl rfl rfl rfl
  | @received k v rest enc hworker hqueue henc =>
    have hidle : Idle P _ _ := hS.at_worker hworker (role_receiving k)
    refine hS.change (hS.worker_lt hworker (role_receiving k) nofun) rfl rfl (fun _ _ => rfl) ?_
      (role_sending k v) rfl (hidle.received henc)
    intro j hj
    exact Or.inr (role_of_ne (.sending k v) rfl hj)
  | sendFailed h hworker =>
    refine hS.keep rfl rfl (fun _ => rfl) fun _ => Or.inr ?_
    rcases hworker with rfl | rfl <;> rfl
  | @wrotePart k v n hworker hrest =>
    have hsend : Sending P _ _ _ := hS.at_worker hworker (role_sending k v)
    have hrole := (congrArg (Worker.role k) hworker).trans (role_sending k v)
    exact hS.change (hS.worker_lt hworker (role_sending k v) nofun) rfl rfl (fun _ _ => rfl)
      (fun _ _ => Or.inl rfl) hrole rfl (hsend.wrotePart hrest)
  | @wroteAll k v n hworker hrest =>
    have hsend : Sending P _ _ _ := hS.at_worker hworker (role_sending k v)
    refine hS.change (hS.worker_lt hworker (role_sending k v) nofun) rfl rfl
      (fun j hj => historiesOn_apart (e := .wrote k v.caller v.request) hj.symm) ?_
      (role_awaiting k v) (historiesOn_wrote v.caller)
      (hsend.wroteAll hrest v.caller)
    intro j hj
    exact Or.inr (role_of_ne (.awaiting k v) rfl hj)
  | @requeued v hworker =>
    exact hS.keep rfl rfl (fun k => historiesOn_apart (e := .requeued v.caller) trivial)
      fun _ => Or.inr rfl
  | tasksMoved hk h =>
    exact hS.change hk rfl rfl (fun _ _ => rfl) (fun _ _ => Or.inl rfl) rfl rfl
      ((hS.fits _).move h)
  | @worked k hk r htasks conn h machine =>
    exact hS.change hk rfl rfl
      (fun j hj => historiesOn_apart (e := .handled k r S.machine) hj.symm)
      (fun _ _ => Or.inl rfl) rfl (historiesOn_handled S.machine)
      ((hS.fits k).worked htasks h)
  | @readPart k v n hworker hnone =>
    have hwait : Waiting P _ _ _ _ := hS.at_worker hworker (role_awaiting k v)
    have hrole := (congrArg (Worker.role k) hworker).trans (role_awaiting k v)
    exact hS.change (hS.worker_lt hworker (role_awaiting k v) nofun) rfl rfl (fun _ _ => rfl)
      (fun _ _ => Or.inl rfl) hrole rfl (hwait.readPart hnone)
  | @answered k v n hworker resp hsome =>
    have hwait : Waiting P _ _ _ _ := hS.at_worker hworker (role_awaiting k v)
    refine hS.change (hS.worker_lt hworker (role_awaiting k v) nofun) rfl rfl
      (fun j hj => historiesOn_apart (e := .answered k v.caller (.ofResponse resp)) hj.symm) ?_
      (role_receiving k) (historiesOn_answered v.caller _) (hwait.answered hsome)
    intro j hj
    exact Or.inr (role_of_ne (.receiving k) rfl hj)

end Himmelblau.TaskQueue
