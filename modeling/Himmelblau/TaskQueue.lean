/-
  **The queue between the daemon and the tasks daemon**, mirror of `handle_task_client` and of the
  task acceptor of `daemon/src/daemon.rs`, with the loop of `handle_tasks` at the other end.

  Callers queue requests with a one-shot channel each.  The worker of the daemon accepts a
  connection, and then writes one request after the other, each followed by reading its response.
  A message carries no identifier.  Bytes are written and read in parts of any size, either end may
  go at any time, and the tasks daemon of an old connection may still be at work.
-/
import Himmelblau.TaskDaemon
import Himmelblau.Wires

namespace Himmelblau.TaskQueue

open Codecs TaskDaemon Wires

variable {F : Type}

/-! ## 1. The state -/

inductive TaskOutcome where
  | status (code : Int32)
  | nonCompliant (rules : List NoncompliantRule)
  deriving DecidableEq, Repr

def TaskOutcome.ofResponse : TaskResponse → TaskOutcome
  | .success code => .status code
  | .error _ => .status 1
  | .nonCompliant rules => .nonCompliant rules

/-- `AsyncTaskRequest`: a request, and the one-shot of its caller. -/
structure Pending where
  caller : ℕ
  request : TaskRequest
  deriving DecidableEq, Repr

/-- The tasks daemon at its end of a connection. -/
inductive Tasks where
  | reading
  | working (request : TaskRequest)
  | replying
  | gone
  deriving DecidableEq, Repr

structure Conn where
  requests : Wire
  tasks : Tasks
  responses : Wire
  deriving DecidableEq, Repr

def Conn.fresh : Conn := ⟨.empty, .reading, .empty⟩

/-- What the acceptor and `handle_task_client` are waiting for. -/
inductive Worker where
  | accepting
  | receiving (conn : ℕ)
  | sending (conn : ℕ) (v : Pending)
  | awaiting (conn : ℕ) (v : Pending)
  | requeueing (v : Pending)
  | stopped
  deriving DecidableEq, Repr

inductive Event (F : Type) where
  | queued (caller : ℕ) (request : TaskRequest)
  | wrote (conn caller : ℕ) (request : TaskRequest)
  | requeued (caller : ℕ)
  | handled (conn : ℕ) (request : TaskRequest) (machine : F)
  | answered (conn caller : ℕ) (outcome : TaskOutcome)

structure State (F : Type) where
  queue : List Pending
  next : ℕ
  /-- The callers that have dropped their end of the one-shot. -/
  closed : List ℕ
  worker : Worker
  conns : ℕ → Conn
  opened : ℕ
  machine : F
  trace : List (Event F)

def State.start (machine : F) : State F where
  queue := []
  next := 0
  closed := []
  worker := .accepting
  conns _ := .fresh
  opened := 0
  machine := machine
  trace := []

/-- The codecs of both ends, and the work of the tasks daemon. -/
structure Tasking (F : Type) where
  requests : Codec TaskRequest
  responses : Codec TaskResponse
  tools : TaskTools F
  cfg : TasksConfig

def Tasking.handle (P : Tasking F) (r : TaskRequest) (machine : F) : TaskResponse × F :=
  handleTask P.tools P.cfg r machine

/-! ## 2. The steps -/

inductive Op (F : Type) where
  | queue (request : TaskRequest)
  | hangUp (caller : ℕ)
  /-- The user id of the peer, if it can be determined. -/
  | accept (uid : Option UInt32)
  | receive
  | write (bytes : ℕ)
  | writeFails
  | requeue
  | giveUp
  | tasksRead (conn bytes : ℕ)
  | work (conn : ℕ)
  | reply (conn bytes : ℕ)
  | tasksGo (conn : ℕ)
  | read (bytes : ℕ)
  | readFails
  /-- Something else happens on the machine. -/
  | change (machine : F)
  | shutdown

namespace State

def setConn (S : State F) (k : ℕ) (conn : Conn) : State F :=
  { S with conns := Function.update S.conns k conn }

def log (S : State F) (e : Event F) : State F := { S with trace := S.trace ++ [e] }

def hasRoom (S : State F) : Bool := S.queue.length < 16

/-- Re-queue the event if not timed out.  This is indicated by the one shot being dropped. -/
def sendFailed (S : State F) (v : Pending) : State F :=
  { S with worker := if v.caller ∈ S.closed then .accepting else .requeueing v }

variable (P : Tasking F)

def receive (S : State F) : State F :=
  match S.worker, S.queue with
  | .receiving k, v :: rest =>
    let conn := S.conns k
    match Framing.encode P.requests conn.requests.unsent v.request with
    | .ok unsent =>
      { S with queue := rest, worker := .sending k v }.setConn k
        { conn with requests := { conn.requests with unsent := unsent } }
    | .error _ => { S with queue := rest }.sendFailed v
  | _, _ => S

def write (S : State F) (n : ℕ) : State F :=
  match S.worker with
  | .sending k v =>
    let requests := (S.conns k).requests.write n
    let S := S.setConn k { S.conns k with requests := requests }
    if requests.unsent = [] then
      { S with worker := .awaiting k v }.log (.wrote k v.caller v.request)
    else S
  | _ => S

def tasksRead (S : State F) (k n : ℕ) : State F :=
  match (S.conns k).tasks with
  | .reading =>
    let (msg, requests) := (S.conns k).requests.read P.requests n
    S.setConn k { S.conns k with
      requests := requests
      tasks := match msg with
        | some r => .working r
        | none => .reading }
  | _ => S

def work (S : State F) (k : ℕ) : State F :=
  let conn := S.conns k
  match conn.tasks with
  | .working r =>
    let (resp, machine) := P.handle r S.machine
    let conn := match Framing.encode P.responses conn.responses.unsent resp with
      | .ok unsent =>
        { conn with tasks := .replying, responses := { conn.responses with unsent := unsent } }
      | .error _ => { conn with tasks := .gone }
    { S.log (.handled k r S.machine) with machine := machine }.setConn k conn
  | _ => S

def reply (S : State F) (k n : ℕ) : State F :=
  match (S.conns k).tasks with
  | .replying =>
    let responses := (S.conns k).responses.write n
    S.setConn k { S.conns k with
      responses := responses
      tasks := if responses.unsent = [] then .reading else .replying }
  | _ => S

def read (S : State F) (n : ℕ) : State F :=
  match S.worker with
  | .awaiting k v =>
    let (resp, responses) := (S.conns k).responses.read P.responses n
    let S := S.setConn k { S.conns k with responses := responses }
    match resp with
    | some resp =>
      { S with worker := .receiving k }.log (.answered k v.caller (.ofResponse resp))
    | none => S
  | _ => S

def step (S : State F) : Op F → State F
  | .queue r =>
    if S.hasRoom then
      let v : Pending := ⟨S.next, r⟩
      { S with queue := S.queue ++ [v], next := S.next + 1 }.log (.queued S.next r)
    else S
  | .hangUp caller => { S with closed := caller :: S.closed }
  | .accept uid =>
    match S.worker with
    | .accepting =>
      -- Did it come from root?
      if uid = some 0 then
        { S with worker := .receiving S.opened, opened := S.opened + 1 }.setConn S.opened .fresh
      else S
    | _ => S
  | .receive => S.receive P
  | .write n => S.write n
  | .writeFails =>
    match S.worker with
    | .sending _ v => S.sendFailed v
    | _ => S
  | .requeue =>
    match S.worker with
    | .requeueing v =>
      if S.hasRoom then
        { S with queue := S.queue ++ [v], worker := .accepting }.log (.requeued v.caller)
      else S
    | _ => S
  | .giveUp =>
    match S.worker with
    | .requeueing _ => { S with worker := .accepting }
    | _ => S
  | .tasksRead k n => if k < S.opened then S.tasksRead P k n else S
  | .work k => if k < S.opened then S.work P k else S
  | .reply k n => if k < S.opened then S.reply k n else S
  | .tasksGo k => if k < S.opened then S.setConn k { S.conns k with tasks := .gone } else S
  | .read n => S.read P n
  | .readFails =>
    match S.worker with
    | .awaiting _ _ => { S with worker := .accepting }
    | _ => S
  | .change machine => { S with machine := machine }
  | .shutdown => { S with worker := .stopped }

def run (S : State F) (ops : List (Op F)) : State F := ops.foldl (step P) S

end State

variable {P : Tasking F} {S : State F}

/-! ## 3. What a step can do -/

/-- What the tasks daemon does at its end of a connection, but for the work. -/
inductive TasksMove (P : Tasking F) (conn : Conn) : Conn → Prop
  | readNone (n : ℕ) (htasks : conn.tasks = .reading)
      (hnone : (conn.requests.read P.requests n).1 = none) :
      TasksMove P conn { conn with requests := (conn.requests.read P.requests n).2 }
  | readSome (n : ℕ) (htasks : conn.tasks = .reading) {r : TaskRequest}
      (hsome : (conn.requests.read P.requests n).1 = some r) :
      TasksMove P conn
        { conn with requests := (conn.requests.read P.requests n).2, tasks := .working r }
  | reply (n : ℕ) (htasks : conn.tasks = .replying) :
      TasksMove P conn { conn with
        responses := conn.responses.write n
        tasks := if (conn.responses.write n).unsent = [] then .reading else .replying }
  | go : TasksMove P conn { conn with tasks := .gone }

def Worked (P : Tasking F) (resp : TaskResponse) (conn conn' : Conn) : Prop :=
  (∃ enc, P.responses.encode resp = some enc ∧ conn' = { conn with
    tasks := .replying
    responses := { conn.responses with unsent := conn.responses.unsent ++ enc } }) ∨
  conn' = { conn with tasks := .gone }

inductive Moves (P : Tasking F) (S : State F) : State F → Prop
  | same : Moves P S S
  | queued (r : TaskRequest) :
      Moves P S ({ S with queue := S.queue ++ [Pending.mk S.next r], next := S.next + 1 }.log
        (.queued S.next r))
  | hungUp (closed : List ℕ) : Moves P S { S with closed := closed }
  | changed (machine : F) : Moves P S { S with machine := machine }
  | left {worker : Worker} (h : worker = .accepting ∨ worker = .stopped) :
      Moves P S { S with worker := worker }
  | accepted (hworker : S.worker = .accepting) :
      Moves P S ({ S with worker := .receiving S.opened, opened := S.opened + 1 }.setConn S.opened
        .fresh)
  | received {k : ℕ} {v : Pending} {rest : List Pending} {enc : List UInt8}
      (hworker : S.worker = .receiving k) (hqueue : S.queue = v :: rest)
      (henc : P.requests.encode v.request = some enc) :
      Moves P S ({ S with queue := rest, worker := .sending k v }.setConn k { S.conns k with
        requests := { (S.conns k).requests with
          unsent := (S.conns k).requests.unsent ++ enc } })
  | sendFailed {k : ℕ} {v : Pending} {queue : List Pending} {worker : Worker}
      (h : (S.worker = .receiving k ∧ S.queue = v :: queue) ∨
        (S.worker = .sending k v ∧ S.queue = queue))
      (hworker : worker = .accepting ∨ worker = .requeueing v) :
      Moves P S { S with queue := queue, worker := worker }
  | wrotePart {k : ℕ} {v : Pending} (n : ℕ) (hworker : S.worker = .sending k v)
      (hrest : ((S.conns k).requests.write n).unsent ≠ []) :
      Moves P S (S.setConn k { S.conns k with requests := (S.conns k).requests.write n })
  | wroteAll {k : ℕ} {v : Pending} (n : ℕ) (hworker : S.worker = .sending k v)
      (hrest : ((S.conns k).requests.write n).unsent = []) :
      Moves P S ({ S.setConn k { S.conns k with requests := (S.conns k).requests.write n } with
        worker := .awaiting k v }.log (.wrote k v.caller v.request))
  | requeued {v : Pending} (hworker : S.worker = .requeueing v) :
      Moves P S ({ S with queue := S.queue ++ [v], worker := .accepting }.log (.requeued v.caller))
  | tasksMoved {k : ℕ} (hk : k < S.opened) {conn : Conn} (h : TasksMove P (S.conns k) conn) :
      Moves P S (S.setConn k conn)
  | worked {k : ℕ} (hk : k < S.opened) {r : TaskRequest} (htasks : (S.conns k).tasks = .working r)
      {conn : Conn} (h : Worked P (P.handle r S.machine).1 (S.conns k) conn) (machine : F) :
      Moves P S ({ S.log (.handled k r S.machine) with machine := machine }.setConn k conn)
  | readPart {k : ℕ} {v : Pending} (n : ℕ) (hworker : S.worker = .awaiting k v)
      (hnone : ((S.conns k).responses.read P.responses n).1 = none) :
      Moves P S (S.setConn k { S.conns k with
        responses := ((S.conns k).responses.read P.responses n).2 })
  | answered {k : ℕ} {v : Pending} (n : ℕ) (hworker : S.worker = .awaiting k v)
      {resp : TaskResponse} (hsome : ((S.conns k).responses.read P.responses n).1 = some resp) :
      Moves P S ({ S.setConn k { S.conns k with
          responses := ((S.conns k).responses.read P.responses n).2 } with
        worker := .receiving k }.log (.answered k v.caller (.ofResponse resp)))

theorem sendFailed_moves {k : ℕ} {v : Pending} {queue : List Pending}
    (h : (S.worker = .receiving k ∧ S.queue = v :: queue) ∨
      (S.worker = .sending k v ∧ S.queue = queue)) :
    Moves P S ({ S with queue := queue }.sendFailed v) := by
  unfold State.sendFailed
  by_cases hclosed : v.caller ∈ S.closed
  · rw [if_pos hclosed]
    exact .sendFailed h (Or.inl rfl)
  · rw [if_neg hclosed]
    exact .sendFailed h (Or.inr rfl)

theorem receive_moves (P : Tasking F) (S : State F) : Moves P S (S.receive P) := by
  unfold State.receive
  split
  next k v rest hworker hqueue =>
    unfold Framing.encode
    cases henc : P.requests.encode v.request with
    | some enc => exact .received hworker hqueue henc
    | none => exact sendFailed_moves (Or.inl ⟨hworker, hqueue⟩)
  next => exact .same

theorem write_moves (P : Tasking F) (S : State F) (n : ℕ) : Moves P S (S.write n) := by
  unfold State.write
  split
  next k v hworker =>
    by_cases hrest : ((S.conns k).requests.write n).unsent = []
    · simp only [hrest, if_true]
      exact .wroteAll n hworker hrest
    · simp only [hrest, if_false]
      exact .wrotePart n hworker hrest
  next => exact .same

theorem tasksRead_moves {k : ℕ} (hk : k < S.opened) (n : ℕ) : Moves P S (S.tasksRead P k n) := by
  unfold State.tasksRead
  split
  next htasks =>
    dsimp only
    cases hread : ((S.conns k).requests.read P.requests n).1 with
    | none =>
      have hmove := TasksMove.readNone n htasks hread
      rw [← htasks]
      exact .tasksMoved hk hmove
    | some r => exact .tasksMoved hk (.readSome n htasks hread)
  next => exact .same

theorem work_moves {k : ℕ} (hk : k < S.opened) : Moves P S (S.work P k) := by
  unfold State.work
  dsimp only
  split
  next r htasks =>
    refine .worked hk htasks ?_ _
    unfold Framing.encode
    cases henc : P.responses.encode (P.handle r S.machine).1 with
    | some enc => exact Or.inl ⟨enc, henc, rfl⟩
    | none => exact Or.inr rfl
  next => exact .same

theorem reply_moves {k : ℕ} (hk : k < S.opened) (n : ℕ) : Moves P S (S.reply k n) := by
  unfold State.reply
  split
  next htasks => exact .tasksMoved hk (.reply n htasks)
  next => exact .same

theorem read_moves (P : Tasking F) (S : State F) (n : ℕ) : Moves P S (S.read P n) := by
  unfold State.read
  split
  next k v hworker =>
    dsimp only
    cases hread : ((S.conns k).responses.read P.responses n).1 with
    | none => exact .readPart n hworker hread
    | some resp => exact .answered n hworker hread
  next => exact .same

theorem step_moves (P : Tasking F) (S : State F) (op : Op F) : Moves P S (S.step P op) := by
  cases op with
  | queue r =>
    dsimp only [State.step]
    split
    · exact .queued r
    · exact .same
  | hangUp caller => exact .hungUp _
  | accept uid =>
    dsimp only [State.step]
    split
    next hworker =>
      split
      · exact .accepted hworker
      · exact .same
    next => exact .same
  | receive => exact receive_moves P S
  | write n => exact write_moves P S n
  | writeFails =>
    dsimp only [State.step]
    split
    next k v hworker => exact sendFailed_moves (Or.inr ⟨hworker, rfl⟩)
    next => exact .same
  | requeue =>
    dsimp only [State.step]
    split
    next v hworker =>
      split
      · exact .requeued hworker
      · exact .same
    next => exact .same
  | giveUp =>
    dsimp only [State.step]
    split
    next => exact .left (Or.inl rfl)
    next => exact .same
  | tasksRead k n =>
    dsimp only [State.step]
    split
    next hk => exact tasksRead_moves hk n
    next => exact .same
  | work k =>
    dsimp only [State.step]
    split
    next hk => exact work_moves hk
    next => exact .same
  | reply k n =>
    dsimp only [State.step]
    split
    next hk => exact reply_moves hk n
    next => exact .same
  | tasksGo k =>
    dsimp only [State.step]
    split
    next hk => exact .tasksMoved hk .go
    next => exact .same
  | read n => exact read_moves P S n
  | readFails =>
    dsimp only [State.step]
    split
    next => exact .left (Or.inl rfl)
    next => exact .same
  | change machine => exact .changed machine
  | shutdown => exact .left (Or.inr rfl)

end Himmelblau.TaskQueue
