/-
  **Every outcome reaches its own caller.**  The callers are accounted for: the request of a caller
  waits to be written, or it was written, and never both; a request that was written is awaited or
  answered once, or given up.
-/
import Himmelblau.TaskPairing

namespace Himmelblau.TaskQueue

open TaskDaemon List

variable {F : Type} {P : Tasking F} {S S' : State F} {conn : Conn}

/-! ## 1. The callers -/

def Event.queuer : Event F → Option ℕ
  | .queued c _ => some c
  | _ => none

def Event.writer : Event F → Option ℕ
  | .wrote _ c _ => some c
  | _ => none

def Event.answerer : Event F → Option ℕ
  | .answered _ c _ => some c
  | _ => none

section Callers

variable (trace : List (Event F)) (e : Event F)

/-- The callers whose requests were queued, written as a whole, and answered. -/
def queuers : List ℕ := trace.filterMap Event.queuer

def writers : List ℕ := trace.filterMap Event.writer

def answerers : List ℕ := trace.filterMap Event.answerer

theorem queuers_snoc : queuers (trace ++ [e]) = queuers trace ++ e.queuer.toList := by
  unfold queuers
  cases h : e.queuer <;> simp [h]

theorem writers_snoc : writers (trace ++ [e]) = writers trace ++ e.writer.toList := by
  unfold writers
  cases h : e.writer <;> simp [h]

theorem answerers_snoc : answerers (trace ++ [e]) = answerers trace ++ e.answerer.toList := by
  unfold answerers
  cases h : e.answerer <;> simp [h]

end Callers

def Worker.held : Worker → List Pending
  | .sending _ v | .requeueing v => [v]
  | _ => []

def Worker.awaited : Worker → List ℕ
  | .awaiting _ v => [v.caller]
  | _ => []

def State.unwritten (S : State F) : List Pending := S.worker.held ++ S.queue

/-- Every caller has its own number, and is in one place. -/
structure Accounted (next : ℕ) (unwritten : List Pending) (awaited : List ℕ)
    (trace : List (Event F)) : Prop where
  queued : queuers trace = range next
  own : ∀ v ∈ unwritten, .queued v.caller v.request ∈ trace
  ownWrote : ∀ k c r, .wrote k c r ∈ trace → .queued c r ∈ trace
  callers : (unwritten.map Pending.caller ++ writers trace).Nodup
  answers : (answerers trace ++ awaited).Nodup
  answersWrote : ∀ c ∈ answerers trace ++ awaited, c ∈ writers trace
  requeues : ∀ before c after, trace = before ++ .requeued c :: after → c ∉ writers before

namespace Accounted

variable {next : ℕ} {unwritten unwritten' : List Pending} {awaited awaited' : List ℕ}
  {trace : List (Event F)} {v : Pending}

variable {c : ℕ}

theorem lt_next (h : Accounted next unwritten awaited trace) {r : TaskRequest}
    (hc : .queued c r ∈ trace) : c < next := by
  rw [← mem_range, ← h.queued]
  exact mem_filterMap.mpr ⟨_, hc, rfl⟩

theorem lt_next_of_mem (h : Accounted next unwritten awaited trace)
    (hc : c ∈ unwritten.map Pending.caller ++ writers trace) : c < next := by
  rcases mem_append.mp hc with hc | hc
  · obtain ⟨v, hv, rfl⟩ := mem_map.mp hc
    exact h.lt_next (h.own v hv)
  · obtain ⟨e, he, hwrote⟩ := mem_filterMap.mp hc
    cases e with
    | wrote k c' r =>
      cases hwrote
      exact h.lt_next (h.ownWrote k _ r he)
    | queued | requeued | handled | answered => cases hwrote

theorem requeues_snoc (h : Accounted next unwritten awaited trace) {e : Event F}
    (he : ∀ c, e = .requeued c → c ∉ writers trace) (before : List (Event F)) (c : ℕ)
    (after : List (Event F)) (heq : trace ++ [e] = before ++ .requeued c :: after) :
    c ∉ writers before := by
  rcases eq_nil_or_concat' after with rfl | ⟨after', last, rfl⟩
  · obtain ⟨rfl, hlast⟩ := append_inj' heq rfl
    exact he c (cons.inj hlast).1
  · rw [← cons_append, ← append_assoc] at heq
    exact h.requeues before c after' (append_inj' heq rfl).1

theorem queued_snoc (h : Accounted next unwritten awaited trace) (e : Event F)
    (hown : ∀ k c r, e = .wrote k c r → .queued c r ∈ trace) (k c : ℕ) (r : TaskRequest)
    (hc : .wrote k c r ∈ trace ++ [e]) : .queued c r ∈ trace ++ [e] := by
  refine mem_append_left _ ?_
  rcases mem_append.mp hc with hc | hc
  · exact h.ownWrote k c r hc
  · exact hown k c r (mem_singleton.mp hc).symm

theorem drop (h : Accounted next unwritten awaited trace)
    (hunwritten : ∃ l, unwritten'.Perm l ∧ l.Sublist unwritten)
    (hawaited : awaited'.Sublist awaited) : Accounted next unwritten' awaited' trace := by
  obtain ⟨l, hperm, hsub⟩ := hunwritten
  have hmem : ∀ v ∈ unwritten', v ∈ unwritten := fun v hv => hsub.subset (hperm.subset hv)
  refine ⟨h.queued, fun v hv => h.own v (hmem v hv), h.ownWrote, ?_, ?_, ?_, h.requeues⟩
  · refine ((hperm.map _).append_right _).nodup_iff.mpr ?_
    exact h.callers.sublist ((hsub.map _).append_right _)
  · exact h.answers.sublist (hawaited.append_left _)
  · intro c hc
    exact h.answersWrote c ((hawaited.append_left _).subset hc)

theorem quiet (h : Accounted next unwritten awaited trace) {e : Event F} (hqueuer : e.queuer = none)
    (hwriter : e.writer = none) (hanswerer : e.answerer = none)
    (he : ∀ c, e = .requeued c → c ∉ writers trace) :
    Accounted next unwritten awaited (trace ++ [e]) := by
  have hown : ∀ k c r, e = .wrote k c r → .queued c r ∈ trace := by
    rintro k c r rfl
    cases hwriter
  refine ⟨?_, fun v hv => mem_append_left _ (h.own v hv), h.queued_snoc e hown, ?_, ?_, ?_,
    h.requeues_snoc he⟩
  · rw [queuers_snoc, hqueuer, Option.toList_none, append_nil]
    exact h.queued
  · rw [writers_snoc, hwriter, Option.toList_none, append_nil]
    exact h.callers
  · rw [answerers_snoc, hanswerer, Option.toList_none, append_nil]
    exact h.answers
  · rw [answerers_snoc, hanswerer, writers_snoc, hwriter, Option.toList_none, append_nil,
      append_nil]
    exact h.answersWrote

theorem enqueue (h : Accounted next unwritten awaited trace) (r : TaskRequest) :
    Accounted (next + 1) (unwritten ++ [⟨next, r⟩]) awaited (trace ++ [.queued next r]) := by
  have hnext : next ∉ unwritten.map Pending.caller ++ writers trace :=
    fun hmem => absurd (h.lt_next_of_mem hmem) (Nat.lt_irrefl _)
  have hwriters : writers (trace ++ [.queued next r]) = writers trace := by
    rw [writers_snoc]
    exact append_nil _
  have hanswerers : answerers (trace ++ [.queued next r]) = answerers trace := by
    rw [answerers_snoc]
    exact append_nil _
  refine ⟨?_, ?_, h.queued_snoc _ nofun, ?_, ?_, ?_, h.requeues_snoc nofun⟩
  · rw [queuers_snoc, h.queued, range_succ]
    rfl
  · intro v hv
    rcases mem_append.mp hv with hv | hv
    · exact mem_append_left _ (h.own v hv)
    · cases mem_singleton.mp hv
      exact mem_append_right _ mem_cons_self
  · rw [hwriters, map_append, map_singleton, append_assoc]
    refine perm_middle.nodup_iff.mpr ?_
    exact nodup_cons.mpr ⟨hnext, h.callers⟩
  · rw [hanswerers]
    exact h.answers
  · rw [hanswerers, hwriters]
    exact h.answersWrote

theorem write (h : Accounted next (v :: unwritten) [] trace) (k : ℕ) :
    Accounted next unwritten [v.caller] (trace ++ [.wrote k v.caller v.request]) := by
  have hv := h.own v mem_cons_self
  have hfresh : v.caller ∉ writers trace := by
    have hnodup := nodup_cons.mp h.callers
    exact fun hmem => hnodup.1 (mem_append_right _ hmem)
  have hwriters : writers (trace ++ [.wrote k v.caller v.request]) = writers trace ++ [v.caller] :=
    writers_snoc _ _
  have hanswerers : answerers (trace ++ [.wrote k v.caller v.request]) = answerers trace := by
    rw [answerers_snoc]
    exact append_nil _
  have hanswers := h.answers
  have hanswersWrote := h.answersWrote
  rw [append_nil] at hanswers hanswersWrote
  refine ⟨?_, ?_, h.queued_snoc _ ?_, ?_, ?_, ?_, h.requeues_snoc nofun⟩
  · rw [queuers_snoc, h.queued]
    exact append_nil _
  · intro v' hv'
    exact mem_append_left _ (h.own v' (mem_cons_of_mem v hv'))
  · rintro k' c r heq
    cases heq
    exact hv
  · rw [hwriters, ← append_assoc]
    exact (perm_append_singleton _ _).nodup_iff.mpr h.callers
  · rw [hanswerers]
    refine (perm_append_singleton _ _).nodup_iff.mpr (nodup_cons.mpr ⟨?_, hanswers⟩)
    exact fun hmem => hfresh (hanswersWrote _ hmem)
  · rw [hanswerers, hwriters]
    intro c hc
    rcases mem_append.mp hc with hc | hc
    · exact mem_append_left _ (hanswersWrote c hc)
    · exact mem_append_right _ hc

theorem answer (h : Accounted next unwritten [v.caller] trace) (k : ℕ) (o : TaskOutcome) :
    Accounted next unwritten [] (trace ++ [.answered k v.caller o]) := by
  have hwriters : writers (trace ++ [.answered k v.caller o]) = writers trace := by
    rw [writers_snoc]
    exact append_nil _
  have hanswerers : answerers (trace ++ [.answered k v.caller o]) ++ [] =
      answerers trace ++ [v.caller] := by
    rw [answerers_snoc]
    exact append_nil _
  refine ⟨?_, fun v hv => mem_append_left _ (h.own v hv), h.queued_snoc _ nofun, ?_, ?_, ?_,
    h.requeues_snoc nofun⟩
  · rw [queuers_snoc, h.queued]
    exact append_nil _
  · rw [hwriters]
    exact h.callers
  · rw [hanswerers]
    exact h.answers
  · rw [hanswerers, hwriters]
    exact h.answersWrote

end Accounted

def Accounts (S : State F) : Prop := Accounted S.next S.unwritten S.worker.awaited S.trace

theorem Accounts.sendFailed (hS : Accounts S) {k : ℕ} {v : Pending} {queue : List Pending}
    (h : (S.worker = .receiving k ∧ S.queue = v :: queue) ∨
      (S.worker = .sending k v ∧ S.queue = queue)) {worker : Worker}
    (hworker : worker = .accepting ∨ worker = .requeueing v) :
    Accounts { S with queue := queue, worker := worker } := by
  have hunwritten : S.unwritten = v :: queue := by
    unfold State.unwritten
    rcases h with ⟨hreceiving, hqueue⟩ | ⟨hsending, hqueue⟩
    · rw [hreceiving, hqueue]
      rfl
    · rw [hsending, hqueue]
      rfl
  unfold Accounts at hS
  rw [hunwritten] at hS
  rcases hworker with rfl | rfl
  · exact hS.drop ⟨queue, Perm.refl _, sublist_cons_self v queue⟩ (nil_sublist _)
  · exact hS.drop ⟨v :: queue, Perm.refl _, Sublist.refl _⟩ (nil_sublist _)

theorem Accounts.moves (hS : Accounts S) (h : Moves P S S') : Accounts S' := by
  unfold Accounts State.unwritten at hS
  cases h with
  | same => exact hS
  | queued r =>
    have henqueue := hS.enqueue r
    rw [append_assoc] at henqueue
    exact henqueue
  | hungUp closed => exact hS
  | changed machine => exact hS
  | left h =>
    have hheld : (S.queue : List Pending).Sublist (S.worker.held ++ S.queue) :=
      sublist_append_right _ _
    rcases h with rfl | rfl
    all_goals exact hS.drop ⟨S.queue, Perm.refl _, hheld⟩ (nil_sublist _)
  | accepted hworker =>
    rw [hworker] at hS
    exact hS
  | received hworker hqueue henc =>
    rw [hworker, hqueue] at hS
    exact hS
  | sendFailed h hworker => exact Accounts.sendFailed hS h hworker
  | wrotePart n hworker hrest => exact hS
  | wroteAll n hworker hrest =>
    rw [hworker] at hS
    exact hS.write _
  | @requeued v hworker =>
    rw [hworker] at hS
    have hfresh : v.caller ∉ writers S.trace := by
      have hnodup := nodup_cons.mp hS.callers
      exact fun hmem => hnodup.1 (mem_append_right _ hmem)
    have hmoved : Accounted S.next (S.queue ++ [v]) [] S.trace :=
      hS.drop ⟨v :: S.queue, perm_append_singleton _ _, Sublist.refl _⟩
        (Sublist.refl _)
    refine hmoved.quiet rfl rfl rfl ?_
    rintro c heq
    cases heq
    exact hfresh
  | tasksMoved hk h => exact hS
  | worked hk htasks h machine => exact hS.quiet rfl rfl rfl nofun
  | readPart n hworker hnone => exact hS
  | @answered k v n hworker resp hsome =>
    rw [hworker] at hS
    exact hS.answer k (.ofResponse resp)

/-! ## 2. Outcomes and their callers -/

variable {h : Histories F} {c : ℕ}

theorem Matched.length_eq (hmatched : Matched P h) :
    h.wrote.length = h.answered.length ∧ h.handled.length = h.answered.length := by
  induction hmatched with
  | nil => exact ⟨rfl, rfl⟩
  | snoc _ c r m ih => simp [ih.1, ih.2]

theorem Matched.answer (hmatched : Matched P h) {n : ℕ} {o : TaskOutcome}
    (ho : h.answered[n]? = some (c, o)) :
    ∃ r m, h.wrote[n]? = some (c, r) ∧ h.handled[n]? = some (r, m) ∧
      o = .ofResponse (P.handle r m).1 := by
  induction hmatched with
  | nil => cases ho
  | @snoc W H A hmatched c' r' m' ih =>
    obtain ⟨hwrote, hhandled⟩ := hmatched.length_eq
    dsimp only at ih ho hwrote hhandled ⊢
    by_cases hn : n < A.length
    · rw [getElem?_append_left hn] at ho
      rw [getElem?_append_left (hwrote ▸ hn), getElem?_append_left (hhandled ▸ hn)]
      exact ih ho
    · obtain ⟨hlt, _⟩ := List.getElem?_eq_some_iff.mp ho
      rw [length_append, length_singleton] at hlt
      obtain rfl : n = A.length := Nat.le_antisymm (Nat.le_of_lt_succ hlt) (Nat.le_of_not_lt hn)
      rw [getElem?_concat_length] at ho
      cases ho
      refine ⟨r', m', ?_, ?_, rfl⟩
      · rw [← hwrote, getElem?_concat_length]
      · rw [← hhandled, getElem?_concat_length]

theorem Known.matched (hknown : Known P conn h) :
    ∃ W H, Matched P ⟨W, H, h.answered⟩ ∧ W <+: h.wrote ∧ H <+: h.handled := by
  rcases hknown with hidle | ⟨r, hsend⟩ | ⟨c, r, hwait⟩
  · exact ⟨_, _, hidle.matched, prefix_rfl, prefix_rfl⟩
  · exact ⟨_, _, hsend.matched, prefix_rfl, prefix_rfl⟩
  · cases hwait with
    | requested matched => exact ⟨_, _, matched, prefix_append _ _, prefix_rfl⟩
    | working matched => exact ⟨_, _, matched, prefix_append _ _, prefix_rfl⟩
    | replied matched => exact ⟨_, _, matched, prefix_append _ _, prefix_append _ _⟩
    | failed matched => exact ⟨_, _, matched, prefix_append _ _, prefix_append _ _⟩

theorem getElem?_of_isPrefix {α : Type} {l l' : List α} (h : l <+: l') {n : ℕ} {a : α}
    (ha : l[n]? = some a) : l'[n]? = some a := by
  obtain ⟨hn, rfl⟩ := List.getElem?_eq_some_iff.mp ha
  exact prefix_iff_getElem?.mp h n hn

theorem Known.answer (hknown : Known P conn h) {n : ℕ} {o : TaskOutcome}
    (ho : h.answered[n]? = some (c, o)) :
    ∃ r m, h.wrote[n]? = some (c, r) ∧ h.handled[n]? = some (r, m) ∧
      o = .ofResponse (P.handle r m).1 := by
  obtain ⟨W, H, hmatched, hW, hH⟩ := hknown.matched
  obtain ⟨r, m, hwrote, hhandled, houtcome⟩ := hmatched.answer ho
  exact ⟨r, m, getElem?_of_isPrefix hW hwrote, getElem?_of_isPrefix hH hhandled, houtcome⟩

structure Sound (P : Tasking F) (S : State F) : Prop where
  wired : Wired P S
  accounts : Accounts S

theorem Sound.start (machine : F) : Sound P (State.start machine) where
  wired := ⟨fun _ => Or.inl ⟨.nil, rfl, rfl, Or.inl rfl⟩, fun _ _ => rfl, fun _ _ => rfl⟩
  accounts := by
    refine ⟨rfl, nofun, nofun, nodup_nil, nodup_nil, nofun, ?_⟩
    intro before c after heq
    cases before <;> cases heq

theorem Sound.step (hS : Sound P S) (op : Op F) : Sound P (S.step P op) :=
  ⟨hS.wired.moves (step_moves P S op), hS.accounts.moves (step_moves P S op)⟩

theorem Sound.run (hS : Sound P S) (ops : List (Op F)) : Sound P (S.run P ops) :=
  foldlRecOn (motive := Sound P) ops _ hS fun _ h op _ => h.step op

/-- Whatever happens, and in whatever order: the `n`-th answer on a connection goes to the caller of
    the `n`-th request that was written on it, and is the response of the tasks daemon to the `n`-th
    request that it handled there, which is that caller's own.  No caller is answered twice, no
    request is written twice, and only one that was not written is queued again. -/
theorem outcomes_reach_callers (P : Tasking F) (machine : F) (ops : List (Op F)) :
    let trace := ((State.start machine).run P ops).trace
    (∀ (k n c : ℕ) (o : TaskOutcome), (answeredOn k trace)[n]? = some (c, o) →
      ∃ r m, .queued c r ∈ trace ∧ (wroteOn k trace)[n]? = some (c, r) ∧
        (handledOn k trace)[n]? = some (r, m) ∧
        o = TaskOutcome.ofResponse (handleTask P.tools P.cfg r m).1) ∧
    (queuers trace).Nodup ∧ (writers trace).Nodup ∧ (answerers trace).Nodup ∧
    ∀ before c after, trace = before ++ .requeued c :: after → c ∉ writers before := by
  intro trace
  obtain ⟨hwired, haccounts⟩ := (Sound.start (P := P) machine).run ops
  refine ⟨?_, ?_, ?_, ?_, haccounts.requeues⟩
  · intro k n c o ho
    obtain ⟨r, m, hwrote, hhandled, houtcome⟩ := (hwired.fits k).known.answer ho
    refine ⟨r, m, ?_, hwrote, hhandled, houtcome⟩
    exact haccounts.ownWrote k c r (mem_wroteOn.mp (mem_of_getElem? hwrote))
  · rw [haccounts.queued]
    exact nodup_range
  · exact haccounts.callers.of_append_right
  · exact haccounts.answers.of_append_left

/-! ## 3. The answer to one caller -/

/-- The request of the caller was handled, in this state of the machine. -/
def HandledFor (trace : List (Event F)) (c : ℕ) (r : TaskRequest) (m : F) : Prop :=
  ∃ k n : ℕ, (wroteOn k trace)[n]? = some (c, r) ∧ (handledOn k trace)[n]? = some (r, m)

theorem eq_of_nodup_filterMap {α β : Type} {f : α → Option β} {l : List α}
    (h : (l.filterMap f).Nodup) {a a' : α} (ha : a ∈ l) (ha' : a' ∈ l) {b : β}
    (hb : f a = some b) (hb' : f a' = some b) : a = a' := by
  by_contra hne
  have hpairwise := pairwise_filterMap.mp h
  have hsymm : Std.Symm fun a a' => ∀ b, f a = some b → ∀ b', f a' = some b' → b ≠ b' :=
    ⟨fun a a' h b hb b' hb' => (h b' hb' b hb).symm⟩
  exact hpairwise.forall ha ha' hne b hb b hb' rfl

theorem wroteOn_map_sublist (k : ℕ) (trace : List (Event F)) :
    ((wroteOn k trace).map Prod.fst).Sublist (writers trace) := by
  induction trace with
  | nil => exact Sublist.refl _
  | cons e trace ih =>
    unfold wroteOn writers at ih ⊢
    cases e with
    | wrote j c r =>
      by_cases hj : j = k
      · simpa [hj, Event.writer] using ih
      · simpa [hj, Event.writer] using ih.cons c
    | queued | requeued | handled | answered => exact ih

theorem Accounts.handledFor_unique (hS : Accounts S) {r r' : TaskRequest} {m m' : F}
    (h : HandledFor S.trace c r m) (h' : HandledFor S.trace c r' m') : m = m' := by
  obtain ⟨k, n, hwrote, hhandled⟩ := h
  obtain ⟨k', n', hwrote', hhandled'⟩ := h'
  have hnodup : (writers S.trace).Nodup := hS.callers.of_append_right
  have hsame := eq_of_nodup_filterMap hnodup (mem_wroteOn.mp (mem_of_getElem? hwrote))
    (mem_wroteOn.mp (mem_of_getElem? hwrote')) rfl rfl
  cases hsame
  have hon : (wroteOn k S.trace).Nodup :=
    Nodup.of_map _ (hnodup.sublist (wroteOn_map_sublist k S.trace))
  obtain ⟨hn, _⟩ := List.getElem?_eq_some_iff.mp hwrote
  obtain rfl : n = n' := (getElem?_inj hn hon).mp (hwrote.trans hwrote'.symm)
  cases hhandled.symm.trans hhandled'
  rfl

/-- The outcome for a caller is the response to the request that it queued. -/
theorem Sound.outcome (hS : Sound P S) {k : ℕ} {r : TaskRequest} {o : TaskOutcome}
    (hanswered : .answered k c o ∈ S.trace) (hqueued : .queued c r ∈ S.trace) :
    ∃ m, HandledFor S.trace c r m ∧ o = .ofResponse (P.handle r m).1 := by
  have hmem : (c, o) ∈ answeredOn k S.trace := mem_filterMap.mpr ⟨_, hanswered, if_pos rfl⟩
  obtain ⟨n, hn⟩ := mem_iff_getElem?.mp hmem
  obtain ⟨r', m, hwrote, hhandled, houtcome⟩ := (hS.wired.fits k).known.answer hn
  have hown := hS.accounts.ownWrote k c r' (mem_wroteOn.mp (mem_of_getElem? hwrote))
  have hnodup : (queuers S.trace).Nodup := by
    rw [hS.accounts.queued]
    exact nodup_range
  cases eq_of_nodup_filterMap hnodup hown hqueued rfl rfl
  exact ⟨m, ⟨k, n, hwrote, hhandled⟩, houtcome⟩

theorem Moves.trace_grows (h : Moves P S S') : S.trace <+: S'.trace := by
  cases h with
  | same | hungUp | changed | left | accepted | received | sendFailed | wrotePart | tasksMoved
  | readPart => exact prefix_rfl
  | queued | wroteAll | requeued | worked | answered => exact prefix_append _ _

theorem run_trace_grows (P : Tasking F) (S : State F) (ops : List (Op F)) :
    S.trace <+: (S.run P ops).trace := by
  refine foldlRecOn (motive := fun S' : State F => S.trace <+: S'.trace) ops _
    prefix_rfl ?_
  intro S' h op _
  exact h.trans (step_moves P S' op).trace_grows

end Himmelblau.TaskQueue
