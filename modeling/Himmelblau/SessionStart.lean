/-
  **The start of a session**, mirror of the handler of `PamAccountBeginSession` in `handle_client`
  of `daemon/src/daemon.rs`.  The home directory, the local groups and the subordinate ids are made
  by the tasks daemon, which each of the three tasks is queued for, and waited for up to a second.

  An outcome that arrives counts as done, whatever it says; a home directory that could not be made
  is reported as one that was.
-/
import Himmelblau.Subids
import Himmelblau.TaskCallers

namespace Himmelblau.SessionStart

open Codecs Interface NameMapping TaskDaemon TaskQueue LocalGroups

variable {F : Type} {P : Tasking F} {S : State F}

/-! ## 1. One task -/

/-- What happens while the handler waits for room in the queue, for up to 100 ms, and then for the
    outcome, for up to a second. -/
structure Wait (F : Type) where
  room : List (TaskQueue.Op F)
  outcome : List (TaskQueue.Op F)

/-- What has been sent on the one-shot of a caller. -/
def outcomeOf (S : State F) (c : ℕ) : Option TaskOutcome :=
  S.trace.findSome? fun
    | .answered _ c' o => if c' = c then some o else none
    | _ => none

/-- `send_timeout`, and `timeout_at` on the other end of the one-shot. -/
def dispatch (P : Tasking F) (S : State F) (r : TaskRequest) (wait : Wait F) :
    Option TaskOutcome × State F :=
  let S := S.run P wait.room
  if S.hasRoom then
    let S' := (S.step P (.queue r)).run P wait.outcome
    (outcomeOf S' S.next, S'.step P (.hangUp S.next))
  else
    (none, S)

/-- The number that the one-shot of the request gets. -/
def callerOf (P : Tasking F) (S : State F) (wait : Wait F) : ℕ := (S.run P wait.room).next

theorem mem_of_outcomeOf {c : ℕ} {o : TaskOutcome} (h : outcomeOf S c = some o) :
    ∃ k, .answered k c o ∈ S.trace := by
  obtain ⟨e, he, heq⟩ := List.exists_of_findSome?_eq_some h
  cases e with
  | answered k c' o' =>
    by_cases hc : c' = c
    · simp only [hc, if_true] at heq
      cases heq
      exact ⟨k, hc ▸ he⟩
    · simp [hc] at heq
  | queued | wrote | requeued | handled => cases heq

theorem dispatch_sound (hS : Sound P S) (r : TaskRequest) (wait : Wait F) :
    Sound P (dispatch P S r wait).2 := by
  unfold dispatch
  dsimp only
  split
  · exact (((hS.run wait.room).step (.queue r)).run wait.outcome).step (.hangUp _)
  · exact hS.run wait.room

theorem dispatch_outcome (hS : Sound P S) {r : TaskRequest} {wait : Wait F} {o : TaskOutcome}
    (h : (dispatch P S r wait).1 = some o) :
    ∃ m, HandledFor (dispatch P S r wait).2.trace (callerOf P S wait) r m ∧
      o = .ofResponse (P.handle r m).1 := by
  have hrun := hS.run wait.room
  unfold dispatch callerOf at *
  dsimp only at h ⊢
  by_cases hroom : (S.run P wait.room).hasRoom = true
  · rw [if_pos hroom] at h ⊢
    obtain ⟨k, hanswered⟩ := mem_of_outcomeOf h
    have hqueued : .queued (S.run P wait.room).next r ∈
        ((S.run P wait.room).step P (.queue r)).trace := by
      dsimp only [State.step]
      rw [if_pos hroom]
      exact List.mem_append_right _ List.mem_cons_self
    exact ((hrun.step _).run wait.outcome).outcome hanswered
      ((run_trace_grows P _ _).subset hqueued)
  · rw [if_neg hroom] at h
    cases h

/-! ## 2. The session -/

inductive ClientResponse where
  | ok
  | error
  deriving DecidableEq, Repr

structure SessionConfig where
  sudoGroups : List String
  parseUuid : String → Option Uuid
  names : NameConfig
  nameCache : Option MappedNameCache
  subidRange : UInt32 × UInt32

/-- What happens around the three tasks, and while the sudo groups are looked up. -/
structure Waits (F : Type) where
  home : Wait F
  lookup : List (TaskQueue.Op F)
  groups : Wait F
  subids : Wait F

def isSudoer (cfg : SessionConfig) (getGroupmembers : Uuid → List String) (accountId : String) :
    Bool :=
  cfg.sudoGroups.any fun sudoGroup =>
    match cfg.parseUuid sudoGroup with
    | some uuid => (getGroupmembers uuid).contains accountId
    | none => false

/-- Only that an outcome has arrived is looked at. -/
def completed : Option TaskOutcome → ClientResponse
  | some _ => .ok
  | none => .error

section Session

variable (P : Tasking F) (cfg : SessionConfig) (getGroupmembers : Uuid → List String)
  (accountId : String) (info : HomeDirectoryInfo) (waits : Waits F) (S : State F)

def homeTask : Option TaskOutcome × State F := dispatch P S (.homeDirectory info) waits.home

def afterLookup : State F := (homeTask P info waits S).2.run P waits.lookup

def groupsTask : Option TaskOutcome × State F :=
  dispatch P (afterLookup P info waits S)
    (.localGroups accountId (isSudoer cfg getGroupmembers accountId)) waits.groups

/-- Set up subordinate IDs for container support -/
def subidsTask : Option TaskOutcome × State F :=
  let mappedName := cfg.names.mapUpnToName cfg.nameCache accountId
  let subidStart := Subids.genSubidStart cfg.names.toLowercase mappedName cfg.subidRange
  dispatch P (groupsTask P cfg getGroupmembers accountId info waits S).2
    (.subordinateIds mappedName subidStart Subids.subidCount) waits.subids

def pamAccountBeginSession (found : Except Unit (Option HomeDirectoryInfo)) :
    ClientResponse × State F :=
  match found with
  | .ok (some info) =>
    let resp1 := completed (homeTask P info waits S).1
    let resp2 := completed (groupsTask P cfg getGroupmembers accountId info waits S).1
    let S := (subidsTask P cfg getGroupmembers accountId info waits S).2
    -- Return error only if critical tasks (home dir or local groups) failed
    match resp1 with
    | .error => (.error, S)
    | .ok => (resp2, S)
  | _ => (.error, S)

/-- The tasks daemon has made the home directory for the request and reported it. -/
def HomeReported : Prop :=
  (homeTask P info waits S).1 = some (.status 0) ∧
  ∃ m, HandledFor (homeTask P info waits S).2.trace (callerOf P S waits.home)
    (.homeDirectory info) m ∧ (handleHomeDirectory P.tools P.cfg info m).1 = .ok ()

/-- The tasks daemon has worked on the local groups and reported it. -/
def GroupsReported : Prop :=
  (groupsTask P cfg getGroupmembers accountId info waits S).1 = some (.status 0) ∧
  ∃ m, HandledFor (groupsTask P cfg getGroupmembers accountId info waits S).2.trace
    (callerOf P (afterLookup P info waits S) waits.groups)
    (.localGroups accountId (isSudoer cfg getGroupmembers accountId)) m

/-- `create_home_directory` succeeds whenever the request is handled. -/
def HomeSucceeds : Prop :=
  ∀ m, HandledFor (homeTask P info waits S).2.trace (callerOf P S waits.home)
    (.homeDirectory info) m → (handleHomeDirectory P.tools P.cfg info m).1 = .ok ()

end Session

section Report

variable {cfg : SessionConfig} {getGroupmembers : Uuid → List String} {accountId : String}
  {info : HomeDirectoryInfo} {waits : Waits F}

theorem status_zero_iff (res : Except String Unit) :
    TaskOutcome.ofResponse (.ofResult res) = .status 0 ↔ res = .ok () := by
  cases res with
  | ok u => exact iff_of_true rfl rfl
  | error msg => exact iff_of_false (by simp [TaskResponse.ofResult, TaskOutcome.ofResponse]) nofun

theorem begin_ok_iff :
    (pamAccountBeginSession P cfg getGroupmembers accountId waits S (.ok (some info))).1 = .ok ↔
      (homeTask P info waits S).1.isSome ∧
      (groupsTask P cfg getGroupmembers accountId info waits S).1.isSome := by
  unfold pamAccountBeginSession
  dsimp only
  cases (homeTask P info waits S).1 with
  | none => simp [completed]
  | some o =>
    cases (groupsTask P cfg getGroupmembers accountId info waits S).1 with
    | none => simp [completed]
    | some o' => simp [completed]

theorem groups_reported (hS : Sound P S)
    (h : (groupsTask P cfg getGroupmembers accountId info waits S).1.isSome) :
    GroupsReported P cfg getGroupmembers accountId info waits S := by
  obtain ⟨o, ho⟩ := Option.isSome_iff_exists.mp h
  have hlookup : Sound P (afterLookup P info waits S) := (dispatch_sound hS _ _).run waits.lookup
  obtain ⟨m, hm, houtcome⟩ := dispatch_outcome hlookup ho
  -- the tasks daemon always indicates success here
  have hzero : o = .status 0 := by
    rw [houtcome, Tasking.handle, handleTask_localGroups]
    rfl
  exact ⟨ho.trans (congrArg some hzero), m, hm⟩

theorem home_reported_iff (hS : Sound P S) (h : (homeTask P info waits S).1.isSome) :
    HomeReported P info waits S ↔ HomeSucceeds P info waits S := by
  obtain ⟨o, ho⟩ := Option.isSome_iff_exists.mp h
  obtain ⟨m, hm, houtcome⟩ := dispatch_outcome hS ho
  have haccounts := (dispatch_sound hS (.homeDirectory info) waits.home).accounts
  constructor
  · rintro ⟨_, m', hm', hok⟩ m'' hm''
    rw [haccounts.handledFor_unique hm'' hm']
    exact hok
  · intro hsucceeds
    have hok := hsucceeds m hm
    have hzero : o = .status 0 := by
      rw [houtcome, Tasking.handle, handleTask_homeDirectory, status_zero_iff]
      exact hok
    exact ⟨ho.trans (congrArg some hzero), m, hm, hok⟩

end Report

/-- Whatever the tasks daemon and the other callers do: the start of a session is answered with `Ok`
    only for a home directory that was made and local groups that were worked on if and only if
    `create_home_directory` succeeds, or one of the two outcomes does not arrive in time. -/
theorem session_reports_iff (P : Tasking F) (cfg : SessionConfig)
    (getGroupmembers : Uuid → List String) (accountId : String) (info : HomeDirectoryInfo)
    (waits : Waits F) (machine : F) (ops : List (TaskQueue.Op F)) :
    let S := (State.start machine).run P ops
    ((pamAccountBeginSession P cfg getGroupmembers accountId waits S (.ok (some info))).1 = .ok →
      HomeReported P info waits S ∧ GroupsReported P cfg getGroupmembers accountId info waits S) ↔
    HomeSucceeds P info waits S ∨ (homeTask P info waits S).1 = none ∨
      (groupsTask P cfg getGroupmembers accountId info waits S).1 = none := by
  intro S
  have hS : Sound P S := (Sound.start machine).run ops
  rw [begin_ok_iff, Option.isSome_iff_ne_none, Option.isSome_iff_ne_none]
  constructor
  · intro h
    by_cases hhome : (homeTask P info waits S).1 = none
    · exact Or.inr (Or.inl hhome)
    by_cases hgroups : (groupsTask P cfg getGroupmembers accountId info waits S).1 = none
    · exact Or.inr (Or.inr hgroups)
    have hsome := Option.isSome_iff_ne_none.mpr hhome
    exact Or.inl ((home_reported_iff hS hsome).mp (h ⟨hhome, hgroups⟩).1)
  · rintro h ⟨hhome, hgroups⟩
    have hsucceeds : HomeSucceeds P info waits S := by
      rcases h with h | h | h
      · exact h
      · exact absurd h hhome
      · exact absurd h hgroups
    exact ⟨(home_reported_iff hS (Option.isSome_iff_ne_none.mpr hhome)).mpr hsucceeds,
      groups_reported hS (Option.isSome_iff_ne_none.mpr hgroups)⟩

/-! ## 3. A machine without a home prefix -/

def byteCodec {M : Type} [DecidableEq M] (msgs : List M) (hlength : msgs.length ≤ 256) :
    Codec M where
  encode msg := if msg ∈ msgs then some [UInt8.ofNat (msgs.idxOf msg)] else none
  decode bytes := match bytes with
    | [b] => msgs[b.toNat]?
    | _ => none
  decode_nil := rfl
  decode_encode := by
    intro msg enc h
    split at h
    next hmem =>
      cases h
      have hlt := Nat.lt_of_lt_of_le (List.idxOf_lt_length_iff.mpr hmem) hlength
      dsimp only
      rw [UInt8.toNat_ofNat', Nat.mod_eq_of_lt hlt, List.getElem?_idxOf hmem]
    next => cases h
  delimited := by
    intro msg enc msgs' encs part h hpart hdecode
    cases h with
    | cons henc _ =>
      dsimp only at henc
      split at henc
      next =>
        cases henc
        split at hdecode
        next b => rw [(List.cons_prefix_cons.mp hpart).1]
        next => cases hdecode
      next => cases henc

def noHomeTools : TaskTools Unit where
  files :=
    { pathExists := fun _ _ => false
      isDir := fun _ _ => false
      createDirAll := fun _ _ f => (.ok (), f)
      lchown := fun _ _ _ f => (.ok (), f)
      walkDir := fun _ _ => []
      copy := fun _ _ f => (.ok (), f)
      isSymlink := fun _ _ => .ok false
      removeFile := fun _ f => (.ok (), f)
      symlink := fun _ _ f => (.ok (), f)
      label := fun _ f => (.ok (), f) }
  groups :=
    { getent := fun _ _ => none
      gpasswdAdd := fun _ _ f => f
      gpasswdDelete := fun _ _ f => f
      members := fun _ _ => [] }
  executeUserScript _ _ _ f := (0, f)
  writeKerberosConfigSnippet _ _ f := (.ok (), f)
  storeTgt _ _ _ f := (.ok (), f)
  loadProfilePhoto _ _ f := f
  applyIntunePolicy _ _ _ _ _ f := (.ok [], f)
  setupSubordinateIds _ _ _ f := (.ok (), f)

def aliceHome : HomeDirectoryInfo := ⟨1000, 1000, "alice@example.com", []⟩

def noHomeTasking : Tasking Unit where
  requests := byteCodec [.homeDirectory aliceHome, .localGroups "alice@example.com" false]
    (by decide)
  responses := byteCodec [.success 0, .error "Invalid home_prefix from configuration"] (by decide)
  tools := noHomeTools
  cfg :=
    { getHomePrefix := fun _ => "/home/"
      useEtcSkel := false
      selinux := false
      logonScript := none
      groups := sudoConfig
      nameCache := none }

def noSudo : SessionConfig where
  sudoGroups := []
  parseUuid _ := none
  names := sudoConfig.names
  nameCache := none
  subidRange := (200000, 300000)

/-- A request goes over the wire, is handled, and its response comes back. -/
def roundTrip : Wait Unit :=
  ⟨[], [.receive, .write 1, .tasksRead 0 1, .work 0, .reply 0 1, .read 1]⟩

/-- The tasks daemon reports an error for the home directory, and the session starts. -/
theorem session_starts_without_home :
    let S := (State.start ()).run noHomeTasking [.accept (some 0)]
    let waits : Waits Unit := ⟨roundTrip, [], roundTrip, ⟨[], []⟩⟩
    (handleHomeDirectory noHomeTasking.tools noHomeTasking.cfg aliceHome ()).1 =
      .error "Invalid home_prefix from configuration" ∧
    (homeTask noHomeTasking aliceHome waits S).1 = some (.status 1) ∧
    (pamAccountBeginSession noHomeTasking noSudo (fun _ => []) "alice@example.com" waits S
      (.ok (some aliceHome))).1 = .ok := by
  decide

end Himmelblau.SessionStart
