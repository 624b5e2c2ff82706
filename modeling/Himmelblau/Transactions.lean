/-
  **Transactions on the one connection of a `Db`** (mirror of `Db::write`, `DbTxn::commit` and the
  `Drop` of `DbTxn`).  `commit` marks the transaction as committed before it executes `COMMIT`, and
  `Drop` rolls back only what is not marked.  A `COMMIT` that fails therefore leaves the connection
  inside the transaction, and `BEGIN` is refused from then on.

  SQLite refuses a `BEGIN` inside a transaction and a `COMMIT` or `ROLLBACK` outside of one, leaves
  the transaction open if `COMMIT` fails, and rolls back what is open.
-/
import Himmelblau.Db
import Himmelblau.Runs

namespace Himmelblau.Transactions

variable {D : Type}

/-! ## 1. The connection -/

/-- The database that is stored and, inside a transaction, as its statements have left it. -/
structure Connection (D : Type) where
  stored : D
  working : Option D

namespace Connection

/-- `BEGIN TRANSACTION`; `none` if it is refused. -/
def beginTransaction (conn : Connection D) : Option (Connection D) :=
  match conn.working with
  | none => some { conn with working := some conn.stored }
  | some _ => none

/-- A statement; outside of a transaction it is committed at once. -/
def execute (conn : Connection D) (statement : D → D) : Connection D :=
  match conn.working with
  | none => { conn with stored := statement conn.stored }
  | some db => { conn with working := some (statement db) }

/-- `COMMIT TRANSACTION`; `fails` is whether SQLite reports an error (busy, I/O, a deferred
    constraint), and `none` that it did. -/
def commitTransaction (conn : Connection D) (fails : Bool) : Option (Connection D) :=
  match conn.working with
  | none => none
  | some db => if fails then none else some ⟨db, none⟩

/-- `ROLLBACK TRANSACTION`; `none` if there is nothing to roll back. -/
def rollbackTransaction (conn : Connection D) : Option (Connection D) :=
  conn.working.map fun _ => { conn with working := none }

end Connection

/-! ## 2. The transaction -/

inductive CommitError where
  | transactionInvalidState
  | sqlite
  deriving DecidableEq, Repr

structure DbTxn (D : Type) where
  committed : Bool
  conn : Connection D

namespace DbTxn

/-- `DbTxn::new`; `none` is the panic of its `expect`. -/
def new (conn : Connection D) : Option (DbTxn D) :=
  conn.beginTransaction.map fun conn => { committed := false, conn := conn }

def execute (txn : DbTxn D) (statement : D → D) : DbTxn D :=
  { txn with conn := txn.conn.execute statement }

/-- `DbTxn::commit`, up to the drop of `self`. -/
def commit (txn : DbTxn D) (fails : Bool) : Except CommitError Unit × DbTxn D :=
  if txn.committed then (.error .transactionInvalidState, txn)
  else
    -- the flag is set before the statement is executed
    let txn := { txn with committed := true }
    match txn.conn.commitTransaction fails with
    | none => (.error .sqlite, txn)
    | some conn => (.ok (), { txn with conn := conn })

/-- `Drop`: whether it panics, and the connection that the guard releases. -/
def drop (txn : DbTxn D) : Bool × Connection D :=
  if txn.committed then (false, txn.conn)
  else
    match txn.conn.rollbackTransaction with
    | none => (true, txn.conn)
    | some conn => (false, conn)

end DbTxn

inductive Ending where
  | commit (fails : Bool)
  | dropped
  deriving DecidableEq, Repr

structure Use (D : Type) where
  statements : List (D → D)
  ending : Ending

namespace Use

def finish (u : Use D) (txn : DbTxn D) : DbTxn D :=
  match u.ending with
  | .commit fails => (txn.commit fails).2
  | .dropped => txn

/-- Whether the use panics, and the connection that it releases.  A panic of `BEGIN` releases the
    guard too. -/
def run (u : Use D) (conn : Connection D) : Bool × Connection D :=
  match DbTxn.new conn with
  | none => (true, conn)
  | some txn => (u.finish (u.statements.foldl DbTxn.execute txn)).drop

def effect (u : Use D) (db : D) : D := u.statements.foldl (fun db statement => statement db) db

/-- What should be stored after the use: all of it if it was committed, and nothing else. -/
def lasting (u : Use D) (db : D) : D :=
  match u.ending with
  | .commit false => u.effect db
  | _ => db

/-- The use does not panic, releases the connection outside of any transaction, and stores what it
    should. -/
def Proper (u : Use D) (conn : Connection D) : Prop :=
  u.run conn = (false, ⟨u.lasting conn.stored, none⟩)

end Use

def connAfter (uses : List (Use D)) (conn : Connection D) : Connection D :=
  uses.foldl (fun conn u => (u.run conn).2) conn

/-! ## 3. One use -/

section OneUse

variable (u : Use D)

theorem foldl_execute (statements : List (D → D)) (stored db : D) (committed : Bool) :
    statements.foldl DbTxn.execute ⟨committed, ⟨stored, some db⟩⟩ =
      ⟨committed, ⟨stored, some (statements.foldl (fun db statement => statement db) db)⟩⟩ := by
  induction statements generalizing db with
  | nil => rfl
  | cons statement statements ih => exact ih (statement db)

theorem run_of_outside (stored : D) :
    u.run ⟨stored, none⟩ =
      (u.finish ⟨false, ⟨stored, some (u.effect stored)⟩⟩).drop := by
  change (u.finish (u.statements.foldl DbTxn.execute ⟨false, ⟨stored, some stored⟩⟩)).drop = _
  rw [foldl_execute]
  rfl

theorem proper_iff (stored : D) : u.Proper ⟨stored, none⟩ ↔ u.ending ≠ .commit true := by
  unfold Use.Proper Use.lasting
  rw [run_of_outside]
  unfold Use.finish
  cases u.ending with
  | dropped => exact iff_of_true rfl nofun
  | commit fails =>
    cases fails with
    | false => exact iff_of_true rfl nofun
    | true =>
      refine iff_of_false ?_ (fun h => h rfl)
      intro h
      -- the guard is released with the transaction still open
      have hopen : some (u.effect stored) = none := congrArg (fun r => r.2.working) h
      cases hopen

theorem run_of_inside (stored db : D) : u.run ⟨stored, some db⟩ = (true, ⟨stored, some db⟩) := rfl

end OneUse

/-! ## 4. Sequences of uses -/

theorem connAfter_of_inside (uses : List (Use D)) (stored db : D) :
    connAfter uses ⟨stored, some db⟩ = ⟨stored, some db⟩ := by
  induction uses with
  | nil => rfl
  | cons u uses ih => exact ih

def Outside (conn : Connection D) : Prop := conn.working = none

theorem proper_iff_of_outside {conn : Connection D} (h : Outside conn) (u : Use D) :
    u.Proper conn ↔ u.ending ≠ .commit true := by
  obtain ⟨stored, working⟩ := conn
  cases h
  exact proper_iff u stored

theorem outside_run {conn : Connection D} {u : Use D} (h : Outside conn)
    (hu : u.ending ≠ .commit true) : Outside (u.run conn).2 := by
  rw [(proper_iff_of_outside h u).mpr hu]
  rfl

/-- **Transaction discipline.**  All uses of a new connection are proper exactly if no `COMMIT`
    fails. -/
theorem all_proper_iff (uses : List (Use D)) (stored : D) :
    (∀ before u after, uses = before ++ u :: after →
        u.Proper (connAfter before ⟨stored, none⟩)) ↔
      ∀ u ∈ uses, u.ending ≠ .commit true := by
  have hnew : Outside (⟨stored, none⟩ : Connection D) := rfl
  rw [← Runs.along_const (fun conn u => (u.run conn).2)]
  change Runs.Along (fun conn u => (u.run conn).2) (fun conn u => u.Proper conn) uses _ ↔ _
  refine Runs.along_congr Outside ?_ ?_ hnew
  · intro conn u _ houtside
    exact proper_iff_of_outside houtside u
  · intro conn u _ houtside hu
    exact outside_run houtside hu

section FailedCommit

variable {before : List (Use D)} {u : Use D} (hbefore : ∀ v ∈ before, v.ending ≠ .commit true)
  (hu : u.ending = .commit true)

include hbefore hu

theorem connAfter_of_failed_commit (later : List (Use D)) (stored : D) :
    connAfter (before ++ u :: later) ⟨stored, none⟩ =
      { connAfter before ⟨stored, none⟩ with
        working := some (u.effect (connAfter before ⟨stored, none⟩).stored) } := by
  have houtside : Outside (connAfter before ⟨stored, none⟩) :=
    Runs.Along.foldl Outside (fun _ _ houtside hv => outside_run houtside hv) rfl
      ((Runs.along_const _).mpr hbefore)
  have hsplit : connAfter (before ++ u :: later) ⟨stored, none⟩ =
      connAfter later (u.run (connAfter before ⟨stored, none⟩)).2 := by
    unfold connAfter
    rw [List.foldl_append, List.foldl_cons]
  rw [hsplit]
  generalize connAfter before ⟨stored, none⟩ = conn at houtside ⊢
  obtain ⟨stored', working⟩ := conn
  cases houtside
  rw [run_of_outside, Use.finish, hu]
  exact connAfter_of_inside later stored' (u.effect stored')

/-- After a `COMMIT` that fails the connection stays inside the transaction as its statements left
    it: the next `BEGIN` is refused, and every use from then on panics and changes nothing. -/
theorem panics_after_failed_commit (later : List (Use D)) (stored : D) :
    let conn := connAfter (before ++ u :: later) ⟨stored, none⟩
    conn.working = some (u.effect (connAfter before ⟨stored, none⟩).stored) ∧
      DbTxn.new conn = none ∧ ∀ v : Use D, v.run conn = (true, conn) := by
  rw [connAfter_of_failed_commit hbefore hu]
  exact ⟨rfl, rfl, fun v => run_of_inside v _ _⟩

end FailedCommit

/-! ## 5. A `COMMIT` that fails -/

open Db Interface

def clearUse (fails : Bool) : Use Database := ⟨[Database.clear], .commit fails⟩

/-- The guard is released inside the transaction, and the next `Db::write` panics. -/
theorem failed_commit_panics :
    let conn : Connection Database := ⟨Database.new, none⟩
    ((clearUse true).run conn).1 = false ∧ ((clearUse true).run conn).2.working.isSome = true ∧
      ((clearUse false).run (connAfter [clearUse true] conn)).1 = true := by
  decide +kernel

theorem panics_after_failed_clear :
    let conn := connAfter [clearUse true] ⟨Database.new, none⟩
    conn.working = some (Database.clear Database.new) ∧ DbTxn.new conn = none ∧
      ∀ v : Use Database, v.run conn = (true, conn) :=
  @panics_after_failed_commit _ [] (clearUse true) (by simp) rfl [] _

end Himmelblau.Transactions
