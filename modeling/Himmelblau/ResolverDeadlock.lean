/-
  **Clients that share one resolver.**  The four nestings of the mutexes are two
  pairs of opposite ones: `hsm` and `db` are taken in either order (the provider
  calls against the cached passwords), and `nxcache` and `db` too (`clear_cache` and
  `invalidate` against a lookup that misses).  A run in which one nesting of each
  pair does not occur has no deadlock (`not_deadlocked_of_keepsOrder`); with both,
  two clients can wait for each other (`invalidate_lookup_deadlock`).
-/
import Himmelblau.LockPool
import Himmelblau.ResolverLocks

namespace Himmelblau

open Interface Db LockProgram LockPool Resolver

variable {P : Type} {ι : Type} [DecidableEq ι] [Fintype ι]

/-! ## 1. Client programs -/

def clientProg (R : Resolver P) : List ResolverOp → Op P Unit
  | [] => return ()
  | op :: ops => do
    op.prog R
    clientProg R ops

theorem clientProg_balanced (R : Resolver P) (ops : List ResolverOp) :
    (clientProg R ops).Balanced NestingOrSelf := by
  induction ops with
  | nil => exact .pure _
  | cons op ops ih => exact .bind (op.prog_balanced_orSelf R) fun _ => ih

/-! ## 2. Runs that keep one order -/

/-- No client asks for `inner` while it holds `outer`. -/
def Avoids (outer inner : Mutex) (c : Pool ι Mutex (ResolverState P)) : Prop :=
  ∀ i, c.asks i = some inner → outer ∉ (c.clients i).held

instance (outer inner : Mutex) (c : Pool ι Mutex (ResolverState P)) :
    Decidable (Avoids outer inner c) :=
  inferInstanceAs (Decidable (∀ _, _))

/-- Of `hsm` and `db` only the nesting that starts with the chosen one is used, and of
    `nxcache` and `db` likewise. -/
def KeepsOrder (hsmFirst nxcacheFirst : Bool) (c : Pool ι Mutex (ResolverState P)) : Prop :=
  (if hsmFirst then Avoids .db .hsm c else Avoids .hsm .db c) ∧
    (if nxcacheFirst then Avoids .db .nxcache c else Avoids .nxcache .db c)

def mutexRank (hsmFirst nxcacheFirst : Bool) : Mutex → ℕ
  | .db => 2
  | .hsm => if hsmFirst then 1 else 3
  | .nxcache => if nxcacheFirst then 0 else 4
  | .nxset => 5

theorem mutexRank_injective (hsmFirst nxcacheFirst : Bool) :
    (mutexRank hsmFirst nxcacheFirst).Injective := by
  intro a b h
  cases hsmFirst <;> cases nxcacheFirst <;> cases a <;> cases b <;> first | rfl | cases h

theorem nestingOrSelf_pair {held : List Mutex} {h m : Mutex} (hn : NestingOrSelf held m)
    (hh : h ∈ held) :
    (h = .hsm ∧ m = .db) ∨ (h = .db ∧ m = .hsm) ∨ (h = .nxcache ∧ m = .db) ∨
      (h = .db ∧ m = .nxcache) ∨ h = m := by
  rcases hn with (rfl | hmem) | ⟨rfl, rfl⟩
  · cases hh
  · simp only [List.mem_cons, Prod.mk.injEq, List.not_mem_nil, or_false] at hmem
    rcases hmem with ⟨rfl, rfl⟩ | ⟨rfl, rfl⟩ | ⟨rfl, rfl⟩ | ⟨rfl, rfl⟩ <;>
      simp [List.mem_singleton.mp hh]
  · rcases List.mem_pair.mp hh with rfl | rfl <;> simp

omit [DecidableEq ι] [Fintype ι] in
/-- A client that waits in a run that keeps one order asks for a mutex at or above all
    it holds. -/
theorem KeepsOrder.le_of_asks {hsmFirst nxcacheFirst : Bool}
    {c : Pool ι Mutex (ResolverState P)} (hc : KeepsOrder hsmFirst nxcacheFirst c) {i : ι}
    {m : Mutex} (hasks : c.asks i = some m) (hn : NestingOrSelf (c.clients i).held m)
    {h : Mutex} (hh : h ∈ (c.clients i).held) :
    mutexRank hsmFirst nxcacheFirst h ≤ mutexRank hsmFirst nxcacheFirst m := by
  obtain ⟨hhsm, hnx⟩ := hc
  rcases nestingOrSelf_pair hn hh with ⟨rfl, rfl⟩ | ⟨rfl, rfl⟩ | ⟨rfl, rfl⟩ | ⟨rfl, rfl⟩ | rfl
  · cases hsmFirst with
    | true => simp [mutexRank]
    | false => exact absurd hh (hhsm i hasks)
  · cases hsmFirst with
    | true => exact absurd hh (hhsm i hasks)
    | false => simp [mutexRank]
  · cases nxcacheFirst with
    | true => simp [mutexRank]
    | false => exact absurd hh (hnx i hasks)
  · cases nxcacheFirst with
    | true => exact absurd hh (hnx i hasks)
    | false => simp [mutexRank]
  · exact le_rfl

/-- **No deadlock in a run that keeps one order.**  Any clients, any operations, any
    interleaving. -/
theorem not_deadlocked_of_keepsOrder (R : Resolver P) (clients : ι → List ResolverOp)
    (s : ResolverState P) (hsmFirst nxcacheFirst : Bool) (c : Pool ι Mutex (ResolverState P))
    (hrun : Pool.RunIn (KeepsOrder hsmFirst nxcacheFirst)
      (Pool.start (fun i => clientProg R (clients i)) s) c) :
    ¬ c.Deadlocked := by
  have hdisc := hrun.disciplined fun i => clientProg_balanced R (clients i)
  refine Pool.not_deadlocked_of_rank (mutexRank hsmFirst nxcacheFirst)
    (mutexRank_injective _ _) hrun.exclusive ?_
  intro i m hasks h hh
  exact hrun.holds.le_of_asks hasks (hdisc.asks_ok hasks) hh

def refreshAndTest : Fin 2 → List ResolverOp
  | 0 => [.refreshUsertoken (.name "alice@example.com") none]
  | 1 => [.testConnection]

/-- One client holds `hsm` and asks for `db`, which the other one holds. -/
theorem refresh_test_not_deadlocked :
    ∃ c, c.asks 0 = some .db ∧ (c.clients 0).held = [.hsm] ∧ (c.clients 1).held = [.db] ∧
      Pool.RunIn (KeepsOrder true true)
        (Pool.start (fun i => clientProg outageResolver (refreshAndTest i)) aliceState) c ∧
      ¬ c.Deadlocked := by
  have hrun : ∃ c, Pool.RunIn (KeepsOrder true true)
      (Pool.start (fun i => clientProg outageResolver (refreshAndTest i)) aliceState) c ∧
      c.asks 0 = some .db ∧ (c.clients 0).held = [.hsm] ∧ (c.clients 1).held = [.db] := by
    refine ⟨_, .step 1 (.step 0 (.init ⟨?_, ?_⟩) rfl ⟨?_, ?_⟩) rfl ⟨?_, ?_⟩, rfl, rfl, rfl⟩ <;>
      decide
  obtain ⟨c, hrun, hasks, h0, h1⟩ := hrun
  exact ⟨c, hasks, h0, h1, hrun, not_deadlocked_of_keepsOrder _ _ _ true true c hrun⟩

/-! ## 3. Two clients that wait for each other -/

def invalidateAndLookup : Fin 2 → List ResolverOp
  | 0 => [.invalidate]
  | 1 => [.getNssaccountName "bob@example.com"]

/-- One client has taken `nxcache` to invalidate the cache and asks for `db`; the other
    has found no row for its name under `db` and asks for `nxcache`. -/
theorem invalidate_lookup_deadlock :
    ∃ c, Pool.Reachable (Pool.start (fun i => clientProg outageResolver (invalidateAndLookup i))
      aliceState) c ∧ c.Deadlocked := by
  refine ⟨_, Pool.reachable_of_steps [0, 0, 1, 1, 1, 1, 1, 1] (.init trivial) rfl,
    Finset.univ, Finset.univ_nonempty, ?_⟩
  intro i _
  match i with
  | 0 => exact ⟨.db, rfl, 1, Finset.mem_univ _, by decide, .head _⟩
  | 1 => exact ⟨.nxcache, rfl, 0, Finset.mem_univ _, by decide, .head _⟩

end Himmelblau
