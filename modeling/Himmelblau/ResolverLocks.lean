/-
  **How the resolver takes its four mutexes.**  `not_selfBlocks_iff`: an operation blocks on a
  mutex of its own exactly when it takes the database mutex a second time, to find out why the
  provider failed to open an online session.
-/
import Himmelblau.ResolverWalk

namespace Himmelblau.Resolver

open Interface Db LockProgram

variable {P α : Type}

/-! ## 1. The locks of every operation -/

theorem Nesting.not_mem {held : List Mutex} {m : Mutex} (h : Nesting held m) : m ∉ held := by
  rcases h with rfl | h
  · exact List.not_mem_nil
  · simp only [List.mem_cons, Prod.mk.injEq, List.not_mem_nil, or_false] at h
    rcases h with ⟨rfl, rfl⟩ | ⟨rfl, rfl⟩ | ⟨rfl, rfl⟩ | ⟨rfl, rfl⟩ <;> decide

theorem balanced_noSelf {p : Op P α} (h : p.Balanced Nesting) : p.Balanced fun held m => m ∉ held :=
  h.mono (fun _ _ h => h.not_mem) fun _ _ h => h

/-- Only the mutexes are followed: the state may become anything. -/
def AnyState (_ _ : ResolverState P) : Prop := True

instance : Std.Refl (AnyState : ResolverState P → _ → Prop) := ⟨fun _ => trivial⟩

instance : IsTrans (ResolverState P) AnyState := ⟨fun _ _ _ _ _ => trivial⟩

variable (R : Resolver P) (accountId : String) (service : String)

theorem admits_anyState : R.Admits AnyState := by
  constructor
  case apart => exact fun _ _ _ => trivial
  all_goals intros
  all_goals exact fun _ => trivial

theorem authStepBranch_walks (session : AuthSession) (req : PamAuthRequest)
    (state : CacheState) : Walks AnyState (authStepBranch R session req state) := by
  cases session with
  | success _ => exact .pure _
  | denied => exact .pure _
  | inProgress session =>
    unfold authStepBranch
    simp only
    split
    · exact .pure _
    · split
      · refine .bind (.bind (Admits.callWithHsm_moves fun _ => trivial) fun _ => .pure _) ?_
        intro _
        refine .bind (R.admits_anyState.applyCacheAction_moves _ _ fun _ _ _ _ => trivial) ?_
        exact fun _ => .pure _
      · refine .bind (R.admits_anyState.authStepOffline_moves _ _ _ fun _ => trivial) ?_
        exact fun _ => .pure _

theorem pamAccountAuthenticateStep_walks (session : AuthSession) (req : PamAuthRequest) :
    Walks AnyState (pamAccountAuthenticateStep R session req) := by
  refine .bind (R.admits_anyState.getCachestate_walks _) fun state =>
    .bind (authStepBranch_walks R _ _ _) fun r => ?_
  rcases r with ⟨_ | res, session⟩
  · exact .pure _
  · exact R.admits_anyState.authStepFinish_moves _ _

theorem authInitOnline_balanced (token : Option UserToken) (noHelloPin forceReauth : Bool) :
    (authInitOnline R accountId service token noHelloPin forceReauth).Balanced NestingOrSelf :=
  (R.admits_anyState.authInitOnline_moves _ _).balanced

theorem pamAccountAuthenticateInit_balanced (noHelloPin forceReauth : Bool) :
    (pamAccountAuthenticateInit R accountId service noHelloPin forceReauth).Balanced
      NestingOrSelf :=
  (R.admits_anyState.pamAccountAuthenticateInit_moves _ _ _ _).balanced

theorem tryUnsealStep_balanced (cred : String)
    (r : Except Unit (AuthSession × PamAuthResponse)) :
    (match r with
      | .error () => return .error ()
      | .ok (session, .pin) => do
        match ← pamAccountAuthenticateStep R session (.pin cred) with
        | (.error (), _) => return .error ()
        | (.ok .success, _) => return .ok true
        | (.ok _, _) => return .ok false
      | .ok (_, .success) => return .ok true
      | .ok _ => return .ok false : Op P (Except Unit Bool)).Balanced Nesting := by
  split
  · exact .pure _
  · refine .bind (pamAccountAuthenticateStep_walks R _ _).balanced fun r => ?_
    split <;> exact .pure _
  · exact .pure _
  · exact .pure _

theorem pamTryUnseal_moves (accountId cred : String) :
    (pamTryUnseal R accountId cred).Moves NestingOrSelf AnyState [] [] :=
  R.admits_anyState.pamTryUnseal_moves _ _ fun _ => pamAccountAuthenticateStep_walks R _ _

/-! ## 2. The one operation that can block itself -/

/-- The provider, found online, fails to open the session. -/
def InitFailsOnline (noHelloPin : Bool) (s : ResolverState P) : Prop :=
  ∃ token s' e, (authInitPrelude R accountId).exec s = (.ok (some (token, true)), s') ∧
    (R.client.unixUserOnlineAuthInit accountId token service noHelloPin false
      s'.db.hsmDataT s'.client).1 = .error e

theorem authInitOnline_selfBlocks_iff (token : Option UserToken)
    (noHelloPin forceReauth : Bool) (s : ResolverState P) :
    (authInitOnline R accountId service token noHelloPin forceReauth).SelfBlocks s ↔
      forceReauth = false ∧ ∃ e, (R.client.unixUserOnlineAuthInit accountId token service
        noHelloPin forceReauth s.db.hsmDataT s.client).1 = .error e := by
  -- both guards are taken and the provider has answered
  have hrun : ∃ s', (authInitOnline R accountId service token noHelloPin forceReauth).run [] s =
      (authInitOnlineResult R accountId token noHelloPin forceReauth
        (R.client.unixUserOnlineAuthInit accountId token service noHelloPin forceReauth
          s.db.hsmDataT s.client).1 >>= fun r => do
          dbDrop; Prog.unlock .hsm; return r).run [.db, .hsm] s' := ⟨_, rfl⟩
  obtain ⟨s', hrun⟩ := hrun
  unfold Prog.SelfBlocks
  rw [hrun]
  cases (R.client.unixUserOnlineAuthInit accountId token service noHelloPin forceReauth
    s.db.hsmDataT s.client).1 with
  | ok res =>
    refine ⟨?_, ?_⟩
    · rintro ⟨m, held, s'', h⟩
      cases h
    · rintro ⟨-, e, h⟩
      cases h
  | error e =>
    cases forceReauth with
    | true =>
      refine ⟨?_, ?_⟩
      · rintro ⟨m, held, s'', h⟩
        cases h
      · rintro ⟨h, -⟩
        cases h
    | false => exact ⟨fun _ => ⟨rfl, e, rfl⟩, fun _ => ⟨.db, [.db, .hsm], s', rfl⟩⟩

theorem init_selfBlocks_iff (noHelloPin forceReauth : Bool) (s : ResolverState P) :
    (pamAccountAuthenticateInit R accountId service noHelloPin forceReauth).SelfBlocks s ↔
      forceReauth = false ∧ InitFailsOnline R accountId service noHelloPin s := by
  unfold pamAccountAuthenticateInit InitFailsOnline
  rw [(balanced_noSelf R.admits_anyState.authInitPrelude_moves.balanced).selfBlocks_bind]
  rcases (authInitPrelude R accountId).exec s with ⟨_ | _ | ⟨token, online⟩, s'⟩
  · refine iff_of_false (Prog.not_selfBlocks_pure _ _) ?_
    rintro ⟨-, token, s'', e, h, -⟩
    cases h
  · refine iff_of_false (Prog.not_selfBlocks_pure _ _) ?_
    rintro ⟨-, token, s'', e, h, -⟩
    cases h
  · cases online with
    | false =>
      -- offline: nothing is asked for twice
      have hoff : (if forceReauth = true then
            return .ok (.denied, .initDenied "Re-authentication requires network connectivity.")
          else do
            let maybeErr ← authInitOffline R accountId token noHelloPin
            return authInitFinish accountId service token false noHelloPin forceReauth maybeErr :
          Op P _).Balanced Nesting :=
        .ite (.pure _) (.bind R.admits_anyState.authInitOffline_moves.balanced fun _ => .pure _)
      refine iff_of_false ((balanced_noSelf hoff).not_selfBlocks s') ?_
      rintro ⟨-, token', s'', e, h, -⟩
      cases h
    | true =>
      have honline := (authInitOnline_balanced R accountId service token noHelloPin
        forceReauth).selfBlocks_bind_iff (f := fun r => pure (authInitFinish accountId service
          token true noHelloPin forceReauth r)) (fun _ => .pure _) s'
      refine (honline.trans (authInitOnline_selfBlocks_iff ..)).trans ?_
      constructor
      · rintro ⟨rfl, e, he⟩
        exact ⟨rfl, token, s', e, rfl, he⟩
      · rintro ⟨rfl, token', s'', e, h, he⟩
        cases h
        exact ⟨rfl, e, he⟩

end Himmelblau.Resolver

namespace Himmelblau

open Interface Db LockProgram Resolver

variable {P : Type}

def ResolverOp.opensSession : ResolverOp → Bool
  | .pamAccountAuthenticateInit .. | .pamTryUnseal .. => true
  | _ => false

theorem ResolverOp.prog_balanced (R : Resolver P) (op : ResolverOp) (h : op.opensSession = false) :
    (op.prog R).Balanced Nesting := by
  refine (R.admits_anyState.prog_moves (fun _ _ h => h) op ?_ ?_ ?_ ?_).balanced
  · exact fun _ _ _ _ => Admits.changeAuthToken_moves fun _ => trivial
  · exact fun _ _ _ => pamAccountAuthenticateStep_walks R _ _
  · rintro accountId service noHelloPin forceReauth rfl
    cases h
  · rintro accountId cred rfl
    cases h

/-- Every operation nests its mutexes in one of the four ways, or takes `db` twice. -/
theorem ResolverOp.prog_balanced_orSelf (R : Resolver P) (op : ResolverOp) :
    (op.prog R).Balanced NestingOrSelf := by
  refine (R.admits_anyState.prog_moves (fun _ _ => .inl) op ?_ ?_ ?_ ?_).balanced
  · exact fun _ _ _ _ => Admits.changeAuthToken_moves fun _ => trivial
  · exact fun _ _ _ => pamAccountAuthenticateStep_walks R _ _
  · exact fun _ _ _ _ _ => R.admits_anyState.pamAccountAuthenticateInit_moves _ _ _ _
  · exact fun _ _ _ => pamTryUnseal_moves R _ _

/-- The operation opens a session online, without forced re-authentication, and the
    provider answers with an error. -/
def ResolverOp.InitFails (R : Resolver P) (s : ResolverState P) : ResolverOp → Prop
  | .pamAccountAuthenticateInit accountId service noHelloPin forceReauth =>
    forceReauth = false ∧ InitFailsOnline R accountId service noHelloPin s
  | .pamTryUnseal accountId _ => InitFailsOnline R accountId "try_unseal" false s
  | _ => False

/-- **An operation never blocks on a mutex it holds, except to find out why the provider
    failed to open a session.** -/
theorem not_selfBlocks_iff (R : Resolver P) (op : ResolverOp) (s : ResolverState P) :
    ¬ (op.prog R).SelfBlocks s ↔ ¬ op.InitFails R s := by
  refine not_congr ?_
  cases h : op.opensSession with
  | false =>
    refine iff_of_false ((balanced_noSelf (op.prog_balanced R h)).not_selfBlocks s) ?_
    cases op <;> first | exact id | cases h
  | true =>
    unfold ResolverOp.opensSession at h
    split at h
    · refine ((pamAccountAuthenticateInit_balanced R _ _ _ _).selfBlocks_bind_iff
        (fun _ => .pure _) s).trans ?_
      exact init_selfBlocks_iff R ..
    · refine ((pamTryUnseal_moves R _ _).balanced.selfBlocks_bind_iff (fun _ => .pure _) s).trans ?_
      refine ((pamAccountAuthenticateInit_balanced R _ _ _ _).selfBlocks_bind_iff
        (fun _ => balanced_noSelf (tryUnsealStep_balanced R _ _)) s).trans ?_
      exact (init_selfBlocks_iff R ..).trans (and_iff_right rfl)
    · cases h

theorem authenticateInit_selfBlocks :
    ((ResolverOp.pamAccountAuthenticateInit "alice@example.com" "gdm" false false).prog
      outageResolver).SelfBlocks aliceState :=
  ⟨.db, [.db, .hsm], _, rfl⟩

end Himmelblau
