/-
  **What the resolver's operations compute.**  One equation for each helper, so
  that results about answers and cached rows never unfold a lock program.
-/
import Himmelblau.ResolverAuth

namespace Himmelblau

open Interface Db LockProgram UniqueTable

variable {P α : Type} (s : ResolverState P)

def ResolverState.called (ks : KeyStore) (p : P) : ResolverState P :=
  { s with db := { s.db with hsmDataT := ks }, client := p, txn := none }

def ResolverState.committed (db : Database) : ResolverState P :=
  { s with db := db, txn := none }

@[simp] theorem ResolverState.called_accountT (ks : KeyStore) (p : P) :
    (s.called ks p).db.accountT = s.db.accountT := rfl

@[simp] theorem ResolverState.called_nxset (ks : KeyStore) (p : P) :
    (s.called ks p).nxset = s.nxset := rfl

@[simp] theorem ResolverState.committed_db (db : Database) : (s.committed db).db = db := rfl

@[simp] theorem ResolverState.committed_nxset (db : Database) :
    (s.committed db).nxset = s.nxset := rfl

namespace Resolver

variable (R : Resolver P) (s : ResolverState P)

theorem exec_callWithHsm (f : KeyStore → P → α × KeyStore × P) :
    (callWithHsm f).exec s = ((f s.db.hsmDataT s.client).1,
      s.called (f s.db.hsmDataT s.client).2.1 (f s.db.hsmDataT s.client).2.2) := rfl

theorem exec_getCachestate (accountId : Option String) :
    (getCachestate R accountId).exec s =
      ((R.client.getCachestate accountId s.db.hsmDataT s.client).1,
        s.called (R.client.getCachestate accountId s.db.hsmDataT s.client).2.1
          (R.client.getCachestate accountId s.db.hsmDataT s.client).2.2) := rfl

theorem exec_checkNxset (name : Option String) (idnumber : Option UInt32) :
    (checkNxset name idnumber).exec s = (inNxset s.nxset name idnumber, s) := rfl

theorem exec_dbExec (q : Database → Except CacheError Database) :
    (do dbWrite; let res ← dbExec q; commitOrDrop res : Op P _).exec s =
      match q s.db with
      | .ok db => (.ok (), s.committed db)
      | .error _ => (.error (), s.committed s.db) := by
  simp only [Prog.exec_bind, dbWrite, Prog.exec_lock, Prog.exec_modify, dbExec, Prog.exec_call]
  cases q s.db with
  | ok db => rfl
  | error e => rfl

theorem exec_deleteCacheUsertoken (aUuid : Uuid) :
    (deleteCacheUsertoken aUuid).exec s = (.ok (), s.committed (s.db.deleteAccount aUuid)) :=
  exec_dbExec s _

theorem exec_setCacheUserpassword (aUuid : Uuid) (cred : String) :
    (setCacheUserpassword R aUuid cred).exec s =
      match Database.updateAccountPassword R.crypto s.entropy s.db aUuid cred with
      | .ok db => (.ok (), { s.committed db with entropy := s.entropy + 1 })
      | .error _ => (.error (), { s.committed s.db with entropy := s.entropy + 1 }) := by
  simp only [setCacheUserpassword, Prog.exec_bind, dbWrite, Prog.exec_lock, Prog.exec_modify,
    Prog.exec_get, dbExec, Prog.exec_call]
  cases Database.updateAccountPassword R.crypto s.entropy s.db aUuid cred with
  | ok db => rfl
  | error e => rfl

theorem exec_checkCacheUserpassword (aUuid : Uuid) (cred : String) :
    (checkCacheUserpassword R aUuid cred).exec s =
      match Database.checkAccountPassword R.crypto s.db aUuid cred with
      | .ok ok => (.ok ok, s.committed s.db)
      | .error _ => (.error (), s.committed s.db) := by
  simp only [checkCacheUserpassword, Prog.exec_bind, dbWrite, Prog.exec_lock, Prog.exec_modify,
    dbGet, Prog.exec_call]
  cases Database.checkAccountPassword R.crypto s.db aUuid cred with
  | ok ok => rfl
  | error e => rfl

/-- What `set_cache_usertoken` writes: the groups of the token, one after the other, and then the
    account. -/
theorem cacheToken_eq_ok {token : UserToken} {expire : ℕ} {db db' : Database}
    (h : cacheToken token expire db = .ok db') : expire < 2 ^ 63 ∧
      ∃ t, Database.upsertAccount db.accountT token expire = .ok t ∧
        db' = Database.withAccount { db with groupT :=
          (token.groups.map (GroupRow.ofToken expire)).foldl Table.replace db.groupT } token t := by
  unfold cacheToken at h
  split at h
  · cases h
  · rename_i db1 hgroups
    obtain ⟨hexpire, t, ht, rfl⟩ := Database.updateAccount_eq_ok h
    cases (Database.updateGroups_eq token.groups hexpire db).symm.trans hgroups
    exact ⟨hexpire, t, ht, rfl⟩

theorem exec_setCacheUsertoken (token : UserToken) :
    (setCacheUsertoken R token).exec s =
      match cacheToken (tokenToCache R s.nxset token) (s.clock s.ticks + R.timeoutSeconds) s.db with
      | .ok db => (.ok (tokenToCache R s.nxset token),
          { s.committed db with ticks := s.ticks + 1 })
      | .error _ => (.error (), { s.committed s.db with ticks := s.ticks + 1 }) := by
  simp only [setCacheUsertoken, Prog.exec_bind, now, Prog.exec_call, Prog.exec_lock,
    Prog.exec_get, Prog.exec_unlock, dbWrite, Prog.exec_modify, dbExec]
  cases cacheToken (tokenToCache R s.nxset token) (s.clock s.ticks + R.timeoutSeconds) s.db with
  | ok db => rfl
  | error e => rfl

theorem exec_changeAuthToken (accountId : String) (token : UnixUserToken) (newTok : String) :
    ((changeAuthToken R accountId token newTok).exec s).2 =
      if inNxset s.nxset (some accountId) none then s
      else s.called (R.client.changeAuthToken accountId token newTok s.db.hsmDataT s.client).2.1
        (R.client.changeAuthToken accountId token newTok s.db.hsmDataT s.client).2.2 := by
  unfold changeAuthToken
  rw [Prog.exec_bind, exec_checkNxset]
  split
  · rfl
  · rw [Prog.exec_bind, exec_callWithHsm]
    split <;> rfl

end Resolver

end Himmelblau
