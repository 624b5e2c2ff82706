/-
  **The members of a group.**  Memberships are kept in a table of their own, `memberof_t`, by hand:
  `update_account` deletes those of the account and writes them anew, and `delete_account` deletes
  them.  The purge of `update_account` does not, so without foreign keys it leaves rows behind whose
  account is gone.  No such row is ever reported: a member has a row in `account_t`, and an account
  that comes back has its old memberships deleted first.
-/
import Himmelblau.AccountCache

namespace Himmelblau.Db

open Interface UniqueTable List

namespace Database

/-! ## 1. The operations -/

/-- If foreign keys are enforced, `ON DELETE CASCADE` deletes the memberships of the accounts that
    `update_account` purges. -/
def cascadePurge (enforced : Bool) (db : Database) (account : UserToken) : Database :=
  if enforced then
    { db with memberofT := db.memberofT.filter fun m => !(db.accountT.rows.any fun r =>
        r.uuid == m.aUuid && r.conflicts account) }
  else db

inductive MemberOp where
  | updateAccount (account : UserToken) (expire : ℕ)
  | updateGroup (grp : GroupToken) (expire : ℕ)
  | deleteAccount (aUuid : Uuid)
  | deleteGroup (gUuid : Uuid)
  | clear

namespace MemberOp

/-- The other statements that delete accounts delete their memberships before, and the foreign key
    on groups is deferred, so that it takes no action. -/
def result (enforced : Bool) (db : Database) : MemberOp → Except CacheError Database
  | updateAccount account expire => (db.cascadePurge enforced account).updateAccount account expire
  | updateGroup grp expire => db.updateGroup grp expire
  | deleteAccount aUuid => .ok (db.deleteAccount aUuid)
  | deleteGroup gUuid => .ok (db.deleteGroup gUuid)
  | clear => .ok db.clear

/-- Only groups that no cached token lists are deleted. -/
def Allowed (db : Database) : MemberOp → Prop
  | deleteGroup gUuid => ∀ t ∈ db.getAccounts, ∀ g ∈ t.groups, g.uuid ≠ gUuid
  | _ => True

end MemberOp

/-- The databases that are reached from a new one; an operation that fails is rolled back. -/
inductive Reachable (enforced : Bool) : Database → Prop
  | new : Reachable enforced Database.new
  | step {db db' : Database} {op : MemberOp} (h : Reachable enforced db) (hop : op.Allowed db)
      (hresult : op.result enforced db = .ok db') : Reachable enforced db'

def MemberOp.apply (enforced : Bool) (db : Database) (op : MemberOp) : Database :=
  ((op.result enforced db).toOption).getD db

theorem Reachable.apply {enforced : Bool} {db : Database} (h : Reachable enforced db)
    (op : MemberOp) (hop : op.Allowed db) : Reachable enforced (op.apply enforced db) := by
  unfold MemberOp.apply
  cases hresult : op.result enforced db with
  | ok db' => exact .step h hop hresult
  | error e => exact h

/-! ## 2. The invariant -/

def timesMember (db : Database) (gUuid aUuid : Uuid) : ℕ :=
  db.memberofT.countP fun m => aUuid == m.aUuid && m.gUuid == gUuid

def timesListed (t : UserToken) (gUuid : Uuid) : ℕ := t.groups.countP fun g => g.uuid == gUuid

/-- A row holds a token of its uuid, and the table has its memberships as the token lists them. -/
def RowAgrees (db : Database) (r : AccountRow) : Prop :=
  ∃ t, r.token = some t ∧ t.uuid = r.uuid ∧
    ∀ gUuid, db.timesMember gUuid r.uuid = timesListed t gUuid

def Agrees (db : Database) : Prop := ∀ r ∈ db.accountT.rows, db.RowAgrees r

section Invariant

variable {db db' : Database}

theorem RowAgrees.of_timesMember {r : AccountRow} (h : db.RowAgrees r)
    (hsame : ∀ gUuid, db'.timesMember gUuid r.uuid = db.timesMember gUuid r.uuid) :
    db'.RowAgrees r := by
  obtain ⟨t, htoken, huuid, hlisted⟩ := h
  exact ⟨t, htoken, huuid, fun gUuid => (hsame gUuid).trans (hlisted gUuid)⟩

variable {gUuid : Uuid} {enforced : Bool}

theorem countP_filter_of_spared (ms : List MemberOf) (keep : MemberOf → Bool) (aUuid : Uuid)
    (h : ∀ m ∈ ms, m.aUuid = aUuid → m.gUuid = gUuid → keep m = true) :
    (ms.filter keep).countP (fun m => aUuid == m.aUuid && m.gUuid == gUuid) =
      ms.countP fun m => aUuid == m.aUuid && m.gUuid == gUuid := by
  rw [countP_filter]
  refine countP_congr ?_
  intro m hm
  simp only [Bool.and_eq_true, beq_iff_eq]
  constructor
  · exact fun h => h.1
  · rintro ⟨haccount, hgroup⟩
    exact ⟨⟨haccount, hgroup⟩, h m hm haccount.symm hgroup⟩

theorem countP_written (account : UserToken) (gUuid aUuid : Uuid) :
    (account.groups.map fun g => ({ gUuid := g.uuid, aUuid := account.uuid } : MemberOf)).countP
        (fun m => aUuid == m.aUuid && m.gUuid == gUuid) =
      if aUuid = account.uuid then timesListed account gUuid else 0 := by
  rw [countP_map]
  unfold timesListed
  split
  · next heq => simp [heq, Function.comp_def]
  · next hne => simp [hne, Function.comp_def]

theorem timesMember_cascadePurge (account : UserToken) {r : AccountRow}
    (hr : r ∈ db.accountT.rows) (hspared : r.Spared account) :
    (db.cascadePurge enforced account).timesMember gUuid r.uuid = db.timesMember gUuid r.uuid := by
  unfold cascadePurge
  split
  · refine countP_filter_of_spared _ _ _ ?_
    intro m _ haccount _
    simp only [Bool.not_eq_true', any_eq_false, Bool.and_eq_true, beq_iff_eq, not_and]
    intro r' hr' huuid
    -- the row of that uuid is `r` itself, which is spared
    have hsame : r' = r := db.accountT.eq_of_clash AccountRow.clash_symm hr' hr
      (.inl (huuid.trans haccount))
    rw [hsame]
    simp [AccountRow.conflicts, hspared.2.1, hspared.2.2.1, hspared.2.2.2]
  · rfl

theorem cascadePurge_accountT (enforced : Bool) (account : UserToken) :
    (db.cascadePurge enforced account).accountT = db.accountT := by
  unfold cascadePurge
  split <;> rfl

theorem Agrees.updateAccount {account : UserToken} {expire : ℕ} (enforced : Bool) (h : db.Agrees)
    (hresult : (db.cascadePurge enforced account).updateAccount account expire = .ok db') :
    db'.Agrees := by
  obtain ⟨-, t, ht, rfl⟩ := updateAccount_eq_ok hresult
  have hup := upsertAccount_upserted ht
  rw [cascadePurge_accountT] at hup
  intro r hr
  by_cases huuid : r.uuid = account.uuid
  · have hholds := hup.holds r hr huuid
    refine ⟨account, hholds.token, huuid.symm, ?_⟩
    intro gUuid
    simp only [timesMember, withAccount, countP_append, countP_written, if_pos huuid]
    -- nothing is left of the account's old memberships
    refine Nat.add_eq_right.mpr (countP_eq_zero.mpr ?_)
    intro m hm
    have hother : m.aUuid ≠ account.uuid := by simpa using (mem_filter.mp hm).2
    simp [huuid, Ne.symm hother]
  · obtain ⟨hr0, hspared⟩ := (hup.spared r huuid).mp hr
    refine (h r hr0).of_timesMember ?_
    intro gUuid
    rw [← timesMember_cascadePurge account hr0 hspared]
    simp only [timesMember, withAccount, countP_append, countP_written, if_neg huuid,
      Nat.add_zero]
    refine countP_filter_of_spared _ _ _ ?_
    intro m _ haccount _
    simpa [haccount] using huuid

theorem Agrees.deleteAccount (h : db.Agrees) (aUuid : Uuid) : (db.deleteAccount aUuid).Agrees := by
  intro r hr
  obtain ⟨hr0, hkept⟩ := mem_filter.mp hr
  have huuid : r.uuid ≠ aUuid := by simpa using hkept
  refine (h r hr0).of_timesMember ?_
  intro gUuid
  refine countP_filter_of_spared _ _ _ ?_
  intro m _ haccount _
  simpa [haccount] using huuid

theorem Agrees.deleteGroup (h : db.Agrees)
    (hunlisted : ∀ t ∈ db.getAccounts, ∀ g ∈ t.groups, g.uuid ≠ gUuid) :
    (db.deleteGroup gUuid).Agrees := by
  intro r hr
  obtain ⟨t, htoken, huuid, hlisted⟩ := h r hr
  refine ⟨t, htoken, huuid, ?_⟩
  intro gUuid'
  by_cases hsame : gUuid' = gUuid
  · subst hsame
    have ht : t ∈ db.getAccounts := mem_filterMap.mpr ⟨r, hr, htoken⟩
    have hnone : timesListed t gUuid' = 0 :=
      countP_eq_zero.mpr fun g hg => by simpa using hunlisted t ht g hg
    rw [hnone]
    refine countP_eq_zero.mpr ?_
    intro m hm
    have hother : m.gUuid ≠ gUuid' := by simpa using (mem_filter.mp hm).2
    simp [hother]
  · rw [← hlisted]
    refine countP_filter_of_spared _ _ _ ?_
    intro m _ _ hgroup
    simpa [hgroup] using hsame

theorem MemberOp.agrees {op : MemberOp} (h : db.Agrees) (hop : op.Allowed db)
    (hresult : op.result enforced db = .ok db') : db'.Agrees := by
  cases op with
  | updateAccount account expire => exact h.updateAccount enforced hresult
  | updateGroup grp expire =>
    change db.updateGroup grp expire = .ok db' at hresult
    unfold Database.updateGroup at hresult
    split at hresult
    · cases hresult
    · cases hresult
      exact h
  | deleteAccount aUuid =>
    cases hresult
    exact h.deleteAccount aUuid
  | deleteGroup gUuid =>
    cases hresult
    exact h.deleteGroup hop
  | clear =>
    cases hresult
    exact nofun

theorem Reachable.agrees (h : Reachable enforced db) : db.Agrees := by
  induction h with
  | new => exact nofun
  | step _ hop hresult ih => exact MemberOp.agrees ih hop hresult

end Invariant

/-! ## 3. The members that are reported -/

section Members

variable {db : Database}

def listedMembers (accounts : List UserToken) (gUuid : Uuid) : List UserToken :=
  accounts.flatMap fun t => replicate (timesListed t gUuid) t

variable {gUuid : Uuid}

theorem joined_eq {rows : List AccountRow} (h : ∀ r ∈ rows, db.RowAgrees r) :
    (rows.flatMap fun a => (db.memberofT.filter fun m =>
        a.uuid == m.aUuid && m.gUuid == gUuid).map fun _ => a.token) =
      (listedMembers (rows.filterMap (·.token)) gUuid).map some := by
  induction rows with
  | nil => rfl
  | cons r rows ih =>
    obtain ⟨⟨t, htoken, -, hlisted⟩, hrows⟩ := forall_mem_cons.mp h
    have hcount : (db.memberofT.filter fun m => r.uuid == m.aUuid && m.gUuid == gUuid).length =
        timesListed t gUuid := by
      rw [← countP_eq_length_filter]
      exact hlisted gUuid
    rw [flatMap_cons, ih hrows, filterMap_cons_some htoken]
    unfold listedMembers
    rw [flatMap_cons, map_append, map_replicate, ← hcount, htoken, map_const']

theorem mapM_map_some {α ε : Type} {f : Option α → Except ε α} (hf : ∀ a, f (some a) = .ok a)
    (l : List α) : (l.map some).mapM f = .ok l := by
  induction l with
  | nil => rfl
  | cons a l ih =>
    rw [map_cons, mapM_cons, ih, hf]
    rfl

theorem Agrees.getGroupMembers (h : db.Agrees) (gUuid : Uuid) :
    db.getGroupMembers gUuid = .ok (listedMembers db.getAccounts gUuid) := by
  unfold Database.getGroupMembers
  dsimp only
  rw [joined_eq h]
  exact mapM_map_some (fun _ => rfl) _

/-- **Members.**  In every reachable database, whether foreign keys are enforced or not, the members
    of a group are the cached accounts, each as often as its token lists the group; every member is
    the token of a row of its own uuid. -/
theorem members_agree {enforced : Bool} (h : Reachable enforced db) (gUuid : Uuid) :
    ∃ members, db.getGroupMembers gUuid = .ok members ∧
      members.Perm (listedMembers db.getAccounts gUuid) ∧
      ∀ t ∈ members, ∃ r ∈ db.accountT.rows, r.uuid = t.uuid ∧ r.token = some t := by
  refine ⟨_, h.agrees.getGroupMembers gUuid, Perm.refl _, ?_⟩
  intro t ht
  obtain ⟨t', ht', hreplicate⟩ := mem_flatMap.mp ht
  obtain rfl : t = t' := eq_of_mem_replicate hreplicate
  obtain ⟨r, hr, htoken⟩ := mem_filterMap.mp ht'
  obtain ⟨t'', htoken', huuid, -⟩ := h.agrees r hr
  cases htoken.symm.trans htoken'
  exact ⟨r, hr, huuid.symm, htoken⟩

end Members

/-! ## 4. An account that is purged -/

def memberToken (name : String) (uuid : Uuid) (gUuid : Uuid) : UserToken :=
  { plainToken name uuid 1001 with groups := [⟨"users", "users", gUuid, 2001⟩] }

/-- Alice is cached as a member of group 11, and then purged by an account of the same uid. -/
def purgedDb (enforced : Bool) : Database :=
  (MemberOp.updateAccount (memberToken "bob@example.com" ⟨2⟩ ⟨12⟩) 100).apply enforced
    ((MemberOp.updateAccount (memberToken "alice@example.com" ⟨1⟩ ⟨11⟩) 100).apply enforced
      Database.new)

variable {enforced : Bool}

theorem purgedDb_reachable : Reachable enforced (purgedDb enforced) := by
  refine Reachable.apply ?_ (.updateAccount _ _) trivial
  exact Reachable.new.apply (.updateAccount _ _) trivial

/-- Without foreign keys the membership of alice is still in the table, but not reported. -/
theorem members_agree_purged :
    (purgedDb false).memberofT = [⟨⟨11⟩, ⟨1⟩⟩, ⟨⟨12⟩, ⟨2⟩⟩] ∧
      (∃ members, (purgedDb false).getGroupMembers ⟨11⟩ = .ok members ∧ members = []) ∧
      ∃ members, (purgedDb true).getGroupMembers ⟨12⟩ = .ok members ∧
        members.Perm (listedMembers (purgedDb true).getAccounts ⟨12⟩) := by
  obtain ⟨members, hmembers, hperm, -⟩ := members_agree (purgedDb_reachable) ⟨11⟩
  obtain ⟨members', hmembers', hperm', -⟩ := members_agree (purgedDb_reachable) ⟨12⟩
  have hnone : listedMembers (purgedDb false).getAccounts ⟨11⟩ = [] := by decide +kernel
  refine ⟨by decide +kernel, ⟨members, hmembers, ?_⟩, members', hmembers', hperm'⟩
  rw [hnone] at hperm
  exact hperm.eq_nil

end Database

end Himmelblau.Db
