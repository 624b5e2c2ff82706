/-
  **What `update_account` leaves alone.**  The statement that purges, the update or insert, and the
  rewriting of the memberships touch the account itself and the accounts whose name, spn or
  gidnumber it takes over.  The cached password is the one column of its own row that stays.
-/
import Himmelblau.Membership

namespace Himmelblau.Db

open Interface UniqueTable

namespace Database

def membershipsOf (db : Database) (aUuid : Uuid) : List MemberOf :=
  db.memberofT.filter fun m => m.aUuid == aUuid

/-- The database after `update_account` beside the one before it. -/
structure AccountUpdated (db db' : Database) (account : UserToken) (expire : ℕ) : Prop where
  /-- Of the rows of other uuids, those that take nothing of the account's stay as they are. -/
  others : ∀ r, r.uuid ≠ account.uuid → (r ∈ db'.accountT.rows ↔ r ∈ db.accountT.rows ∧
    ¬(r.name = account.name ∨ r.spn = account.spn ∨ r.gidnumber = account.gidnumber))
  own : ∃ r ∈ db'.accountT.rows, r.Holds account expire ∧
    (∀ r' ∈ db'.accountT.rows, r'.uuid = account.uuid → r' = r) ∧
    (∀ r0 ∈ db.accountT.rows, r0.uuid = account.uuid → r.password = r0.password) ∧
    ((∀ r0 ∈ db.accountT.rows, r0.uuid ≠ account.uuid) → r.password = none)
  listed : db'.membershipsOf account.uuid =
    account.groups.map fun g => { gUuid := g.uuid, aUuid := account.uuid }
  memberships : ∀ aUuid, aUuid ≠ account.uuid →
    (∀ r ∈ db.accountT.rows, r.uuid = aUuid → r.Spared account) →
    db'.membershipsOf aUuid = db.membershipsOf aUuid
  groupT : db'.groupT = db.groupT
  hsmDataT : db'.hsmDataT = db.hsmDataT

section Frame

variable {db : Database} {account : UserToken} {aUuid : Uuid} (enforced : Bool)

theorem membershipsOf_cascadePurge
    (hspared : ∀ r ∈ db.accountT.rows, r.uuid = aUuid → r.Spared account) :
    (db.cascadePurge enforced account).membershipsOf aUuid = db.membershipsOf aUuid := by
  unfold cascadePurge membershipsOf
  split
  · dsimp only
    rw [List.filter_filter]
    refine List.filter_congr fun m _ => ?_
    by_cases hm : m.aUuid = aUuid
    · have hkept :
          (db.accountT.rows.any fun r => r.uuid == m.aUuid && r.conflicts account) = false := by
        refine List.any_eq_false.mpr fun r hr => ?_
        simp only [Bool.and_eq_true, beq_iff_eq, not_and]
        intro huuid
        obtain ⟨-, hname, hspn, hgid⟩ := hspared r hr (huuid.trans hm)
        simp [AccountRow.conflicts, hname, hspn, hgid]
      rw [hkept, Bool.not_false, Bool.and_true]
    · rw [beq_false_of_ne hm, Bool.false_and]
  · rfl

theorem membershipsOf_rewritten (ms : List MemberOf) (account : UserToken) (aUuid : Uuid) :
    ((ms.filter fun m => m.aUuid != account.uuid) ++
        account.groups.map fun g => ({ gUuid := g.uuid, aUuid := account.uuid } : MemberOf)).filter
        (fun m => m.aUuid == aUuid) =
      if aUuid = account.uuid then
        account.groups.map fun g => { gUuid := g.uuid, aUuid := account.uuid }
      else ms.filter fun m => m.aUuid == aUuid := by
  rw [List.filter_append, List.filter_filter, List.filter_map]
  split
  · next heq =>
    subst heq
    simp [Function.comp_def]
  · next hne =>
    have hwritten : account.groups.filter ((fun m : MemberOf => m.aUuid == aUuid) ∘
        fun g => { gUuid := g.uuid, aUuid := account.uuid }) = [] := by
      simp [Function.comp_def, Ne.symm hne]
    rw [hwritten, List.map_nil, List.append_nil]
    refine List.filter_congr fun m _ => ?_
    by_cases hm : m.aUuid = aUuid
    · simp [hm, hne]
    · simp [hm]

/-- **Frame.**  Whether or not foreign keys are enforced, `update_account` refuses an expiry that is
    no `i64` before it touches anything, and else does what `AccountUpdated` says. -/
theorem updateAccount_frame (db : Database) (account : UserToken) (expire : ℕ) :
    match (db.cascadePurge enforced account).updateAccount account expire with
    | .error e => e = .parse ∧ 2 ^ 63 ≤ expire
    | .ok db' => AccountUpdated db db' account expire := by
  rcases updateAccount_cases (db.cascadePurge enforced account) account expire with
    ⟨hlarge, herror⟩ | ⟨-, t, ht, hok⟩
  · rw [herror]
    exact ⟨rfl, Nat.le_of_not_lt hlarge⟩
  · rw [hok]
    rw [cascadePurge_accountT] at ht
    have hup := upsertAccount_upserted ht
    obtain ⟨r, hr, huuid⟩ := hup.there
    have hgroup : (db.cascadePurge enforced account).groupT = db.groupT := by
      unfold cascadePurge
      split <;> rfl
    have hhsm : (db.cascadePurge enforced account).hsmDataT = db.hsmDataT := by
      unfold cascadePurge
      split <;> rfl
    refine ⟨fun r hne => ?_, ⟨r, hr, hup.holds r hr huuid, fun r' hr' huuid' => ?_, ?_⟩, ?_,
      fun aUuid hne hspared => ?_, hgroup, hhsm⟩
    · refine (hup.spared r hne).trans ?_
      unfold AccountRow.Spared
      simp only [not_or, hne, ne_eq, not_false_eq_true, true_and]
    · exact t.eq_of_clash AccountRow.clash_symm hr' hr (.inl (huuid'.trans huuid.symm))
    · rcases upsertAccount_password ht hr huuid with
        ⟨r₀, hr₀, huuid₀, hpassword⟩ | ⟨hnone, hpassword⟩
      · refine ⟨fun r₁ hr₁ huuid₁ => ?_, fun hnone => absurd huuid₀ (hnone r₀ hr₀)⟩
        have hsame : r₁ = r₀ := db.accountT.eq_of_clash AccountRow.clash_symm hr₁ hr₀
          (.inl (huuid₁.trans huuid₀.symm))
        rw [hpassword, hsame]
      · exact ⟨fun r₁ hr₁ huuid₁ => absurd huuid₁ (hnone r₁ hr₁), fun _ => hpassword⟩
    · exact (membershipsOf_rewritten _ account account.uuid).trans (if_pos rfl)
    · refine (membershipsOf_rewritten _ account aUuid).trans ((if_neg hne).trans ?_)
      exact membershipsOf_cascadePurge enforced hspared

end Frame

end Database

end Himmelblau.Db
