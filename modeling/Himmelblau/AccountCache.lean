/-
  **Which account a lookup finds.**  `get_account` compares a text with the uuid, the name and the
  spn of every row, the latter two in any letter case.  `update_account` purges, and the `UNIQUE`
  columns exclude, only rows that agree with the token in the same column, letter for letter.  So
  two cached accounts can be found by one text, and then a lookup finds neither.
-/
import Himmelblau.Db
import Himmelblau.Runs

namespace Himmelblau.Db

open Interface UniqueTable AccountRow

/-! ## 1. Rows that one text finds -/

theorem eqNocase_iff {a b : String} :
    eqNocase a b = true ↔ a.toList.map Char.toLower = b.toList.map Char.toLower := by
  unfold eqNocase
  exact beq_iff_eq

namespace AccountRow

def texts (r : AccountRow) : List String := [r.uuid.hyphenated, r.name, r.spn]

/-- One of the two rows answers to a text of the other. -/
def Confusable (r r' : AccountRow) : Prop :=
  (∃ x ∈ r.texts, r'.answersTo x = true) ∨ ∃ x ∈ r'.texts, r.answersTo x = true

variable {r r' : AccountRow} {x : String}

theorem answersTo_iff : r.answersTo x = true ↔
      r.uuid.hyphenated = x ∨ eqNocase r.name x = true ∨ eqNocase r.spn x = true := by
  simp only [answersTo, Bool.or_eq_true, beq_iff_eq, or_assoc]

theorem answersTo_of_mem_texts (hx : x ∈ r.texts) : r.answersTo x = true := by
  rw [answersTo_iff, eqNocase_iff, eqNocase_iff]
  simp only [texts, List.mem_cons, List.not_mem_nil, or_false] at hx
  rcases hx with rfl | rfl | rfl
  · exact .inl rfl
  · exact .inr (.inl rfl)
  · exact .inr (.inr rfl)

/-- A row that answers to `x` has a text that every other row which answers to `x` answers to,
    unless that row is found by its uuid. -/
theorem answersTo_text (h : r.answersTo x = true)
    (h' : eqNocase r'.name x = true ∨ eqNocase r'.spn x = true) :
    ∃ y ∈ r.texts, r'.answersTo y = true := by
  simp only [answersTo_iff, eqNocase_iff] at h h' ⊢
  rcases h with rfl | hname | hspn
  · exact ⟨_, List.mem_cons_self, .inr h'⟩
  · refine ⟨r.name, by simp [texts], .inr ?_⟩
    rwa [hname]
  · refine ⟨r.spn, by simp [texts], .inr ?_⟩
    rwa [hspn]

theorem confusable_iff (hne : r.uuid ≠ r'.uuid) :
    r.Confusable r' ↔ ∃ x, r.answersTo x = true ∧ r'.answersTo x = true := by
  constructor
  · rintro (⟨x, hx, h⟩ | ⟨x, hx, h⟩)
    · exact ⟨x, answersTo_of_mem_texts hx, h⟩
    · exact ⟨x, h, answersTo_of_mem_texts hx⟩
  · rintro ⟨x, h, h'⟩
    rcases answersTo_iff.mp h' with huuid' | htext'
    · rcases answersTo_iff.mp h with huuid | htext
      · exact absurd (Uuid.hyphenated_injective (huuid.trans huuid'.symm)) hne
      · exact .inr (answersTo_text h' htext)
    · exact .inl (answersTo_text h htext')

theorem clash_refl (r : AccountRow) : r.clash r := .inl rfl

end AccountRow

namespace Database

/-! ## 2. Lookups -/

theorem oneRow_eq_tooManyResults_iff {T : Type} (data : List (Option T × ℤ)) :
    oneRow data = .error .tooManyResults ↔ ¬data.length ≤ 1 := by
  match data with
  | [] => simp [oneRow]
  | [(some token, expiry)] =>
    change (if expiry < 0 then Except.error CacheError.parse else _) = _ ↔ _
    split <;> simp
  | [(none, _)] => simp [oneRow]
  | _ :: _ :: _ => simp [oneRow]

theorem oneRow_singleton {T : Type} (token : T) (expire : ℕ) :
    oneRow [(some token, (expire : ℤ))] = .ok (some (token, expire)) := by
  have hnonneg : ¬(expire : ℤ) < 0 := Int.not_lt.mpr (Int.natCast_nonneg expire)
  simp only [oneRow, if_neg hnonneg, Int.toNat_natCast]

section Lookup

variable {R T : Type} {clash : R → R → Prop} {t : Table clash} {p : R → Bool}

theorem oneRow_filter_ne_tooManyResults_iff (t : Table clash) (hrefl : ∀ a, clash a a)
    (p : R → Bool) (columns : R → Option T × ℤ) :
    oneRow ((t.rows.filter p).map columns) ≠ .error .tooManyResults ↔ t.Unambiguous p := by
  rw [Ne, oneRow_eq_tooManyResults_iff, not_not, List.length_map]
  exact t.length_filter_le_one_iff hrefl

theorem oneRow_filter_of_mem (hrefl : ∀ a, clash a a) (hone : t.Unambiguous p) {r : R}
    (hr : r ∈ t.rows) (hp : p r = true) (columns : R → Option T × ℤ) :
    oneRow ((t.rows.filter p).map columns) = oneRow [columns r] := by
  rw [Table.filter_eq_singleton hrefl hone hr hp]
  rfl

end Lookup

def Clear (db : Database) : Prop :=
  ∀ r ∈ db.accountT.rows, ∀ r' ∈ db.accountT.rows, r.uuid ≠ r'.uuid → ¬r.Confusable r'

theorem unambiguous_gid (db : Database) (gid : UInt32) :
    db.accountT.Unambiguous fun r => r.gidnumber == gid :=
  db.accountT.unambiguous_column clash_symm (fun _ _ h => .inr (.inr (.inr h))) gid

theorem clear_iff_unambiguous (db : Database) :
    db.Clear ↔ ∀ x, db.accountT.Unambiguous (·.answersTo x) := by
  rw [db.accountT.unambiguous_iff clash_symm (fun _ _ => .inl)
    fun x r => answersTo r x]
  constructor
  · intro hclear r hr r' hr' hne hboth
    exact hclear r hr r' hr' hne ((confusable_iff hne).mpr hboth)
  · intro hnone r hr r' hr' hne hconf
    exact hnone r hr r' hr' hne ((confusable_iff hne).mp hconf)

theorem getAccount_ne_tooManyResults_iff (db : Database) :
    (∀ accountId, db.getAccount accountId ≠ .error .tooManyResults) ↔ db.Clear := by
  rw [clear_iff_unambiguous]
  constructor
  · intro h x
    exact (oneRow_filter_ne_tooManyResults_iff _ clash_refl _ _).mp (h (.name x))
  · intro h accountId
    cases accountId with
    | name x => exact (oneRow_filter_ne_tooManyResults_iff _ clash_refl _ _).mpr (h x)
    | gid gid =>
      exact (oneRow_filter_ne_tooManyResults_iff _ clash_refl _ _).mpr
        (db.unambiguous_gid gid)

variable {r : AccountRow} {x : String}

theorem getAccount_name_of_clear {db : Database} (hclear : db.Clear) (hr : r ∈ db.accountT.rows)
    (hx : r.answersTo x = true) : db.getAccount (.name x) = oneRow [(r.token, r.expiry)] :=
  oneRow_filter_of_mem clash_refl ((clear_iff_unambiguous db).mp hclear x) hr hx _

theorem getAccount_gid_of_mem {db : Database} (hr : r ∈ db.accountT.rows) :
    db.getAccount (.gid r.gidnumber) = oneRow [(r.token, r.expiry)] :=
  oneRow_filter_of_mem clash_refl (db.unambiguous_gid r.gidnumber) hr
    (beq_self_eq_true _) _

end Database

/-! ## 3. What `update_account` leaves -/

namespace AccountRow

structure Holds (account : UserToken) (expire : ℤ) (r : AccountRow) : Prop where
  uuid : r.uuid = account.uuid
  name : r.name = account.name
  spn : r.spn = account.spn
  gidnumber : r.gidnumber = account.gidnumber
  token : r.token = some account
  expiry : r.expiry = expire

variable {r : AccountRow} {account : UserToken} {expire : ℤ}

theorem holds_setFrom (h : r.uuid = account.uuid) :
    (r.setFrom account account.spn expire).Holds account expire :=
  ⟨h, rfl, rfl, rfl, rfl, rfl⟩

end AccountRow

namespace Database

/-- The rows after `update_account`: those that the purge spares, and the account's own. -/
structure Upserted (t t' : Table clash) (account : UserToken) (expire : ℤ) : Prop where
  spared : ∀ r, r.uuid ≠ account.uuid → (r ∈ t'.rows ↔ r ∈ t.rows ∧ r.Spared account)
  holds : ∀ r ∈ t'.rows, r.uuid = account.uuid → r.Holds account expire
  there : ∃ r ∈ t'.rows, r.uuid = account.uuid

section Upsert

variable {t t' : Table clash} {account : UserToken} {expire : ℤ} {r : AccountRow}

/-- What `update_account` does to `account_t`: the rows that the purge spares are left, and the
    account's own row is updated or, if there is none, inserted. -/
theorem mem_upsertAccount (h : upsertAccount t account expire = .ok t') :
    r ∈ t'.rows ↔ (r ∈ t.rows ∧ r.Spared account) ∨
      (∃ r0 ∈ t.rows, r0.uuid = account.uuid ∧ r = r0.setFrom account account.spn expire) ∨
      ((∀ r0 ∈ t.rows, r0.uuid ≠ account.uuid) ∧ r = rowOf account expire) := by
  have hown : ∀ r0 : AccountRow, r0.uuid = account.uuid →
      (r0 ∈ (purged t account).rows ↔ r0 ∈ t.rows) := fun r0 huuid =>
    mem_purged.trans (and_iff_left fun hne => absurd huuid hne)
  have hother : ∀ r0 : AccountRow, r0 ∈ (purged t account).rows ∧ r0.uuid ≠ account.uuid ↔
      r0 ∈ t.rows ∧ r0.Spared account := fun r0 => by
    rw [mem_purged, and_assoc]
    exact and_congr_right fun _ => ⟨fun h => h.1 h.2, fun h => ⟨fun _ => h, h.1⟩⟩
  obtain ⟨_, h1, ⟨⟨r1, hr1, huuid1⟩, hrows⟩ | ⟨hnone, hrows⟩⟩ := upsertAccount_ok t account expire
  all_goals cases h.symm.trans h1
  · rw [hrows, List.mem_map, ← hother]
    constructor
    · rintro ⟨r0, hr0, rfl⟩
      by_cases huuid : r0.uuid = account.uuid
      · exact .inr (.inl ⟨r0, (hown r0 huuid).mp hr0, huuid, by simp [huuid]⟩)
      · exact .inl (by simp [huuid, hr0])
    · rintro (⟨hr, huuid⟩ | ⟨r0, hr0, huuid, rfl⟩ | ⟨hnone, -⟩)
      · exact ⟨r, hr, by simp [huuid]⟩
      · exact ⟨r0, (hown r0 huuid).mpr hr0, by simp [huuid]⟩
      · exact absurd huuid1 (hnone r1 ((hown r1 huuid1).mp hr1))
  · have hnone' : ∀ r0 ∈ t.rows, r0.uuid ≠ account.uuid := fun r0 hr0 huuid =>
      hnone r0 ((hown r0 huuid).mpr hr0) huuid
    rw [hrows, List.mem_append, List.mem_singleton, ← hother]
    constructor
    · rintro (hr | rfl)
      · exact .inl ⟨hr, hnone r hr⟩
      · exact .inr (.inr ⟨hnone', rfl⟩)
    · rintro (⟨hr, -⟩ | ⟨r0, hr0, huuid, -⟩ | ⟨-, rfl⟩)
      · exact .inl hr
      · exact absurd huuid (hnone' r0 hr0)
      · exact .inr rfl

theorem upsertAccount_upserted (h : upsertAccount t account expire = .ok t') :
    Upserted t t' account expire where
  spared r huuid := by
    rw [mem_upsertAccount h, or_iff_left]
    rintro (⟨r0, -, huuid0, rfl⟩ | ⟨-, rfl⟩)
    · exact huuid huuid0
    · exact huuid rfl
  holds r hr huuid := by
    rcases (mem_upsertAccount h).mp hr with ⟨-, hspared⟩ | ⟨r0, -, huuid0, rfl⟩ | ⟨-, rfl⟩
    · exact absurd huuid hspared.1
    · exact holds_setFrom huuid0
    · exact ⟨rfl, rfl, rfl, rfl, rfl, rfl⟩
  there := by
    by_cases hown : ∃ r ∈ t.rows, r.uuid = account.uuid
    · obtain ⟨r0, hr0, huuid0⟩ := hown
      exact ⟨_, (mem_upsertAccount h).mpr (.inr (.inl ⟨r0, hr0, huuid0, rfl⟩)), huuid0⟩
    · push Not at hown
      exact ⟨_, (mem_upsertAccount h).mpr (.inr (.inr ⟨hown, rfl⟩)), rfl⟩

theorem upsertAccount_password (h : upsertAccount t account expire = .ok t') (hr : r ∈ t'.rows)
    (huuid : r.uuid = account.uuid) :
    (∃ r0 ∈ t.rows, r0.uuid = account.uuid ∧ r.password = r0.password) ∨
      (∀ r0 ∈ t.rows, r0.uuid ≠ account.uuid) ∧ r.password = none := by
  rcases (mem_upsertAccount h).mp hr with ⟨-, hspared⟩ | ⟨r0, hr0, huuid0, rfl⟩ | ⟨hnone, rfl⟩
  · exact absurd huuid hspared.1
  · exact .inl ⟨r0, hr0, huuid0, rfl⟩
  · exact .inr ⟨hnone, rfl⟩

end Upsert

/-! ## 4. Sequences of operations -/

inductive AccountOp where
  | updateAccount (account : UserToken) (expire : ℕ)
  | deleteAccount (aUuid : Uuid)
  | updateAccountPassword (entropy : ℕ) (aUuid : Uuid) (cred : String)
  | invalidate
  | clear

namespace AccountOp

variable (C : PasswordCrypto)

def result (db : Database) : AccountOp → Except CacheError Database
  | updateAccount account expire => db.updateAccount account expire
  | deleteAccount aUuid => .ok (db.deleteAccount aUuid)
  | updateAccountPassword entropy aUuid cred => db.updateAccountPassword C entropy aUuid cred
  | invalidate => .ok db.invalidate
  | clear => .ok db.clear

def apply (db : Database) (op : AccountOp) : Database := ((op.result C db).toOption).getD db

/-- The operation breaks no constraint, leaves every lookup unambiguous, and an account that it
    updates is then found under its name, its spn, its uuid and its uid. -/
structure Coherent (db : Database) (op : AccountOp) : Prop where
  unique : op.result C db ≠ .error .sqlite
  found : ∀ accountId, (op.apply C db).getAccount accountId ≠ .error .tooManyResults
  returned : ∀ account expire, op = .updateAccount account expire → (op.result C db).isOk = true →
    ∀ accountId ∈ [Id.name account.name, .name account.spn, .name account.uuid.hyphenated,
      .gid account.gidnumber], (op.apply C db).getAccount accountId = .ok (some (account, expire))

/-- The token of an update is confusable with no account that the update spares. -/
def Distinct (db : Database) : AccountOp → Prop
  | updateAccount account expire => expire < 2 ^ 63 →
    ∀ r ∈ db.accountT.rows, r.Spared account → ¬r.Confusable (rowOf account expire)
  | _ => True

end AccountOp

section Steps

variable {C : PasswordCrypto} {db db' : Database}

theorem AccountOp.apply_of_ok (op : AccountOp) (h : op.result C db = .ok db') :
    op.apply C db = db' := by
  unfold AccountOp.apply
  rw [h]
  rfl

theorem AccountOp.apply_of_error (op : AccountOp) {e : CacheError} (h : op.result C db = .error e) :
    op.apply C db = db := by
  unfold AccountOp.apply
  rw [h]
  rfl

def KeepsRows (db db' : Database) : Prop :=
  ∀ r' ∈ db'.accountT.rows, ∃ r ∈ db.accountT.rows,
    r'.uuid = r.uuid ∧ r'.name = r.name ∧ r'.spn = r.spn ∧ r'.token = r.token

theorem keepsRows_refl (db : Database) : db.KeepsRows db :=
  fun r hr => ⟨r, hr, rfl, rfl, rfl, rfl⟩

/-- What an operation does to the accounts: an update with an expiry that is an `i64` upserts its
    token, and no other operation adds an account or changes its names. -/
theorem AccountOp.apply_cases (C : PasswordCrypto) (op : AccountOp) (db : Database) :
    (∃ account expire, op = .updateAccount account expire ∧ expire < 2 ^ 63 ∧
        Upserted db.accountT (op.apply C db).accountT account expire) ∨
      ((∀ account expire, op = .updateAccount account expire → ¬expire < 2 ^ 63) ∧
        db.KeepsRows (op.apply C db)) := by
  cases op with
  | updateAccount account expire =>
    rcases updateAccount_cases db account expire with ⟨hlarge, herror⟩ | ⟨hsmall, t, ht, hok⟩
    · rw [apply_of_error (C := C) (.updateAccount account expire) herror]
      refine .inr ⟨?_, db.keepsRows_refl⟩
      rintro _ _ ⟨⟩
      exact hlarge
    · rw [apply_of_ok (C := C) (.updateAccount account expire) hok]
      exact .inl ⟨account, expire, rfl, hsmall, upsertAccount_upserted ht⟩
  | deleteAccount aUuid =>
    exact .inr ⟨nofun, fun r hr => ⟨r, (List.mem_filter.mp hr).1, rfl, rfl, rfl, rfl⟩⟩
  | updateAccountPassword entropy aUuid cred =>
    refine .inr ⟨nofun, ?_⟩
    unfold AccountOp.apply AccountOp.result
    dsimp only
    unfold Database.updateAccountPassword
    cases C.newArgon2idHsm entropy cred with
    | none => exact db.keepsRows_refl
    | some blob =>
      intro r' hr'
      obtain ⟨r, hr, rfl⟩ := List.mem_map.mp hr'
      refine ⟨r, hr, ?_⟩
      split <;> exact ⟨rfl, rfl, rfl, rfl⟩
  | invalidate =>
    refine .inr ⟨nofun, ?_⟩
    intro r' hr'
    obtain ⟨r, hr, rfl⟩ := List.mem_map.mp hr'
    exact ⟨r, hr, rfl, rfl, rfl, rfl⟩
  | clear => exact .inr ⟨nofun, nofun⟩

theorem Clear.of_keepsRows (hclear : db.Clear) (h : db.KeepsRows db') : db'.Clear := by
  intro a ha b hb huuid hconf
  obtain ⟨a0, ha0, hauuid, haname, haspn, -⟩ := h a ha
  obtain ⟨b0, hb0, hbuuid, hbname, hbspn, -⟩ := h b hb
  refine hclear a0 ha0 b0 hb0 (by rwa [← hauuid, ← hbuuid]) ?_
  simpa only [Confusable, texts, answersTo, hauuid, haname, haspn,
    hbuuid, hbname, hbspn] using hconf

variable {r r' : AccountRow} {account : UserToken} {expire : ℤ}

theorem AccountRow.Holds.confusable_iff (h : r'.Holds account expire) :
    r.Confusable r' ↔ r.Confusable (rowOf account expire) := by
  simp only [Confusable, texts, answersTo, h.uuid, h.name, h.spn,
    rowOf]

theorem Upserted.clear_iff (hclear : db.Clear)
    (h : Upserted db.accountT db'.accountT account expire) :
    db'.Clear ↔ ∀ r ∈ db.accountT.rows, r.Spared account →
      ¬r.Confusable (rowOf account expire) := by
  constructor
  · intro hclear' r hr hspared hconf
    obtain ⟨own, hown, huuid⟩ := h.there
    have hr' : r ∈ db'.accountT.rows := (h.spared r hspared.1).mpr ⟨hr, hspared⟩
    refine hclear' r hr' own hown (fun heq => hspared.1 (heq.trans huuid)) ?_
    exact (AccountRow.Holds.confusable_iff (h.holds own hown huuid)).mpr hconf
  · intro hdistinct a ha b hb hne hconf
    by_cases haown : a.uuid = account.uuid
    · have hbother : b.uuid ≠ account.uuid := fun hb' => hne (haown.trans hb'.symm)
      obtain ⟨hb0, hspared⟩ := (h.spared b hbother).mp hb
      refine hdistinct b hb0 hspared ?_
      exact (AccountRow.Holds.confusable_iff (h.holds a ha haown)).mp (Or.symm hconf)
    · obtain ⟨ha0, hspared⟩ := (h.spared a haown).mp ha
      by_cases hbown : b.uuid = account.uuid
      · refine hdistinct a ha0 hspared ?_
        exact (AccountRow.Holds.confusable_iff (h.holds b hb hbown)).mp hconf
      · exact hclear a ha0 b ((h.spared b hbown).mp hb).1 hne hconf

/-- **One step.**  From a clear cache, the step leaves a clear one exactly if it is distinct. -/
theorem AccountOp.clear_apply_iff (hclear : db.Clear) (op : AccountOp) :
    (op.apply C db).Clear ↔ op.Distinct db := by
  rcases op.apply_cases C db with ⟨account, expire, rfl, hsmall, hup⟩ | ⟨hlarge, hrows⟩
  · exact (hup.clear_iff hclear).trans ⟨fun h _ => h, fun h => h hsmall⟩
  · refine iff_of_true (hclear.of_keepsRows hrows) ?_
    cases op with
    | updateAccount account expire => exact fun h => absurd h (hlarge account expire rfl)
    | _ => trivial

theorem Upserted.getAccount {expire : ℕ} (hclear : db'.Clear)
    (h : Upserted db.accountT db'.accountT account expire) :
    ∀ accountId ∈ [Id.name account.name, .name account.spn, .name account.uuid.hyphenated,
      .gid account.gidnumber], db'.getAccount accountId = .ok (some (account, expire)) := by
  obtain ⟨own, hown, huuid⟩ := h.there
  have hholds := h.holds own hown huuid
  have hrow : oneRow [(own.token, own.expiry)] = .ok (some (account, expire)) := by
    rw [hholds.token, hholds.expiry, oneRow_singleton]
  have htext : ∀ x ∈ own.texts, db'.getAccount (.name x) = .ok (some (account, expire)) :=
    fun x hx => (getAccount_name_of_clear hclear hown (answersTo_of_mem_texts hx)).trans
      hrow
  simp only [texts, hholds.uuid, hholds.name, hholds.spn, List.forall_mem_cons] at htext
  have hgid : db'.getAccount (.gid account.gidnumber) = .ok (some (account, expire)) := by
    rw [← hholds.gidnumber]
    exact (getAccount_gid_of_mem hown).trans hrow
  simp only [List.forall_mem_cons]
  exact ⟨htext.2.1, htext.2.2.1, htext.1, hgid, nofun⟩

theorem AccountOp.coherent_iff (hclear : db.Clear) (op : AccountOp) :
    op.Coherent C db ↔ op.Distinct db := by
  rw [← op.clear_apply_iff (C := C) hclear]
  constructor
  · exact fun h => (getAccount_ne_tooManyResults_iff _).mp h.found
  · intro hclear'
    refine ⟨?_, (getAccount_ne_tooManyResults_iff _).mpr hclear', ?_⟩
    · cases op with
      | updateAccount account expire =>
        change db.updateAccount account expire ≠ _
        rcases updateAccount_cases db account expire with ⟨-, herror⟩ | ⟨-, t, -, hok⟩
        · simp [herror]
        · simp [hok]
      | updateAccountPassword entropy aUuid cred =>
        change db.updateAccountPassword C entropy aUuid cred ≠ _
        unfold Database.updateAccountPassword
        cases C.newArgon2idHsm entropy cred <;> nofun
      | deleteAccount aUuid => nofun
      | invalidate => nofun
      | clear => nofun
    · rintro account expire rfl hisOk
      rcases updateAccount_cases db account expire with ⟨-, herror⟩ | ⟨-, t, ht, hok⟩
      · change (db.updateAccount account expire).isOk = true at hisOk
        rw [herror] at hisOk
        cases hisOk
      · rw [apply_of_ok (C := C) (.updateAccount account expire) hok] at hclear' ⊢
        exact (upsertAccount_upserted ht).getAccount hclear'

end Steps

theorem clear_new : Database.new.Clear := nofun

/-- **Coherence of the account cache.**  In a sequence of operations on a new database, all
    operations are coherent exactly if each update is distinct from what is cached before it. -/
theorem accounts_coherent_iff (C : PasswordCrypto) (ops : List AccountOp) :
    (∀ before op after, ops = before ++ op :: after →
        op.Coherent C (before.foldl (AccountOp.apply C) Database.new)) ↔
      ∀ before op after, ops = before ++ op :: after →
        op.Distinct (before.foldl (AccountOp.apply C) Database.new) := by
  change Runs.Along (AccountOp.apply C) (fun db op => op.Coherent C db) ops Database.new ↔
    Runs.Along (AccountOp.apply C) (fun db op => op.Distinct db) ops Database.new
  refine Runs.along_congr Clear ?_ ?_ clear_new
  · intro db op _ hclear
    exact op.coherent_iff hclear
  · intro db op _ hclear hdistinct
    exact (op.clear_apply_iff hclear).mpr hdistinct

/-! ## 5. Two names that differ in letter case -/

def plainToken (name : String) (uuid : Uuid) (uid : UInt32) : UserToken where
  name := name
  spn := name
  uuid := uuid
  realGidnumber := some uid
  gidnumber := uid
  displayname := ""
  shell := none
  groups := []
  tenantId := none
  valid := true

def noPasswords : PasswordCrypto := ⟨fun _ _ => none, fun _ => false, fun _ _ => none⟩

/-- Both updates succeed, and then neither account is found by its name. -/
theorem accounts_incoherent :
    let C := noPasswords
    let alice := AccountOp.updateAccount (plainToken "alice@example.com" ⟨1⟩ 1001) 100
    let alice' := AccountOp.updateAccount (plainToken "Alice@example.com" ⟨2⟩ 1002) 100
    let db := alice'.apply C (alice.apply C Database.new)
    (alice'.result C (alice.apply C Database.new)).isOk = true ∧
      db.getAccount (.name "alice@example.com") = .error .tooManyResults ∧
      db.getAccount (.name "Alice@example.com") = .error .tooManyResults := by
  decide +kernel

end Database

end Himmelblau.Db
