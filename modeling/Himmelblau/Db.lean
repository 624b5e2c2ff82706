/-
  **The cache database** (mirror of `db.rs`): the tables `account_t`, `group_t`,
  `memberof_t` and `hsm_data_t`, and what each `CacheTxn` method does to them
  inside a transaction.

  A row's `token` is `none` when the stored blob does not decode.  The `uuid` columns
  hold the hyphenated text of a uuid, so a row carries the uuid itself and a text is
  compared with its `hyphenated` form.  SQLite executes every statement that
  breaks no constraint; foreign keys are not enforced (no `PRAGMA foreign_keys`).
  The password hash is a parameter (`PasswordCrypto`).
-/
import Himmelblau.Interface
import Himmelblau.UniqueTable

namespace Himmelblau.Db

open Interface UniqueTable

inductive CacheError where
  | cryptography
  | serdeJson
  | parse
  | sqlite
  | tooManyResults
  deriving DecidableEq, Repr

/-! ## 1. The tables -/

structure AccountRow where
  uuid : Uuid
  name : String
  spn : String
  gidnumber : UInt32
  password : Option String
  token : Option UserToken
  expiry : ℤ
  deriving DecidableEq, Repr

structure GroupRow where
  uuid : Uuid
  name : String
  spn : String
  gidnumber : UInt32
  token : Option GroupToken
  expiry : ℤ
  deriving DecidableEq, Repr

structure MemberOf where
  gUuid : Uuid
  aUuid : Uuid
  deriving DecidableEq, Repr

def AccountRow.clash (a b : AccountRow) : Prop :=
  a.uuid = b.uuid ∨ a.name = b.name ∨ a.spn = b.spn ∨ a.gidnumber = b.gidnumber

def GroupRow.clash (a b : GroupRow) : Prop :=
  a.uuid = b.uuid ∨ a.name = b.name ∨ a.spn = b.spn ∨ a.gidnumber = b.gidnumber

instance : DecidableRel AccountRow.clash := fun a b =>
  inferInstanceAs (Decidable (a.uuid = b.uuid ∨ a.name = b.name ∨ a.spn = b.spn ∨
    a.gidnumber = b.gidnumber))

instance : DecidableRel GroupRow.clash := fun a b =>
  inferInstanceAs (Decidable (a.uuid = b.uuid ∨ a.name = b.name ∨ a.spn = b.spn ∨
    a.gidnumber = b.gidnumber))

theorem AccountRow.clash_symm (a b : AccountRow) (h : a.clash b) : b.clash a := by
  unfold AccountRow.clash at h ⊢
  rcases h with h | h | h | h <;> simp [h]

structure Database where
  accountT : Table AccountRow.clash
  groupT : Table GroupRow.clash
  memberofT : List MemberOf
  hsmDataT : KeyStore

/-- The database after `migrate` on a new file. -/
def Database.new : Database :=
  { accountT := .empty, groupT := .empty, memberofT := [], hsmDataT := fun _ => none }

/-! ## 2. SQLite text comparison -/

/-- `=` under `COLLATE NOCASE`, which folds ASCII letters only. -/
def eqNocase (a b : String) : Bool := a.toList.map Char.toLower == b.toList.map Char.toLower

/-- `text LIKE pattern`: `%` is any text, `_` any one character, ASCII letters match in
    either case. -/
def like : (pattern text : List Char) → Bool
  | [], text => text.isEmpty
  | '%' :: pattern, text => text.tails.any (like pattern)
  | _ :: _, [] => false
  | p :: pattern, c :: text => (p == '_' || p.toLower == c.toLower) && like pattern text

variable {pattern : List Char}

theorem like_getLast {text : List Char} {c : Char} (hc : c ≠ '%') (hc' : c ≠ '_')
    (h : like (pattern ++ [c]) text = true) :
    ∃ text' d, text = text' ++ [d] ∧ d.toLower = c.toLower := by
  induction pattern generalizing text with
  | nil =>
    cases text with
    | nil => simp [like] at h
    | cons d text =>
      simp [like, hc'] at h
      exact ⟨[], d, by simp [h.2], h.1.symm⟩
  | cons p pattern ih =>
    by_cases hp : p = '%'
    · subst hp
      simp only [List.cons_append, like, List.any_eq_true, List.mem_tails] at h
      obtain ⟨rest, ⟨front, rfl⟩, hrest⟩ := h
      obtain ⟨text', d, rfl, hd⟩ := ih hrest
      exact ⟨front ++ text', d, by simp, hd⟩
    · cases text with
      | nil => simp [like] at h
      | cons x text =>
        simp only [List.cons_append, like, Bool.and_eq_true] at h
        obtain ⟨text', d, rfl, hd⟩ := ih h.2
        exact ⟨x :: text', d, rfl, hd⟩

theorem like_percent {front rest : List Char} (h : like pattern rest = true) :
    like ('%' :: pattern) (front ++ rest) = true := by
  simp only [like, List.any_eq_true, List.mem_tails]
  exact ⟨rest, List.suffix_append _ _, h⟩

theorem like_eq_false {text : List Char} {c d : Char} (hc : c ≠ '%') (hc' : c ≠ '_')
    (hd : d.toLower ≠ c.toLower) : like (pattern ++ [c]) (text ++ [d]) = false := by
  rw [← Bool.not_eq_true]
  intro h
  obtain ⟨text', d', heq, hd'⟩ := like_getLast hc hc' h
  obtain rfl : d = d' := by simpa using congrArg List.getLast? heq
  exact hd hd'

/-! ## 3. Accounts -/

/-- The `UPDATE` of `update_account`: every column but `uuid` and `password`. -/
def AccountRow.setFrom (account : UserToken) (spn : String) (expire : ℤ) (r : AccountRow) :
    AccountRow :=
  { r with name := account.name, spn := spn, gidnumber := account.gidnumber,
           token := some account, expiry := expire }

def GroupRow.ofToken (expire : ℤ) (g : GroupToken) : GroupRow where
  uuid := g.uuid
  name := g.name
  spn := g.spn
  gidnumber := g.gidnumber
  token := some g
  expiry := expire

/-- The `WHERE` clause of the `DELETE` of `update_account`. -/
def AccountRow.conflicts (account : UserToken) (r : AccountRow) : Bool :=
  !(r.uuid == account.uuid) &&
    (r.name == account.name || r.spn == account.spn || r.gidnumber == account.gidnumber)

def AccountRow.Spared (account : UserToken) (r : AccountRow) : Prop :=
  r.uuid ≠ account.uuid ∧ r.name ≠ account.name ∧ r.spn ≠ account.spn ∧
    r.gidnumber ≠ account.gidnumber

/-- The `WHERE` clause of `get_account_data_name`. -/
def AccountRow.answersTo (r : AccountRow) (accountId : String) : Bool :=
  r.uuid.hyphenated == accountId || eqNocase r.name accountId || eqNocase r.spn accountId

/-- The `WHERE` clause of `get_group_data_name`. -/
def GroupRow.answersTo (r : GroupRow) (grpId : String) : Bool :=
  r.uuid.hyphenated == grpId || r.name == grpId || r.spn == grpId

namespace Database

variable (db : Database)

def getAccountDataName (accountId : String) : List (Option UserToken × ℤ) :=
  (db.accountT.rows.filter (·.answersTo accountId)).map fun r => (r.token, r.expiry)

def getAccountDataGid (gid : UInt32) : List (Option UserToken × ℤ) :=
  (db.accountT.rows.filter fun r => r.gidnumber == gid).map fun r => (r.token, r.expiry)

/-- What `get_account` and `get_group` make of the rows their query returned: at most
    one row, an undecodable token is no token, and the expiry is read as a `u64`. -/
def oneRow {T : Type} : List (Option T × ℤ) → Except CacheError (Option (T × ℕ))
  | [] => .ok none
  | [(some token, expiry)] =>
    if expiry < 0 then .error .parse else .ok (some (token, expiry.toNat))
  | [(none, _)] => .ok none
  | _ :: _ :: _ => .error .tooManyResults

variable {expire : ℕ}

theorem oneRow_eq_some {T : Type} {data : List (Option T × ℤ)} {token : T}
    (h : oneRow data = .ok (some (token, expire))) : ∃ expiry, data = [(some token, expiry)] := by
  unfold oneRow at h
  split at h
  · cases h
  · split at h
    · cases h
    · cases h
      exact ⟨_, rfl⟩
  · cases h
  · cases h

def getAccount (accountId : Id) : Except CacheError (Option (UserToken × ℕ)) :=
  oneRow <| match accountId with
    | .name n => db.getAccountDataName n
    | .gid g => db.getAccountDataGid g

def getAccounts : List UserToken := db.accountT.rows.filterMap (·.token)

def i64OfExpire (expire : ℕ) : Except CacheError ℤ :=
  if expire < 2 ^ 63 then .ok expire else .error .parse

def rowOf (account : UserToken) (expire : ℤ) : AccountRow where
  uuid := account.uuid
  name := account.name
  spn := account.spn
  gidnumber := account.gidnumber
  password := none
  token := some account
  expiry := expire

def purged (t : Table AccountRow.clash) (account : UserToken) : Table AccountRow.clash :=
  t.delete (AccountRow.conflicts account)

/-- The `DELETE`, `UPDATE` and `INSERT` of `update_account` on `account_t`. -/
def upsertAccount (t : Table AccountRow.clash) (account : UserToken) (expire : ℤ) :
    Except CacheError (Table AccountRow.clash) :=
  let sameUuid : AccountRow → Bool := fun r => r.uuid == account.uuid
  -- Find anything conflicting and purge it.
  let purged := purged t account
  match purged.update? sameUuid (AccountRow.setFrom account account.spn expire) with
  | none => .error .sqlite
  | some updated =>
    if purged.rows.countP sameUuid = 0 then
      let inserted :=
        if updated.rows.any sameUuid then
          -- ON CONFLICT(uuid) DO UPDATE SET name=excluded.name, spn=excluded.name, ...
          updated.update? sameUuid (AccountRow.setFrom account account.name expire)
        else updated.insert? (rowOf account expire)
      match inserted with
      | none => .error .sqlite
      | some inserted => .ok inserted
    else .ok updated

/-- The database with these rows in `account_t`, and the memberships that the token has. -/
def withAccount (account : UserToken) (t : Table AccountRow.clash) : Database :=
  { db with
    accountT := t
    memberofT := (db.memberofT.filter fun m => m.aUuid != account.uuid) ++
      account.groups.map fun g => { gUuid := g.uuid, aUuid := account.uuid } }

def updateAccount (account : UserToken) (expire : ℕ) : Except CacheError Database :=
  match i64OfExpire expire with
  | .error e => .error e
  | .ok expire =>
    match upsertAccount db.accountT account expire with
    | .error e => .error e
    | .ok accountT => .ok (db.withAccount account accountT)

theorem mem_purged {t : Table AccountRow.clash} {account : UserToken} {r : AccountRow} :
    r ∈ (purged t account).rows ↔ r ∈ t.rows ∧ (r.uuid ≠ account.uuid → r.Spared account) := by
  unfold AccountRow.Spared purged AccountRow.conflicts
  by_cases huuid : r.uuid = account.uuid
  · simp [huuid]
  · simp [huuid, and_assoc]

/-- `update_account` never breaks a constraint of `account_t`: the account's own row is updated or,
    if there is none, inserted. -/
theorem upsertAccount_ok (t : Table AccountRow.clash) (account : UserToken) (expire : ℤ) :
    ∃ t', upsertAccount t account expire = .ok t' ∧
      (((∃ r ∈ (purged t account).rows, r.uuid = account.uuid) ∧
        t'.rows = (purged t account).rows.map fun r =>
          if r.uuid == account.uuid then r.setFrom account account.spn expire else r) ∨
      ((∀ r ∈ (purged t account).rows, r.uuid ≠ account.uuid) ∧
        t'.rows = (purged t account).rows ++ [rowOf account expire])) := by
  have hspared : ∀ r ∈ (purged t account).rows, r.uuid ≠ account.uuid → r.Spared account :=
    fun r hr => (mem_purged.mp hr).2
  unfold upsertAccount
  dsimp only
  generalize purged t account = rest at hspared ⊢
  have hupdate : (rest.update? (fun r => r.uuid == account.uuid)
      (AccountRow.setFrom account account.spn expire)).isSome := by
    apply Table.update?_isSome
    intro a ha b hb hclash
    by_cases hauuid : a.uuid = account.uuid
    · by_cases hbuuid : b.uuid = account.uuid
      · exact .inl (hauuid.trans hbuuid.symm)
      · obtain ⟨-, hname, hspn, hgid⟩ := hspared b hb hbuuid
        simp only [hauuid, hbuuid, AccountRow.setFrom, AccountRow.clash, beq_iff_eq, if_true,
          if_false, hname.symm, hspn.symm, hgid.symm, or_false] at hclash
        exact absurd hclash.symm hbuuid
    · obtain ⟨-, hname, hspn, hgid⟩ := hspared a ha hauuid
      by_cases hbuuid : b.uuid = account.uuid
      · simp only [hauuid, hbuuid, AccountRow.setFrom, AccountRow.clash, beq_iff_eq, if_true,
          if_false, hname, hspn, hgid, or_false] at hclash
      · simpa only [beq_iff_eq, hauuid, hbuuid, if_false] using hclash
  obtain ⟨updated, hupdated⟩ := Option.isSome_iff_exists.mp hupdate
  have hrows := Table.update?_eq_some hupdated
  rw [hupdated]
  dsimp only
  split
  · next hcount =>
    have hnone : ∀ r ∈ rest.rows, r.uuid ≠ account.uuid := by
      simpa [List.countP_eq_zero] using hcount
    have hsame : updated.rows = rest.rows := by
      rw [hrows]
      conv_rhs => rw [← List.map_id rest.rows]
      apply List.map_congr_left
      intro r hr
      simp [hnone r hr]
    have hany : (updated.rows.any fun r => r.uuid == account.uuid) = false := by
      rw [hsame]
      simpa using hnone
    rw [hany]
    have hinsert : (updated.insert? (rowOf account expire)).isSome := by
      apply Table.insert?_isSome
      rw [hsame]
      intro r hr hclash
      obtain ⟨huuid, hname, hspn, hgid⟩ := hspared r hr (hnone r hr)
      rcases hclash with h | h | h | h
      · exact huuid h
      · exact hname h
      · exact hspn h
      · exact hgid h
    obtain ⟨inserted, hinserted⟩ := Option.isSome_iff_exists.mp hinsert
    simp only [Bool.false_eq_true, if_false, hinserted]
    refine ⟨inserted, rfl, .inr ⟨hnone, ?_⟩⟩
    rw [Table.insert?_eq_some hinserted, hsame]
  · next hcount =>
    obtain ⟨r, hr, huuid⟩ : ∃ r ∈ rest.rows, (r.uuid == account.uuid) = true :=
      List.countP_pos_iff.mp (Nat.pos_of_ne_zero hcount)
    exact ⟨updated, rfl, .inl ⟨⟨r, hr, beq_iff_eq.mp huuid⟩, hrows⟩⟩

theorem updateAccount_cases (account : UserToken) (expire : ℕ) :
    (¬expire < 2 ^ 63 ∧ db.updateAccount account expire = .error .parse) ∨
      (expire < 2 ^ 63 ∧ ∃ t, upsertAccount db.accountT account expire = .ok t ∧
        db.updateAccount account expire = .ok (db.withAccount account t)) := by
  unfold updateAccount i64OfExpire
  by_cases h : expire < 2 ^ 63
  · obtain ⟨t, ht, -⟩ := upsertAccount_ok db.accountT account expire
    refine .inr ⟨h, t, ht, ?_⟩
    simp only [if_pos h, ht]
  · refine .inl ⟨h, ?_⟩
    simp only [if_neg h]

theorem updateAccount_eq_ok {db db' : Database} {account : UserToken}
    (h : db.updateAccount account expire = .ok db') : expire < 2 ^ 63 ∧
      ∃ t, upsertAccount db.accountT account expire = .ok t ∧ db' = db.withAccount account t := by
  rcases updateAccount_cases db account expire with ⟨-, herror⟩ | ⟨hexpire, t, ht, hok⟩
  · cases herror.symm.trans h
  · cases hok.symm.trans h
    exact ⟨hexpire, t, ht, rfl⟩

def deleteAccount (aUuid : Uuid) : Database :=
  { db with
    memberofT := db.memberofT.filter fun m => m.aUuid != aUuid
    accountT := db.accountT.delete fun r => r.uuid == aUuid }

/-! ## 4. Cached passwords -/

end Database

/-- The password hash (`kanidm_lib_crypto` with the HSM): hashing may fail, a blob may
    not decode, and a check may fail.  `entropy` stands for the random salt. -/
structure PasswordCrypto where
  newArgon2idHsm : (entropy : ℕ) → (cred : String) → Option String
  decodes : (blob : String) → Bool
  verifyCtx : (blob cred : String) → Option Bool

structure PasswordCrypto.Exact (C : PasswordCrypto) : Prop where
  decodes_new : ∀ entropy cred blob, C.newArgon2idHsm entropy cred = some blob → C.decodes blob
  verify_new : ∀ entropy cred blob, C.newArgon2idHsm entropy cred = some blob →
    ∀ c, C.verifyCtx blob c = some (c == cred)

namespace Database

def setPassword (t : Table AccountRow.clash) (aUuid : Uuid) (blob : String) :
    Table AccountRow.clash :=
  t.modify (fun r => r.uuid == aUuid) (fun r => { r with password := some blob }) <| by
    intro a b h
    unfold AccountRow.clash at h ⊢
    split at h <;> split at h <;> exact h

def updateAccountPassword (C : PasswordCrypto) (entropy : ℕ) (db : Database) (aUuid : Uuid)
    (cred : String) : Except CacheError Database :=
  match C.newArgon2idHsm entropy cred with
  | none => .error .cryptography
  | some blob => .ok { db with accountT := setPassword db.accountT aUuid blob }

def checkAccountPassword (C : PasswordCrypto) (db : Database) (aUuid : Uuid) (cred : String) :
    Except CacheError Bool :=
  match (db.accountT.rows.filter fun r => r.uuid == aUuid).filterMap (·.password) with
  | [] => .ok false
  | [blob] =>
    if C.decodes blob then
      match C.verifyCtx blob cred with
      | some ok => .ok ok
      | none => .error .cryptography
    else .ok false
  | _ :: _ :: _ => .error .tooManyResults

/-! ## 5. Groups -/

variable (db : Database)

def getGroupDataName (grpId : String) : List (Option GroupToken × ℤ) :=
  (db.groupT.rows.filter (·.answersTo grpId)).map fun r => (r.token, r.expiry)

def getGroupDataGid (gid : UInt32) : List (Option GroupToken × ℤ) :=
  (db.groupT.rows.filter fun r => r.gidnumber == gid).map fun r => (r.token, r.expiry)

def getGroup (grpId : Id) : Except CacheError (Option (GroupToken × ℕ)) :=
  oneRow <| match grpId with
    | .name n => db.getGroupDataName n
    | .gid g => db.getGroupDataGid g

def getGroups : List GroupToken := db.groupT.rows.filterMap (·.token)

def getGroupMembers (gUuid : Uuid) : Except CacheError (List UserToken) :=
  let data := db.accountT.rows.flatMap fun a =>
    (db.memberofT.filter fun m => a.uuid == m.aUuid && m.gUuid == gUuid).map fun _ => a.token
  data.mapM fun token => match token with
    | some token => .ok token
    | none => .error .serdeJson

def updateGroup (grp : GroupToken) (expire : ℕ) : Except CacheError Database :=
  match i64OfExpire expire with
  | .error e => .error e
  | .ok expire =>
    .ok { db with
      groupT := db.groupT.replace
        { uuid := grp.uuid, name := grp.name, spn := grp.spn, gidnumber := grp.gidnumber,
          token := some grp, expiry := expire } }

/-- `groups.try_for_each(|g| update_group(g, expire))`. -/
def updateGroups (db : Database) (groups : List GroupToken) (expire : ℕ) :
    Except CacheError Database :=
  match groups with
  | [] => .ok db
  | g :: groups =>
    match db.updateGroup g expire with
    | .error e => .error e
    | .ok db => db.updateGroups groups expire

variable {expire : ℕ}

theorem updateGroups_eq (groups : List GroupToken) (h : expire < 2 ^ 63) (db : Database) :
    db.updateGroups groups expire = .ok { db with
      groupT := (groups.map (GroupRow.ofToken expire)).foldl Table.replace db.groupT } := by
  induction groups generalizing db with
  | nil => rfl
  | cons g groups ih =>
    unfold updateGroups updateGroup i64OfExpire
    rw [if_pos h]
    exact ih _

def deleteGroup (gUuid : Uuid) : Database :=
  { db with
    memberofT := db.memberofT.filter fun m => m.gUuid != gUuid
    groupT := db.groupT.delete fun r => r.uuid == gUuid }

/-! ## 6. Whole-cache statements -/

def invalidate : Database :=
  { db with
    groupT := db.groupT.modify (fun _ => true) (fun r => { r with expiry := 0 }) (by
      intro a b h
      exact h)
    accountT := db.accountT.modify (fun _ => true) (fun r => { r with expiry := 0 }) (by
      intro a b h
      exact h) }

def clear : Database :=
  { db with memberofT := [], groupT := .empty, accountT := .empty }

def helloPatterns : List String := ["%/hello", "%/hello_decoupled", "%/hello_prt"]

def clearHelloKeys : Database :=
  { db with
    hsmDataT := fun key =>
      if helloPatterns.any fun p => like p.toList key.toList then none else db.hsmDataT key }

theorem clearHelloKeys_gone (x : String) {ending : String}
    (h : ending ∈ ["/hello", "/hello_decoupled", "/hello_prt"]) :
    db.clearHelloKeys.hsmDataT (x ++ ending) = none := by
  refine if_pos (List.any_eq_true.mpr ⟨"%" ++ ending, ?_, ?_⟩)
  · revert h
    simp only [List.mem_cons, List.not_mem_nil, or_false]
    rintro (rfl | rfl | rfl) <;> decide
  · rw [String.toList_append, String.toList_append]
    refine like_percent ?_
    revert h
    simp only [List.mem_cons, List.not_mem_nil, or_false]
    rintro (rfl | rfl | rfl) <;> decide

theorem clearHelloKeys_stays (x : String) {ending : String} (front : List Char)
    (d : Char) (h : ending.toList = front ++ [d]) (hd : d.toLower ∉ ['o', 'd', 't']) :
    db.clearHelloKeys.hsmDataT (x ++ ending) = db.hsmDataT (x ++ ending) := by
  refine if_neg ?_
  rw [Bool.not_eq_true, List.any_eq_false]
  simp only [List.mem_cons, List.not_mem_nil, or_false, not_or] at hd
  intro p hp
  rw [String.toList_append, h, ← List.append_assoc, Bool.not_eq_true]
  simp only [helloPatterns, List.mem_cons, List.not_mem_nil, or_false] at hp
  rcases hp with rfl | rfl | rfl
  · change like ("%/hell".toList ++ ['o']) _ = false
    exact like_eq_false (by decide) (by decide) hd.1
  · change like ("%/hello_decouple".toList ++ ['d']) _ = false
    exact like_eq_false (by decide) (by decide) hd.2.1
  · change like ("%/hello_pr".toList ++ ['t']) _ = false
    exact like_eq_false (by decide) (by decide) hd.2.2

end Database

end Himmelblau.Db
