/-
  **Who may log in, and who may become root.**  `pam_account_allowed` looks for the account, or one
  of its groups, in `pam_allow_groups`; at the start of a session the account is a sudoer if it is
  among the members of a group of `sudo_groups`.  Both compare texts letter by letter: an allow
  list has to spell object ids in lower case, and the name of a member has to be the
  lower-cased name of the request.
-/
import Himmelblau.LocalIdentities
import Himmelblau.Membership
import Himmelblau.OidcStep
import Himmelblau.ServerConfig
import Himmelblau.SessionStart

namespace Himmelblau

open Interface Db LockProgram SessionStart

variable {P : Type}

/-! ## 1. The allow list -/

namespace Resolver

def userSet (accountId : String) (tok : UserToken) : List String :=
  tok.groups.map (·.uuid.hyphenated) ++ [accountId]

/-- The list has one of the texts, up to letter case. -/
def Listed (lower : String → String) (allowed : List String) (accountId : String)
    (tok : UserToken) : Prop :=
  ∃ entry ∈ allowed, lower entry = lower accountId ∨
    ∃ g ∈ tok.groups, lower entry = lower g.uuid.hyphenated

def Renamed (tok tok' : UserToken) : Prop :=
  tok' = { tok with groups := tok'.groups } ∧
    tok'.groups.map (fun g => (g.uuid, g.gidnumber)) = tok.groups.map fun g => (g.uuid, g.gidnumber)

variable {R : Resolver P} {accountId : String} {s : ResolverState P} {tok : UserToken}

theorem pamAccountAllowed_answer (hne : R.pamAllowGroups ≠ [])
    (htok : ((R.getUsertoken (.name accountId)).exec s).1 = .ok (some tok)) :
    ((R.pamAccountAllowed accountId).exec s).1 =
      .ok (some ((userSet accountId tok).any (R.pamAllowGroups.contains ·) && tok.valid)) := by
  have hempty : R.pamAllowGroups.isEmpty = false := by simpa using hne
  unfold pamAccountAllowed
  rw [Prog.exec_bind, htok]
  simp only [hempty, Bool.false_eq_true, if_false]
  rfl

theorem pamAccountAllowed_eq_true_iff (hne : R.pamAllowGroups ≠ [])
    (htok : ((R.getUsertoken (.name accountId)).exec s).1 = .ok (some tok)) :
    ((R.pamAccountAllowed accountId).exec s).1 = .ok (some true) ↔
      tok.valid = true ∧ ∃ entry ∈ R.pamAllowGroups, entry ∈ userSet accountId tok := by
  rw [pamAccountAllowed_answer hne htok]
  simp only [Except.ok.injEq, Option.some.injEq, Bool.and_eq_true, List.any_eq_true,
    List.contains_iff_mem]
  constructor
  · rintro ⟨⟨entry, huser, hentry⟩, hvalid⟩
    exact ⟨hvalid, entry, hentry, huser⟩
  · rintro ⟨hvalid, entry, hentry, huser⟩
    exact ⟨⟨entry, huser, hentry⟩, hvalid⟩

theorem listed_of_mem {entry : String} (lower : String → String)
    (hentry : entry ∈ R.pamAllowGroups) (huser : entry ∈ userSet accountId tok) :
    Listed lower R.pamAllowGroups accountId tok := by
  refine ⟨entry, hentry, ?_⟩
  rcases List.mem_append.mp huser with hgroup | haccount
  · obtain ⟨g, hg, rfl⟩ := List.mem_map.mp hgroup
    exact .inr ⟨g, hg, rfl⟩
  · exact .inl (congrArg lower (List.mem_singleton.mp haccount))

theorem userSet_renamed {tok' : UserToken} (h : Renamed tok tok') :
    userSet accountId tok' = userSet accountId tok := by
  have huuids := congrArg (List.map fun p : Uuid × UInt32 => p.1.hyphenated) h.2
  unfold userSet
  simpa [List.map_map, Function.comp_def] using huuids

/-- **The allow list.**  The answer is what the list says up to letter case if and only if, for a
    valid token, a text that is there in some letter case is there as it is.  Two tokens that differ
    in the names of groups get the same answer in any case. -/
theorem pamAccountAllowed_ignoringCase_iff (R : Resolver P) (hne : R.pamAllowGroups ≠ [])
    (lower : String → String) (accountId : String) (s : ResolverState P) (tok : UserToken)
    (htok : ((R.getUsertoken (.name accountId)).exec s).1 = .ok (some tok)) :
    ((((R.pamAccountAllowed accountId).exec s).1 = .ok (some true) ↔
        tok.valid = true ∧ Listed lower R.pamAllowGroups accountId tok) ∧
      ∀ s' tok', ((R.getUsertoken (.name accountId)).exec s').1 = .ok (some tok') →
        Renamed tok tok' → ((R.pamAccountAllowed accountId).exec s').1 =
          ((R.pamAccountAllowed accountId).exec s).1) ↔
      (tok.valid = true → Listed lower R.pamAllowGroups accountId tok →
        ∃ entry ∈ R.pamAllowGroups, entry ∈ userSet accountId tok) := by
  have hrenamed : ∀ s' tok', ((R.getUsertoken (.name accountId)).exec s').1 = .ok (some tok') →
      Renamed tok tok' → ((R.pamAccountAllowed accountId).exec s').1 =
        ((R.pamAccountAllowed accountId).exec s).1 := by
    intro s' tok' htok' h
    rw [pamAccountAllowed_answer hne htok', pamAccountAllowed_answer hne htok, userSet_renamed h,
      h.1]
  rw [and_iff_left hrenamed, pamAccountAllowed_eq_true_iff hne htok]
  constructor
  · intro h hvalid hlisted
    exact (h.mpr ⟨hvalid, hlisted⟩).2
  · intro h
    refine and_congr_right fun hvalid => ⟨?_, h hvalid⟩
    rintro ⟨entry, hentry, huser⟩
    exact listed_of_mem lower hentry huser

def groupToken : UserToken := { aliceToken with groups := [⟨"users", "users", ⟨10⟩, 2001⟩] }

def groupState : ResolverState Unit :=
  { aliceState with db := { Database.new with
      accountT := ⟨[{ aliceRow with token := some groupToken }], List.pairwise_singleton _ _⟩ } }

theorem pamAccountAllowed_ignoringCase_alice :
    let R := { outageResolver with pamAllowGroups := ["alice@example.com"] }
    ((R.pamAccountAllowed "alice@example.com").exec aliceState).1 = .ok (some true) ↔
      aliceToken.valid = true ∧
        Listed ServerConfig.asciiLower R.pamAllowGroups "alice@example.com" aliceToken :=
  ((pamAccountAllowed_ignoringCase_iff
    { outageResolver with pamAllowGroups := ["alice@example.com"] } (by simp)
    ServerConfig.asciiLower "alice@example.com" aliceState aliceToken rfl).mpr fun _ _ =>
      ⟨"alice@example.com", by decide, by decide⟩).1

theorem pamAccountAllowed_upperCase :
    let R := { outageResolver with pamAllowGroups := ["00000000-0000-0000-0000-00000000000A"] }
    ((R.getUsertoken (.name "alice@example.com")).exec groupState).1 = .ok (some groupToken) ∧
      groupToken.valid = true ∧
      Listed ServerConfig.asciiLower R.pamAllowGroups "alice@example.com" groupToken ∧
      ((R.pamAccountAllowed "alice@example.com").exec groupState).1 = .ok (some false) := by
  refine ⟨rfl, rfl, ⟨_, List.mem_singleton_self _, .inr ⟨_, List.mem_singleton_self _, ?_⟩⟩, ?_⟩
  · decide +kernel
  · decide +kernel

end Resolver

/-! ## 2. The databases of a daemon -/

namespace Db

/-- The rows have the uuid, the names and the token that they had, and the memberships stay: what
    `invalidate`, the storing of a password and every statement on the keystore do. -/
structure Database.SameTokens (db db' : Database) : Prop where
  rows : ∀ r' ∈ db'.accountT.rows, ∃ r ∈ db.accountT.rows,
    r'.uuid = r.uuid ∧ r'.name = r.name ∧ r'.spn = r.spn ∧ r'.token = r.token
  memberofT : db'.memberofT = db.memberofT

namespace Database

inductive Stored (enforced : Bool) : Database → Prop
  | new : Stored enforced Database.new
  | member {db db' : Database} {op : MemberOp} (h : Stored enforced db) (hop : op.Allowed db)
      (hresult : op.result enforced db = .ok db') : Stored enforced db'
  | same {db db' : Database} (h : Stored enforced db) (hsame : db.SameTokens db') :
      Stored enforced db'

theorem Reachable.stored {enforced : Bool} {db : Database} (h : Reachable enforced db) :
    Stored enforced db := by
  induction h with
  | new => exact .new
  | step _ hop hresult ih => exact ih.member hop hresult

/-- The columns of a row are those of its token. -/
def Labelled (db : Database) : Prop :=
  ∀ r ∈ db.accountT.rows, ∀ t, r.token = some t → r.name = t.name ∧ r.spn = t.spn

variable {db db' : Database} {enforced : Bool}

theorem SameTokens.agrees (hsame : db.SameTokens db') (h : db.Agrees) : db'.Agrees := by
  intro r' hr'
  obtain ⟨r, hr, huuid, -, -, htoken⟩ := hsame.rows r' hr'
  obtain ⟨t, ht, htuuid, htimes⟩ := h r hr
  refine ⟨t, htoken.trans ht, htuuid.trans huuid.symm, ?_⟩
  unfold timesMember at htimes ⊢
  rwa [hsame.memberofT, huuid]

theorem SameTokens.labelled (hsame : db.SameTokens db') (h : db.Labelled) : db'.Labelled := by
  intro r' hr' t ht
  obtain ⟨r, hr, -, hname, hspn, htoken⟩ := hsame.rows r' hr'
  rw [hname, hspn]
  exact h r hr t (htoken.symm.trans ht)

theorem Labelled.of_subset (h : db.Labelled)
    (hsub : ∀ r ∈ db'.accountT.rows, r ∈ db.accountT.rows) : db'.Labelled :=
  fun r hr => h r (hsub r hr)

theorem Labelled.updateAccount {account : UserToken} {expire : ℕ} (h : db.Labelled)
    (hresult : db.updateAccount account expire = .ok db') : db'.Labelled := by
  obtain ⟨-, t', ht', rfl⟩ := updateAccount_eq_ok hresult
  have hupserted := upsertAccount_upserted ht'
  intro r hr t ht
  by_cases hown : r.uuid = account.uuid
  · have hholds := hupserted.holds r hr hown
    cases hholds.token.symm.trans ht
    exact ⟨hholds.name, hholds.spn⟩
  · exact h r ((hupserted.spared r hown).mp hr).1 t ht

theorem Labelled.member {op : MemberOp} (h : db.Labelled)
    (hresult : op.result enforced db = .ok db') : db'.Labelled := by
  cases op with
  | updateAccount account expire =>
    refine Labelled.updateAccount ?_ hresult
    exact h.of_subset fun r hr => by rwa [cascadePurge_accountT] at hr
  | updateGroup grp expire =>
    change db.updateGroup grp expire = .ok db' at hresult
    unfold Database.updateGroup at hresult
    split at hresult
    · cases hresult
    · cases hresult
      exact h
  | deleteAccount aUuid =>
    cases hresult
    exact h.of_subset fun r hr => (List.mem_filter.mp hr).1
  | deleteGroup gUuid =>
    cases hresult
    exact h
  | clear =>
    cases hresult
    exact nofun

theorem Stored.agrees (h : Stored enforced db) : db.Agrees := by
  induction h with
  | new => exact nofun
  | member _ hop hresult ih => exact MemberOp.agrees ih hop hresult
  | same _ hsame ih => exact hsame.agrees ih

theorem Stored.labelled (h : Stored enforced db) : db.Labelled := by
  induction h with
  | new => exact nofun
  | member _ _ hresult ih => exact ih.member hresult
  | same _ hsame ih => exact hsame.labelled ih

/-- A name that finds an account is no name of another account. -/
theorem Labelled.token_unique {accountId : String} {t t' : UserToken} {e : ℕ} (h : db.Labelled)
    (hfound : db.getAccount (.name accountId) = .ok (some (t, e))) (ht' : t' ∈ db.getAccounts)
    (hname : t'.name = accountId ∨ t'.spn = accountId) : t' = t := by
  obtain ⟨r, hr, htoken⟩ := List.mem_filterMap.mp ht'
  obtain ⟨hrname, hrspn⟩ := h r hr t' htoken
  have hanswers : r.answersTo accountId = true := by
    rw [← hrname, ← hrspn] at hname
    rcases hname with rfl | rfl
    · exact AccountRow.answersTo_of_mem_texts (.tail _ (.head _))
    · exact AccountRow.answersTo_of_mem_texts (.tail _ (.tail _ (.head _)))
  obtain ⟨expiry, hdata⟩ := oneRow_eq_some hfound
  have hmem : (r.token, r.expiry) ∈ db.getAccountDataName accountId :=
    List.mem_map_of_mem (List.mem_filter.mpr ⟨hr, hanswers⟩)
  rw [show db.getAccountDataName accountId = [(some t, expiry)] from hdata] at hmem
  exact Option.some.inj (htoken.symm.trans (Prod.ext_iff.mp (List.mem_singleton.mp hmem)).1)

theorem mem_listedMembers {accounts : List UserToken} {gUuid : Uuid} {t : UserToken} :
    t ∈ listedMembers accounts gUuid ↔ t ∈ accounts ∧ ∃ g ∈ t.groups, g.uuid = gUuid := by
  unfold listedMembers timesListed
  simp only [List.mem_flatMap, List.mem_replicate, ne_eq, ← Nat.pos_iff_ne_zero,
    List.countP_pos_iff, beq_iff_eq]
  constructor
  · rintro ⟨t', ht', hlisted, rfl⟩
    exact ⟨ht', hlisted⟩
  · rintro ⟨ht, hlisted⟩
    exact ⟨t, ht, hlisted, rfl⟩

end Database

end Db

/-! ## 3. Sudoers -/

def SessionStart.InSudoGroup (cfg : SessionConfig) (t : UserToken) : Prop :=
  ∃ sudoGroup ∈ cfg.sudoGroups, ∃ uuid, cfg.parseUuid sudoGroup = some uuid ∧
    ∃ g ∈ t.groups, g.uuid = uuid

theorem SessionStart.isSudoer_iff (cfg : SessionConfig) (members : Uuid → List String)
    (accountId : String) :
    isSudoer cfg members accountId = true ↔ ∃ sudoGroup ∈ cfg.sudoGroups, ∃ uuid,
      cfg.parseUuid sudoGroup = some uuid ∧ accountId ∈ members uuid := by
  unfold isSudoer
  rw [List.any_eq_true]
  refine exists_congr fun sudoGroup => and_congr_right fun _ => ?_
  cases hparse : cfg.parseUuid sudoGroup <;> simp

namespace Resolver

theorem exec_getGroupmembers (R : Resolver P) (gUuid : Uuid) {s : ResolverState P}
    (h : s.db.Agrees) :
    ((R.getGroupmembers gUuid).exec s).1 =
      (Database.listedMembers s.db.getAccounts gUuid).map (tokenUidattr R) := by
  rw [exec_getGroupmembers_eq, h.getGroupMembers]

theorem tokenUidattr_cases (R : Resolver P) (t : UserToken) :
    t.name = tokenUidattr R t ∨ t.spn = tokenUidattr R t := by
  unfold tokenUidattr
  cases R.uidAttrMap
  · exact .inl rfl
  · exact .inr rfl

/-- **Sudoers.**  For a name that finds a cached account, the flag is what the token of the account
    says if and only if, for a token with a sudo group, the attribute of the token is the name as
    it was asked for, letter by letter.  No other account counts in any case. -/
theorem isSudoer_exact_iff (R : Resolver P) (cfg : SessionConfig) {enforced : Bool}
    (s : ResolverState P) (hs : Database.Stored enforced s.db) (accountId : String) (t : UserToken)
    (e : ℕ) (hfound : s.db.getAccount (.name accountId) = .ok (some (t, e))) :
    (isSudoer cfg (fun gUuid => ((R.getGroupmembers gUuid).exec s).1) accountId = true ↔
        InSudoGroup cfg t) ↔
      (InSudoGroup cfg t → tokenUidattr R t = accountId) := by
  -- The account itself is the only one whose attribute can be the name.
  have hmember : ∀ gUuid, accountId ∈ ((R.getGroupmembers gUuid).exec s).1 ↔
      tokenUidattr R t = accountId ∧ ∃ g ∈ t.groups, g.uuid = gUuid := by
    intro gUuid
    rw [exec_getGroupmembers R gUuid hs.agrees, List.mem_map]
    constructor
    · rintro ⟨t', ht', hattr⟩
      obtain ⟨haccount, hlisted⟩ := Database.mem_listedMembers.mp ht'
      have hname := tokenUidattr_cases R t'
      rw [hattr] at hname
      obtain rfl := hs.labelled.token_unique hfound haccount hname
      exact ⟨hattr, hlisted⟩
    · rintro ⟨hattr, hlisted⟩
      exact ⟨t, Database.mem_listedMembers.mpr
        ⟨Resolver.mem_getAccounts hfound, hlisted⟩, hattr⟩
  have hflag : isSudoer cfg (fun gUuid => ((R.getGroupmembers gUuid).exec s).1) accountId = true ↔
      tokenUidattr R t = accountId ∧ InSudoGroup cfg t := by
    rw [isSudoer_iff]
    constructor
    · rintro ⟨sudoGroup, hgroup, uuid, hparse, hin⟩
      obtain ⟨hattr, hlisted⟩ := (hmember uuid).mp hin
      exact ⟨hattr, sudoGroup, hgroup, uuid, hparse, hlisted⟩
    · rintro ⟨hattr, sudoGroup, hgroup, uuid, hparse, hlisted⟩
      exact ⟨sudoGroup, hgroup, uuid, hparse, (hmember uuid).mpr ⟨hattr, hlisted⟩⟩
  rw [hflag, and_iff_right_iff_imp]

def namingProvider (name : String) : Oidc.OidcProvider Unit :=
  { (Oidc.sampleOidcProvider : Oidc.OidcProvider Unit) with
    issuer := { Oidc.sampleIssuer with
      userInfo := fun _ w => (some ⟨some name, none, "alice", none⟩, w) } }

def namedToken (name : String) : UserToken :=
  (namingProvider name).userToken name "" ⟨1⟩ ⟨2⟩ 5000 5000

def sudoState (name : String) : ResolverState Unit :=
  let op := Database.MemberOp.updateAccount (namedToken name) 100
  { aliceState with db := op.apply true Database.new }

theorem sudoState_stored (name : String) : Database.Stored true (sudoState name).db :=
  (Database.Reachable.new.apply (.updateAccount (namedToken name) 100) trivial).stored

def ownSudo : SessionConfig :=
  { noSudo with
    sudoGroups := ["admins", "00000000-0000-0000-0000-000000000001"]
    parseUuid := fun text =>
      if text == "00000000-0000-0000-0000-000000000001" then some ⟨1⟩ else none }

theorem inSudoGroup_namedToken (name : String) : InSudoGroup ownSudo (namedToken name) :=
  ⟨"00000000-0000-0000-0000-000000000001", by decide, ⟨1⟩, by decide, _,
    List.mem_singleton_self _, rfl⟩

theorem isSudoer_exact_alice :
    let s := sudoState "alice@example.com"
    isSudoer ownSudo (fun gUuid => ((outageResolver.getGroupmembers gUuid).exec s).1)
      "alice@example.com" = true :=
  ((isSudoer_exact_iff outageResolver ownSudo (sudoState "alice@example.com")
    (sudoState_stored _) "alice@example.com" (namedToken "alice@example.com") 100
    (by decide +kernel)).mpr fun _ => rfl).mpr (inSudoGroup_namedToken _)

/-- The issuer has the name as `Alice@example.com`; the account is found under the name in lower
    case, and is not a sudoer. -/
theorem isSudoer_letterCase :
    let s := sudoState "Alice@example.com"
    let t := namedToken "Alice@example.com"
    (Entra.runPlain ((namingProvider "Alice@example.com").userTokenFromOidc
        ⟨"access token", none⟩ ⟨2⟩) (sampleProviderState .online)).1 = .ok t ∧
      Database.Stored true s.db ∧
      s.db.getAccount (.name "alice@example.com") = .ok (some (t, 100)) ∧
      InSudoGroup ownSudo t ∧
      isSudoer ownSudo (fun gUuid => ((outageResolver.getGroupmembers gUuid).exec s).1)
        "alice@example.com" = false := by
  refine ⟨rfl, sudoState_stored _, by decide +kernel, inSudoGroup_namedToken _, ?_⟩
  decide +kernel

end Resolver

end Himmelblau
