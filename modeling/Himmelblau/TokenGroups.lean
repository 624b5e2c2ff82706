/-
  **The groups of a user's tokens, over whole histories** of placeholders, logins and refreshes as
  `common/src/idprovider/himmelblau.rs` builds them and the resolver caches them.

  A login that cannot fetch the groups reuses those of the cached token, and then adds the user's
  own group to them if the primary gid comes from the directory.
-/
import Himmelblau.Runs
import Himmelblau.StaticIds

namespace Himmelblau.UserTokens

open Interface NameMapping DirectoryGroups Resolver

/-! ## 1. Lists of groups -/

/-- Each uuid at most once, and at most one group of the name. -/
structure Tidy (spn : String) (groups : List GroupToken) : Prop where
  uuids : (groups.map (·.uuid)).Nodup
  named : groups.countP (·.name = spn) ≤ 1

variable {spn : String} {groups groups' : List GroupToken}

theorem Tidy.nil : Tidy spn [] := ⟨List.nodup_nil, Nat.zero_le 1⟩

theorem Tidy.sublist (h : Tidy spn groups) (hsub : groups'.Sublist groups) : Tidy spn groups' :=
  ⟨h.uuids.sublist (hsub.map _), Nat.le_trans hsub.countP_le h.named⟩

theorem tidy_append_iff (h : Tidy spn groups) (uuid : Uuid) (gid : UInt32) :
    Tidy spn (groups ++ [⟨spn, spn, uuid, gid⟩]) ↔
      ∀ g ∈ groups, g.uuid ≠ uuid ∧ g.name ≠ spn := by
  have hcount : (groups ++ [(⟨spn, spn, uuid, gid⟩ : GroupToken)]).countP (·.name = spn) =
      groups.countP (·.name = spn) + 1 := by simp
  have huuids : ((groups ++ [(⟨spn, spn, uuid, gid⟩ : GroupToken)]).map (·.uuid)).Nodup ↔
      ∀ g ∈ groups, g.uuid ≠ uuid := by
    rw [List.map_append, List.nodup_append]
    simp [h.uuids]
  constructor
  · intro htidy g hg
    have hzero : groups.countP (·.name = spn) = 0 := by
      have hnamed := htidy.named
      rw [hcount] at hnamed
      omega
    rw [List.countP_eq_zero] at hzero
    exact ⟨huuids.mp htidy.uuids g hg, by simpa using hzero g hg⟩
  · intro hapart
    refine ⟨huuids.mpr fun g hg => (hapart g hg).1, ?_⟩
    have hzero : groups.countP (·.name = spn) = 0 :=
      List.countP_eq_zero.mpr fun g hg => by simpa using (hapart g hg).2
    rw [hcount, hzero]

/-! ## 2. Histories -/

/-- What happens to an account: a placeholder is built if there is no token, the user logs in or is
    refreshed, or the cached token is dropped.  A token that is built is cached unless that fails;
    the names and gids of the `nxset` at that time are given with it. -/
inductive HistoryOp where
  | placeholder (S : UserSource) (fakeUuid : Uuid) (nxset : Option (List Id))
  | login (S : UserSource) (fetched : Fetched) (value : TokenOrObj) (nxset : Option (List Id))
  | forget

namespace HistoryOp

def built (accountId : String) (cached : Option UserToken) : HistoryOp → Option UserToken
  | .placeholder S fakeUuid _ =>
    match cached with
    -- If we have an existing token, just keep it
    | some _ => none
    | none => (S.placeholder accountId fakeUuid).toOption
  | .login S fetched value _ =>
    (S.userTokenFromUnixUserToken fetched accountId value cached).toOption
  | .forget => none

variable {P : Type} (R : Resolver P)

def store (cached : Option UserToken) : Option (List Id) → UserToken → Option UserToken
  | some nxset, token => some (tokenToCache R nxset token)
  | none, _ => cached

/-- The token that is cached afterwards.  A token that is kept is written again. -/
def step (accountId : String) (cached : Option UserToken) (op : HistoryOp) : Option UserToken :=
  match op with
  | .placeholder _ _ nxset => ((op.built accountId cached).or cached).bind (store R cached nxset)
  | .login _ _ _ nxset =>
    match op.built accountId cached with
    | some token => store R cached nxset token
    | none => cached
  | .forget => none

/-! ## 3. Well-formed tokens, and the steps that build them -/

/-- The primary gid that the directory's attributes give. -/
def synced : HistoryOp → Option UInt32
  | .login S fetched value _ => ((S.posixAttrsOf fetched value).lookup "gidNumber").bind parseU32
  | _ => none

/-- The primary gid is synced from the directory, or is that of a group of the list. -/
structure WellFormed (op : HistoryOp) (token : UserToken) : Prop where
  tidy : Tidy token.spn token.groups
  primary : token.realGidnumber = op.synced ∨
    ∃ g ∈ token.groups, token.realGidnumber = some g.gidnumber

def BuildsWellFormed (accountId : String) (cached : Option UserToken) (op : HistoryOp) : Prop :=
  ∀ token, op.built accountId cached = some token → op.WellFormed token

def mappedGid (S : UserSource) (accountId : String) : Option UInt32 :=
  match S.userMap.getLocalFromUpn accountId with
  | some user => (S.getpwnam user).map Prod.snd
  | none => (S.staticUser accountId).map Prod.snd

def Fetches (fetched : Fetched) (value : TokenOrObj) : Prop :=
  value.accessToken ≠ none ∧ fetched.groups ≠ none

/-- A placeholder is not built from a static entry with two different ids.  A login that takes the
    primary gid from the user map or the static id map lists a group of that gid, or it is the
    synced one; and a login that adds the user's own group fetches the groups, or reuses none that
    has its uuid or its name. -/
def Sound (accountId : String) (cached : Option UserToken) : HistoryOp → Prop
  | .placeholder S _ _ => cached = none → ∀ ids, S.staticUser accountId = some ids → ids.2 = ids.1
  | .login S fetched value _ =>
    match mappedGid S accountId with
    | some gid => ((S.posixAttrsOf fetched value).lookup "gidNumber").bind parseU32 = some gid ∨
        ∃ g ∈ S.groupsOf fetched value cached, g.gidnumber = gid
    | none => (S.posixAttrsOf fetched value).lookup "gidNumber" = none → Fetches fetched value ∨
        ∀ token, cached = some token → ∀ g ∈ token.groups,
          S.uuidOf value ≠ .ok g.uuid ∧ g.name ≠ accountId
  | .forget => True

/-- What the daemon and the directory promise: the account id is in lower case, no two groups of an
    answer have the same object id, and none has that of the user. -/
def Lawful (accountId : String) : HistoryOp → Prop
  | .placeholder _ _ _ => True
  | .login S fetched value _ => S.toLowercase accountId = accountId ∧
      ∀ objects, fetched.groups = some objects →
        (objects.filterMap fun object => S.parseUuid object.id).Nodup ∧
          ∀ object ∈ objects, ∀ uuid, S.parseUuid object.id = some uuid → S.uuidOf value ≠ .ok uuid
  | .forget => True

end HistoryOp

/-! ## 4. The groups at hand -/

section Groups

variable {S : UserSource} {accountId : String} {objects : List DirectoryObject} {fetched : Fetched}
  {value : TokenOrObj} {cached : Option UserToken} {nxset : Option (List Id)}

theorem directoryGroups_uuids_sublist :
    ((S.directoryGroups objects).map (·.uuid)).Sublist
      (objects.filterMap fun object => S.parseUuid object.id) := by
  unfold UserSource.directoryGroups
  induction objects with
  | nil => exact .slnil
  | cons object objects ih =>
    cases hgroup : S.groupTokenFromDirectoryObject object with
    | error e =>
      rw [List.filterMap_cons_none (by rw [hgroup]; rfl), List.filterMap_cons]
      split
      · exact ih
      · exact ih.cons _
    | ok g =>
      obtain ⟨-, -, -, hid, -⟩ := GroupSource.groupTokenFromDirectoryObject_eq_ok hgroup
      rw [List.filterMap_cons_some (b := g) (by rw [hgroup]; rfl),
        List.filterMap_cons_some (f := fun object : DirectoryObject => S.parseUuid object.id) hid]
      exact ih.cons_cons _

theorem mem_directoryGroups {g : GroupToken} (hg : g ∈ S.directoryGroups objects) :
    ∃ object ∈ objects, S.parseUuid object.id = some g.uuid ∧ looksLikeUpn g.name = false := by
  obtain ⟨object, hobject, hgroup⟩ := List.mem_filterMap.mp hg
  cases hok : S.groupTokenFromDirectoryObject object with
  | error e =>
    rw [hok] at hgroup
    cases hgroup
  | ok g' =>
    rw [hok] at hgroup
    cases hgroup
    obtain ⟨hname, -, hupn, hid, -⟩ := GroupSource.groupTokenFromDirectoryObject_eq_ok hok
    exact ⟨object, hobject, hid, hname ▸ hupn⟩

theorem directoryGroups_apart (hupn : looksLikeUpn accountId = true)
    (hlawful : (HistoryOp.login S fetched value nxset).Lawful accountId)
    (hobjects : fetched.groups = some objects) :
    ∀ g ∈ S.directoryGroups objects, S.uuidOf value ≠ .ok g.uuid ∧ g.name ≠ accountId := by
  intro g hg
  obtain ⟨object, hobject, hid, hname⟩ := mem_directoryGroups hg
  refine ⟨(hlawful.2 objects hobjects).2 object hobject g.uuid hid, ?_⟩
  rintro rfl
  rw [hupn] at hname
  cases hname

theorem directoryGroups_tidy (hupn : looksLikeUpn accountId = true)
    (hlawful : (HistoryOp.login S fetched value nxset).Lawful accountId)
    (hobjects : fetched.groups = some objects) : Tidy accountId (S.directoryGroups objects) := by
  refine ⟨(hlawful.2 objects hobjects).1.sublist directoryGroups_uuids_sublist, ?_⟩
  have hzero : (S.directoryGroups objects).countP (·.name = accountId) = 0 :=
    List.countP_eq_zero.mpr fun g hg => by
      simpa using (directoryGroups_apart hupn hlawful hobjects g hg).2
  rw [hzero]
  exact Nat.zero_le 1

theorem groupsOf_cases (S : UserSource) (fetched : Fetched) (value : TokenOrObj)
    (cached : Option UserToken) :
    (∃ objects, HistoryOp.Fetches fetched value ∧ fetched.groups = some objects ∧
      S.groupsOf fetched value cached = S.directoryGroups objects) ∨
    ¬HistoryOp.Fetches fetched value ∧
      S.groupsOf fetched value cached = (cached.map (·.groups)).getD [] := by
  unfold UserSource.groupsOf HistoryOp.Fetches
  cases haccess : value.accessToken with
  | none => exact .inr ⟨fun h => h.1 rfl, rfl⟩
  | some accessToken =>
    cases hgroups : fetched.groups with
    | none => exact .inr ⟨fun h => h.2 rfl, rfl⟩
    | some objects => exact .inl ⟨objects, ⟨by simp, by simp⟩, rfl, rfl⟩

def CachedTidy (accountId : String) (cached : Option UserToken) : Prop :=
  ∀ token, cached = some token → Tidy accountId token.groups

theorem groupsOf_tidy (hupn : looksLikeUpn accountId = true)
    (hlawful : (HistoryOp.login S fetched value nxset).Lawful accountId)
    (hcached : CachedTidy accountId cached) : Tidy accountId (S.groupsOf fetched value cached) := by
  rcases groupsOf_cases S fetched value cached with ⟨objects, -, hobjects, heq⟩ | ⟨-, heq⟩
  · rw [heq]
    exact directoryGroups_tidy hupn hlawful hobjects
  · rw [heq]
    cases cached with
    | none => exact .nil
    | some token => exact hcached token rfl

end Groups

namespace HistoryOp

/-! ## 5. One step -/

variable {S : UserSource} {accountId : String} {fetched : Fetched} {value : TokenOrObj}
  {cached : Option UserToken} {nxset : Option (List Id)} {token : UserToken} {op : HistoryOp}

/-- The user's own group is apart from the groups at hand if they were fetched, or else if it is
    apart from those of the cached token. -/
theorem apart_iff (hupn : looksLikeUpn accountId = true)
    (hlawful : (HistoryOp.login S fetched value nxset).Lawful accountId) {uuid : Uuid}
    (huuid : S.uuidOf value = .ok uuid) :
    (∀ g ∈ S.groupsOf fetched value cached, g.uuid ≠ uuid ∧ g.name ≠ accountId) ↔
      Fetches fetched value ∨ ∀ token, cached = some token → ∀ g ∈ token.groups,
        S.uuidOf value ≠ .ok g.uuid ∧ g.name ≠ accountId := by
  have hne : ∀ g : GroupToken, g.uuid ≠ uuid ↔ S.uuidOf value ≠ .ok g.uuid := by
    intro g
    rw [huuid, ne_eq, ne_eq, Except.ok.injEq, eq_comm]
  simp only [hne]
  rcases groupsOf_cases S fetched value cached with ⟨objects, hfetches, hobjects, heq⟩ | ⟨hnot, heq⟩
  · rw [heq]
    exact iff_of_true (directoryGroups_apart hupn hlawful hobjects) (.inl hfetches)
  · rw [heq, or_iff_right hnot]
    cases cached with
    | none => simp
    | some token => simp

theorem login_wellFormed_iff (hupn : looksLikeUpn accountId = true)
    (hlawful : (HistoryOp.login S fetched value nxset).Lawful accountId)
    (hcached : CachedTidy accountId cached)
    (h : S.userTokenFromUnixUserToken fetched accountId value cached = .ok token) :
    (HistoryOp.login S fetched value nxset).WellFormed token ↔
      (HistoryOp.login S fetched value nxset).Sound accountId cached := by
  have htidy := groupsOf_tidy hupn hlawful hcached
  obtain ⟨uuid, ids, huuid, hdecided, -, hreal, hspn, hgroups⟩ :=
    UserSource.userTokenFromUnixUserToken_eq_ok h
  rw [hlawful.1] at hdecided hspn
  rw [hspn] at hgroups
  have hwell : (HistoryOp.login S fetched value nxset).WellFormed token ↔
      Tidy accountId token.groups ∧ (token.realGidnumber = synced (.login S fetched value nxset) ∨
        ∃ g ∈ token.groups, token.realGidnumber = some g.gidnumber) :=
    ⟨fun h => ⟨hspn ▸ h.tidy, h.primary⟩, fun h => ⟨hspn.symm ▸ h.1, h.2⟩⟩
  rw [hwell, hgroups, hreal]
  unfold Sound mappedGid synced
  cases UserSource.idsOf_decided hdecided with
  | userMap hmap hpwd => simp [hmap, hpwd, htidy, eq_comm]
  | static hmap hstatic => simp [hmap, hstatic, htidy, eq_comm]
  | directory hmap hstatic hnumber hattr hparse => simp [hmap, hstatic, hattr, hparse, htidy]
  | primary hmap hstatic hnumber hattr =>
    simp only [hmap, hstatic, hattr, Option.map_none, true_implies, if_true]
    rw [and_iff_left (.inr ⟨_, List.mem_append_right _ (List.mem_singleton_self _), rfl⟩),
      tidy_append_iff htidy]
    exact apart_iff hupn hlawful huuid

theorem placeholder_wellFormed_iff {fakeUuid : Uuid}
    (h : S.placeholder accountId fakeUuid = .ok token) :
    (HistoryOp.placeholder S fakeUuid nxset).WellFormed token ↔
      (HistoryOp.placeholder S fakeUuid nxset).Sound accountId none := by
  obtain ⟨uid, gid, hids, -, hreal, hspn, hgroups⟩ := UserSource.placeholder_eq_ok h
  have htidy : Tidy token.spn token.groups := by
    rw [hspn, hgroups]
    exact (tidy_append_iff .nil fakeUuid uid).mpr nofun
  constructor
  · intro hwell _ ids hstatic
    rcases UserSource.placeholderIds_eq_ok hids with hentry | ⟨hnone, -⟩
    · rw [hentry] at hstatic
      cases hstatic
      rcases hwell.primary with hsynced | ⟨g, hg, hgid⟩
      · rw [hreal] at hsynced
        cases hsynced
      · rw [hgroups, List.mem_singleton] at hg
        rw [hreal, hg] at hgid
        exact Option.some.inj hgid
    · rw [hnone] at hstatic
      cases hstatic
  · intro hsound
    have hsame : gid = uid := by
      rcases UserSource.placeholderIds_eq_ok hids with hentry | ⟨-, -, hsame⟩
      · exact hsound rfl (uid, gid) hentry
      · exact hsame
    refine ⟨htidy, .inr ⟨_, hgroups ▸ List.mem_singleton_self _, ?_⟩⟩
    rw [hreal, hsame]

theorem buildsWellFormed_of_built (h : op.built accountId cached = some token) :
    op.BuildsWellFormed accountId cached ↔ op.WellFormed token := by
  unfold BuildsWellFormed
  rw [h]
  exact ⟨fun hall => hall token rfl, fun hwell _ heq => Option.some.inj heq ▸ hwell⟩

theorem toOption_eq_some {ε α : Type} {x : Except ε α} {a : α} (h : x.toOption = some a) :
    x = .ok a := by
  cases x with
  | error e => cases h
  | ok b => exact congrArg Except.ok (Option.some.inj h)

theorem buildsWellFormed_iff (hupn : looksLikeUpn accountId = true) (hlawful : op.Lawful accountId)
    (hcached : CachedTidy accountId cached) :
    op.BuildsWellFormed accountId cached ↔
      ((op.built accountId cached).isSome → op.Sound accountId cached) := by
  cases hbuilt : op.built accountId cached with
  | none =>
    refine iff_of_true (fun token h => ?_) nofun
    rw [hbuilt] at h
    cases h
  | some token =>
    rw [buildsWellFormed_of_built hbuilt]
    simp only [Option.isSome_some, true_implies]
    cases op with
    | placeholder S fakeUuid nxset =>
      cases cached with
      | some old => cases hbuilt
      | none => exact placeholder_wellFormed_iff (toOption_eq_some hbuilt)
    | login S fetched value nxset =>
      exact login_wellFormed_iff hupn hlawful hcached (toOption_eq_some hbuilt)
    | forget => cases hbuilt

theorem built_spn (hlawful : op.Lawful accountId) (h : op.built accountId cached = some token) :
    token.spn = accountId := by
  cases op with
  | placeholder S fakeUuid nxset =>
    cases cached with
    | some old => cases h
    | none =>
      obtain ⟨-, -, -, -, -, hspn, -⟩ := UserSource.placeholder_eq_ok (toOption_eq_some h)
      exact hspn
  | login S fetched value nxset =>
    obtain ⟨-, -, -, -, -, -, hspn, -⟩ :=
      UserSource.userTokenFromUnixUserToken_eq_ok (toOption_eq_some h)
    rw [hspn, hlawful.1]
  | forget => cases h

variable {P : Type} {R : Resolver P}

theorem store_cachedTidy (hcached : CachedTidy accountId cached)
    (htoken : Tidy accountId token.groups) : CachedTidy accountId (store R cached nxset token) := by
  cases nxset with
  | none => exact hcached
  | some nxset =>
    intro stored h
    cases h
    exact htoken.sublist List.filter_sublist

theorem step_cachedTidy (hcached : CachedTidy accountId cached) (hlawful : op.Lawful accountId)
    (h : op.BuildsWellFormed accountId cached) :
    CachedTidy accountId (op.step R accountId cached) := by
  have htoken : ∀ token, op.built accountId cached = some token → Tidy accountId token.groups := by
    intro token hbuilt
    have htidy := (h token hbuilt).tidy
    rw [built_spn hlawful hbuilt] at htidy
    exact htidy
  unfold step
  cases op with
  | placeholder S fakeUuid nxset =>
    dsimp only
    cases hat : (built accountId cached (.placeholder S fakeUuid nxset)).or cached with
    | none => exact nofun
    | some token =>
      refine store_cachedTidy hcached ?_
      rcases Option.or_eq_some_iff.mp hat with hbuilt | ⟨-, hkept⟩
      · exact htoken token hbuilt
      · exact hcached token hkept
  | login S fetched value nxset =>
    dsimp only
    split
    · next token hbuilt => exact store_cachedTidy hcached (htoken token hbuilt)
    · exact hcached
  | forget => exact nofun

end HistoryOp

/-! ## 6. Whole histories -/

/-- **Groups over a history.**  Every token of a history is well formed exactly if every step that
    builds one is sound. -/
theorem token_groups_wellFormed_iff {P : Type} (R : Resolver P) {accountId : String}
    (hupn : looksLikeUpn accountId = true) {ops : List HistoryOp}
    (hlawful : ∀ op ∈ ops, op.Lawful accountId) :
    (∀ before op after, ops = before ++ op :: after → op.BuildsWellFormed accountId
        (before.foldl (HistoryOp.step R accountId) none)) ↔
      ∀ before op after, ops = before ++ op :: after →
        (op.built accountId (before.foldl (HistoryOp.step R accountId) none)).isSome →
        op.Sound accountId (before.foldl (HistoryOp.step R accountId) none) := by
  change Runs.Along (HistoryOp.step R accountId)
      (fun cached op => op.BuildsWellFormed accountId cached) ops none ↔
    Runs.Along (HistoryOp.step R accountId)
      (fun cached op => (op.built accountId cached).isSome → op.Sound accountId cached) ops none
  have hnone : CachedTidy accountId none := nofun
  refine Runs.along_congr (CachedTidy accountId) ?_ ?_ hnone
  · intro cached op hmem hcached
    exact HistoryOp.buildsWellFormed_iff hupn (hlawful op hmem) hcached
  · intro cached op hmem hcached hsound
    have hwell := (HistoryOp.buildsWellFormed_iff hupn (hlawful op hmem) hcached).mpr hsound
    exact HistoryOp.step_cachedTidy hcached (hlawful op hmem) hwell

/-! Alice's tokens -/

def aliceFirst : HistoryOp := .placeholder (sampleUsers .name) ⟨9⟩ (some [])

def aliceLogin (groups : Option (List DirectoryObject)) : HistoryOp :=
  .login (sampleUsers .name) ⟨groups, none⟩ aliceIdentity (some [])

def aliceHistory : List HistoryOp := [aliceFirst, aliceLogin (some [])]

theorem aliceHistory_lawful : ∀ op ∈ aliceHistory, op.Lawful "alice@example.com" := by
  intro op hop
  rcases List.mem_pair.mp hop with rfl | rfl
  · trivial
  · refine ⟨by decide +kernel, ?_⟩
    rintro objects ⟨⟩
    exact ⟨List.nodup_nil, nofun⟩

theorem token_groups_wellFormed_alice :
    let step := HistoryOp.step (sampleDaemon 3 false).resolver "alice@example.com"
    aliceFirst.BuildsWellFormed "alice@example.com" none ∧
      (aliceLogin (some [])).BuildsWellFormed "alice@example.com" (step none aliceFirst) := by
  have hsound : Runs.Along (HistoryOp.step (sampleDaemon 3 false).resolver "alice@example.com")
      (fun cached op => (op.built "alice@example.com" cached).isSome →
        op.Sound "alice@example.com" cached) aliceHistory none := by
    refine Runs.along_cons.mpr ⟨?_, Runs.along_cons.mpr ⟨?_, Runs.along_nil⟩⟩
    · exact nofun
    · exact fun _ _ => .inl ⟨nofun, nofun⟩
  have hwell := (token_groups_wellFormed_iff (sampleDaemon 3 false).resolver (by decide +kernel)
    aliceHistory_lawful).mpr hsound
  exact ⟨hwell [] _ _ rfl, hwell [aliceFirst] _ [] rfl⟩

/-- If the groups are not fetched at the first login, the placeholder's group stays beside alice's
    own; if they are not fetched again, alice's own group is listed twice. -/
theorem token_groups_pile_up :
    let a := "alice@example.com"
    let R := (sampleDaemon 3 false).resolver
    let once := [aliceFirst, aliceLogin none].foldl (HistoryOp.step R a) none
    let twice := [aliceFirst, aliceLogin none, aliceLogin none].foldl (HistoryOp.step R a) none
    once.map (·.groups.map fun g => (g.name, g.uuid)) = some [(a, ⟨9⟩), (a, ⟨1⟩)] ∧
      twice.map (·.groups.map fun g => (g.name, g.uuid)) =
        some [(a, ⟨9⟩), (a, ⟨1⟩), (a, ⟨1⟩)] := by
  decide +kernel

end Himmelblau.UserTokens
