/-
  **The static id map**, mirror of `common/src/idmap_cache.rs` and of the commands `idmap` and
  `enumerate` of `cli/src/main.rs` that write it.

  The writers and the readers are different programs, which agree only through the key of a row.
  The table is compared with what the administrator asked for: ids for an account, however its name
  is spelt, and for a group.
-/
import Himmelblau.StableIds

namespace Himmelblau.UserTokens

open Interface IdMap NameMapping DirectoryGroups Sids FunctionBody Entra Oidc Resolver

/-! ## 1. `idmap_cache.rs` and `aad-tool` -/

/-- The tables `static_users` and `static_groups`; `name` is the primary key of each. -/
structure StaticIdCache where
  users : String → Option (UInt32 × UInt32)
  groups : String → Option UInt32

structure EnumeratedUser where
  upn : String
  uid : Option UInt32
  gid : Option UInt32
  deriving DecidableEq, Repr

structure EnumeratedGroup where
  id : String
  displayname : String
  gid : Option UInt32
  deriving DecidableEq, Repr

/-- The commands that write the static id map; `enumerate` with what the directory answers. -/
inductive IdmapCommand where
  | userAdd (accountId : String) (uid gid : UInt32)
  | groupAdd (objectId : String) (gid : UInt32)
  | enumerate (users : List EnumeratedUser) (groups : List EnumeratedGroup)
  | clear
  deriving DecidableEq, Repr

namespace StaticIdCache

def empty : StaticIdCache := ⟨fun _ => none, fun _ => none⟩

variable (cache : StaticIdCache)

def insertUser (name : String) (uid gid : UInt32) : StaticIdCache :=
  { cache with users := Function.update cache.users name (some (uid, gid)) }

def insertGroup (name : String) (gid : UInt32) : StaticIdCache :=
  { cache with groups := Function.update cache.groups name (some gid) }

def enumerateUser (user : EnumeratedUser) : StaticIdCache :=
  match user.uid with
  | some uid => cache.insertUser user.upn uid (user.gid.getD uid)
  | none => cache

def enumerateGroup (group : EnumeratedGroup) : StaticIdCache :=
  match group.gid with
  | some gid => cache.insertGroup group.displayname gid
  | none => cache

def apply : IdmapCommand → StaticIdCache
  | .userAdd accountId uid gid => cache.insertUser accountId uid gid
  | .groupAdd objectId gid => cache.insertGroup objectId gid
  | .enumerate users groups => groups.foldl enumerateGroup (users.foldl enumerateUser empty)
  | .clear => empty

def run (cmds : List IdmapCommand) : StaticIdCache := cmds.foldl apply empty

end StaticIdCache

/-! ## 2. What the administrator asked for -/

/-- The ids of accounts, by the name as the daemon spells it, and of groups. -/
structure Wanted where
  users : String → Option (UInt32 × UInt32)
  groups : Uuid → Option UInt32

namespace Wanted

variable (toLowercase : String → String) (parseUuid : String → Option Uuid)

def empty : Wanted := ⟨fun _ => none, fun _ => none⟩

def setUser (wanted : Wanted) (name : String) (uid gid : UInt32) : Wanted :=
  { wanted with users := Function.update wanted.users (toLowercase name) (some (uid, gid)) }

def setGroup (wanted : Wanted) (id : String) (gid : UInt32) : Wanted :=
  match parseUuid id with
  | some uuid => { wanted with groups := Function.update wanted.groups uuid (some gid) }
  | none => wanted

def enumerateUser (wanted : Wanted) (user : EnumeratedUser) : Wanted :=
  match user.uid with
  | some uid => wanted.setUser toLowercase user.upn uid (user.gid.getD uid)
  | none => wanted

def enumerateGroup (wanted : Wanted) (group : EnumeratedGroup) : Wanted :=
  match group.gid with
  | some gid => wanted.setGroup parseUuid group.id gid
  | none => wanted

def apply (wanted : Wanted) : IdmapCommand → Wanted
  | .userAdd accountId uid gid => wanted.setUser toLowercase accountId uid gid
  | .groupAdd objectId gid => wanted.setGroup parseUuid objectId gid
  | .enumerate users groups =>
    groups.foldl (enumerateGroup parseUuid) (users.foldl (enumerateUser toLowercase) empty)
  | .clear => empty

def run (cmds : List IdmapCommand) : Wanted := cmds.foldl (apply toLowercase parseUuid) empty

end Wanted

/-! ## 3. Keys that the readers look up -/

section Agreement

variable {toLowercase : String → String} {parseUuid : String → Option Uuid}

/-- The text is the group's object id as it is looked up. -/
def IsKeyOf (parseUuid : String → Option Uuid) (key id : String) : Prop :=
  ∃ uuid, parseUuid id = some uuid ∧ key = uuid.hyphenated

/-- Every row that the command writes has a key that is looked up. -/
def IdmapCommand.Normal (toLowercase : String → String) (parseUuid : String → Option Uuid) :
    IdmapCommand → Prop
  | .userAdd accountId _ _ => toLowercase accountId = accountId
  | .groupAdd objectId _ => IsKeyOf parseUuid objectId objectId
  | .enumerate users groups =>
    (∀ user ∈ users, user.uid ≠ none → toLowercase user.upn = user.upn) ∧
      ∀ group ∈ groups, group.gid ≠ none → IsKeyOf parseUuid group.displayname group.id
  | .clear => True

/-- The table has what is wanted, under the keys that are looked up. -/
structure Agree (toLowercase : String → String) (cache : StaticIdCache) (wanted : Wanted) :
    Prop where
  users : ∀ name, toLowercase name = name → cache.users name = wanted.users name
  groups : ∀ uuid : Uuid, cache.groups uuid.hyphenated = wanted.groups uuid

variable {cache : StaticIdCache} {wanted : Wanted}

theorem Agree.empty : Agree toLowercase .empty .empty := ⟨fun _ _ => rfl, fun _ => rfl⟩

theorem Agree.user (h : Agree toLowercase cache wanted) {name : String}
    (hname : toLowercase name = name) (uid gid : UInt32) :
    Agree toLowercase (cache.insertUser name uid gid)
      (wanted.setUser toLowercase name uid gid) where
  users other hother := by
    unfold StaticIdCache.insertUser Wanted.setUser
    dsimp only
    rw [Function.update_apply, Function.update_apply, hname, h.users other hother]
  groups := h.groups

theorem Agree.group (h : Agree toLowercase cache wanted) {key id : String}
    (hkey : IsKeyOf parseUuid key id) (gid : UInt32) :
    Agree toLowercase (cache.insertGroup key gid) (wanted.setGroup parseUuid id gid) := by
  obtain ⟨uuid, huuid, rfl⟩ := hkey
  unfold StaticIdCache.insertGroup Wanted.setGroup
  rw [huuid]
  refine ⟨h.users, fun other => ?_⟩
  dsimp only
  by_cases heq : other = uuid
  · rw [heq, Function.update_self, Function.update_self]
  · have hkeys : other.hyphenated ≠ uuid.hyphenated := fun h => heq (Uuid.hyphenated_injective h)
    rw [Function.update_of_ne hkeys, Function.update_of_ne heq, h.groups]

theorem Agree.apply (h : Agree toLowercase cache wanted) {cmd : IdmapCommand}
    (hcmd : cmd.Normal toLowercase parseUuid) :
    Agree toLowercase (cache.apply cmd) (wanted.apply toLowercase parseUuid cmd) := by
  cases cmd with
  | userAdd accountId uid gid => exact h.user hcmd uid gid
  | groupAdd objectId gid => exact h.group hcmd gid
  | enumerate users groups =>
    obtain ⟨husers, hgroups⟩ := hcmd
    apply List.foldl_rel
    · apply List.foldl_rel .empty
      intro user hmem cache wanted h
      unfold StaticIdCache.enumerateUser Wanted.enumerateUser
      cases huid : user.uid with
      | none => exact h
      | some uid => exact h.user (husers user hmem (by simp [huid])) uid _
    · intro group hmem cache wanted h
      unfold StaticIdCache.enumerateGroup Wanted.enumerateGroup
      cases hgid : group.gid with
      | none => exact h
      | some gid => exact h.group (hgroups group hmem (by simp [hgid])) gid
  | clear => exact .empty

theorem agree_run {cmds : List IdmapCommand} (h : ∀ cmd ∈ cmds, cmd.Normal toLowercase parseUuid) :
    Agree toLowercase (.run cmds) (.run toLowercase parseUuid cmds) :=
  List.foldl_rel .empty fun cmd hmem _ _ hagree => hagree.apply (h cmd hmem)

end Agreement

/-! ## 4. What NSS reports -/

section Reports

variable {P : Type} (R : Resolver P)

/-- The uid and the gid that NSS reports for a token. -/
def nssIds (token : UserToken) : UInt32 × UInt32 :=
  ((nssUserOf R token).uid, (nssUserOf R token).gid)

variable {token : UserToken}

theorem nssIds_eq {uid gid : UInt32} (huid : token.gidnumber = uid)
    (hgid : token.realGidnumber = some gid) : nssIds R token = (uid, gid) := by
  unfold nssIds nssUserOf
  rw [huid, hgid]
  rfl

theorem same_eq_iff {id uid gid : UInt32} : (id, id) = (uid, gid) ↔ id = uid ∧ gid = uid := by
  rw [Prod.mk.injEq]
  constructor
  · rintro ⟨rfl, rfl⟩
    exact ⟨rfl, rfl⟩
  · rintro ⟨rfl, rfl⟩
    exact ⟨rfl, rfl⟩

namespace UserSource

variable {R} {S : UserSource} {accountId : String} {uuid : Uuid} {ids : UInt32 × UInt32}

/-- Without a static entry the directory's numbers or the hashed id happen to be these. -/
def HappensToBe (S : UserSource) (accountId : String) (uuid : Uuid)
    (posixAttrs : List (String × String)) (ids : UInt32 × UInt32) : Prop :=
  S.uidnumberOf accountId uuid posixAttrs = .ok ids.1 ∧
    match posixAttrs.lookup "gidNumber" with
    | some gidNumber => parseU32 gidNumber = some ids.2
    | none => ids.2 = ids.1

/-- The account is not in the user map and its row, under this spelling, has the ids; or the ids
    that are used instead happen to be the same. -/
def TakesEffect (S : UserSource) (row : Option (UInt32 × UInt32)) (accountId : String) (uuid : Uuid)
    (posixAttrs : List (String × String)) (ids : UInt32 × UInt32) : Prop :=
  match S.userMap.getLocalFromUpn accountId, row with
  | some user, _ => S.getpwnam user = some ids
  | none, some entry => entry = ids
  | none, none => S.HappensToBe accountId uuid posixAttrs ids

theorem nssIds_eq_iff_takesEffect {fetched : Fetched} {value : TokenOrObj}
    {oldToken : Option UserToken} (hlower : S.toLowercase accountId = accountId)
    (huuid : S.uuidOf value = .ok uuid)
    (h : S.userTokenFromUnixUserToken fetched accountId value oldToken = .ok token) :
    nssIds R token = ids ↔
      S.TakesEffect (S.staticUser accountId) accountId uuid (S.posixAttrsOf fetched value) ids := by
  obtain ⟨uuid', decided, huuid', hdecided, huid, hgid, -, -⟩ := userTokenFromUnixUserToken_eq_ok h
  rw [huuid] at huuid'
  cases huuid'
  rw [hlower] at hdecided
  rw [nssIds_eq R huid hgid]
  unfold TakesEffect
  obtain ⟨uid, gid⟩ := ids
  cases idsOf_decided hdecided with
  | userMap hmap hpwd => simp [hmap, hpwd]
  | static hmap hstatic => simp [hmap, hstatic]
  | directory hmap hstatic hnumber hattr hparse =>
    simp [hmap, hstatic, HappensToBe, hnumber, hattr, hparse]
  | primary hmap hstatic hnumber hattr =>
    simp only [hmap, hstatic, HappensToBe, hnumber, hattr, Except.ok.injEq]
    exact same_eq_iff

/-- The same of a placeholder, for which the user map is not read. -/
def PlaceholderTakesEffect (S : UserSource) (row : Option (UInt32 × UInt32)) (accountId : String)
    (ids : UInt32 × UInt32) : Prop :=
  match row with
  | some entry => entry = ids
  | none => S.nameToUnixId accountId = .ok ids.1 ∧ ids.2 = ids.1

theorem nssIds_eq_iff_placeholderTakesEffect {fakeUuid : Uuid}
    (h : S.placeholder accountId fakeUuid = .ok token) :
    nssIds R token = ids ↔ S.PlaceholderTakesEffect (S.staticUser accountId) accountId ids := by
  obtain ⟨uid, gid, hids, huid, hgid, -, -⟩ := placeholder_eq_ok h
  rw [nssIds_eq R huid hgid]
  unfold PlaceholderTakesEffect
  obtain ⟨uid', gid'⟩ := ids
  rcases placeholderIds_eq_ok hids with hstatic | ⟨hstatic, hname, rfl⟩
  · simp [hstatic]
  · simp only [hstatic, hname, Except.ok.injEq]
    exact same_eq_iff

/-- The row under the object id has the gid; or there is none, and the gid that is computed happens
    to be the same. -/
def GroupTakesEffect (S : UserSource) (row : Option UInt32) (object : DirectoryObject) (uuid : Uuid)
    (gid : UInt32) : Prop :=
  match row with
  | some entry => entry = gid
  | none => S.gidnumberOf (GroupSource.nameOf object) uuid object.extensionAttrs = .ok gid

theorem gidnumber_eq_iff_groupTakesEffect {object : DirectoryObject} {group : GroupToken}
    {gid : UInt32} {groups : String → Option UInt32} (hgroups : S.staticIdCache = some groups)
    (h : S.groupTokenFromDirectoryObject object = .ok group) :
    group.gidnumber = gid ↔
      S.GroupTakesEffect (groups group.uuid.hyphenated) object group.uuid gid := by
  obtain ⟨-, -, -, -, hgid⟩ := GroupSource.groupTokenFromDirectoryObject_eq_ok h
  have hrow : (S.staticIdCache.bind fun groups => groups group.uuid.hyphenated) =
      groups group.uuid.hyphenated := by
    rw [hgroups]
    rfl
  unfold GroupTakesEffect
  rw [← hrow]
  cases hstatic : S.staticIdCache.bind fun groups => groups group.uuid.hyphenated with
  | some entry =>
    unfold GroupSource.gidnumberOf at hgid
    rw [hstatic] at hgid
    cases hgid
    rfl
  | none => simp [hgid]

end UserSource

section OpenIdConnect

variable {W : Type} {O : OidcProvider W} {users : String → Option (UInt32 × UInt32)} {m : Idmap}
  {normalize : String → Option (List UInt8)} {tenantId : Uuid} {name : String}

/-- The row under the name has the ids exchanged; or there is none, and the hashed id happens to be
    both of them. -/
def OidcTakesEffect (O : OidcProvider W) (m : Idmap) (normalize : String → Option (List UInt8))
    (tenantId : Uuid) (row : Option (UInt32 × UInt32)) (name : String) (ids : UInt32 × UInt32) :
    Prop :=
  match row with
  | some entry => entry = ids.swap
  | none =>
    ids.2 = ids.1 ∧
      m.genToUnix O.outside.toLowercase normalize tenantId.hyphenated name = .ok ids.1

theorem HasIds.nssIds_eq_iff {ids : UInt32 × UInt32}
    (h : HasIds O users m normalize tenantId name token) :
    nssIds R token = ids ↔ OidcTakesEffect O m normalize tenantId (users name) name ids := by
  obtain ⟨⟨uid, gid⟩, hids, hreal, hgid⟩ := h
  -- this provider has the uid in `real_gidnumber`
  rw [nssIds_eq R hgid hreal]
  unfold OidcTakesEffect
  obtain ⟨uid', gid'⟩ := ids
  rcases hids with hrow | ⟨hrow, hsame, hhashed⟩
  · simp only [hrow, Prod.swap_prod_mk, Prod.mk.injEq]
    exact and_comm
  · cases hsame
    simp only [hrow, hhashed, Except.ok.injEq]
    rw [same_eq_iff, and_comm]

end OpenIdConnect

/-- Whatever is wanted, it is reported if and only if it is in the row that is looked up and nothing
    else decides; the rows hold what is wanted if their keys are normal. -/
theorem static_entries_take_effect_iff (cmds : List IdmapCommand) :
    (∀ {S : UserSource} {accountId : String} {ids : UInt32 × UInt32},
      S.staticUsers = some (StaticIdCache.run cmds).users → S.toLowercase accountId = accountId →
      (∀ {fetched : Fetched} {value : TokenOrObj} {uuid : Uuid} {oldToken : Option UserToken}
        {token : UserToken}, S.uuidOf value = .ok uuid →
        S.userTokenFromUnixUserToken fetched accountId value oldToken = .ok token →
        (nssIds R token = ids ↔ S.TakesEffect ((StaticIdCache.run cmds).users accountId) accountId
          uuid (S.posixAttrsOf fetched value) ids)) ∧
      ∀ {fakeUuid : Uuid} {token : UserToken}, S.placeholder accountId fakeUuid = .ok token →
        (nssIds R token = ids ↔
          S.PlaceholderTakesEffect ((StaticIdCache.run cmds).users accountId) accountId ids)) ∧
    (∀ {S : UserSource} {object : DirectoryObject} {group : GroupToken} {gid : UInt32},
      S.staticIdCache = some (StaticIdCache.run cmds).groups →
      S.groupTokenFromDirectoryObject object = .ok group →
      (group.gidnumber = gid ↔ S.GroupTakesEffect
        ((StaticIdCache.run cmds).groups group.uuid.hyphenated) object group.uuid gid)) ∧
    (∀ {W : Type} {O : OidcProvider W} {m : Idmap} {normalize : String → Option (List UInt8)}
      {tenantId : Uuid} {ids : UInt32 × UInt32} {token : UserToken} {c c' : Ctx W},
      ReadsIds O (StaticIdCache.run cmds).users m normalize → O.tenantId = some tenantId →
      (∀ {accountId : String},
        (O.unixUserGet (.name accountId) none).run c = (.ok (.update token), c') →
        (nssIds R token = ids ↔ OidcTakesEffect O m normalize tenantId
          ((StaticIdCache.run cmds).users accountId) accountId ids)) ∧
      ∀ {ρ : Type} {response : OidcTokenResponse},
        (O.userTokenFromOidc response tenantId : Fn W ρ _) c = (.ok (.ok token), c') →
        (nssIds R token = ids ↔ OidcTakesEffect O m normalize tenantId
          ((StaticIdCache.run cmds).users token.name) token.name ids)) ∧
    ∀ {toLowercase : String → String} {parseUuid : String → Option Uuid},
      (∀ cmd ∈ cmds, cmd.Normal toLowercase parseUuid) →
      Agree toLowercase (.run cmds) (.run toLowercase parseUuid cmds) := by
  refine ⟨?_, ?_, ?_, agree_run⟩
  · intro S accountId ids hcache hlower
    have hrow : S.staticUser accountId = (StaticIdCache.run cmds).users accountId := by
      rw [UserSource.staticUser, hcache]
      rfl
    rw [← hrow]
    constructor
    · intro fetched value uuid oldToken token huuid hbuilt
      exact UserSource.nssIds_eq_iff_takesEffect hlower huuid hbuilt
    · intro fakeUuid token hbuilt
      exact UserSource.nssIds_eq_iff_placeholderTakesEffect hbuilt
  · intro S object group gid hcache hbuilt
    exact UserSource.gidnumber_eq_iff_groupTakesEffect hcache hbuilt
  · intro W O m normalize tenantId ids token c c' hO htenant
    constructor
    · intro accountId hbuilt
      exact (hO.unixUserGet htenant hbuilt).nssIds_eq_iff R
    · intro ρ response hbuilt
      exact (hO.userTokenFromOidc hbuilt).nssIds_eq_iff R

end Reports

/-! Alice and the staff -/

def mappedUsers (cmds : List IdmapCommand) : UserSource :=
  { sampleUsers .name with
    staticUsers := some (StaticIdCache.run cmds).users
    staticIdCache := some (StaticIdCache.run cmds).groups
    parseUuid := fun text => if text = "tenant" then some ⟨7⟩
      else if text = (⟨1⟩ : Uuid).hyphenated then some ⟨1⟩ else none }

def mappedProvider (cmds : List IdmapCommand) : OidcProvider Unit :=
  { spellingProvider with
    issuer := { spellingProvider.issuer with
      staticIdCache := fun w => (some (StaticIdCache.run cmds).users, w)
      userInfo := sampleIssuer.userInfo } }

theorem mappedProvider_readsIds (cmds : List IdmapCommand) :
    ReadsIds (mappedProvider cmds) (StaticIdCache.run cmds).users oidcIdmap asciiBytes where
  static _ _ h := (Option.some.inj h).symm
  hashed _ _ _ := rfl

def aliceMapped (uid gid : UInt32) : UserToken :=
  { aliceLoggedIn uid with realGidnumber := some gid, groups := [] }

def alicePlaced (uid gid : UInt32) : UserToken :=
  { alicePlaceholder uid with realGidnumber := some gid }

def aliceIssued (uuid : Uuid) (uid gid : UInt32) : UserToken :=
  { aliceOfIssuer "alice@example.com" uuid with
    realGidnumber := some uid
    gidnumber := gid
    groups := [⟨"alice@example.com", "alice@example.com", uuid, gid⟩] }

def staffObject : DirectoryObject := ⟨(⟨1⟩ : Uuid).hyphenated, some "staff", []⟩

def staff (gid : UInt32) : GroupToken := ⟨"staff", "staff", ⟨1⟩, gid⟩

def sampleContext : Ctx Unit := ⟨sampleKeystore [], sampleProviderState .online, .none⟩

def plainCommands : List IdmapCommand :=
  [.userAdd "alice@example.com" 5000 5000, .groupAdd (⟨1⟩ : Uuid).hyphenated 2000]

theorem static_entries_take_effect_alice :
    let R := (sampleDaemon 3 false).resolver
    nssIds R (aliceMapped 5000 5000) = (5000, 5000) ∧
      nssIds R (alicePlaced 5000 5000) = (5000, 5000) ∧ (staff 2000).gidnumber = 2000 ∧
      nssIds R (aliceIssued ⟨9⟩ 5000 5000) = (5000, 5000) ∧
      nssIds R (aliceIssued ⟨1⟩ 5000 5000) = (5000, 5000) := by
  intro R
  obtain ⟨hentra, hgroups, hoidc, -⟩ := static_entries_take_effect_iff R plainCommands
  have hlower : (mappedUsers plainCommands).toLowercase "alice@example.com" =
      "alice@example.com" := by decide +kernel
  have hlater : (mappedUsers plainCommands).userTokenFromUnixUserToken ⟨some [], none⟩
      "alice@example.com" aliceIdentity none = .ok (aliceMapped 5000 5000) := by decide +kernel
  have hfirst : (mappedUsers plainCommands).placeholder "alice@example.com" ⟨9⟩ =
      .ok (alicePlaced 5000 5000) := by decide +kernel
  have hgroup : (mappedUsers plainCommands).groupTokenFromDirectoryObject staffObject =
      .ok (staff 2000) := by decide +kernel
  have hissued : ((mappedProvider plainCommands).unixUserGet (.name "alice@example.com") none).run
      sampleContext = (.ok (.update (aliceIssued ⟨9⟩ 5000 5000)), sampleContext) :=
    Prod.ext (by decide +kernel) rfl
  have hinfo : ((mappedProvider plainCommands).userTokenFromOidc ⟨"access token", none⟩ ⟨2⟩ :
      Fn Unit Unit _) sampleContext = (.ok (.ok (aliceIssued ⟨1⟩ 5000 5000)), sampleContext) :=
    Prod.ext (by decide +kernel) rfl
  have hreads := mappedProvider_readsIds plainCommands
  have hrow : (StaticIdCache.run plainCommands).users "alice@example.com" = some (5000, 5000) := by
    decide +kernel
  have hgroupRow : (StaticIdCache.run plainCommands).groups (⟨1⟩ : Uuid).hyphenated =
      some 2000 := by decide +kernel
  refine ⟨((hentra rfl hlower).1 rfl hlater).mpr ?_, ((hentra rfl hlower).2 hfirst).mpr ?_,
    (hgroups rfl hgroup).mpr ?_, ((hoidc hreads rfl).1 hissued).mpr ?_,
    ((hoidc hreads rfl).2 hinfo).mpr ?_⟩
  · rw [hrow]
    exact rfl
  · rw [hrow]
    exact rfl
  · exact hgroupRow ▸ rfl
  · rw [hrow]
    exact rfl
  · exact hrow ▸ rfl

/-- An upper-case letter, the display name of a group, and different ids at the OpenID Connect
    provider: each is wanted, and none of them is reported. -/
theorem static_entries_without_effect :
    let R := (sampleDaemon 3 false).resolver
    let enumerated : List IdmapCommand :=
      [.enumerate [⟨"Alice@example.com", some 5000, none⟩]
        [⟨(⟨1⟩ : Uuid).hyphenated, "staff", some 2000⟩]]
    let added : List IdmapCommand := [.userAdd "alice@example.com" 5000 6000]
    let wanted := Wanted.run asciiLowercase (mappedUsers enumerated).parseUuid enumerated
    (wanted.users "alice@example.com" = some (5000, 5000) ∧
      (mappedUsers enumerated).userTokenFromUnixUserToken ⟨some [], none⟩ "alice@example.com"
        aliceIdentity none = .ok (aliceLoggedIn 771554368) ∧
      nssIds R (aliceLoggedIn 771554368) = (771554368, 771554368)) ∧
    (wanted.groups ⟨1⟩ = some 2000 ∧
      (mappedUsers enumerated).groupTokenFromDirectoryObject staffObject = .ok (staff 951116439)) ∧
    ((Wanted.run asciiLowercase (mappedUsers added).parseUuid added).users "alice@example.com" =
        some (5000, 6000) ∧
      (((mappedProvider added).unixUserGet (.name "alice@example.com") none).run
        sampleContext).1 = .ok (.update (aliceIssued ⟨9⟩ 5000 6000)) ∧
      nssIds R (aliceIssued ⟨9⟩ 5000 6000) = (6000, 5000)) := by
  decide +kernel

end Himmelblau.UserTokens
