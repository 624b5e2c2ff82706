/-
  **The groups of the NSS module**, mirror of `HimmelblauGroup` of `nss/src/implementation.rs`
  and of the daemon's answers to it.

  The module asks the daemon for groups and gives their names back to the system, after
  `map_upn_to_name`.  A lookup by name may only find the primary group of a user, which is
  named by a UPN, or a group by its object id: names of directory groups are not unique.
-/
import Himmelblau.LocalIdentities
import Himmelblau.DirectoryGroups

namespace Himmelblau.Nss

open Interface Db LockProgram NameMapping DirectoryGroups

variable {P : Type}

/-! ## 1. The daemon's answers -/

inductive GroupRequest where
  | nssGroups
  | nssGroupByGid (gid : UInt32)
  | nssGroupByName (grpId : String)
  deriving DecidableEq, Repr

inductive GroupResponse where
  | nssGroups (groups : List NssGroup)
  | nssGroup (group : Option NssGroup)
  deriving DecidableEq, Repr

def orNone : Except Unit (Option NssGroup) → Option NssGroup
  | .ok group => group
  | .error () => none

def groupAnswer (R : Resolver P) (s : ResolverState P) : GroupRequest → GroupResponse
  | .nssGroups => .nssGroups (R.getNssgroups.exec s).1
  | .nssGroupByGid gid => .nssGroup (orNone ((R.getNssgroupGid gid).exec s).1)
  | .nssGroupByName grpId => .nssGroup (orNone ((R.getNssgroupName grpId).exec s).1)

/-! ## 2. The module -/

inductive Response (α : Type) where
  | success (value : α)
  | notFound
  | unavail
  deriving DecidableEq, Repr

structure Group where
  name : String
  passwd : String
  gid : UInt32
  members : List String
  deriving DecidableEq, Repr

def groupFromNssgroup (ng : NssGroup) : Group :=
  { name := ng.name, passwd := "x", gid := ng.gid, members := ng.members }

/-- What the module finds on the machine: whether it runs for the daemon itself, the
    configuration, the groups of `/etc/group`, the daemon (if it can be reached, and for a
    request, if it answers), the cache of mapped names and `Uuid::parse_str`. -/
structure Machine where
  shouldSkipDaemonCall : Bool
  config : Option NameConfig
  etcGroup : List String
  daemon : Option (GroupRequest → Option GroupResponse)
  nameCache : Option MappedNameCache
  parseUuid : String → Option Uuid

namespace Machine

variable (M : Machine)

def isLocalGroup (name : String) : Bool := M.etcGroup.any fun g => g == name

def renamed (cfg : NameConfig) (cache : Option MappedNameCache) (ng : NssGroup) : Group :=
  let group := groupFromNssgroup ng
  { group with
    name := cfg.mapUpnToName cache group.name
    members := group.members.map fun member => cfg.mapUpnToName cache member }

def getAllEntries : Response (List Group) :=
  if M.shouldSkipDaemonCall then .unavail
  else
    match M.config with
    | none => .unavail
    | some cfg =>
      match M.daemon with
      | none => .unavail
      | some callAndWait =>
        match callAndWait .nssGroups with
        | some (.nssGroups l) => .success (l.map (renamed cfg M.nameCache))
        | _ => .success []

def getEntryByGid (gid : UInt32) : Response Group :=
  if M.shouldSkipDaemonCall then .unavail
  else
    match M.config with
    | none => .unavail
    | some cfg =>
      match M.daemon with
      | none => .unavail
      | some callAndWait =>
        match callAndWait (.nssGroupByGid gid) with
        | some (.nssGroup (some ng)) => .success (renamed cfg M.nameCache ng)
        | _ => .notFound

def primaryGroup (cfg : NameConfig) (cache : Option MappedNameCache)
    (callAndWait : GroupRequest → Option GroupResponse) (upn : String) : Response Group :=
  if looksLikeUpn upn then
    match callAndWait (.nssGroupByName upn) with
    | some (.nssGroup (some ng)) => .success (renamed cfg cache ng)
    | _ => .notFound
  else .notFound

/-- A group by its GUID, which must not have been the group's name. -/
def groupByGuid (cfg : NameConfig) (callAndWait : GroupRequest → Option GroupResponse)
    (name : String) : Response Group :=
  if (M.parseUuid name).isSome then
    match callAndWait (.nssGroupByName name) with
    | some (.nssGroup (some ng)) =>
      let group := groupFromNssgroup ng
      -- We can only respond if the request was not by name
      if cfg.toLowercase name != cfg.toLowercase group.name then .success group else .notFound
    | _ => .notFound
  -- Never ever EVER respond to a group request by Entra Id group name.
  else .notFound

def getEntryByName (name : String) : Response Group :=
  if M.shouldSkipDaemonCall then .unavail
  else
    match M.config with
    | none => .unavail
    | some cfg =>
      -- Don't let fake primary groups shadow local groups
      if M.isLocalGroup (cfg.mapUpnToName M.nameCache name) then .notFound
      else
        let (upn, cache) := cfg.mapNameToUpn M.nameCache name
        match M.daemon with
        | none => .unavail
        | some callAndWait =>
          match primaryGroup cfg cache callAndWait upn with
          | .notFound => M.groupByGuid cfg callAndWait name
          | other => other

section Specs

variable {M} {cfg : NameConfig} {cache : Option MappedNameCache} {n : String} {group : Group}
  {callAndWait : GroupRequest → Option GroupResponse}

theorem primaryGroup_success (h : primaryGroup cfg cache callAndWait n = .success group) :
    looksLikeUpn n = true ∧ ∃ ng, callAndWait (.nssGroupByName n) = some (.nssGroup (some ng)) ∧
      group = renamed cfg cache ng := by
  unfold primaryGroup at h
  split at h
  · rename_i hupn
    split at h
    · rename_i ng hng
      cases h
      exact ⟨hupn, ng, hng, rfl⟩
    · cases h
  · cases h

theorem groupByGuid_success (h : M.groupByGuid cfg callAndWait n = .success group) :
    (M.parseUuid n).isSome = true ∧ ∃ ng,
      callAndWait (.nssGroupByName n) = some (.nssGroup (some ng)) ∧
      cfg.toLowercase n ≠ cfg.toLowercase ng.name ∧ group = groupFromNssgroup ng := by
  unfold groupByGuid at h
  split at h
  · rename_i huuid
    split at h
    · rename_i ng hng
      dsimp only at h
      split at h
      · rename_i hne
        cases h
        exact ⟨huuid, ng, hng, bne_iff_ne.mp hne, rfl⟩
      · cases h
    · cases h
  · cases h

variable (hcfg : M.config = some cfg)

include hcfg

theorem getEntryByGid_success {gid : UInt32} (h : M.getEntryByGid gid = .success group) :
    ∃ callAndWait ng, M.daemon = some callAndWait ∧
      callAndWait (.nssGroupByGid gid) = some (.nssGroup (some ng)) ∧
      group = renamed cfg M.nameCache ng := by
  unfold getEntryByGid at h
  rw [hcfg] at h
  split at h
  · cases h
  · dsimp only at h
    split at h
    · cases h
    · rename_i callAndWait hdaemon
      split at h
      · rename_i ng hng
        cases h
        exact ⟨callAndWait, ng, hdaemon, hng, rfl⟩
      · cases h

theorem getEntryByName_success (h : M.getEntryByName n = .success group) :
    ∃ callAndWait, M.daemon = some callAndWait ∧
      M.isLocalGroup (cfg.mapUpnToName M.nameCache n) = false ∧
      let (upn, cache) := cfg.mapNameToUpn M.nameCache n
      primaryGroup cfg cache callAndWait upn = .success group ∨
        primaryGroup cfg cache callAndWait upn = .notFound ∧
          M.groupByGuid cfg callAndWait n = .success group := by
  unfold getEntryByName at h
  rw [hcfg] at h
  split at h
  · cases h
  · dsimp only at h
    split at h
    · cases h
    · rename_i hlocal
      split at h
      · cases h
      · rename_i callAndWait hdaemon
        refine ⟨callAndWait, hdaemon, Bool.not_eq_true _ ▸ hlocal, ?_⟩
        split at h
        · rename_i hnone
          exact .inr ⟨hnone, h⟩
        · exact .inl h

end Specs

end Machine

/-! ## 3. The groups in the cache -/

/-- The primary group that a user gets who has none: it is named by the user's UPN. -/
def PrimaryGroup (g : GroupToken) : Prop := looksLikeUpn g.name = true ∧ g.spn = g.name

inductive UserGroup (g : GroupToken) : Prop
  | directory (G : GroupSource) (value : DirectoryObject)
      (h : G.groupTokenFromDirectoryObject value = .ok g) : UserGroup g
  | primary (h : PrimaryGroup g) : UserGroup g

theorem UserGroup.spn_eq {g : GroupToken} (h : UserGroup g) : g.spn = g.name := by
  cases h with
  | directory G value h =>
    obtain ⟨hname, hspn, -⟩ := GroupSource.groupTokenFromDirectoryObject_eq_ok h
    rw [hname, hspn]
  | primary h => exact h.2

theorem not_primary_of_directory {G : GroupSource} {value : DirectoryObject} {g : GroupToken}
    (h : G.groupTokenFromDirectoryObject value = .ok g) : ¬ PrimaryGroup g := by
  obtain ⟨hname, -, hplain, -⟩ := GroupSource.groupTokenFromDirectoryObject_eq_ok h
  rintro ⟨hupn, -⟩
  rw [hname, hplain] at hupn
  cases hupn

/-- A database whose groups were cached with user tokens.  Other statements delete groups or
    change when they expire. -/
inductive CachesUsers : Database → Prop
  | new : CachesUsers Database.new
  | cacheToken {db db' : Database} {t : UserToken} {expire : ℕ} (h : CachesUsers db)
      (hgroups : ∀ g ∈ t.groups, UserGroup g)
      (hcache : Resolver.cacheToken t expire db = .ok db') : CachesUsers db'
  | other {db db' : Database} (h : CachesUsers db)
      (hrows : ∀ r ∈ db'.groupT.rows, ∃ r0 ∈ db.groupT.rows, r = { r0 with expiry := r.expiry }) :
      CachesUsers db'

structure UserGroupRow (r : GroupRow) (g : GroupToken) : Prop where
  token : r.token = some g
  uuid : r.uuid = g.uuid
  name : r.name = g.name
  spn : r.spn = g.spn
  userGroup : UserGroup g

def AllUserGroups (db : Database) : Prop := ∀ r ∈ db.groupT.rows, ∃ g, UserGroupRow r g

variable {db : Database} {n : String} {tok : GroupToken}

theorem CachesUsers.allUserGroups (h : CachesUsers db) : AllUserGroups db := by
  induction h with
  | new =>
    intro r hr
    cases hr
  | cacheToken h hgroups hcache ih =>
    obtain ⟨-, _, -, rfl⟩ := Resolver.cacheToken_eq_ok hcache
    intro r hr
    rcases UniqueTable.Table.mem_or_mem_of_foldl_replace hr with ⟨hold, -⟩ | hnew
    · exact ih r hold
    · obtain ⟨g, hg, rfl⟩ := List.mem_map.mp hnew
      exact ⟨g, rfl, rfl, rfl, rfl, hgroups g hg⟩
  | other h hrows ih =>
    intro r hr
    obtain ⟨r0, hr0, heq⟩ := hrows r hr
    obtain ⟨g, hg⟩ := ih r0 hr0
    rw [heq]
    exact ⟨g, hg.token, hg.uuid, hg.name, hg.spn, hg.userGroup⟩

/-! ## 4. Lookups by name -/

def cachedGroup (db : Database) (grpId : Id) : Option GroupToken :=
  match db.getGroup grpId with
  | .ok (some (tok, _)) => some tok
  | _ => none

theorem cachedGroup_row {grpId : Id} (h : cachedGroup db grpId = some tok) :
    ∃ r ∈ db.groupT.rows, r.token = some tok ∧ ∀ n, grpId = .name n → r.answersTo n = true := by
  unfold cachedGroup at h
  split at h
  · rename_i tok' exTime hrow
    cases h
    obtain ⟨expiry, hdata⟩ := Database.oneRow_eq_some hrow
    have hfound : ∀ p : GroupRow → Bool, ((db.groupT.rows.filter p).map fun r =>
        (r.token, r.expiry)) = [(some tok, expiry)] →
        ∃ r ∈ db.groupT.rows, r.token = some tok ∧ p r = true := by
      intro p hp
      obtain ⟨r, hr, heq⟩ := List.mem_map.mp (hp ▸ List.mem_singleton_self (some tok, expiry))
      obtain ⟨hrow, hp⟩ := List.mem_filter.mp hr
      exact ⟨r, hrow, congrArg Prod.fst heq, hp⟩
    cases grpId with
    | name n =>
      obtain ⟨r, hrow, htoken, hanswers⟩ := hfound _ hdata
      refine ⟨r, hrow, htoken, ?_⟩
      rintro _ ⟨⟩
      exact hanswers
    | gid g =>
      obtain ⟨r, hrow, htoken, -⟩ := hfound _ hdata
      exact ⟨r, hrow, htoken, nofun⟩
  · cases h

theorem cachedGroup_mem {grpId : Id} (h : cachedGroup db grpId = some tok) :
    tok ∈ db.getGroups := by
  obtain ⟨r, hrow, htoken, -⟩ := cachedGroup_row h
  exact List.mem_filterMap.mpr ⟨r, hrow, htoken⟩

def nssEntry (R : Resolver P) (s : ResolverState P) (tok : GroupToken) : NssGroup where
  name := R.tokenGidattr tok
  gid := tok.gidnumber
  members := ((R.getGroupmembers tok.uuid).exec s).1

theorem nssEntry_congr {R : Resolver P} {s s' : ResolverState P} (h : s'.db = s.db) :
    nssEntry R s' tok = nssEntry R s tok := by
  unfold nssEntry
  rw [R.exec_getGroupmembers_eq, R.exec_getGroupmembers_eq, h]

theorem orNone_getNssgroup (R : Resolver P) (s : ResolverState P) (grpId : Id) :
    orNone ((R.getNssgroup grpId).exec s).1 = (cachedGroup s.db grpId).map (nssEntry R s) := by
  have hitem := Resolver.exec_getCached (·.getGroup grpId) grpId s
  have hdb := Resolver.db_getCached (·.getGroup grpId) grpId s
  unfold Resolver.getNssgroup Resolver.getGrouptoken Resolver.getCachedGrouptoken cachedGroup
  simp only [Prog.exec_bind]
  generalize (Resolver.getCached (fun db : Database => db.getGroup grpId) grpId).exec s = cached
    at hitem hdb ⊢
  rcases cached with ⟨_ | ⟨expired, item⟩, s'⟩
  · cases hrow : s.db.getGroup grpId with
    | error e => rfl
    | ok row =>
      rw [hrow] at hitem
      cases hitem
  · cases hrow : s.db.getGroup grpId with
    | error e =>
      rw [hrow] at hitem
      cases hitem
    | ok row =>
      rw [hrow] at hitem
      have hsome : item = row.map Prod.fst := Except.ok.inj hitem
      subst hsome
      cases row with
      | none => rfl
      | some row =>
        -- the members are read from the database as it was
        change some (nssEntry R s' row.1) = some (nssEntry R s row.1)
        rw [nssEntry_congr hdb]

theorem orNone_eq_some {R : Resolver P} {s : ResolverState P} {grpId : Id} {ng : NssGroup}
    (h : orNone ((R.getNssgroup grpId).exec s).1 = some ng) :
    ∃ tok, cachedGroup s.db grpId = some tok ∧ ng = nssEntry R s tok := by
  rw [orNone_getNssgroup] at h
  obtain ⟨tok, htok, rfl⟩ := Option.map_eq_some_iff.mp h
  exact ⟨tok, htok, rfl⟩

theorem cachedGroup_name (hall : AllUserGroups db) (h : cachedGroup db (.name n) = some tok) :
    tok ∈ db.getGroups ∧ UserGroup tok ∧ (tok.uuid.hyphenated = n ∨ tok.name = n) := by
  obtain ⟨r, hrow, htoken, hkey⟩ := cachedGroup_row h
  have hanswers := hkey n rfl
  obtain ⟨g, hg⟩ := hall r hrow
  obtain rfl : g = tok := Option.some.inj (hg.token.symm.trans htoken)
  refine ⟨cachedGroup_mem h, hg.userGroup, ?_⟩
  simp only [GroupRow.answersTo, Bool.or_eq_true, beq_iff_eq, hg.uuid, hg.name, hg.spn,
    hg.userGroup.spn_eq] at hanswers
  rcases hanswers with (huuid | hname) | hname
  · exact .inl huuid
  · exact .inr hname
  · exact .inr hname

theorem hexDigit_ne_at (n : ℕ) : hexDigit n ≠ '@' := by
  by_cases hn : n < 16
  · have hall : ∀ i : Fin 16, hexDigit i ≠ '@' := by decide
    exact hall ⟨n, hn⟩
  · have hnone : "0123456789abcdef".toList[n]? = none := by
      rw [List.getElem?_eq_none_iff]
      exact Nat.not_lt.mp hn
    unfold hexDigit
    rw [List.getD_eq_getElem?_getD, hnone]
    decide

theorem hyphenated_not_upn (u : Uuid) : looksLikeUpn u.hyphenated = false := by
  have hdigits : '@' ∉ u.hexDigits := by
    intro hmem
    obtain ⟨i, -, hi⟩ := List.mem_map.mp hmem
    exact hexDigit_ne_at _ hi
  have htake : ∀ (l : List Char) n, '@' ∉ l → '@' ∉ l.take n := fun l n h hm =>
    h (List.mem_of_mem_take hm)
  have hdrop : ∀ (l : List Char) n, '@' ∉ l → '@' ∉ l.drop n := fun l n h hm =>
    h (List.mem_of_mem_drop hm)
  simp only [looksLikeUpn, List.contains_eq_mem, decide_eq_false_iff_not, Uuid.hyphenated,
    String.toList_ofList, List.mem_append, List.mem_cons]
  simp [htake _ _ hdigits, htake _ _ (hdrop _ _ hdigits), hdrop _ _ hdigits]

/-- The entry is about this group of the cache. -/
structure FromCache (R : Resolver P) (s : ResolverState P) (tok : GroupToken) (ng : NssGroup) :
    Prop where
  cached : tok ∈ s.db.getGroups
  userGroup : UserGroup tok
  name : ng.name = tok.name
  gid : ng.gid = tok.gidnumber
  members : ng.members = ((R.getGroupmembers tok.uuid).exec s).1

section ByName

variable {M : Machine} {R : Resolver P} {answering : GroupRequest → Option (ResolverState P)}

variable (R answering) in
def daemonOf (request : GroupRequest) : Option GroupResponse :=
  (answering request).map fun s => groupAnswer R s request

variable (hanswering : ∀ request s, answering request = some s → CachesUsers s.db)

include hanswering

theorem daemonOf_byName {key : String} {ng : NssGroup}
    (h : daemonOf R answering (.nssGroupByName key) = some (.nssGroup (some ng))) :
    ∃ s tok, answering (.nssGroupByName key) = some s ∧ FromCache R s tok ng ∧
      (tok.uuid.hyphenated = key ∨ tok.name = key) := by
  obtain ⟨s, hs, hanswer⟩ := Option.map_eq_some_iff.mp h
  obtain ⟨tok, htok, rfl⟩ := orNone_eq_some (GroupResponse.nssGroup.inj hanswer)
  obtain ⟨hmem, huser, hkey⟩ := cachedGroup_name (hanswering _ s hs).allUserGroups htok
  have hattr : R.tokenGidattr tok = tok.name := by
    unfold Resolver.tokenGidattr
    split
    · exact huser.spn_eq
    · rfl
  exact ⟨s, tok, hs, ⟨hmem, huser, hattr, rfl, rfl⟩, hkey⟩

/-- **A group is found by the UPN of its user or by its object id, never by its name.**  The
    daemon may answer each of the two requests from another state. -/
theorem getEntryByName_found {cfg : NameConfig} (hconfig : M.config = some cfg)
    (hdaemon : M.daemon = some (daemonOf R answering)) {n : String} {group : Group}
    (h : M.getEntryByName n = .success group) :
    let (upn, cache) := cfg.mapNameToUpn M.nameCache n
    ∃ key s tok ng, answering (.nssGroupByName key) = some s ∧ FromCache R s tok ng ∧
      ((key = upn ∧ tok.name = upn ∧ PrimaryGroup tok ∧ group = Machine.renamed cfg cache ng) ∨
        (key = n ∧ tok.uuid.hyphenated = n ∧ tok.name ≠ n ∧ group = groupFromNssgroup ng)) ∧
      ∀ (G : GroupSource) value, G.groupTokenFromDirectoryObject value = .ok tok →
        key = n ∧ tok.uuid.hyphenated = n ∧ tok.name ≠ n := by
  obtain ⟨_, hcall, -, hgroup | ⟨-, hgroup⟩⟩ := Machine.getEntryByName_success hconfig h
  all_goals cases hdaemon.symm.trans hcall
  · obtain ⟨hupn, ng, hng, hrenamed⟩ := Machine.primaryGroup_success hgroup
    obtain ⟨s, tok, hs, hcache, hkey⟩ := daemonOf_byName hanswering hng
    have hname : tok.name = (cfg.mapNameToUpn M.nameCache n).1 := by
      rcases hkey with huuid | hname
      · rw [← huuid, hyphenated_not_upn] at hupn
        cases hupn
      · exact hname
    have hprimary : PrimaryGroup tok := ⟨by rwa [hname], hcache.userGroup.spn_eq⟩
    refine ⟨_, s, tok, ng, hs, hcache, .inl ⟨rfl, hname, hprimary, hrenamed⟩, ?_⟩
    intro G value hdirectory
    exact absurd hprimary (not_primary_of_directory hdirectory)
  · obtain ⟨-, ng, hng, hne, hplain⟩ := Machine.groupByGuid_success hgroup
    obtain ⟨s, tok, hs, hcache, hkey⟩ := daemonOf_byName hanswering hng
    -- a group that was found by its name is called like the request
    have hnot : tok.name ≠ n := by
      rintro rfl
      exact hne (by rw [hcache.name])
    have huuid := hkey.resolve_right hnot
    exact ⟨n, s, tok, ng, hs, hcache, .inr ⟨rfl, huuid, hnot, hplain⟩,
      fun _ _ _ => ⟨rfl, huuid, hnot⟩⟩

end ByName

def aliceGroups : List GroupToken :=
  [⟨"alice@example.com", "alice@example.com", ⟨1⟩, 1000⟩, ⟨"staff", "staff", ⟨2⟩, 33754432⟩]

def aliceWithGroups : UserToken := { aliceToken with groups := aliceGroups }

def groupState : ResolverState Unit :=
  match Resolver.cacheToken aliceWithGroups 5000 Database.new with
  | .ok db => { aliceState with db := db }
  | .error _ => aliceState

def groupNames : NameConfig where
  nameMappingScript := none
  cnNameMapping := true
  configuredDomains := ["example.com"]
  etcPasswd := ["root"]
  runScript := fun _ _ => none
  toLowercase := id

def groupMachine (etcGroup : List String) : Machine where
  shouldSkipDaemonCall := false
  config := some groupNames
  etcGroup := etcGroup
  daemon := some fun request => some (groupAnswer outageResolver groupState request)
  nameCache := none
  parseUuid text := if text = (Uuid.mk 2).hyphenated then some ⟨2⟩ else none

theorem aliceGroups_userGroups : ∀ g ∈ aliceWithGroups.groups, UserGroup g := by
  intro g hg
  simp only [aliceWithGroups, aliceGroups, List.mem_cons, List.not_mem_nil, or_false] at hg
  rcases hg with rfl | rfl
  · exact .primary ⟨by decide, rfl⟩
  · exact .directory (sampleSource .uuid none) ⟨"2", some "staff", []⟩ (by decide +kernel)

theorem groupState_cachesUsers : CachesUsers groupState.db := by
  have hok : (Resolver.cacheToken aliceWithGroups 5000 Database.new).isOk = true := by decide
  cases hcache : Resolver.cacheToken aliceWithGroups 5000 Database.new with
  | error e =>
    rw [hcache] at hok
    cases hok
  | ok db =>
    unfold groupState
    rw [hcache]
    exact .cacheToken .new aliceGroups_userGroups hcache

theorem getEntryByName_found_alice :
    (groupMachine []).getEntryByName "alice" = .success ⟨"alice", "x", 1000, ["alice"]⟩ ∧
      ∃ tok ng, FromCache outageResolver groupState tok ng ∧ tok.name = "alice@example.com" ∧
        PrimaryGroup tok := by
  have hfound : (groupMachine []).getEntryByName "alice" =
      .success ⟨"alice", "x", 1000, ["alice"]⟩ := by decide
  have hanswering : ∀ request s, (fun _ : GroupRequest => some groupState) request = some s →
      CachesUsers s.db := by
    rintro request s ⟨⟩
    exact groupState_cachesUsers
  obtain ⟨key, s, tok, ng, ⟨⟩, hcache, ⟨-, hname, hprimary, -⟩ | ⟨-, huuid, -⟩, -⟩ :=
    @getEntryByName_found _ (groupMachine []) outageResolver _ hanswering _ rfl rfl _ _ hfound
  · exact ⟨hfound, tok, ng, hcache, hname, hprimary⟩
  · have hnone : ∀ tok ∈ groupState.db.getGroups, tok.uuid.hyphenated ≠ "alice" := by decide
    exact absurd huuid (hnone tok hcache.cached)

/-! ## 5. Names of local groups -/

structure Machine.Serves (M : Machine) (R : Resolver P) (s : ResolverState P) (cfg : NameConfig) :
    Prop where
  notSkipped : M.shouldSkipDaemonCall = false
  config : M.config = some cfg
  daemon : M.daemon = some fun request => some (groupAnswer R s request)

structure Machine.NoImpersonation (M : Machine) : Prop where
  all : ∀ l, M.getAllEntries = .success l → ∀ group ∈ l, M.isLocalGroup group.name = false
  byGid : ∀ gid group, M.getEntryByGid gid = .success group → M.isLocalGroup group.name = false
  byName : ∀ n group, M.getEntryByName n = .success group → M.isLocalGroup group.name = false

section LocalNames

variable {M : Machine} {R : Resolver P} {s : ResolverState P} {cfg : NameConfig}

theorem exec_nssGroupsOf (l : List GroupToken) (s : ResolverState P) :
    ((R.nssGroupsOf l).exec s).1.map (·.name) = l.map R.tokenGidattr := by
  induction l generalizing s with
  | nil => rfl
  | cons tok l ih =>
    have htail := ih ((R.nssGroupOf tok).exec s).2
    simp only [Resolver.nssGroupsOf, Prog.exec_bind, Prog.exec_pure, List.map_cons, htail]
    rfl

theorem getAllEntries_names (h : M.Serves R s cfg) :
    ∃ l, M.getAllEntries = .success l ∧ l.map (·.name) =
      s.db.getGroups.map fun tok => cfg.mapUpnToName M.nameCache (R.tokenGidattr tok) := by
  have hnames : (R.getNssgroups.exec s).1.map (·.name) = s.db.getGroups.map R.tokenGidattr :=
    exec_nssGroupsOf s.db.getGroups _
  refine ⟨(R.getNssgroups.exec s).1.map (Machine.renamed cfg M.nameCache), ?_, ?_⟩
  · unfold Machine.getAllEntries
    rw [h.notSkipped, h.config, h.daemon]
    rfl
  · have hmap : ∀ l : List NssGroup, (l.map (Machine.renamed cfg M.nameCache)).map (·.name) =
        (l.map (·.name)).map (cfg.mapUpnToName M.nameCache) := by
      intro l
      simp [Machine.renamed, groupFromNssgroup, Function.comp_def]
    rw [hmap, hnames, List.map_map]
    rfl

variable {group : Group}

theorem getEntryByGid_name (h : M.Serves R s cfg) {gid : UInt32}
    (hfound : M.getEntryByGid gid = .success group) :
    ∃ tok ∈ s.db.getGroups, group.name = cfg.mapUpnToName M.nameCache (R.tokenGidattr tok) := by
  obtain ⟨_, ng, hdaemon, hng, rfl⟩ := Machine.getEntryByGid_success h.config hfound
  cases h.daemon.symm.trans hdaemon
  obtain ⟨tok, htok, rfl⟩ := orNone_eq_some (GroupResponse.nssGroup.inj (Option.some.inj hng))
  exact ⟨tok, cachedGroup_mem htok, rfl⟩

def primaryOf (M : Machine) (s : ResolverState P) (cfg : NameConfig) (n : String) :
    Option GroupToken :=
  let upn := (cfg.mapNameToUpn M.nameCache n).1
  if looksLikeUpn upn then cachedGroup s.db (.name upn) else none

/-- The lookup of `n` gets to the cached group by its object id. -/
structure FoundByGuid (M : Machine) (R : Resolver P) (s : ResolverState P) (cfg : NameConfig)
    (n : String) (tok : GroupToken) : Prop where
  notLocal : M.isLocalGroup (cfg.mapUpnToName M.nameCache n) = false
  noPrimary : primaryOf M s cfg n = none
  uuid : (M.parseUuid n).isSome = true
  cached : cachedGroup s.db (.name n) = some tok
  notByName : cfg.toLowercase n ≠ cfg.toLowercase (R.tokenGidattr tok)

theorem primaryGroup_notFound_iff {cache : Option MappedNameCache} :
    Machine.primaryGroup cfg cache (fun request => some (groupAnswer R s request))
      (cfg.mapNameToUpn M.nameCache n).1 = .notFound ↔ primaryOf M s cfg n = none := by
  have hnames := orNone_getNssgroup R s (.name (cfg.mapNameToUpn M.nameCache n).1)
  unfold primaryOf Machine.primaryGroup
  dsimp only [groupAnswer, Resolver.getNssgroupName]
  split
  · rw [← Option.map_eq_none_iff (f := nssEntry R s), ← hnames]
    cases orNone ((R.getNssgroup (.name (cfg.mapNameToUpn M.nameCache n).1)).exec s).1 <;> simp
  · exact iff_of_true rfl rfl

theorem getEntryByName_of_guid (h : M.Serves R s cfg) (hguid : FoundByGuid M R s cfg n tok) :
    ∃ group, M.getEntryByName n = .success group ∧ group.name = R.tokenGidattr tok := by
  have hng := orNone_getNssgroup R s (.name n)
  rw [hguid.cached] at hng
  refine ⟨groupFromNssgroup (nssEntry R s tok), ?_, rfl⟩
  unfold Machine.getEntryByName
  rw [h.notSkipped, h.config, h.daemon]
  simp only [hguid.notLocal, primaryGroup_notFound_iff.mpr hguid.noPrimary,
    Bool.false_eq_true, if_false]
  unfold Machine.groupByGuid
  rw [if_pos hguid.uuid]
  dsimp only [groupAnswer, Resolver.getNssgroupName]
  rw [hng]
  exact if_pos (bne_iff_ne.mpr hguid.notByName)

theorem getEntryByName_name (h : M.Serves R s cfg) (hfound : M.getEntryByName n = .success group) :
    (∃ tok ∈ s.db.getGroups, M.isLocalGroup (cfg.mapUpnToName M.nameCache n) = false ∧
      group.name = cfg.mapUpnToName (cfg.mapNameToUpn M.nameCache n).2 (R.tokenGidattr tok)) ∨
    ∃ tok, FoundByGuid M R s cfg n tok ∧ group.name = R.tokenGidattr tok := by
  obtain ⟨_, hdaemon, hlocal, hgroup | ⟨hnone, hgroup⟩⟩ :=
    Machine.getEntryByName_success h.config hfound
  all_goals cases h.daemon.symm.trans hdaemon
  · obtain ⟨-, ng, hng, rfl⟩ := Machine.primaryGroup_success hgroup
    obtain ⟨tok, htok, rfl⟩ := orNone_eq_some (GroupResponse.nssGroup.inj (Option.some.inj hng))
    exact .inl ⟨tok, cachedGroup_mem htok, hlocal, rfl⟩
  -- a lookup by object id does not rename the group
  · obtain ⟨huuid, ng, hng, hne, rfl⟩ := Machine.groupByGuid_success hgroup
    obtain ⟨tok, htok, rfl⟩ := orNone_eq_some (GroupResponse.nssGroup.inj (Option.some.inj hng))
    exact .inr ⟨tok, ⟨hlocal, primaryGroup_notFound_iff.mp hnone, huuid, htok, hne⟩, rfl⟩

/-- **No entry has the name of a local group** exactly if no cached group is mapped to one, and
    none that can be found by its object id, which is not mapped, has one. -/
theorem noImpersonation_iff (h : M.Serves R s cfg) :
    M.NoImpersonation ↔
      (∀ tok ∈ s.db.getGroups,
        M.isLocalGroup (cfg.mapUpnToName M.nameCache (R.tokenGidattr tok)) = false) ∧
      ∀ n tok, FoundByGuid M R s cfg n tok → M.isLocalGroup (R.tokenGidattr tok) = false := by
  constructor
  · intro hno
    constructor
    · intro tok htok
      obtain ⟨l, hl, hnames⟩ := getAllEntries_names h
      have hmem := List.mem_map_of_mem
        (f := fun tok => cfg.mapUpnToName M.nameCache (R.tokenGidattr tok)) htok
      rw [← hnames] at hmem
      obtain ⟨group, hgroup, hname⟩ := List.mem_map.mp hmem
      rw [← hname]
      exact hno.all l hl group hgroup
    · intro n tok hguid
      obtain ⟨group, hfound, hname⟩ := getEntryByName_of_guid h hguid
      rw [← hname]
      exact hno.byName n group hfound
  · rintro ⟨hmapped, hguids⟩
    constructor
    · intro l hl group hgroup
      obtain ⟨l', hl', hnames⟩ := getAllEntries_names h
      rw [hl] at hl'
      cases hl'
      have hmem := List.mem_map_of_mem (f := Group.name) hgroup
      rw [hnames] at hmem
      obtain ⟨tok, htok, hname⟩ := List.mem_map.mp hmem
      rw [← hname]
      exact hmapped tok htok
    · intro gid group hfound
      obtain ⟨tok, htok, hname⟩ := getEntryByGid_name h hfound
      rw [hname]
      exact hmapped tok htok
    · intro n group hfound
      rcases getEntryByName_name h hfound with ⟨tok, htok, hlocal, hname⟩ | ⟨tok, hguid, hname⟩
      · rw [hname]
        rcases cfg.mapUpnToName_mapNameToUpn M.nameCache n (R.tokenGidattr tok) with
          hold | ⟨hplain, hnew⟩
        · rw [hold]
          exact hmapped tok htok
        · rw [NameConfig.mapUpnToName_of_name hplain] at hlocal
          rw [hnew]
          exact hlocal
      · rw [hname]
        exact hguids n tok hguid

end LocalNames

theorem groupMachine_serves (etcGroup : List String) :
    (groupMachine etcGroup).Serves outageResolver groupState groupNames := ⟨rfl, rfl, rfl⟩

theorem noImpersonation_wheel : (groupMachine ["wheel"]).NoImpersonation := by
  have hraw : ∀ tok ∈ groupState.db.getGroups,
      (groupMachine ["wheel"]).isLocalGroup (outageResolver.tokenGidattr tok) = false := by
    decide
  apply (noImpersonation_iff (groupMachine_serves ["wheel"])).mpr
  constructor
  · decide
  · intro n tok hguid
    exact hraw tok (cachedGroup_mem hguid.cached)

/-- A local group is called like the local part of a UPN.  The resolver compares the UPN with
    the local groups before it caches the group, the module renames it later. -/
theorem impersonates_local_group :
    (groupMachine ["alice"]).isLocalGroup "alice" = true ∧
      (groupMachine ["alice"]).getEntryByGid 1000 = .success ⟨"alice", "x", 1000, ["alice"]⟩ ∧
      (groupMachine ["alice"]).getAllEntries =
        .success [⟨"alice", "x", 1000, ["alice"]⟩, ⟨"staff", "x", 33754432, ["alice"]⟩] ∧
      ¬ (groupMachine ["alice"]).NoImpersonation := by
  have hgid : (groupMachine ["alice"]).getEntryByGid 1000 =
      .success ⟨"alice", "x", 1000, ["alice"]⟩ := by decide
  refine ⟨by decide, hgid, by decide, ?_⟩
  intro hno
  have hlocal := hno.byGid 1000 _ hgid
  revert hlocal
  decide

end Himmelblau.Nss
