/-
  **Cloud users under local names.**

  Without a script a UPN of the first configured domain may lose its domain (`cn_name_mapping`).
  The other direction gives the domain back, but not to the name of a local user.  Nothing looks at
  `/etc/passwd` when the domain is dropped: the local groups and the subordinate ids of such a
  cloud user are those of the local user, and NSS answers with the local user's name.
-/
import Himmelblau.NssUsers
import Himmelblau.SessionStart
import Himmelblau.DomainAliases

namespace Himmelblau.NameConfusion

open Interface Config NameMapping LocalGroups TaskDaemon SessionStart NssUsers UserTokens
open UserMachine DomainAliases

variable {cfg : NameConfig} {cache : Option MappedNameCache} {u name : String}

/-! ## 1. The round trip -/

/-- Lower case is taken of the parts of a UPN, and leaves its `@`. -/
structure LowersNames (toLowercase : String → String) : Prop where
  upns : LowersUpns toLowercase
  at_iff : ∀ text, looksLikeUpn (toLowercase text) = looksLikeUpn text

/-- A UPN of a configured domain; there may be more than one `@` before the domain. -/
def OfConfiguredDomain (cfg : NameConfig) (u : String) : Prop :=
  ∃ name domain, u = name ++ "@" ++ domain ∧
    ∃ d ∈ cfg.configuredDomains, cfg.toLowercase d = cfg.toLowercase domain

/-- The name is what `cn_name_mapping` leaves of a UPN of the first configured domain. -/
def Shortens (cfg : NameConfig) (u name : String) : Prop :=
  cfg.cnNameMapping = true ∧ ∃ domain, splitUsername u = some (name, domain) ∧
    cfg.toLowercase (cfg.configuredDomains.head?.getD "") = cfg.toLowercase domain

theorem mapUpnToName_cases (hscript : cfg.nameMappingScript = none)
    (cache : Option MappedNameCache) (u : String) :
    (∃ name, Shortens cfg u name ∧ cfg.mapUpnToName cache u = name) ∨
      (∀ name, ¬Shortens cfg u name) ∧ cfg.mapUpnToName cache u = u := by
  unfold NameConfig.mapUpnToName Shortens
  rw [hscript]
  cases hsplit : splitUsername u with
  | none =>
    right
    refine ⟨?_, rfl⟩
    rintro name ⟨-, domain, ⟨⟩, -⟩
  | some parts =>
    obtain ⟨name, domain⟩ := parts
    dsimp only
    by_cases hshort : (cfg.cnNameMapping &&
        cfg.toLowercase (cfg.configuredDomains.head?.getD "") == cfg.toLowercase domain) = true
    · left
      simp only [Bool.and_eq_true, beq_iff_eq] at hshort
      exact ⟨name, ⟨hshort.1, domain, rfl, hshort.2⟩, by simp [hshort]⟩
    · right
      refine ⟨?_, by simp [hshort]⟩
      rintro name' ⟨hcn, domain', heq, hdomain⟩
      cases heq
      simp [hcn, hdomain] at hshort

theorem mapUpnToName_of_shortens (hscript : cfg.nameMappingScript = none)
    (h : Shortens cfg u name) : cfg.mapUpnToName cache u = name := by
  rcases mapUpnToName_cases hscript cache u with ⟨name', ⟨-, domain', hsplit', -⟩, heq⟩ | ⟨hnot, -⟩
  · obtain ⟨-, domain, hsplit, -⟩ := h
    cases hsplit.symm.trans hsplit'
    exact heq
  · exact absurd h (hnot name)

theorem mapNameToUpn_of_upn (h : looksLikeUpn u = true) : (cfg.mapNameToUpn cache u).1 = u := by
  unfold NameConfig.mapNameToUpn
  simp only [h, if_true, Bool.not_true, Bool.and_false]
  split <;> rfl

theorem looksLikeUpn_of_configured (h : OfConfiguredDomain cfg u) : looksLikeUpn u = true := by
  obtain ⟨name, domain, rfl, -⟩ := h
  simp [looksLikeUpn]

theorem looksLikeUpn_parts {domain : String} (h : splitUsername u = some (name, domain)) :
    looksLikeUpn name = false ∧ looksLikeUpn domain = false := by
  obtain ⟨-, hname, hdomain⟩ := splitUsername_eq_some h
  simpa [looksLikeUpn] using ⟨hname, hdomain⟩

theorem mapNameToUpn_shortened (hlower : LowersNames cfg.toLowercase)
    (hscript : cfg.nameMappingScript = none) (hu : OfConfiguredDomain cfg u)
    (h : Shortens cfg u name) (hlocal : name ∉ cfg.etcPasswd) :
    cfg.toLowercase (cfg.mapNameToUpn cache name).1 = cfg.toLowercase u := by
  obtain ⟨hcn, domain, hsplit, hdomain⟩ := h
  obtain ⟨hname, hdom⟩ := looksLikeUpn_parts hsplit
  obtain ⟨-, -, -, d, hd, -⟩ := hu
  cases hdomains : cfg.configuredDomains with
  | nil =>
    rw [hdomains] at hd
    cases hd
  | cons first rest =>
    rw [hdomains] at hdomain
    have hfirst : looksLikeUpn first = false := by
      rw [← hlower.at_iff, show cfg.toLowercase first = cfg.toLowercase domain from hdomain,
        hlower.at_iff, hdom]
    have hmapped : (cfg.mapNameToUpn cache name).1 = name ++ "@" ++ first := by
      unfold NameConfig.mapNameToUpn
      simp [hlocal, hname, hscript, hcn, hdomains]
    rw [hmapped]
    exact (hlower.upns _ _ _ _ _ _ (splitUsername_append hname hfirst) hsplit).mpr ⟨rfl, hdomain⟩

theorem mapNameToUpn_mapUpnToName (hlower : LowersNames cfg.toLowercase)
    (hscript : cfg.nameMappingScript = none) (hu : OfConfiguredDomain cfg u)
    (hlocal : ∀ name, Shortens cfg u name → name ∉ cfg.etcPasswd) :
    cfg.toLowercase (cfg.mapNameToUpn cache (cfg.mapUpnToName cache u)).1 = cfg.toLowercase u := by
  rcases mapUpnToName_cases hscript cache u with ⟨name, hshort, heq⟩ | ⟨-, heq⟩
  · rw [heq]
    exact mapNameToUpn_shortened hlower hscript hu hshort (hlocal name hshort)
  · rw [heq, mapNameToUpn_of_upn (looksLikeUpn_of_configured hu)]

/-! ## 2. The tasks -/

inductive GroupCommand where
  | add (accountId localGroup : String)
  | delete (accountId localGroup : String)
  deriving DecidableEq, Repr

def GroupCommand.accountId : GroupCommand → String
  | add accountId _ => accountId
  | delete accountId _ => accountId

def recorder (getent : String → Option String) : GroupTools (List GroupCommand) where
  getent localGroup _ := getent localGroup
  gpasswdAdd accountId localGroup commands := commands ++ [.add accountId localGroup]
  gpasswdDelete accountId localGroup commands := commands ++ [.delete accountId localGroup]
  members _ _ := []

section Tasks

variable {getent : String → Option String} {gcfg : LocalGroupsConfig} {isSudoer : Bool}

theorem accountId_of_mem_add (getent : String → Option String) (groups : List String)
    {accountId : String} {commands : List GroupCommand}
    (h : ∀ c ∈ commands, c.accountId = accountId) :
    ∀ c ∈ groups.foldl (fun w g => (recorder getent).addUserToGroup accountId g w) commands,
      c.accountId = accountId := by
  induction groups generalizing commands with
  | nil => exact h
  | cons g groups ih =>
    apply ih
    intro c hc
    rcases List.mem_append.mp hc with hold | hnew
    · exact h c hold
    · rw [List.mem_singleton.mp hnew]
      rfl

theorem accountId_of_mem_handleLocalGroups {c : GroupCommand}
    (hc : c ∈ handleLocalGroups (recorder getent) gcfg cache u isSudoer []) :
    c.accountId = gcfg.names.mapUpnToName cache u := by
  have hnone : ∀ c ∈ ([] : List GroupCommand), c.accountId = gcfg.names.mapUpnToName cache u :=
    nofun
  have hadded := accountId_of_mem_add getent gcfg.localGroups hnone
  unfold handleLocalGroups GroupTools.removeUserFromGroup at hc
  dsimp only at hc
  split at hc
  · split at hc
    · rcases List.mem_append.mp hc with hold | hnew
      · exact hadded c hold
      · rw [List.mem_singleton.mp hnew]
        rfl
    · split at hc
      · rcases List.mem_append.mp hc with hold | hnew
        · exact hadded c hold
        · rw [List.mem_singleton.mp hnew]
          rfl
      · exact hadded c hc
  · exact hadded c hc

theorem handleLocalGroups_acts (getent : String → Option String) (gcfg : LocalGroupsConfig)
    (cache : Option MappedNameCache) (u : String) :
    ∃ c, c ∈ handleLocalGroups (recorder getent) gcfg cache u true [] := by
  have hgrows : ∀ (groups : List String) (commands : List GroupCommand) (accountId : String) c,
      c ∈ commands →
        c ∈ groups.foldl (fun w g => (recorder getent).addUserToGroup accountId g w) commands := by
    intro groups
    induction groups with
    | nil => exact fun _ _ _ hc => hc
    | cons g groups ih => exact fun _ _ _ hc => ih _ _ _ (List.mem_append_left _ hc)
  unfold handleLocalGroups
  dsimp only
  split
  · exact ⟨_, List.mem_append_right _ List.mem_cons_self⟩
  · rename_i hsudo
    cases hgroups : gcfg.localGroups with
    | nil => simp [hgroups] at hsudo
    | cons g groups =>
      rw [List.foldl_cons]
      exact ⟨_, hgrows _ _ _ _ (List.mem_append_right _ List.mem_cons_self)⟩

end Tasks

def subidsRequest (scfg : SessionConfig) (accountId : String) : TaskRequest :=
  let mappedName := scfg.names.mapUpnToName scfg.nameCache accountId
  .subordinateIds mappedName
    (Subids.genSubidStart scfg.names.toLowercase mappedName scfg.subidRange) Subids.subidCount

/-! ## 3. The users of NSS -/

def CarriesUser (M : UserMachine) (name : String) : Prop :=
  (∃ l, M.getAllEntries.1 = .success l ∧ ∃ p ∈ l, p.name = name) ∨
    (∃ uid p, (M.getEntryByUid uid).1 = .success p ∧ p.name = name) ∨
    ∃ asked p, (M.getEntryByName asked).1 = .success p ∧ p.name = name

/-- Whoever the module hears of, from the daemon or from its cache, is the user `u`, and a text
    that it finds them by is in `found`. -/
structure KnowsUser (M : UserMachine) (u : String) (found : String → Prop) : Prop where
  accounts : ∀ callAndWait l, M.daemon = some callAndWait →
    callAndWait .nssAccounts = some (.nssAccounts l) → ∀ nu ∈ l, nu.name = u
  account : ∀ callAndWait req nu, M.daemon = some callAndWait →
    callAndWait req = some (.nssAccount (some nu)) →
      nu.name = u ∧ ∀ x, req = .nssAccountByName x → found x
  cached : ∀ c row, M.nssCache = some c → row ∈ c.nssPasswd → row.1.name = u ∧ found u

section Users

variable {M : UserMachine} {found : String → Prop}

theorem lookup_success (hM : KnowsUser M u found) {req : UserRequest} {id : Id}
    {localName : Option String} {p : Passwd}
    (h : (M.lookup cfg cache req id localName).1 = .success p) :
    p.name = localName.getD (cfg.mapUpnToName cache u) ∧
      ∀ x, req = .nssAccountByName x → id = .name x → found x := by
  have hcached : ∀ ret, (∀ q, ret ≠ .success q) →
      M.fetchCachedUser cfg cache id ret localName = .success p →
        p.name = localName.getD (cfg.mapUpnToName cache u) ∧
          ∀ x, req = .nssAccountByName x → id = .name x → found x := by
    intro ret hret hfetch
    unfold fetchCachedUser at hfetch
    split at hfetch
    · rename_i c hc
      split at hfetch
      · rename_i nu hnu
        cases hfetch
        obtain ⟨lastUpdated, hmem, hid⟩ := NssCache.mem_of_getUser hnu
        obtain ⟨hname, hown⟩ := hM.cached c _ hc hmem
        refine ⟨by rw [← hname]; rfl, ?_⟩
        rintro x - hx
        rw [← hid x hx, hname]
        exact hown
      · exact absurd hfetch (hret p)
    · exact absurd hfetch (hret p)
  unfold lookup at h
  split at h
  · exact hcached .unavail nofun h
  · rename_i callAndWait hdaemon
    split at h
    · rename_i nu hnu
      cases h
      obtain ⟨hname, hfound⟩ := hM.account callAndWait req nu hdaemon hnu
      exact ⟨by rw [← hname]; rfl, fun x hx _ => hfound x hx⟩
    · exact hcached .notFound nofun h

theorem mapUpnToName_cache (hscript : cfg.nameMappingScript = none)
    (cache cache' : Option MappedNameCache) (u : String) :
    cfg.mapUpnToName cache u = cfg.mapUpnToName cache' u := by
  unfold NameConfig.mapUpnToName
  rw [hscript]
  rfl

theorem name_of_carriesUser (cache : Option MappedNameCache) (hM : KnowsUser M u found)
    (hcfg : M.config = some cfg) (hscript : cfg.nameMappingScript = none) (h : CarriesUser M name) :
    name = cfg.mapUpnToName cache u ∨
      ∃ x, (M.userMap cfg).getUpnFromLocal name = some x ∧ found x := by
  have hsame : ∀ cache', cfg.mapUpnToName cache' u = cfg.mapUpnToName cache u :=
    fun cache' => mapUpnToName_cache hscript cache' cache u
  have hall : ∀ l : List NssUser, (∀ nu ∈ l, nu.name = u) →
      ∀ p ∈ (M.unmapped cfg l).map (renamed cfg M.nameCache none),
        p.name = cfg.mapUpnToName cache u := by
    intro l hl p hp
    obtain ⟨nu, hnu, rfl⟩ := List.mem_map.mp hp
    rw [← hsame M.nameCache, ← hl nu (List.mem_filter.mp hnu).1]
    rfl
  rcases h with ⟨l, hl, p, hp, rfl⟩ | ⟨uid, p, hp, rfl⟩ | ⟨asked, p, hp, rfl⟩
  · left
    unfold getAllEntries at hl
    rw [hcfg] at hl
    split at hl
    · cases hl
    · dsimp only at hl
      split at hl
      · rename_i users hanswer
        cases hl
        obtain ⟨callAndWait, hdaemon, hcall⟩ := Option.bind_eq_some_iff.mp hanswer
        exact hall users (hM.accounts callAndWait users hdaemon hcall) p hp
      · cases hl
        unfold fetchAllCachedUsers at hp
        split at hp
        · rename_i c hc
          refine hall _ ?_ p hp
          intro nu hnu
          obtain ⟨lastUpdated, hmem⟩ := NssCache.mem_of_getUsers hnu
          exact (hM.cached c _ hc hmem).1
        · cases hp
  · left
    unfold getEntryByUid at hp
    rw [hcfg] at hp
    split at hp
    · cases hp
    · exact (lookup_success hM hp).1.trans (hsame M.nameCache)
  · unfold getEntryByName at hp
    rw [hcfg] at hp
    split at hp
    · cases hp
    · dsimp only at hp
      rcases M.resolveName_cases cfg asked with
        ⟨upn, hupn, heq⟩ | ⟨localName, hlocal, heq⟩ | ⟨upn, cache', heq⟩
      all_goals
        rw [heq] at hp
        obtain ⟨hname, hfound⟩ := lookup_success hM hp
      · exact .inr ⟨upn, hname ▸ hupn, hfound _ rfl rfl⟩
      · exact .inr ⟨_, hname ▸ hlocal, hfound _ rfl rfl⟩
      · exact .inl (hname.trans (hsame cache'))

end Users

/-! ## 4. The groups of NSS -/

def CarriesMember (M : Nss.Machine) (name : String) : Prop :=
  (∃ l, M.getAllEntries = .success l ∧ ∃ g ∈ l, name ∈ g.members) ∨
    (∃ gid g, M.getEntryByGid gid = .success g ∧ name ∈ g.members) ∨
    ∃ asked g, M.getEntryByName asked = .success g ∧ name ∈ g.members

/-- No group that the daemon answers has a member but the user `u`. -/
structure KnowsMember (M : Nss.Machine) (u : String) : Prop where
  groups : ∀ callAndWait l, M.daemon = some callAndWait →
    callAndWait .nssGroups = some (.nssGroups l) → ∀ ng ∈ l, ∀ m ∈ ng.members, m = u
  group : ∀ callAndWait req ng, M.daemon = some callAndWait →
    callAndWait req = some (.nssGroup (some ng)) → ∀ m ∈ ng.members, m = u

section Members

variable {M : Nss.Machine}

/-- As a member, the user has the name its UPN is mapped to, or in a group that was asked for by
    its object id, the UPN. -/
theorem name_of_carriesMember (cache : Option MappedNameCache) (hM : KnowsMember M u)
    (hcfg : M.config = some cfg) (hscript : cfg.nameMappingScript = none)
    (h : CarriesMember M name) : name = cfg.mapUpnToName cache u ∨ name = u := by
  have hrenamed : ∀ cache' (ng : NssGroup), (∀ m ∈ ng.members, m = u) →
      name ∈ (Nss.Machine.renamed cfg cache' ng).members → name = cfg.mapUpnToName cache u := by
    intro cache' ng hng hname
    obtain ⟨m, hm, rfl⟩ := List.mem_map.mp hname
    rw [hng m hm]
    exact mapUpnToName_cache hscript cache' cache u
  rcases h with ⟨l, hl, g, hg, hname⟩ | ⟨gid, g, hg, hname⟩ | ⟨asked, g, hg, hname⟩
  · left
    unfold Nss.Machine.getAllEntries at hl
    rw [hcfg] at hl
    split at hl
    · cases hl
    · dsimp only at hl
      split at hl
      · cases hl
      · rename_i callAndWait hdaemon
        split at hl
        · rename_i groups hcall
          cases hl
          obtain ⟨ng, hng, rfl⟩ := List.mem_map.mp hg
          exact hrenamed _ ng (hM.groups callAndWait groups hdaemon hcall ng hng) hname
        · cases hl
          cases hg
  · obtain ⟨callAndWait, ng, hdaemon, hcall, rfl⟩ :=
      Nss.Machine.getEntryByGid_success hcfg hg
    exact .inl (hrenamed _ ng (hM.group callAndWait _ ng hdaemon hcall) hname)
  · obtain ⟨callAndWait, hdaemon, -, hg | ⟨-, hg⟩⟩ := Nss.Machine.getEntryByName_success hcfg hg
    · obtain ⟨-, ng, hcall, rfl⟩ := Nss.Machine.primaryGroup_success hg
      exact .inl (hrenamed _ ng (hM.group callAndWait _ ng hdaemon hcall) hname)
    · obtain ⟨-, ng, hcall, -, rfl⟩ := Nss.Machine.groupByGuid_success hg
      exact .inr (hM.group callAndWait _ ng hdaemon hcall name hname)

end Members

/-! ## 5. Which cloud users are confused with local ones -/

variable (cfg cache u) in
/-- The UPN survives the round trip, and nothing that is done or answered for the user is about an
    account of `/etc/passwd`.  The daemon finds the user by the texts in `found`. -/
structure Unconfused (userMapFile : Option String) (found : String → Prop) : Prop where
  roundTrip :
    cfg.toLowercase (cfg.mapNameToUpn cache (cfg.mapUpnToName cache u)).1 = cfg.toLowercase u
  localGroups : ∀ getent gcfg isSudoer c, gcfg.names = cfg →
    c ∈ handleLocalGroups (recorder getent) gcfg cache u isSudoer [] →
      c.accountId ∉ cfg.etcPasswd
  subids : ∀ scfg username start count, scfg.names = cfg → scfg.nameCache = cache →
    subidsRequest scfg u = .subordinateIds username start count → username ∉ cfg.etcPasswd
  users : ∀ M name, M.config = some cfg → M.userMapFile = userMapFile → KnowsUser M u found →
    CarriesUser M name → name ∉ cfg.etcPasswd
  members : ∀ M name, M.config = some cfg → KnowsMember M u → CarriesMember M name →
    name ∉ cfg.etcPasswd

variable (cfg u) in
/-- Neither the UPN, nor what `cn_name_mapping` leaves of it, nor a name that the user map has for
    the user is the name of an account in `/etc/passwd`. -/
structure NoLocalName (userMapFile : Option String) (found : String → Prop) : Prop where
  upn : u ∉ cfg.etcPasswd
  short : ∀ name, Shortens cfg u name → name ∉ cfg.etcPasswd
  mapped : ∀ localName x,
    (UserMap.new cfg.toLowercase userMapFile).getUpnFromLocal localName = some x → found x →
      localName ∉ cfg.etcPasswd

section Confusion

variable {userMapFile : Option String} {found : String → Prop}

theorem NoLocalName.mapUpnToName (h : NoLocalName cfg u userMapFile found)
    (hscript : cfg.nameMappingScript = none) : cfg.mapUpnToName cache u ∉ cfg.etcPasswd := by
  rcases mapUpnToName_cases hscript cache u with ⟨name, hshort, heq⟩ | ⟨-, heq⟩
  · rw [heq]
    exact h.short name hshort
  · rw [heq]
    exact h.upn

theorem NoLocalName.unconfused (h : NoLocalName cfg u userMapFile found)
    (hlower : LowersNames cfg.toLowercase) (hscript : cfg.nameMappingScript = none)
    (hu : OfConfiguredDomain cfg u) : Unconfused cfg cache u userMapFile found where
  roundTrip := mapNameToUpn_mapUpnToName hlower hscript hu h.short
  localGroups := by
    rintro getent gcfg isSudoer c rfl hc
    rw [accountId_of_mem_handleLocalGroups hc]
    exact h.mapUpnToName hscript
  subids := by
    rintro scfg username start count rfl rfl hrequest
    cases hrequest
    exact h.mapUpnToName hscript
  users := by
    rintro M name hcfg rfl hM hcarries
    rcases name_of_carriesUser cache hM hcfg hscript hcarries with rfl | ⟨x, hx, hfound⟩
    · exact h.mapUpnToName hscript
    · exact h.mapped name x hx hfound
  members := by
    intro M name hcfg hM hcarries
    rcases name_of_carriesMember cache hM hcfg hscript hcarries with rfl | rfl
    · exact h.mapUpnToName hscript
    · exact h.upn

def objectId : String := "4f2bd5a1-8a53-4d05-9c07-5e0f0a4c3f11"

variable (cfg cache u) in
def groupMachine : Nss.Machine where
  shouldSkipDaemonCall := false
  config := some cfg
  etcGroup := []
  daemon := some fun req =>
    if req = .nssGroupByName objectId then
      some (.nssGroup (some { name := u, gid := 1000, members := [u] }))
    else none
  nameCache := cache
  parseUuid text := if text = objectId then some ⟨0⟩ else none

theorem groupMachine_knows : KnowsMember (groupMachine cfg cache u) u where
  groups := by
    intro callAndWait l hdaemon hcall
    cases hdaemon
    cases hcall
  group := by
    intro callAndWait req ng hdaemon hcall m hm
    cases hdaemon
    dsimp only at hcall
    split at hcall
    · cases hcall
      exact List.mem_singleton.mp hm
    · cases hcall

theorem groupMachine_carries (hlower : LowersNames cfg.toLowercase) (hu : looksLikeUpn u = true) :
    CarriesMember (groupMachine cfg cache u) u := by
  have hid : looksLikeUpn objectId = false := by decide
  have hnoprimary : ∀ cache' upn, Nss.Machine.primaryGroup cfg cache'
      (fun req => if req = .nssGroupByName objectId then
        some (.nssGroup (some { name := u, gid := 1000, members := [u] })) else none) upn =
        .notFound := by
    intro cache' upn
    unfold Nss.Machine.primaryGroup
    by_cases hupn : looksLikeUpn upn = true
    · have hne : upn ≠ objectId := by
        rintro rfl
        exact nomatch hid.symm.trans hupn
      simp [hupn, hne]
    · simp [hupn]
  have hname : cfg.toLowercase objectId ≠ cfg.toLowercase u := by
    intro heq
    have hat := hlower.at_iff objectId
    rw [heq, hlower.at_iff, hu, hid] at hat
    cases hat
  refine .inr (.inr ⟨objectId, { name := u, passwd := "x", gid := 1000, members := [u] }, ?_,
    List.mem_singleton.mpr rfl⟩)
  unfold Nss.Machine.getEntryByName groupMachine
  simp [Nss.Machine.isLocalGroup, hnoprimary, Nss.Machine.groupByGuid, Nss.groupFromNssgroup,
    hname]

variable (cfg cache u userMapFile) in
def userMachine (x : String) : UserMachine where
  shouldSkipDaemonCall := false
  config := some cfg
  userMapFile := userMapFile
  daemon := some fun req =>
    if req = .nssAccountByName x then
      some (.nssAccount (some
        { name := u, uid := 1000, gid := 1000, gecos := "", homedir := "", shell := "" }))
    else none
  nssCache := none
  now := 0
  nameCache := cache

theorem userMachine_knows {x : String} (hx : found x) :
    KnowsUser (userMachine cfg cache u userMapFile x) u found where
  accounts := by
    intro callAndWait l hdaemon hcall
    cases hdaemon
    cases hcall
  account := by
    intro callAndWait req nu hdaemon hcall
    cases hdaemon
    dsimp only at hcall
    split at hcall
    · rename_i hreq
      cases hcall
      refine ⟨rfl, ?_⟩
      rintro y rfl
      cases hreq
      exact hx
    · cases hcall
  cached := nofun

theorem userMachine_carries {localName x : String}
    (h : (UserMap.new cfg.toLowercase userMapFile).getUpnFromLocal localName = some x) :
    CarriesUser (userMachine cfg cache u userMapFile x) localName := by
  have hresolve : (userMachine cfg cache u userMapFile x).resolveName cfg localName =
      (x, some localName, cache) := by
    unfold resolveName userMap
    rw [show (userMachine cfg cache u userMapFile x).userMapFile = userMapFile from rfl, h]
    rfl
  refine .inr (.inr ⟨localName, ⟨localName, "x", 1000, 1000, "", "", ""⟩, ?_, rfl⟩)
  unfold getEntryByName
  rw [show (userMachine cfg cache u userMapFile x).config = some cfg from rfl]
  dsimp only
  rw [hresolve]
  simp [lookup, userMachine, renamed, passwdFromNssuser]

theorem Unconfused.noLocalName (h : Unconfused cfg cache u userMapFile found)
    (hlower : LowersNames cfg.toLowercase) (hscript : cfg.nameMappingScript = none)
    (hu : OfConfiguredDomain cfg u) : NoLocalName cfg u userMapFile found where
  upn := h.members (groupMachine cfg cache u) u rfl groupMachine_knows
    (groupMachine_carries hlower (looksLikeUpn_of_configured hu))
  short := by
    intro name hshort
    obtain ⟨c, hc⟩ := handleLocalGroups_acts (fun _ => none) ⟨cfg, [], ""⟩ cache u
    have hname := accountId_of_mem_handleLocalGroups hc
    rw [mapUpnToName_of_shortens hscript hshort] at hname
    rw [← hname]
    exact h.localGroups _ _ true c rfl hc
  mapped := by
    intro localName x hx hfound
    exact h.users (userMachine cfg cache u userMapFile x) localName rfl rfl
      (userMachine_knows hfound) (userMachine_carries hx)

/-- For every configuration without a script, every user of a configured domain is told apart
    from the local users exactly if none of its names is local. -/
theorem unconfused_iff_noLocalName (hlower : LowersNames cfg.toLowercase)
    (hscript : cfg.nameMappingScript = none) (hu : OfConfiguredDomain cfg u) :
    Unconfused cfg cache u userMapFile found ↔ NoLocalName cfg u userMapFile found :=
  ⟨fun h => h.noLocalName hlower hscript hu, fun h => h.unconfused hlower hscript hu⟩

end Confusion

theorem asciiLower_lowersNames : LowersNames ServerConfig.asciiLower where
  upns := asciiLower_lowersUpns
  at_iff := by
    intro text
    have hat : '@' ∈ text.toList.map Char.toLower ↔ '@' ∈ text.toList := by
      constructor
      · intro hmem
        obtain ⟨c, hc, hlower⟩ := List.mem_map.mp hmem
        exact eq_at_of_toLower hlower ▸ hc
      · exact fun hmem => List.mem_map.mpr ⟨'@', hmem, rfl⟩
    unfold looksLikeUpn ServerConfig.asciiLower
    rw [String.toList_ofList, Bool.eq_iff_iff, List.contains_iff_mem, List.contains_iff_mem, hat]

/-- `cn_name_mapping` for `example.com`, on a machine whose only local user is `root`. -/
def shortNames : NameConfig where
  nameMappingScript := none
  cnNameMapping := true
  configuredDomains := ["example.com"]
  etcPasswd := ["root"]
  runScript _ _ := none
  toLowercase := ServerConfig.asciiLower

/-- The cloud user `root@example.com` is taken for the local `root`: the round trip does not lead
    back to it, and its local groups are given to `root`. -/
theorem root_confused : shortNames.nameMappingScript = none ∧
    OfConfiguredDomain shortNames "root@example.com" ∧
    shortNames.mapUpnToName none "root@example.com" = "root" ∧
    (shortNames.mapNameToUpn none "root").1 = "root" ∧
    shortNames.toLowercase "root" ≠ shortNames.toLowercase "root@example.com" ∧
    handleLocalGroups (recorder fun _ => none) ⟨shortNames, ["docker"], "sudo"⟩ none
      "root@example.com" true [] = [.add "root" "docker", .add "root" "sudo"] ∧
    "root" ∈ shortNames.etcPasswd := by
  refine ⟨rfl, ⟨"root", "example.com", by decide, "example.com", by decide, rfl⟩, ?_⟩
  decide +kernel

theorem alice_unconfused :
    Unconfused shortNames none "alice@example.com" none (· = "alice@example.com") := by
  refine (unconfused_iff_noLocalName asciiLower_lowersNames rfl
    ⟨"alice", "example.com", by decide, "example.com", by decide, rfl⟩).mpr ⟨by decide, ?_, nofun⟩
  rintro name ⟨-, domain, hsplit, -⟩
  have halice : splitUsername "alice@example.com" = some ("alice", "example.com") := by
    decide +kernel
  cases halice.symm.trans hsplit
  decide

end Himmelblau.NameConfusion
