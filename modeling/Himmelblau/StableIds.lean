/-
  **The ids of a user before and after the first login**: the placeholder and the authenticated
  token of `common/src/idprovider/himmelblau.rs`, and those of
  `common/src/idprovider/openidconnect.rs`.

  Both read the static id map by name.  An id that is hashed from a name does not depend on letter
  case; an entry of the static id map does, and the user map and the directory's POSIX attributes
  are not read before the login.
-/
import Himmelblau.UserTokens
import Himmelblau.OidcWalks

namespace Himmelblau.UserTokens

open Interface IdMap NameMapping DirectoryGroups Sids FunctionBody Entra Oidc

def SameIds (first token : UserToken) : Prop :=
  token.gidnumber = first.gidnumber ∧ token.realGidnumber = first.realGidnumber

instance (first token : UserToken) : Decidable (SameIds first token) :=
  inferInstanceAs (Decidable (_ ∧ _))

/-! ## 1. Entra ID -/

namespace UserSource

variable {S : UserSource} {accountId : String} {uuid : Uuid}

def hashedId (S : UserSource) (accountId : String) (uuid : Uuid) : Except IdpError UInt32 :=
  match S.idAttrMap with
  | .uuid => S.objectIdToUnixId (.fromObjectId uuid)
  | .name | .rfc2307 => S.genToUnix accountId

/-- The directory's numbers are the id that was hashed from the name. -/
def SyncedAs (id : UInt32) (posixAttrs : List (String × String)) : Prop :=
  (posixAttrs.lookup "uidNumber").bind parseU32 = some id ∧
    ∀ gidNumber, posixAttrs.lookup "gidNumber" = some gidNumber → parseU32 gidNumber = some id

/-- A mapped local account has the ids of the static entry, or without one the hashed id twice.
    Without a mapping there is a static entry, or the ids are not synced from the directory, or
    the directory happens to have the hashed id. -/
def KeepsIds (S : UserSource) (accountId : String) (uuid : Uuid)
    (posixAttrs : List (String × String)) : Prop :=
  match S.userMap.getLocalFromUpn accountId, S.staticUser accountId with
  | some user, some ids => S.getpwnam user = some ids
  | some user, none =>
    ∃ id, S.hashedId accountId uuid = .ok id ∧ S.getpwnam user = some (id, id)
  | none, some _ => True
  | none, none =>
    S.idAttrMap = .rfc2307 → ∃ id, S.hashedId accountId uuid = .ok id ∧ SyncedAs id posixAttrs

theorem hashedId_eq_ok
    (hsid : S.resolveNametosid accountId = some (sidText (.fromObjectId uuid))) {id : UInt32}
    (h : S.nameToUnixId accountId = .ok id) : S.hashedId accountId uuid = .ok id := by
  unfold nameToUnixId at h
  unfold hashedId
  cases hmap : S.idAttrMap with
  | uuid =>
    rw [hmap] at h
    obtain ⟨sidStr, hsidStr, h⟩ := bind_eq_ok.mp h
    obtain ⟨sid, hparsed, h⟩ := bind_eq_ok.mp h
    -- the service's text is read as the SID of the object id
    rw [orBadRequest_eq_ok, hsid] at hsidStr
    cases hsidStr
    rw [orBadRequest_eq_ok, fromSidStr_fromObjectId] at hparsed
    cases hparsed
    exact h
  | name =>
    rw [hmap] at h
    exact h
  | rfc2307 =>
    rw [hmap] at h
    exact h

variable {fetched : Fetched} {value : TokenOrObj} {oldToken : Option UserToken} {fakeUuid : Uuid}
  {first token : UserToken} {posixAttrs : List (String × String)}

theorem uidnumberOf_eq_hashedId (hmap : S.idAttrMap ≠ .rfc2307) :
    S.uidnumberOf accountId uuid posixAttrs = S.hashedId accountId uuid := by
  unfold uidnumberOf hashedId
  cases hattr : S.idAttrMap with
  | uuid => rfl
  | name => rfl
  | rfc2307 => exact absurd hattr hmap

theorem uidnumberOf_eq_ok_iff (hmap : S.idAttrMap = .rfc2307) {uid : UInt32} :
    S.uidnumberOf accountId uuid posixAttrs = .ok uid ↔
      (posixAttrs.lookup "uidNumber").bind parseU32 = some uid := by
  unfold uidnumberOf
  rw [hmap]
  cases posixAttrs.lookup "uidNumber" with
  | none => simp
  | some uidNumber => exact orBadRequest_eq_ok

theorem posixAttrsOf_eq_nil (hmap : S.idAttrMap ≠ .rfc2307) :
    S.posixAttrsOf fetched value = [] := by
  unfold posixAttrsOf
  split
  · next hattr => exact absurd hattr hmap
  · rfl

theorem sameIds_iff_keepsIds (hlower : S.toLowercase accountId = accountId)
    (huuid : S.uuidOf value = .ok uuid)
    (hsid : S.resolveNametosid accountId = some (sidText (.fromObjectId uuid)))
    (hfirst : S.placeholder accountId fakeUuid = .ok first)
    (hlater : S.userTokenFromUnixUserToken fetched accountId value oldToken = .ok token) :
    SameIds first token ↔ S.KeepsIds accountId uuid (S.posixAttrsOf fetched value) := by
  obtain ⟨uid, gid, hids, huid, hgid, -, -⟩ := placeholder_eq_ok hfirst
  obtain ⟨uuid', ids, huuid', hdecided, huid', hgid', -, -⟩ :=
    userTokenFromUnixUserToken_eq_ok hlater
  rw [huuid] at huuid'
  cases huuid'
  rw [hlower] at hdecided
  unfold SameIds KeepsIds
  rw [huid, hgid, huid', hgid', Option.some.injEq]
  have hgiven : S.staticUser accountId = some (uid, gid) ∨
      S.staticUser accountId = none ∧ S.hashedId accountId uuid = .ok uid ∧ gid = uid :=
    (placeholderIds_eq_ok hids).imp_right fun ⟨hnone, hid, hsame⟩ =>
      ⟨hnone, hashedId_eq_ok hsid hid, hsame⟩
  cases idsOf_decided hdecided with
  | userMap hmap hpwd =>
    rw [hmap]
    rcases hgiven with hstatic | ⟨hstatic, hhashed, rfl⟩
    · rw [hstatic]
      simp [hpwd]
    · rw [hstatic]
      simp [hpwd, hhashed]
  | static hmap hstatic =>
    rw [hmap, hstatic]
    rcases hgiven with hgiven | ⟨hgiven, -⟩
    · rw [hgiven] at hstatic
      cases hstatic
      simp
    · rw [hgiven] at hstatic
      cases hstatic
  | directory hmap hstatic hnumber hattr hparse =>
    rcases hgiven with hgiven | ⟨-, hhashed, rfl⟩
    · rw [hgiven] at hstatic
      cases hstatic
    · rw [hmap, hstatic]
      by_cases hsynced : S.idAttrMap = .rfc2307
      · rw [uidnumberOf_eq_ok_iff hsynced] at hnumber
        simp [hsynced, hhashed, SyncedAs, hnumber, hattr, hparse]
      · rw [posixAttrsOf_eq_nil hsynced] at hattr
        cases hattr
  | primary hmap hstatic hnumber hattr =>
    rcases hgiven with hgiven | ⟨-, hhashed, rfl⟩
    · rw [hgiven] at hstatic
      cases hstatic
    · rw [hmap, hstatic]
      by_cases hsynced : S.idAttrMap = .rfc2307
      · rw [uidnumberOf_eq_ok_iff hsynced] at hnumber
        simp [hsynced, hhashed, SyncedAs, hnumber, hattr]
      · rw [uidnumberOf_eq_hashedId hsynced, hhashed] at hnumber
        cases hnumber
        simp [hsynced]

end UserSource

/-! ## 2. OpenID Connect -/

section OpenIdConnect

variable {W ρ : Type} {O : OidcProvider W} {users : String → Option (UInt32 × UInt32)} {m : Idmap}
  {normalize : String → Option (List UInt8)} {tenantId : Uuid} {a b : String}

/-- The provider reads one static id map, whenever it opens, and hashes names with one id map. -/
structure ReadsIds (O : OidcProvider W) (users : String → Option (UInt32 × UInt32)) (m : Idmap)
    (normalize : String → Option (List UInt8)) : Prop where
  static : ∀ w cache, (O.issuer.staticIdCache w).1 = some cache → cache = users
  hashed : ∀ tenantId name w, (O.issuer.genToUnix tenantId name w).1 =
    (m.genToUnix O.outside.toLowercase normalize tenantId name).toOption

/-- The ids of a name: its static entry, or its hash twice. -/
def OidcIds (O : OidcProvider W) (users : String → Option (UInt32 × UInt32)) (m : Idmap)
    (normalize : String → Option (List UInt8)) (tenantId : Uuid) (name : String)
    (ids : UInt32 × UInt32) : Prop :=
  users name = some ids ∨ users name = none ∧ ids.2 = ids.1 ∧
    m.genToUnix O.outside.toLowercase normalize tenantId.hyphenated name = .ok ids.1

/-- Neither spelling has a static entry, or both have the same, or the entry of the one is the hash
    of the name twice. -/
def OidcKeepsIds (O : OidcProvider W) (users : String → Option (UInt32 × UInt32)) (m : Idmap)
    (normalize : String → Option (List UInt8)) (tenantId : Uuid) (a b : String) : Prop :=
  match users a, users b with
  | none, none => True
  | some ids, some ids' => ids' = ids
  | some ids, none | none, some ids =>
    ids.2 = ids.1 ∧
      m.genToUnix O.outside.toLowercase normalize tenantId.hyphenated a = .ok ids.1

theorem ReadsIds.unixIds (hO : ReadsIds O users m normalize) (name : String) (c : Ctx W) :
    (O.unixIds tenantId name : Fn W ρ _).Ensures c
      (fun r _ => ∀ ids, r = .ok ids → OidcIds O users m normalize tenantId name ids)
      fun _ _ => False := by
  unfold OidcProvider.unixIds
  rw [Body.ensures_bind, Ctx.ask, Body.ensures_call]
  split
  · simp
  · rename_i cache hcache
    rw [hO.static _ _ hcache]
    split
    · rename_i hstatic
      intro ids h
      cases h
      exact .inl hstatic
    · rename_i hstatic
      rw [Body.ensures_bind, Ctx.ask, Body.ensures_call, hO.hashed]
      cases hhashed : m.genToUnix O.outside.toLowercase normalize tenantId.hyphenated name with
      | error e => simp [Except.toOption]
      | ok gid =>
        intro ids h
        cases h
        exact .inr ⟨hstatic, rfl, hhashed⟩

/-- The token has the ids of the name; the source numbers it the other way around. -/
def HasIds (O : OidcProvider W) (users : String → Option (UInt32 × UInt32)) (m : Idmap)
    (normalize : String → Option (List UInt8)) (tenantId : Uuid) (name : String)
    (token : UserToken) : Prop :=
  ∃ ids, OidcIds O users m normalize tenantId name ids ∧ token.realGidnumber = some ids.1 ∧
    token.gidnumber = ids.2

theorem ReadsIds.unixUserGet (hO : ReadsIds O users m normalize)
    (htenant : O.tenantId = some tenantId) {first : UserToken} {c c' : Ctx W}
    (h : (O.unixUserGet (.name a) none).run c = (.ok (.update first), c')) :
    HasIds O users m normalize tenantId a first := by
  have hensures : (O.unixUserGet (.name a) none).Ensures c
      (fun r _ => ∀ first, r = .ok (.update first) → HasIds O users m normalize tenantId a first)
      (fun _ _ => False) := by
    unfold OidcProvider.unixUserGet
    refine O.delayedInit_spec.andThen fun ready c1 _ => ?_
    cases ready with
    | false => exact nofun
    | true =>
      simp only [if_true, OidcProvider.getAccount, htenant]
      rw [Body.ensures_bind]
      refine (hO.unixIds a _).andThen fun r c2 hids => ?_
      split
      · exact nofun
      · rename_i uid gid
        intro first h
        cases h
        exact ⟨(uid, gid), hids _ rfl, rfl, rfl⟩
  have hanswer := hensures.run_of_stays
  rw [h] at hanswer
  exact hanswer first rfl

theorem ReadsIds.userTokenFromOidc (hO : ReadsIds O users m normalize)
    {response : OidcTokenResponse} {token : UserToken} {c c' : Ctx W}
    (h : (O.userTokenFromOidc response tenantId : Fn W ρ _) c = (.ok (.ok token), c')) :
    HasIds O users m normalize tenantId token.name token := by
  have hensures : (O.userTokenFromOidc response tenantId : Fn W ρ _).Ensures c
      (fun r _ => ∀ token, r = .ok token → HasIds O users m normalize tenantId token.name token)
      (fun _ _ => False) := by
    unfold OidcProvider.userTokenFromOidc
    rw [Body.ensures_bind, Body.ensures_get]
    split
    · rw [Body.ensures_bind, Ctx.ask, Body.ensures_call]
      split
      · simp
      · split
        · simp
        · rename_i accountId _
          refine (hO.unixIds accountId _).andThen fun r c2 hids => ?_
          split
          · simp
          · rename_i uid gid
            intro token h
            cases h
            exact ⟨(uid, gid), hids _ rfl, rfl, rfl⟩
    · simp
  exact hensures.goesOn h token rfl

theorem genToUnix_congr (hcase : O.outside.toLowercase a = O.outside.toLowercase b) :
    m.genToUnix O.outside.toLowercase normalize tenantId.hyphenated a =
      m.genToUnix O.outside.toLowercase normalize tenantId.hyphenated b := by
  unfold Idmap.genToUnix Idmap.genToUnixBy
  rw [hcase]

theorem OidcIds.eq_iff (hcase : O.outside.toLowercase a = O.outside.toLowercase b)
    {ids ids' : UInt32 × UInt32} (ha : OidcIds O users m normalize tenantId a ids)
    (hb : OidcIds O users m normalize tenantId b ids') :
    ids' = ids ↔ OidcKeepsIds O users m normalize tenantId a b := by
  obtain ⟨uid, gid⟩ := ids
  obtain ⟨uid', gid'⟩ := ids'
  unfold OidcKeepsIds
  rcases ha with ha | ⟨ha, hsame, hhashed⟩
  · rcases hb with hb | ⟨hb, hsame', hhashed'⟩
    · simp [ha, hb]
    · simp only [ha, hb, genToUnix_congr hcase, hhashed', Prod.mk.injEq, Except.ok.injEq]
      constructor
      · rintro ⟨rfl, rfl⟩
        exact ⟨hsame', rfl⟩
      · rintro ⟨rfl, rfl⟩
        exact ⟨rfl, hsame'⟩
  · rcases hb with hb | ⟨hb, hsame', hhashed'⟩
    · simp only [ha, hb, hhashed, Prod.mk.injEq, Except.ok.injEq]
      constructor
      · rintro ⟨rfl, rfl⟩
        exact ⟨hsame, rfl⟩
      · rintro ⟨rfl, rfl⟩
        exact ⟨rfl, hsame.symm⟩
    · rw [genToUnix_congr hcase, hhashed'] at hhashed
      cases hhashed
      simp only [ha, hb, Prod.mk.injEq, true_and, iff_true]
      exact hsame'.trans hsame.symm

theorem HasIds.sameIds_iff (hcase : O.outside.toLowercase a = O.outside.toLowercase b)
    {first token : UserToken} (hfirst : HasIds O users m normalize tenantId a first)
    (htoken : HasIds O users m normalize tenantId b token) :
    SameIds first token ↔ OidcKeepsIds O users m normalize tenantId a b := by
  obtain ⟨ids, hids, hreal, hgid⟩ := hfirst
  obtain ⟨ids', hids', hreal', hgid'⟩ := htoken
  rw [← hids.eq_iff hcase hids']
  unfold SameIds
  rw [hreal, hgid, hreal', hgid', Option.some.injEq, Prod.ext_iff]
  exact and_comm

end OpenIdConnect

/-! ## 3. Both providers -/

/-- The ids of the placeholder are those of the authenticated token in exactly these
    installations. -/
theorem first_login_keeps_ids_iff (S : UserSource) {W : Type} (O : OidcProvider W) :
    (∀ {accountId : String} {uuid fakeUuid : Uuid} {fetched : Fetched}
      {value : TokenOrObj} {oldToken : Option UserToken} {first token : UserToken},
      S.toLowercase accountId = accountId → S.uuidOf value = .ok uuid →
      S.resolveNametosid accountId = some (sidText (.fromObjectId uuid)) →
      S.placeholder accountId fakeUuid = .ok first →
      S.userTokenFromUnixUserToken fetched accountId value oldToken = .ok token →
      (SameIds first token ↔ S.KeepsIds accountId uuid (S.posixAttrsOf fetched value))) ∧
    ∀ {ρ : Type} {users : String → Option (UInt32 × UInt32)} {m : Idmap}
      {normalize : String → Option (List UInt8)} {tenantId : Uuid} {accountId : String}
      {response : OidcTokenResponse} {first token : UserToken} {c c' d d' : Ctx W},
      ReadsIds O users m normalize → O.tenantId = some tenantId →
      (O.unixUserGet (.name accountId) none).run c = (.ok (.update first), c') →
      (O.userTokenFromOidc response tenantId : Fn W ρ _) d = (.ok (.ok token), d') →
      O.outside.toLowercase accountId = O.outside.toLowercase token.name →
      (SameIds first token ↔ OidcKeepsIds O users m normalize tenantId accountId token.name) := by
  constructor
  · intro accountId uuid fakeUuid fetched value oldToken first token hlower huuid hsid hfirst hlater
    exact UserSource.sameIds_iff_keepsIds hlower huuid hsid hfirst hlater
  · intro ρ users m normalize tenantId accountId response first token c c' d d' hO htenant hfirst
      hlater hcase
    exact (hO.unixUserGet htenant hfirst).sameIds_iff hcase (hO.userTokenFromOidc hlater)

/-! A tenant -/

def asciiLowercase (text : String) : String := String.ofList (text.toList.map Char.toLower)

def sampleUsers (idAttrMap : IdAttr) : UserSource where
  toGroupSource := { sampleSource idAttrMap none with
    toLowercase := asciiLowercase
    parseUuid := fun text => if text = "tenant" then some ⟨7⟩ else none }
  staticUsers := some fun _ => none
  userMapFile := none
  getpwnam _ := none
  resolveNametosid _ := some (sidText (.fromObjectId ⟨1⟩))
  shell := "/bin/bash"

def aliceIdentity : TokenOrObj := .userToken (sampleToken false) "Alice"

def alicePlaceholder (uid : UInt32) : UserToken where
  name := "alice@example.com"
  spn := "alice@example.com"
  uuid := ⟨9⟩
  realGidnumber := some uid
  gidnumber := uid
  displayname := ""
  shell := some "/bin/bash"
  groups := [⟨"alice@example.com", "alice@example.com", ⟨9⟩, uid⟩]
  tenantId := some ⟨7⟩
  valid := true

def aliceLoggedIn (uid : UInt32) : UserToken :=
  { alicePlaceholder uid with
    uuid := ⟨1⟩
    displayname := "Alice"
    groups := [⟨"alice@example.com", "alice@example.com", ⟨1⟩, uid⟩] }

def oidcIdmap : Idmap :=
  (Idmap.new.addGenDomain "oidc" (⟨2⟩ : Uuid).hyphenated (200000, 2000200000)).2

def spellingProvider : OidcProvider Unit :=
  { (sampleOidcProvider : OidcProvider Unit) with
    outside := { sampleOutside with toLowercase := asciiLowercase }
    issuer := { sampleIssuer with
      genToUnix := fun tenantId name w =>
        ((oidcIdmap.genToUnix asciiLowercase asciiBytes tenantId name).toOption, w)
      userInfo := fun _ w => (some ⟨some "Alice@Example.com", none, "alice", none⟩, w) } }

theorem spellingProvider_readsIds :
    ReadsIds spellingProvider (fun _ => none) oidcIdmap asciiBytes where
  static _ _ h := (Option.some.inj h).symm
  hashed _ _ _ := rfl

def aliceOfIssuer (name : String) (uuid : Uuid) : UserToken where
  name := name
  spn := name
  uuid := uuid
  realGidnumber := some 771554368
  gidnumber := 771554368
  displayname := ""
  shell := some "/bin/bash"
  groups := [⟨name, name, uuid, 771554368⟩]
  tenantId := some ⟨2⟩
  valid := true

/-- Alice's uid stays the same at both providers if it is made from the object id, or from a name
    that has no static entry in either spelling. -/
theorem first_login_keeps_ids_alice :
    SameIds (alicePlaceholder 16977216) (aliceLoggedIn 16977216) ∧
      SameIds (aliceOfIssuer "alice@example.com" ⟨9⟩) (aliceOfIssuer "Alice@Example.com" ⟨1⟩) := by
  constructor
  · have hfirst : (sampleUsers .uuid).placeholder "alice@example.com" ⟨9⟩ =
        .ok (alicePlaceholder 16977216) := by decide +kernel
    have hlater : (sampleUsers .uuid).userTokenFromUnixUserToken ⟨some [], none⟩
        "alice@example.com" aliceIdentity none = .ok (aliceLoggedIn 16977216) := by decide +kernel
    have hlower : (sampleUsers .uuid).toLowercase "alice@example.com" = "alice@example.com" := by
      decide +kernel
    exact ((first_login_keeps_ids_iff (sampleUsers .uuid) spellingProvider).1 hlower rfl rfl hfirst
      hlater).mpr nofun
  · let c : Ctx Unit := ⟨sampleKeystore [], sampleProviderState .online, .none⟩
    have hfirst : (spellingProvider.unixUserGet (.name "alice@example.com") none).run c =
        (.ok (.update (aliceOfIssuer "alice@example.com" ⟨9⟩)), c) :=
      Prod.ext (by decide +kernel) rfl
    have hlater : (spellingProvider.userTokenFromOidc ⟨"access token", none⟩ ⟨2⟩ : Fn Unit Unit _)
        c = (.ok (.ok (aliceOfIssuer "Alice@Example.com" ⟨1⟩)), c) :=
      Prod.ext (by decide +kernel) rfl
    have hcase : spellingProvider.outside.toLowercase "alice@example.com" =
        spellingProvider.outside.toLowercase "Alice@Example.com" := by decide +kernel
    exact ((first_login_keeps_ids_iff (sampleUsers .uuid) spellingProvider).2
      spellingProvider_readsIds rfl hfirst hlater hcase).mpr trivial

/-- With `id_attr_map = rfc2307` alice's uid is hashed from the name before the first login and
    read from the directory after it. -/
theorem first_login_changes_ids :
    (sampleUsers .rfc2307).resolveNametosid "alice@example.com" =
        some (sidText (.fromObjectId ⟨1⟩)) ∧
      (sampleUsers .rfc2307).placeholder "alice@example.com" ⟨9⟩ =
        .ok (alicePlaceholder 771554368) ∧
      (sampleUsers .rfc2307).userTokenFromUnixUserToken ⟨some [], some [("uidNumber", "5000")]⟩
        "alice@example.com" aliceIdentity none = .ok (aliceLoggedIn 5000) ∧
      ¬SameIds (alicePlaceholder 771554368) (aliceLoggedIn 5000) := by
  decide +kernel

end Himmelblau.UserTokens
