/-
  **The tokens of a user**, mirror of the macro `fake_user` of `unix_user_get` and of
  `user_token_from_unix_user_token` of `common/src/idprovider/himmelblau.rs`, with
  `common/src/user_map.rs`.

  Before the first login a placeholder is built from the name that was asked for; after it the
  token is built from the authenticated identity.  The two read different sources: only the second
  reads the user map and the POSIX attributes of the directory.
-/
import Himmelblau.Sids
import Himmelblau.OidcStep

namespace Himmelblau.UserTokens

open Interface IdMap NameMapping DirectoryGroups Sids FunctionBody Entra

/-! ## 1. `user_map.rs` -/

structure UserMap where
  forward : List (String × String)
  reverse : List (String × String)
  deriving DecidableEq, Repr

namespace UserMap

/-- One line of the file; what follows the first colon is the UPN. -/
def addLine (toLowercase : String → String) (map : UserMap) (line : String) : UserMap :=
  if ['#'].isPrefixOf (line.toList.dropWhile isWhitespace) || trim line == "" then map
  else
    let localName := trim (String.ofList (line.toList.takeWhile (· != ':')))
    let upn := toLowercase (trim (String.ofList ((line.toList.dropWhile (· != ':')).drop 1)))
    if localName == "" || upn == "" then map
    else if (map.forward.lookup localName).isSome then map
    else if (map.reverse.lookup upn).isSome then map
    else ⟨(localName, upn) :: map.forward, (upn, localName) :: map.reverse⟩

/-- `UserMap::new`, from the contents of the file, if it can be read. -/
def new (toLowercase : String → String) : Option String → UserMap
  | none => ⟨[], []⟩
  | some lines => (split '\n' lines).foldl (addLine toLowercase) ⟨[], []⟩

def getUpnFromLocal (map : UserMap) (username : String) : Option String :=
  map.forward.lookup username

def getLocalFromUpn (map : UserMap) (upn : String) : Option String := map.reverse.lookup upn

end UserMap

/-! ## 2. Where the ids come from -/

/-- What the provider reads for a user, beside what it reads for a group: the static id map (if it
    opens), the file of the user map, the local accounts, the name-to-SID service and the
    configured shell. -/
structure UserSource extends GroupSource where
  staticUsers : Option (String → Option (UInt32 × UInt32))
  userMapFile : Option String
  getpwnam : String → Option (UInt32 × UInt32)
  resolveNametosid : String → Option String
  shell : String

/-- The authenticated identity: an object of the directory, fetched with a token of the
    application, or the user's own token with the name in its `id_token`. -/
inductive TokenOrObj where
  | userObj (accessToken id displayname : String)
  | userToken (token : UnixUserToken) (name : String)
  deriving DecidableEq, Repr

/-- The answers of the graph while one token is built; `none` is a failed request. -/
structure Fetched where
  groups : Option (List DirectoryObject)
  posixAttrs : Option (List (String × String))
  deriving DecidableEq, Repr

/-- The ids of a token, and whether the user's own group has to be added for them. -/
structure Ids where
  uidnumber : UInt32
  gidnumber : UInt32
  fakePrimary : Bool
  deriving DecidableEq, Repr

def TokenOrObj.accessToken : TokenOrObj → Option String
  | .userObj accessToken _ _ => some accessToken
  | .userToken token _ => token.accessToken

def TokenOrObj.displayname : TokenOrObj → String
  | .userObj _ _ displayname => displayname
  | .userToken _ name => name

def orBadRequest {α : Type} : Option α → Except IdpError α
  | some a => .ok a
  | none => .error .badRequest

theorem orBadRequest_eq_ok {α : Type} {x : Option α} {a : α} :
    orBadRequest x = .ok a ↔ x = some a := by
  cases x with
  | none => simp [orBadRequest]
  | some b => simp [orBadRequest]

theorem bind_eq_ok {ε α β : Type} {x : Except ε α} {f : α → Except ε β} {b : β} :
    (x >>= f) = .ok b ↔ ∃ a, x = .ok a ∧ f a = .ok b := by
  cases x with
  | error e => simp [bind, Except.bind]
  | ok a => simp [bind, Except.bind]

namespace UserSource

variable (S : UserSource)

def objectIdToUnixId (sid : AadSid) : Except IdpError UInt32 := do
  let tenantId ← orBadRequest S.tenantId
  orBadRequest (S.idmap.objectIdToUnixId tenantId sid).toOption

def genToUnix (name : String) : Except IdpError UInt32 := do
  let tenantId ← orBadRequest S.tenantId
  orBadRequest (S.idmap.genToUnix S.toLowercase S.normalize tenantId name).toOption

def parsedTenantId : Except IdpError Uuid := do
  let tenantId ← orBadRequest S.tenantId
  orBadRequest (S.parseUuid tenantId)

/-! ## 3. The placeholder -/

/-- The id that a name has without a static entry. -/
def nameToUnixId (accountId : String) : Except IdpError UInt32 :=
  match S.idAttrMap with
  | .uuid => do
    let sidStr ← orBadRequest (S.resolveNametosid accountId)
    let sid ← orBadRequest (fromSidStr sidStr)
    S.objectIdToUnixId sid
  | .name | .rfc2307 => S.genToUnix accountId

/-- The ids of a user who never logged in. -/
def placeholderIds (accountId : String) : Except IdpError (UInt32 × UInt32) := do
  let users ← orBadRequest S.staticUsers
  match users accountId with
  | some ids => .ok ids
  | none =>
    let id ← S.nameToUnixId accountId
    .ok (id, id)

/-- Only an authenticated token has the uuid of the user, so one is made up. -/
def placeholder (accountId : String) (fakeUuid : Uuid) : Except IdpError UserToken := do
  let (uid, gid) ← S.placeholderIds accountId
  let tenantId ← S.parsedTenantId
  .ok
    { name := accountId
      spn := accountId
      uuid := fakeUuid
      realGidnumber := some gid
      gidnumber := uid
      displayname := ""
      shell := some S.shell
      groups := [⟨accountId, accountId, fakeUuid, uid⟩]
      tenantId := some tenantId
      valid := true }

/-! ## 4. `user_token_from_unix_user_token` -/

def uuidOf : TokenOrObj → Except IdpError Uuid
  | .userObj _ id _ => orBadRequest (S.parseUuid id)
  | .userToken token _ => orBadRequest token.uuid

/-- A group that is refused is left out. -/
def directoryGroups (objects : List DirectoryObject) : List GroupToken :=
  objects.filterMap fun object => (S.groupTokenFromDirectoryObject object).toOption

/-- If the groups are not fetched, the memberships of the old token are preserved. -/
def groupsOf (fetched : Fetched) (value : TokenOrObj) (oldToken : Option UserToken) :
    List GroupToken :=
  match value.accessToken, fetched.groups with
  | some _, some objects => S.directoryGroups objects
  | _, _ => (oldToken.map (·.groups)).getD []

def posixAttrsOf (fetched : Fetched) (value : TokenOrObj) : List (String × String) :=
  match value.accessToken, S.idAttrMap with
  | some _, .rfc2307 => fetched.posixAttrs.getD []
  | _, _ => []

def userMap : UserMap := .new S.toLowercase S.userMapFile

def numberOf (value : String) : Except IdpError UInt32 := orBadRequest (parseU32 value)

def uidnumberOf (spn : String) (uuid : Uuid) (posixAttrs : List (String × String)) :
    Except IdpError UInt32 :=
  match S.idAttrMap with
  | .uuid => S.objectIdToUnixId (.fromObjectId uuid)
  | .name => S.genToUnix spn
  | .rfc2307 =>
    match posixAttrs.lookup "uidNumber" with
    | some uidNumber => numberOf uidNumber
    | none => .error .badRequest

def idsOf (spn : String) (uuid : Uuid) (posixAttrs : List (String × String)) :
    Except IdpError Ids :=
  match S.userMap.getLocalFromUpn spn with
  | some user =>
    if !Idmap.cstringOk user then .error .badRequest
    else
      match S.getpwnam user with
      | none => .error (.notFound "getpwnam" "local user map")
      | some (uid, gid) => .ok ⟨uid, gid, false⟩
  | none => do
    let users ← orBadRequest S.staticUsers
    match users spn with
    | some (uid, gid) => .ok ⟨uid, gid, false⟩
    | none =>
      let uidnumber ← S.uidnumberOf spn uuid posixAttrs
      -- Utilize the existing primary group if set
      match posixAttrs.lookup "gidNumber" with
      | some gidNumber =>
        let gidnumber ← numberOf gidNumber
        .ok ⟨uidnumber, gidnumber, false⟩
      | none => .ok ⟨uidnumber, uidnumber, true⟩

def userTokenFromUnixUserToken (fetched : Fetched) (spn : String) (value : TokenOrObj)
    (oldToken : Option UserToken) : Except IdpError UserToken := do
  let spn := S.toLowercase spn
  let uuid ← S.uuidOf value
  let posixAttrs := S.posixAttrsOf fetched value
  let ids ← S.idsOf spn uuid posixAttrs
  let primary := if ids.fakePrimary then [⟨spn, spn, uuid, ids.uidnumber⟩] else []
  let tenantId ← S.parsedTenantId
  .ok
    { name := spn
      spn := spn
      uuid := uuid
      realGidnumber := some ids.gidnumber
      gidnumber := ids.uidnumber
      displayname := Oidc.flipDisplaynameComma trim
        ((posixAttrs.lookup "gecos").getD value.displayname)
      shell := some ((posixAttrs.lookup "loginShell").getD S.shell)
      groups := S.groupsOf fetched value oldToken ++ primary
      tenantId := some tenantId
      valid := true }

/-! ## 5. What they return -/

variable {S} {fetched : Fetched} {value : TokenOrObj} {oldToken : Option UserToken}
  {token : UserToken} {accountId : String} {fakeUuid : Uuid}

theorem placeholder_eq_ok (h : S.placeholder accountId fakeUuid = .ok token) :
    ∃ uid gid, S.placeholderIds accountId = .ok (uid, gid) ∧ token.gidnumber = uid ∧
      token.realGidnumber = some gid ∧ token.spn = accountId ∧
      token.groups = [⟨accountId, accountId, fakeUuid, uid⟩] := by
  obtain ⟨⟨uid, gid⟩, hids, h⟩ := bind_eq_ok.mp h
  obtain ⟨tenantId, -, h⟩ := bind_eq_ok.mp h
  cases h
  exact ⟨uid, gid, hids, rfl, rfl, rfl, rfl⟩

theorem userTokenFromUnixUserToken_eq_ok
    (h : S.userTokenFromUnixUserToken fetched accountId value oldToken = .ok token) :
    ∃ uuid ids, S.uuidOf value = .ok uuid ∧
      S.idsOf (S.toLowercase accountId) uuid (S.posixAttrsOf fetched value) = .ok ids ∧
      token.gidnumber = ids.uidnumber ∧ token.realGidnumber = some ids.gidnumber ∧
      token.spn = S.toLowercase accountId ∧
      token.groups = S.groupsOf fetched value oldToken ++
        if ids.fakePrimary then [⟨token.spn, token.spn, uuid, ids.uidnumber⟩] else [] := by
  obtain ⟨uuid, huuid, h⟩ := bind_eq_ok.mp h
  obtain ⟨ids, hids, h⟩ := bind_eq_ok.mp h
  obtain ⟨tenantId, -, h⟩ := bind_eq_ok.mp h
  cases h
  exact ⟨uuid, ids, huuid, hids, rfl, rfl, rfl, rfl⟩

def staticUser (S : UserSource) (name : String) : Option (UInt32 × UInt32) :=
  S.staticUsers.bind fun users => users name

theorem placeholderIds_eq_ok {uid gid : UInt32} (h : S.placeholderIds accountId = .ok (uid, gid)) :
    S.staticUser accountId = some (uid, gid) ∨
      S.staticUser accountId = none ∧ S.nameToUnixId accountId = .ok uid ∧ gid = uid := by
  obtain ⟨users, husers, h⟩ := bind_eq_ok.mp h
  have hentry : S.staticUser accountId = users accountId := by
    rw [staticUser, orBadRequest_eq_ok.mp husers]
    rfl
  rw [hentry]
  cases hstatic : users accountId with
  | some ids =>
    rw [hstatic] at h
    cases h
    exact .inl rfl
  | none =>
    rw [hstatic] at h
    obtain ⟨id, hid, h⟩ := bind_eq_ok.mp h
    cases h
    exact .inr ⟨rfl, hid, rfl⟩

inductive Decided (S : UserSource) (spn : String) (uuid : Uuid)
    (posixAttrs : List (String × String)) : Ids → Prop
  | userMap {user : String} {uid gid : UInt32} (hmap : S.userMap.getLocalFromUpn spn = some user)
      (hpwd : S.getpwnam user = some (uid, gid)) : Decided S spn uuid posixAttrs ⟨uid, gid, false⟩
  | static {uid gid : UInt32} (hmap : S.userMap.getLocalFromUpn spn = none)
      (hstatic : S.staticUser spn = some (uid, gid)) :
      Decided S spn uuid posixAttrs ⟨uid, gid, false⟩
  | directory {uid gid : UInt32} {gidNumber : String}
      (hmap : S.userMap.getLocalFromUpn spn = none)
      (hstatic : S.staticUser spn = none)
      (huid : S.uidnumberOf spn uuid posixAttrs = .ok uid)
      (hattr : posixAttrs.lookup "gidNumber" = some gidNumber)
      (hgid : parseU32 gidNumber = some gid) : Decided S spn uuid posixAttrs ⟨uid, gid, false⟩
  | primary {uid : UInt32} (hmap : S.userMap.getLocalFromUpn spn = none)
      (hstatic : S.staticUser spn = none)
      (huid : S.uidnumberOf spn uuid posixAttrs = .ok uid)
      (hattr : posixAttrs.lookup "gidNumber" = none) :
      Decided S spn uuid posixAttrs ⟨uid, uid, true⟩

theorem idsOf_decided {spn : String} {uuid : Uuid} {posixAttrs : List (String × String)} {ids : Ids}
    (h : S.idsOf spn uuid posixAttrs = .ok ids) : S.Decided spn uuid posixAttrs ids := by
  unfold idsOf at h
  cases hmap : S.userMap.getLocalFromUpn spn with
  | some user =>
    rw [hmap] at h
    dsimp only at h
    split at h
    · cases h
    · split at h
      · cases h
      · rename_i hpwd
        cases h
        exact .userMap hmap hpwd
  | none =>
    rw [hmap] at h
    obtain ⟨users, husers, h⟩ := bind_eq_ok.mp h
    have hopens := orBadRequest_eq_ok.mp husers
    cases hstatic : users spn with
    | some ids =>
      rw [hstatic] at h
      cases h
      exact .static hmap (by rw [staticUser, hopens]; exact hstatic)
    | none =>
      rw [hstatic] at h
      have hnone : S.staticUser spn = none := by
        rw [staticUser, hopens]
        exact hstatic
      obtain ⟨uid, huid, h⟩ := bind_eq_ok.mp h
      cases hattr : posixAttrs.lookup "gidNumber" with
      | some gidNumber =>
        rw [hattr] at h
        obtain ⟨gid, hgid, h⟩ := bind_eq_ok.mp h
        cases h
        exact .directory hmap hnone huid hattr (orBadRequest_eq_ok.mp hgid)
      | none =>
        rw [hattr] at h
        cases h
        exact .primary hmap hnone huid hattr

end UserSource

end Himmelblau.UserTokens
