/-
  **The D-Bus identity broker** (mirror of `broker.rs` of the daemon).

  A browser asks the broker for the accounts of its user, for an access token or for a PRT cookie.
  Each request comes with the uid of the peer and with a JSON text that names an account.  The
  account is only compared with the cached token of the uid; everything else is done for the name
  in that token.
-/
import Himmelblau.Resolver
import Himmelblau.Sids

namespace Himmelblau.Broker

open Interface Db Sids LockProgram

/-! ## 1. Requests -/

structure AccountReq where
  username : String
  deriving DecidableEq, Repr

structure PopParamsReq where
  authenticationScheme : Option String
  kid : Option String
  deriving DecidableEq, Repr

structure AuthParametersReq where
  requestedScopes : List String
  clientId : Option String
  redirectUri : Option String
  popParams : Option PopParamsReq
  account : Option AccountReq
  deriving DecidableEq, Repr

structure TokenReq where
  account : Option AccountReq
  authParameters : AuthParametersReq
  deriving DecidableEq, Repr

structure SsoCookieReq where
  account : AccountReq
  ssoUrl : Option String
  deriving DecidableEq, Repr

structure Url where
  fragment : Option String
  queryPairs : List (String × String)
  deriving DecidableEq, Repr

/-- The fields of an issued token that only the broker reads; `clientInfo` is its JSON. -/
structure TokenDetails where
  clientInfo : String
  expiresIn : UInt32
  extExpiresIn : UInt32
  scope : Option String
  rawIdToken : Option String
  deriving DecidableEq, Repr

/-- What the broker uses from outside: letter case, JSON, URLs and base 64. -/
structure BrokerOutside where
  toLowercase : String → String
  tokenReqOfJson : String → Except String TokenReq
  ssoCookieReqOfJson : String → Except String SsoCookieReq
  jsonString : String → String
  urlParse : String → Option Url
  base64Url : String → String
  /-- the milliseconds of a time, which the resolver counts in seconds -/
  asMillis : (now : ℕ) → ℕ
  tokenDetails : UnixUserToken → TokenDetails

/-! ## 2. Answers -/

structure BrokerTokenResponse where
  accessToken : String
  accessTokenType : ℕ
  clientInfo : String
  expiresOn : ℕ
  extendedExpiresOn : ℕ
  grantedScopes : String
  idToken : String
  deriving DecidableEq, Repr

structure ListedAccount where
  environment : String
  givenName : String
  homeAccountId : String
  localAccountId : String
  name : String
  passwordExpiry : ℕ
  realm : String
  username : String
  deriving DecidableEq, Repr

structure CookieAccount where
  environment : String
  homeAccountId : String
  localAccountId : String
  realm : String
  username : String
  deriving DecidableEq, Repr

inductive Answer where
  | accounts (accounts : List ListedAccount)
  | token (brokerTokenResponse : BrokerTokenResponse)
  | cookie (account : CookieAccount) (cookieContent cookieName : String)
  deriving DecidableEq, Repr

def realmOf (user : UserToken) : String := (user.tenantId.map Uuid.hyphenated).getD ""

def homeAccountIdOf (user : UserToken) : String := user.uuid.hyphenated ++ "." ++ realmOf user

def listedAccount (user : UserToken) : ListedAccount where
  environment := "login.windows.net"
  givenName := user.displayname
  homeAccountId := homeAccountIdOf user
  localAccountId := user.uuid.hyphenated
  name := user.displayname
  passwordExpiry := 0
  realm := realmOf user
  username := user.spn

def cookieAnswer (user : UserToken) (prt : String) : Answer :=
  .cookie
    { environment := "login.microsoftonline.com"
      homeAccountId := homeAccountIdOf user
      localAccountId := user.uuid.hyphenated
      realm := realmOf user
      username := user.spn }
    prt "x-ms-RefreshTokenCredential"

namespace BrokerOutside

variable (B : BrokerOutside)

def tokenResponse (now : ℕ) (token : UnixUserToken) : Except String Answer :=
  let details := B.tokenDetails token
  match token.accessToken, details.scope, details.rawIdToken with
  | none, _, _ => .error "Failed to fetch access token"
  | some _, none, _ => .error "Failed to fetch scopes"
  | some _, some _, none => .error "Missing raw token"
  | some accessToken, some scope, some rawIdToken => .ok (.token
    { accessToken := accessToken
      accessTokenType := 0
      clientInfo := B.base64Url details.clientInfo
      expiresOn := B.asMillis now + details.expiresIn.toNat * 1000
      extendedExpiresOn := details.extExpiresIn.toNat + now
      grantedScopes := scope
      idToken := rawIdToken })

/-! ## 3. Reading a request -/

def extractSsoNonce (ssoUrl : Option String) : Option String :=
  match ssoUrl.bind B.urlParse with
  | none => none
  | some url =>
    ((url.queryPairs.find? (·.1 == "sso_nonce")).map (·.2)).filter fun v => !(trim v).isEmpty

/-- The base 64 of `{"kid":"<kid>"}`; a request without the PoP scheme or without a kid is one for
    a bearer token. -/
def buildReqCnf (popParams : Option PopParamsReq) : Option String :=
  match popParams with
  | none => none
  | some pp =>
    if pp.authenticationScheme.any (eqNocase · "pop") then
      match (pp.kid.map trim).filter (!·.isEmpty) with
      | none => none
      | some kid => some (B.base64Url ("\x7b\"kid\":" ++ B.jsonString kid ++ "\x7d"))
    else none

/-- Blank is none; a URI must parse and have no fragment. -/
def readRedirectUri (redirectUri : Option String) : Except String (Option String) :=
  match redirectUri with
  | none => .ok none
  | some uri =>
    if (trim uri).isEmpty then .ok none
    else
      match B.urlParse (trim uri) with
      | none => .error "Invalid redirectUri"
      | some parsed =>
        if parsed.fragment.isSome then .error "Invalid redirectUri: fragment not allowed"
        else .ok (some (trim uri))

/-- The account can be at the root (Firefox, Chrome) or in `authParameters` (Edge). -/
def requestedAccount (request : TokenReq) : Option AccountReq :=
  match request.account with
  | some account => some account
  | none => request.authParameters.account

def isOwn (account : AccountReq) (user : UserToken) : Bool :=
  B.toLowercase account.username == B.toLowercase user.spn

/-! ## 4. The methods -/

variable {P : Type} (R : Resolver P)

def peerToken (uid : UInt32) : Op P (Except String UserToken) := do
  match ← R.getUsertoken (.gid uid) with
  | .error () => return .error "Unable to load account"
  | .ok none => return .error "Unable to find account"
  | .ok (some user) => return .ok user

/-- The token is asked for with the request's parameters, for the name in the user's token. -/
def fetchToken (user : UserToken) (params : AuthParametersReq) : Op P (Except String Answer) := do
  match B.readRedirectUri params.redirectUri with
  | .error e => return .error e
  | .ok redirectUri =>
    match ← R.getUserAccesstoken (.name user.spn) params.requestedScopes params.clientId redirectUri
        (B.buildReqCnf params.popParams) with
    | none => return .error "Failed to authenticate user"
    | some token =>
      let now ← Resolver.now
      return B.tokenResponse now token

def acquireTokenSilently (requestJson : String) (uid : UInt32) : Op P (Except String Answer) := do
  -- Double check the user is making a request for their own account
  match ← peerToken R uid with
  | .error e => return .error e
  | .ok user =>
    match B.tokenReqOfJson requestJson with
    | .error e => return .error e
    | .ok request =>
      match requestedAccount request with
      | none => return .error "Missing account"
      | some account =>
        if B.isOwn account user then B.fetchToken R user request.authParameters
        else return .error "Invalid request for user!"

def acquireTokenInteractively (requestJson : String) (uid : UInt32) :
    Op P (Except String Answer) :=
  B.acquireTokenSilently R requestJson uid

def getAccounts (uid : UInt32) : Op P (Except String Answer) := do
  match ← peerToken R uid with
  | .error e => return .error e
  | .ok user => return .ok (.accounts [listedAccount user])

def fetchCookie (user : UserToken) (ssoUrl : Option String) : Op P (Except String Answer) := do
  match ← R.getUserPrtCookie (.name user.spn) (B.extractSsoNonce ssoUrl) with
  | none => return .error "Failed to fetch prt sso cookie"
  | some prt => return .ok (cookieAnswer user prt)

def acquirePrtSsoCookie (requestJson : String) (uid : UInt32) : Op P (Except String Answer) := do
  match ← peerToken R uid with
  | .error e => return .error e
  | .ok user =>
    match B.ssoCookieReqOfJson requestJson with
    | .error e => return .error e
    | .ok request =>
      if B.isOwn request.account user then B.fetchCookie R user request.ssoUrl
      else return .error "Invalid request for user!"

inductive Request where
  | acquireTokenInteractively (requestJson : String)
  | acquireTokenSilently (requestJson : String)
  | getAccounts (requestJson : String)
  | acquirePrtSsoCookie (requestJson : String)

def serve (uid : UInt32) : Request → Op P (Except String Answer)
  | .acquireTokenInteractively requestJson => B.acquireTokenInteractively R requestJson uid
  | .acquireTokenSilently requestJson => B.acquireTokenSilently R requestJson uid
  | .getAccounts _ => getAccounts R uid
  | .acquirePrtSsoCookie requestJson => B.acquirePrtSsoCookie R requestJson uid

end BrokerOutside

end Himmelblau.Broker
