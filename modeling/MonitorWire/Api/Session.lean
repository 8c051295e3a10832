import MonitorWire.Config.Settings
import MonitorWire.Api.Envelope
import MonitorWire.Redact.Rule
import MonitorWire.Outcome
import MonitorWire.Bytes.Base64
import MonitorWire.Json.Writer

namespace MonitorWire

namespace Api

open Config

structure HttpRequest where
  url : String
  headers : List (String × String)
  body : String
  timeout : Duration
  deriving Repr

def sameName (a b : String) : Bool :=
  a.toList.map Char.toLower == b.toList.map Char.toLower

def HttpRequest.header (r : HttpRequest) (name : String) : Option String :=
  (r.headers.find? fun (k, _) => sameName k name).map (·.2)

structure HttpResponse where
  status : Nat
  body : String
  deriving Repr

def HttpResponse.isSuccess (r : HttpResponse) : Bool := 200 ≤ r.status && r.status < 300

def versionMethod : String := "apiinfo.version"

def loginMethod : String := "user.login"

def logoutMethod : String := "user.logout"

def checkAuthMethod : String := "user.checkAuthentication"

def unauthMethods : List String := [versionMethod, loginMethod, checkAuthMethod]

def filesMethods : List String := ["configuration.export"]

def requiresAuth (method : String) : Bool := !unauthMethods.contains method

def minSupported : ApiVersion := ApiVersion.new 5 0 0

def maxSupported : ApiVersion := ApiVersion.new 7 0 0

def tokenMinVersion : ApiVersion := ApiVersion.new 5 4 0

def headerAuthVersion : ApiVersion := ApiVersion.new 6 4 0

def resultLogLength : Nat := 100

def libraryName : String := "zabbix-protocol"

def userAgent : String := libraryName ++ "/0.1.0"

def notLoggedIn : String := "You're not logged in Zabbix API"

def noCredentials : String := "Either a token or a user and a password must be specified"

inductive TokenSource where
  | login
  /-- An API token given by the caller, only forgotten on logout. -/
  | static
  deriving DecidableEq, Repr

inductive AuthState where
  | unauthenticated
  | authenticated (token : Secret) (source : TokenSource)
  deriving DecidableEq, Repr

structure SessionState where
  version : Option ApiVersion := none
  auth : AuthState := .unauthenticated
  deriving Repr

namespace SessionState

def token : SessionState → Option Secret
  | ⟨_, .authenticated t _⟩ => some t
  | ⟨_, .unauthenticated⟩ => none

def isAuthenticated (s : SessionState) : Bool := s.token.isSome

def isStatic : SessionState → Bool
  | ⟨_, .authenticated _ .static⟩ => true
  | _ => false

end SessionState

inductive LogoutStep where
  | notLoggedIn
  | locally
  | remote (request : HttpRequest)
  deriving Repr

structure ApiCore where
  endpoint : String
  timeout : Duration
  basicAuth : Option String
  credentials : Option (String × Secret)
  staticToken : Option Secret
  assumedVersion : Option ApiVersion
  skipVersionCheck : Bool
  redactor : Redactor

/-- A computation of the core: it draws request ids from a 64-bit counter that wraps, reports
events and may fail; ids drawn before a failure stay drawn. -/
abbrev Session := ExceptT ProtocolError (StateT UInt64 Traced)

namespace Session

def ofTraced {α : Type} (x : Traced α) : Session α := ExceptT.lift (StateT.lift x)

def ofOutcome {α : Type} (x : Outcome α) : Session α :=
  ExceptT.mk (StateT.lift (ExceptT.run x))

def ofExcept {α : Type} (x : Except ProtocolError α) : Session α := ExceptT.mk (pure x)

def nextId : Session UInt64 := do
  let n ← get
  set (n + 1)
  return n

def run {α : Type} (x : Session α) (next : UInt64) :
    (Except ProtocolError α × UInt64) × List Event :=
  let t := (ExceptT.run x).run next
  (t.value, t.events)

end Session

namespace ApiCore

def new (c : ApiConfig) : Except ProtocolError ApiCore := do
  c.validateStrict
  let assumed ← c.version.mapM ApiVersion.parse
  let basic := match c.httpUser, c.httpPassword with
    | some u, some p => some ("Basic " ++ Bytes.toBase64 (Utf8.encode (u ++ ":" ++ p.expose)))
    | _, _ => none
  let credentials := match c.user, c.password with
    | some u, some p => some (u, p)
    | _, _ => none
  return {
    endpoint := c.endpoint
    timeout := c.timeout
    basicAuth := basic
    credentials := credentials
    staticToken := c.token
    assumedVersion := assumed
    skipVersionCheck := c.skipVersionCheck
    redactor := Redactor.default }

def withRedactor (core : ApiCore) (r : Redactor) : ApiCore := { core with redactor := r }

def initialState (core : ApiCore) : SessionState :=
  match core.staticToken with
  | some t => { auth := .authenticated t .static }
  | none => {}

def tokenInHeader (core : ApiCore) (version : Option ApiVersion) : Bool :=
  core.basicAuth.isNone && (version.map (·.atLeast headerAuthVersion)).getD false

def baseHeaders (core : ApiCore) : List (String × String) :=
  [("Content-Type", "application/json-rpc"), ("Accept", "application/json"),
    ("User-Agent", userAgent)] ++
    (match core.basicAuth with
      | some b => [("Authorization", b)]
      | none => [])

def buildRequest (core : ApiCore) (method : String) (params : Json.Value)
    (version : Option ApiVersion) (token : Option Secret) : Session HttpRequest := do
  let params := if params.isNull then Json.Value.object [] else params
  let id ← Session.nextId
  let (headers, auth) ← if requiresAuth method then
      match token with
      | none => throw (.auth notLoggedIn)
      | some t =>
        if core.tokenInHeader version then
          pure (core.baseHeaders ++ [("Authorization", "Bearer " ++ t.expose)], none)
        else pure (core.baseHeaders, some t.expose)
    else pure (core.baseHeaders, none)
  let body := (RpcRequest.toJson ⟨method, params, id, auth⟩).write
  Session.ofTraced (Traced.debug ("Sending request to " ++ core.endpoint ++ " with body: " ++
    core.redactor.redact body))
  return ⟨core.endpoint, headers, body, core.timeout⟩

def logResponse (core : ApiCore) (method : String) (body : String) (r : RpcResponse) :
    Traced Unit :=
  let text := match r.result with
    | some (.string s) =>
      if filesMethods.contains method then
        (Json.Value.object [("jsonrpc", .ofOption r.jsonrpc),
          ("result", .string (shorten s resultLogLength)), ("id", r.id.getD .null)]).write
      else body
    | _ => body
  Traced.debug ("Received response body: " ++ core.redactor.redact text)

def parseResponse (core : ApiCore) (method : String) (response : HttpResponse) :
    Outcome Json.Value := do
  if !response.isSuccess then
    Outcome.debug "Received unsuccessful HTTP response" [("status", toString response.status)]
    throw (.apiRequest response.status ("HTTP " ++ toString response.status) response.body)
  match Json.readResponse response.body with
  | .error e => throw (.json e.text)
  | .ok envelope =>
    ExceptT.lift (core.logResponse method response.body envelope)
    Outcome.ofExcept envelope.intoResult

def versionRequest (core : ApiCore) : Session HttpRequest :=
  core.buildRequest versionMethod (.object []) none none

def parseVersion (result : Json.Value) : Except ProtocolError ApiVersion :=
  match result with
  | .string s => ApiVersion.parse s
  | v => .error (.unexpectedResponse (versionMethod ++ " returned " ++ v.write))

def pairLe (a b : Nat × Nat) : Bool := a.1 < b.1 || (a.1 == b.1 && a.2 ≤ b.2)

def isSupported (v : ApiVersion) : Bool :=
  pairLe minSupported.majorMinor v.majorMinor && pairLe v.majorMinor maxSupported.majorMinor

def checkVersion (core : ApiCore) (v : ApiVersion) : Outcome Unit := do
  if isSupported v then return
  if core.skipVersionCheck then
    Outcome.warn ("Version of Zabbix API [" ++ v.display ++ "] is not supported by the " ++
      "library. The library supports versions " ++ toString minSupported.major ++ "." ++
      toString minSupported.minor ++ " to " ++ toString maxSupported.major ++ "." ++
      toString maxSupported.minor)
    return
  throw (.unsupportedVersion libraryName v.display)

def adoptVersion (core : ApiCore) (s : SessionState) (v : ApiVersion) :
    Outcome (SessionState × ApiVersion) := do
  core.checkVersion v
  if s.isStatic && v.lt tokenMinVersion then throw (.unsupportedVersion "Token usage" v.display)
  return ({ s with version := some v }, v)

def loginRequest (core : ApiCore) (v : ApiVersion) (user : String) (password : Secret) :
    Session HttpRequest :=
  let userField := if v.atLeast headerAuthVersion then "username" else "user"
  core.buildRequest loginMethod
    (.object [(userField, .string user), ("password", .string password.expose)]) (some v) none

def loginParams (params : Json.Value) : Except ProtocolError (String × Secret) :=
  let user := ((params.get? "username") <|> (params.get? "user")).bind Json.Value.str?
  let password := (params.get? "password").bind Json.Value.str?
  match user, password with
  | some u, some p => .ok (u, ⟨p⟩)
  | _, _ => .error (.auth noCredentials)

def pendingLogin (core : ApiCore) (s : SessionState) (v : ApiVersion) :
    Session (Option HttpRequest) :=
  if s.isAuthenticated then pure none
  else match core.credentials with
    | some (u, p) => some <$> core.loginRequest v u p
    | none => throw (.auth notLoggedIn)

def acceptLogin (core : ApiCore) (s : SessionState) (result : Json.Value) :
    Outcome SessionState := do
  match result with
  | .string t =>
    Outcome.debug ("Logged in to Zabbix API at " ++ core.endpoint)
    return { s with auth := .authenticated ⟨t⟩ .login }
  | _ => throw (.unexpectedResponse (loginMethod ++ " did not return a session id"))

/-- Switches to a token given by the caller; the known version must be at least 5.4. -/
def acceptToken (s : SessionState) (token : Secret) : Except ProtocolError SessionState :=
  match s.version with
  | some v =>
    if v.lt tokenMinVersion then .error (.unsupportedVersion "Token usage" v.display)
    else .ok { s with auth := .authenticated token .static }
  | none => .ok { s with auth := .authenticated token .static }

def logoutStep (core : ApiCore) (s : SessionState) : Session LogoutStep :=
  match s.auth with
  | .unauthenticated => pure .notLoggedIn
  | .authenticated _ .static => pure .locally
  | .authenticated t .login =>
    LogoutStep.remote <$> core.buildRequest logoutMethod (.array []) s.version (some t)

def finishLogout (core : ApiCore) (s : SessionState) : Traced SessionState := do
  Traced.debug ("Logged out from Zabbix API at " ++ core.endpoint)
  return { s with auth := .unauthenticated }

def checkAuthRequest (core : ApiCore) (s : SessionState) : Session (Option HttpRequest) :=
  match s.auth with
  | .unauthenticated => pure none
  | .authenticated t .login =>
    some <$> core.buildRequest checkAuthMethod (.object [("sessionid", .string t.expose)])
      s.version none
  | .authenticated t .static =>
    some <$> core.buildRequest checkAuthMethod (.object [("token", .string t.expose)])
      s.version none

def parseCheckAuth (result : Json.Value) : Bool := (result.get? "userid").isSome

end ApiCore

end Api

end MonitorWire
