import MonitorWire.Api.Session

namespace MonitorWire

namespace Api

abbrev Post (σ : Type) := HttpRequest → σ → Except ProtocolError HttpResponse × σ

structure ClientState (σ : Type) where
  session : SessionState
  nextId : UInt64
  transport : σ

abbrev ClientM (σ : Type) :=
  ReaderT (ApiCore × Post σ) (ExceptT ProtocolError (StateT (ClientState σ) Traced))

namespace ClientM

variable {σ : Type}

def ofOutcome {α : Type} (x : Outcome α) : ClientM σ α :=
  fun _ => ExceptT.mk (StateT.lift (ExceptT.run x))

def ofExcept {α : Type} (x : Except ProtocolError α) : ClientM σ α :=
  fun _ => ExceptT.mk (pure x)

def ofTraced {α : Type} (x : Traced α) : ClientM σ α :=
  fun _ => ExceptT.lift (StateT.lift x)

def session {α : Type} (x : Session α) : ClientM σ α := fun _ =>
  ExceptT.mk fun st =>
    let t := (ExceptT.run x).run st.nextId
    ⟨(t.value.1, { st with nextId := t.value.2 }), t.events⟩

def core : ClientM σ ApiCore := do return (← read).1

def state : ClientM σ SessionState := do return (← get).session

def setState (s : SessionState) : ClientM σ Unit := modify fun st => { st with session := s }

def send (method : String) (request : HttpRequest) : ClientM σ Json.Value := do
  let post := (← read).2
  let st ← get
  let (response, transport) := post request st.transport
  set { st with transport := transport }
  let response ← ofExcept response
  ofOutcome ((← core).parseResponse method response)

def adopt (v : ApiVersion) : ClientM σ ApiVersion := do
  let (s, v) ← ofOutcome ((← core).adoptVersion (← state) v)
  setState s
  return v

def ensureVersion : ClientM σ ApiVersion := do
  match (← state).version with
  | some v => return v
  | none =>
    let v ← match (← core).assumedVersion with
      | some v => pure v
      | none =>
        let result ← send versionMethod (← session (← core).versionRequest)
        ofExcept (ApiCore.parseVersion result)
    adopt v

def ensureLogin (v : ApiVersion) : ClientM σ Unit := do
  match ← session ((← core).pendingLogin (← state) v) with
  | some request =>
    let result ← send loginMethod request
    setState (← ofOutcome ((← core).acceptLogin (← state) result))
  | none => pure ()

def startSession (user : String) (password : Secret) : ClientM σ Json.Value := do
  let v ← ensureVersion
  let request ← session ((← core).loginRequest v user password)
  let result ← send loginMethod request
  setState (← ofOutcome ((← core).acceptLogin (← state) result))
  return result

def login (user : String) (password : Secret) : ClientM σ Unit := do
  let _ ← startSession user password

def logout : ClientM σ Unit := do
  match ← session ((← core).logoutStep (← state)) with
  | .notLoggedIn => ofTraced (Traced.debug notLoggedIn)
  | .locally => setState (← ofTraced ((← core).finishLogout (← state)))
  | .remote request =>
    let _ ← send logoutMethod request
    setState (← ofTraced ((← core).finishLogout (← state)))

def callVersion (method : String) : ClientM σ (Option ApiVersion) :=
  if method == versionMethod then return (← state).version
  else some <$> ensureVersion

/-- The login a call needs first: one for a method that needs a token, once a version is
known. -/
def loginFor (method : String) : Option ApiVersion → ClientM σ Unit
  | some v => if requiresAuth method then ensureLogin v else pure ()
  | none => pure ()

def buildCall (method : String) (params : Json.Value) (version : Option ApiVersion) :
    ClientM σ HttpRequest := do
  let s ← state
  session ((← core).buildRequest method params version s.token)

/-- The part of a call made holding the session: the version (unless the call asks for it), a
login when the method needs a token, and the request with the session's token. -/
def prepareCall (method : String) (params : Json.Value) : ClientM σ HttpRequest := do
  let version ← callVersion method
  loginFor method version
  buildCall method params version

def call (method : String) (params : Json.Value) : ClientM σ Json.Value := do
  if method == loginMethod then
    let (user, password) ← ofExcept (ApiCore.loginParams params)
    return ← startSession user password
  if method == logoutMethod then
    logout
    return .bool true
  let request ← prepareCall method params
  send method request

def entityCall (entity action : String) (params : Json.Value) : ClientM σ Json.Value :=
  call (entity ++ "." ++ action) params

def refreshVersion : ClientM σ ApiVersion := do
  let result ← send versionMethod (← session (← core).versionRequest)
  adopt (← ofExcept (ApiCore.parseVersion result))

def ensureAuthenticated : ClientM σ Unit := do
  let v ← ensureVersion
  ensureLogin v

def loginWithToken (token : Secret) : ClientM σ Unit := do
  let _ ← ensureVersion
  setState (← ofExcept (ApiCore.acceptToken (← state) token))

def checkAuth : ClientM σ Bool := do
  match ← session ((← core).checkAuthRequest (← state)) with
  | some request =>
    let result ← send checkAuthMethod request
    return ApiCore.parseCheckAuth result
  | none =>
    ofTraced (Traced.debug notLoggedIn)
    return false

def run {α : Type} (x : ClientM σ α) (core : ApiCore) (post : Post σ) (st : ClientState σ) :
    (Except ProtocolError α × ClientState σ) × List Event :=
  let t := (ExceptT.run (x (core, post))).run st
  (t.value, t.events)

end ClientM

def ClientState.start {σ : Type} (core : ApiCore) (transport : σ) : ClientState σ :=
  ⟨core.initialState, 1, transport⟩

end Api

end MonitorWire
