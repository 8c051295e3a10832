import MonitorWire.Cluster
import MonitorWire.Duration
import MonitorWire.Url
import MonitorWire.Api.Version
import MonitorWire.Json.Value
import MonitorWire.Text.Debug

namespace MonitorWire

/-- A secret text: shown and written as a mask, readable only through `expose`. -/
structure Secret where
  expose : String
  deriving DecidableEq, Repr

namespace Secret

def mask : String := "********"

def debug (_ : Secret) : String := "SecretString(" ++ mask ++ ")"

def isEmpty (s : Secret) : Bool := s.expose.isEmpty

end Secret

namespace Config

def senderPort : Nat := 10051

def agentPort : Nat := 10050

def defaultApiUrl : String := "http://localhost/zabbix/api_jsonrpc.php"

def jsonrpcFile : String := "api_jsonrpc.php"

structure SenderConfig where
  server : String := "127.0.0.1:" ++ toString senderPort
  timeout : Duration := Duration.ofMillis 10000
  chunkSize : Nat := 250
  compression : Bool := false
  deriving Repr

structure GetterConfig where
  host : String := "127.0.0.1"
  port : Nat := agentPort
  timeout : Duration := Duration.ofMillis 10000
  deriving Repr

structure ApiConfig where
  url : String := defaultApiUrl
  user : Option String := none
  password : Option Secret := none
  token : Option Secret := none
  httpUser : Option String := none
  httpPassword : Option Secret := none
  timeout : Duration := Duration.ofMillis 30000
  validateCerts : Bool := true
  skipVersionCheck : Bool := false
  /-- The API version to assume instead of asking the server. -/
  version : Option String := none
  deriving Repr

structure LoggingConfig where
  level : String := "info"
  jsonFormat : Bool := false
  deriving Repr

structure ClientConfig where
  sender : SenderConfig := {}
  getter : GetterConfig := {}
  api : ApiConfig := {}
  logging : LoggingConfig := {}
  deriving Repr

def timeoutProblems (name : String) (t : Duration) : List String :=
  if t.totalMillis < 100 then [name ++ " timeout too short (minimum: 100ms)"]
  else if t.secs > 300 then [name ++ " timeout too long (maximum: 300s)"]
  else []

def strict (problems : List String) : Except ProtocolError Unit :=
  if problems.isEmpty then .ok ()
  else .error (.configError ("Configuration validation failed:\n  - " ++
    "\n  - ".intercalate problems))

def normalizeApiUrl (url : String) : String :=
  let url := Text.trim url
  let url := if url.endsWith jsonrpcFile then url
    else (if url.endsWith "/" then url else url ++ "/") ++ jsonrpcFile
  if url.startsWith "http" then url else "http://" ++ url

namespace SenderConfig

def clusters (c : SenderConfig) : Except ProtocolError (List Cluster) := parseClusters c.server

def validate (c : SenderConfig) : List String :=
  let server :=
    if Text.isBlank c.server then ["Sender server address cannot be empty"]
    else match c.clusters with
      | .error e => [e.message]
      | .ok _ => []
  server ++ timeoutProblems "Sender" c.timeout ++
    (if c.chunkSize == 0 then ["Chunk size must be greater than 0"] else [])

def validateStrict (c : SenderConfig) : Except ProtocolError Unit := strict c.validate

def toJson (c : SenderConfig) : Json.Value :=
  .object [("server", .string c.server), ("timeout", .ofNat c.timeout.totalMillis),
    ("chunk_size", .ofNat c.chunkSize), ("compression", .bool c.compression)]

end SenderConfig

namespace GetterConfig

def validate (c : GetterConfig) : List String :=
  (if c.host.isEmpty then ["Getter host cannot be empty"] else []) ++
    (if c.port == 0 then ["Getter port must be greater than 0"] else []) ++
    timeoutProblems "Getter" c.timeout

def validateStrict (c : GetterConfig) : Except ProtocolError Unit := strict c.validate

def toJson (c : GetterConfig) : Json.Value :=
  .object [("host", .string c.host), ("port", .ofNat c.port),
    ("timeout", .ofNat c.timeout.totalMillis)]

end GetterConfig

namespace ApiConfig

def new (url : String) : ApiConfig := { url := url }

def withCredentials (c : ApiConfig) (user password : String) : ApiConfig :=
  { c with user := some user, password := some ⟨password⟩ }

def withToken (c : ApiConfig) (token : String) : ApiConfig :=
  { c with token := some ⟨token⟩ }

def withBasicAuth (c : ApiConfig) (user password : String) : ApiConfig :=
  { c with httpUser := some user, httpPassword := some ⟨password⟩ }

def endpoint (c : ApiConfig) : String := normalizeApiUrl c.url

def validate (c : ApiConfig) : List String :=
  let url :=
    if Text.isBlank c.url then ["API URL cannot be empty"]
    else match Url.problem? c.endpoint with
      | some e => ["Invalid API URL '" ++ c.url ++ "': " ++ e]
      | none => []
  url ++
    (if c.user.isSome != c.password.isSome then
      ["Both user and password must be specified for login"] else []) ++
    (if c.token.isSome && c.user.isSome then
      ["Token cannot be used together with user and password"] else []) ++
    (if c.httpUser.isSome != c.httpPassword.isSome then
      ["Both http_user and http_password must be specified for Basic auth"] else []) ++
    timeoutProblems "API" c.timeout ++
    (match c.version with
      | some v =>
        match ApiVersion.parse v with
        | .ok _ => []
        | .error _ => ["Invalid API version '" ++ v ++ "' (expected format: '7.0.0')"]
      | none => [])

def validateStrict (c : ApiConfig) : Except ProtocolError Unit := strict c.validate

def maskedJson (s : Option Secret) : Json.Value :=
  match s with
  | some _ => .string Secret.mask
  | none => .null

def toJson (c : ApiConfig) : Json.Value :=
  .object [("url", .string c.url), ("user", .ofOption c.user), ("password", maskedJson c.password),
    ("token", maskedJson c.token), ("http_user", .ofOption c.httpUser),
    ("http_password", maskedJson c.httpPassword), ("timeout", .ofNat c.timeout.totalMillis),
    ("validate_certs", .bool c.validateCerts), ("skip_version_check", .bool c.skipVersionCheck),
    ("version", .ofOption c.version)]

def debugText (s : Option String) : String :=
  match s with
  | some t => "Some(" ++ Text.debugQuote t ++ ")"
  | none => "None"

def debugSecret (s : Option Secret) : String :=
  match s with
  | some t => "Some(" ++ t.debug ++ ")"
  | none => "None"

def debug (c : ApiConfig) : String :=
  "ApiConfig \x7b url: " ++ Text.debugQuote c.url ++ ", user: " ++ debugText c.user ++
    ", password: " ++ debugSecret c.password ++ ", token: " ++ debugSecret c.token ++
    ", http_user: " ++ debugText c.httpUser ++ ", http_password: " ++
    debugSecret c.httpPassword ++ ", timeout: " ++ c.timeout.text ++ ", validate_certs: " ++
    toString c.validateCerts ++ ", skip_version_check: " ++ toString c.skipVersionCheck ++
    ", version: " ++ debugText c.version ++ " \x7d"

end ApiConfig

namespace LoggingConfig

def validate (c : LoggingConfig) : List String :=
  if Text.isBlank c.level then ["Log level cannot be empty"] else []

def toJson (c : LoggingConfig) : Json.Value :=
  .object [("level", .string c.level), ("json_format", .bool c.jsonFormat)]

end LoggingConfig

namespace ClientConfig

def validate (c : ClientConfig) : List String :=
  c.sender.validate ++ c.getter.validate ++ c.api.validate ++ c.logging.validate

def validateStrict (c : ClientConfig) : Except ProtocolError Unit := strict c.validate

def toJson (c : ClientConfig) : Json.Value :=
  .object [("sender", c.sender.toJson), ("getter", c.getter.toJson), ("api", c.api.toJson),
    ("logging", c.logging.toJson)]

def applyEnv (c : ClientConfig) (lookup : String → Option String) : ClientConfig :=
  let api := c.api
  let api := match lookup "ZABBIX_URL" with
    | some u => { api with url := u }
    | none => api
  let api := match lookup "ZABBIX_USER" with
    | some u => { api with user := some u }
    | none => api
  let api := match lookup "ZABBIX_PASSWORD" with
    | some p => { api with password := some ⟨p⟩ }
    | none => api
  let api := match lookup "ZABBIX_TOKEN" with
    | some t => { api with token := some ⟨t⟩ }
    | none => api
  { c with api := api }

end ClientConfig

end Config

end MonitorWire
