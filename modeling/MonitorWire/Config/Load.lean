import MonitorWire.Config.Decode
import MonitorWire.Toml.Parse
import MonitorWire.Bytes.Utf8

namespace MonitorWire

namespace Config

namespace ClientConfig

def fromJson (v : Json.Value) : Except ProtocolError ClientConfig :=
  match Decode.client v with
  | .ok c => .ok c
  | .error e => .error (.json e.message)

def apiFromJson (v : Json.Value) : Except ProtocolError ApiConfig :=
  match Decode.api v with
  | .ok c => .ok c
  | .error e => .error (.json e.message)

def senderFromJson (v : Json.Value) : Except ProtocolError SenderConfig :=
  match Decode.sender v with
  | .ok c => .ok c
  | .error e => .error (.json e.message)

def getterFromJson (v : Json.Value) : Except ProtocolError GetterConfig :=
  match Decode.getter v with
  | .ok c => .ok c
  | .error e => .error (.json e.message)

def fromToml (text : String) : Except ProtocolError ClientConfig :=
  let fail := fun (e : Toml.TomlError) =>
    Except.error (ProtocolError.configError ("Failed to parse TOML: " ++ e.render text))
  match Toml.parse text with
  | .error e => fail e
  | .ok root =>
    match Decode.client root with
    | .ok c => .ok c
    | .error e => fail ⟨e.message, e.span⟩

end ClientConfig

/-- What opening and reading a file gives: a failure to open it, a failure to read it, or its
bytes. -/
inductive FileRead where
  | cannotOpen (reason : String)
  | cannotRead (reason : String)
  | contents (bytes : Bytes)

namespace ClientConfig

def fromFile (f : FileRead) : Except ProtocolError ClientConfig :=
  match f with
  | .cannotOpen reason => .error (.configError ("Failed to open config file: " ++ reason))
  | .cannotRead reason => .error (.configError ("Failed to read config file: " ++ reason))
  | .contents bytes =>
    match Utf8.decode? bytes with
    | some text => fromToml text
    | none =>
      .error (.configError "Failed to read config file: stream did not contain valid UTF-8")

def fromEnv (lookup : String → Option String) : ClientConfig := ({} : ClientConfig).applyEnv lookup

end ClientConfig

end Config

end MonitorWire
