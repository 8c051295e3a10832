import MonitorWire.Config.Settings
import MonitorWire.Decimal.Layout

namespace MonitorWire

namespace Config

/-- A place in the text a value was read from: the offsets of its first character and of the
character after its last. -/
abbrev Span := Nat × Nat

inductive Shape (α : Type) where
  | null
  | bool (b : Bool)
  | int (i : Int)
  | float (shown : String)
  | string (s : String)
  | seq (items : List α)
  | map (members : List (String × α))

class Source (α : Type) where
  shape : α → Shape α
  span : α → Option Span
  /-- Whether a sequence with more items than the record read from it has fields is refused. -/
  exactLength : Bool

structure DecodeError where
  message : String
  span : Option Span
  deriving DecidableEq, Repr

abbrev Decoded := Except DecodeError

namespace Decode

variable {α : Type} [Source α]

def shown : Shape α → String
  | .null => "null"
  | .bool b => "boolean `" ++ toString b ++ "`"
  | .int i => "integer `" ++ toString i ++ "`"
  | .float s => "floating point `" ++ s ++ "`"
  | .string s => "string " ++ Text.debugQuote s
  | .seq _ => "sequence"
  | .map _ => "map"

def invalidType {β : Type} (v : α) (expected : String) : Decoded β :=
  .error ⟨"invalid type: " ++ shown (Source.shape v) ++ ", expected " ++ expected, Source.span v⟩

def invalidValue {β : Type} (v : α) (expected : String) : Decoded β :=
  .error ⟨"invalid value: " ++ shown (Source.shape v) ++ ", expected " ++ expected, Source.span v⟩

def text (v : α) : Decoded String :=
  match Source.shape v with
  | .string s => .ok s
  | _ => invalidType v "a string"

def flag (v : α) : Decoded Bool :=
  match Source.shape v with
  | .bool b => .ok b
  | _ => invalidType v "a boolean"

def unsigned (name : String) (bound : Nat) (v : α) : Decoded Nat :=
  match Source.shape v with
  | .int i => if 0 ≤ i ∧ i < bound then .ok i.toNat else invalidValue v name
  | _ => invalidType v name

def millis (v : α) : Decoded Duration := Duration.ofMillis <$> unsigned "u64" (Nat.pow 2 64) v

def optional {β : Type} (d : α → Decoded β) (v : α) : Decoded (Option β) :=
  match Source.shape v with
  | .null => .ok none
  | _ => some <$> d v

abbrev Field (α σ : Type) := String × (σ → α → Decoded σ)

def fieldsInOrder {σ : Type} : List (Field α σ) → List α → σ → Decoded σ
  | _, [], acc => .ok acc
  | [], _ :: _, acc => .ok acc
  | (_, f) :: fs, v :: vs, acc => do fieldsInOrder fs vs (← f acc v)

def record {σ : Type} (name : String) (fields : List (Field α σ)) (init : σ) (v : α) :
    Decoded σ :=
  match Source.shape v with
  | .map members =>
    members.foldlM (fun acc (k, x) =>
      match fields.lookup k with
      | some f => f acc x
      | none => .ok acc) init
  | .seq items => do
    let r ← fieldsInOrder fields items init
    if Source.exactLength α && items.length > fields.length then
      .error ⟨"invalid length " ++ toString items.length ++ ", expected fewer elements in array",
        Source.span v⟩
    else .ok r
  | _ => invalidType v ("struct " ++ name)

def senderFields : List (Field α SenderConfig) :=
  [("server", fun c v => do return { c with server := ← text v }),
   ("timeout", fun c v => do return { c with timeout := ← millis v }),
   ("chunk_size", fun c v => do return { c with chunkSize := ← unsigned "usize" (Nat.pow 2 64) v }),
   ("compression", fun c v => do return { c with compression := ← flag v })]

def getterFields : List (Field α GetterConfig) :=
  [("host", fun c v => do return { c with host := ← text v }),
   ("port", fun c v => do return { c with port := ← unsigned "u16" (Nat.pow 2 16) v }),
   ("timeout", fun c v => do return { c with timeout := ← millis v })]

def secret (v : α) : Decoded Secret := Secret.mk <$> text v

def apiFields : List (Field α ApiConfig) :=
  [("url", fun c v => do return { c with url := ← text v }),
   ("user", fun c v => do return { c with user := ← optional text v }),
   ("password", fun c v => do return { c with password := ← optional secret v }),
   ("token", fun c v => do return { c with token := ← optional secret v }),
   ("http_user", fun c v => do return { c with httpUser := ← optional text v }),
   ("http_password", fun c v => do return { c with httpPassword := ← optional secret v }),
   ("timeout", fun c v => do return { c with timeout := ← millis v }),
   ("validate_certs", fun c v => do return { c with validateCerts := ← flag v }),
   ("skip_version_check", fun c v => do return { c with skipVersionCheck := ← flag v }),
   ("version", fun c v => do return { c with version := ← optional text v })]

def loggingFields : List (Field α LoggingConfig) :=
  [("level", fun c v => do return { c with level := ← text v }),
   ("json_format", fun c v => do return { c with jsonFormat := ← flag v })]

def sender (v : α) : Decoded SenderConfig := record "SenderConfig" senderFields {} v

def getter (v : α) : Decoded GetterConfig := record "GetterConfig" getterFields {} v

def api (v : α) : Decoded ApiConfig := record "ApiConfig" apiFields {} v

def logging (v : α) : Decoded LoggingConfig := record "LoggingConfig" loggingFields {} v

def clientFields : List (Field α ClientConfig) :=
  [("sender", fun c v => do return { c with sender := ← sender v }),
   ("getter", fun c v => do return { c with getter := ← getter v }),
   ("api", fun c v => do return { c with api := ← api v }),
   ("logging", fun c v => do return { c with logging := ← logging v })]

def client (v : α) : Decoded ClientConfig := record "ClientConfig" clientFields {} v

end Decode

instance : Source Json.Value where
  shape
    | .null => .null
    | .bool b => .bool b
    | .number (.nat n) => .int n
    | .number (.neg i) => .int i
    | .number (.float x) => .float (Decimal.json x)
    | .string s => .string s
    | .array items => .seq items
    | .object members => .map members
  span _ := none
  exactLength := true

end Config

end MonitorWire
