import MonitorWire.Json.Reader
import MonitorWire.Json.Writer
import MonitorWire.Error
import MonitorWire.Text.Debug

namespace MonitorWire

def jsonrpcVersion : String := "2.0"

structure RpcRequest where
  method : String
  params : Json.Value
  id : UInt64
  auth : Option String := none
  deriving Repr

def RpcRequest.toJson (r : RpcRequest) : Json.Value :=
  .object ([("jsonrpc", .string jsonrpcVersion), ("method", .string r.method),
    ("params", r.params), ("id", .ofNat r.id.toNat)] ++
    (match r.auth with
      | some a => [("auth", Json.Value.string a)]
      | none => []))

structure RpcError where
  code : Int
  message : String := ""
  data : String := ""
  deriving DecidableEq, Repr

structure RpcResponse where
  jsonrpc : Option String := none
  result : Option Json.Value := none
  error : Option RpcError := none
  id : Option Json.Value := none
  deriving Repr

def RpcResponse.intoResult (r : RpcResponse) : Except ProtocolError Json.Value :=
  match r.error with
  | some e => .error (.apiRequest e.code e.message e.data)
  | none => .ok (r.result.getD .null)

namespace Json

namespace Reader

def unexpectedNumber : Number → String
  | .nat n => s!"integer `{n}`"
  | .neg n => s!"integer `{n}`"
  | .float x => "floating point `" ++ Decimal.json x ++ "`"

/-- Reads the value at the cursor only to report that it is not of the `expected` kind. -/
def invalidType {α : Type} (expected : String) : Reader α := do
  let wrong := fun (what : String) => failHere ("invalid type: " ++ what ++ ", expected " ++ expected)
  match ← peek with
  | some 110 => do eat; ident [117, 108, 108]; wrong "null"
  | some 116 => do eat; ident [114, 117, 101]; wrong "boolean `true`"
  | some 102 => do eat; ident [97, 108, 115, 101]; wrong "boolean `false`"
  | some 45 => do eat; let n ← number false; wrong (unexpectedNumber n)
  | some 34 => do eat; let s ← string; wrong ("string " ++ Text.debugQuote s)
  | some 91 => wrong "sequence"
  | some 123 => wrong "map"
  | some b =>
    if (digit? b).isSome then do
      let n ← number true
      wrong (unexpectedNumber n)
    else failNext "expected value"
  | none => failNext "expected value"

def optional {α : Type} (r : Reader α) : Reader (Option α) := do
  match ← blanks with
  | some 110 => do eat; ident [117, 108, 108]; pure none
  | _ => some <$> r

def typedString : Reader String := do
  match ← blanks with
  | none => failNext "EOF while parsing a value"
  | some 34 => do eat; string
  | some _ => invalidType "a string"

def typedInt : Reader Int := do
  let got ← match ← blanks with
    | none => failNext "EOF while parsing a value"
    | some 45 => do eat; number false
    | some b => if (digit? b).isSome then number true else invalidType "i64"
  match got with
  | .nat n =>
    if n < Nat.pow 2 63 then pure n
    else failHere s!"invalid value: integer `{n}`, expected i64"
  | .neg n => pure n
  | .float x => failHere ("invalid type: floating point `" ++ Decimal.json x ++ "`, expected i64")

def skipString : Nat → Reader Unit
  | 0 => failHere "EOF while parsing a string"
  | fuel + 1 => do
    match ← peek with
    | none => failHere "EOF while parsing a string"
    | some 34 => eat
    | some 92 => do
      eat
      let b ← nextInString
      if b == 117 then do let _ ← hexEscape; skipString fuel
      else if [34, 92, 47, 98, 102, 110, 114, 116].contains b then skipString fuel
      else failHere "invalid escape"
    | some b =>
      if b < 32 then failHere "control character (\\u0000-\\u001F) found while parsing a string"
      else do eat; skipString fuel

def skipDigitRun : Nat → Bool → Reader Bool
  | 0, seen => pure seen
  | fuel + 1, seen => do
    match (← peek).bind digit? with
    | some _ => do eat; skipDigitRun fuel true
    | none => pure seen

def skipNumber : Reader Unit := do
  let fuel ← remaining
  match ← next with
  | none => failHere "invalid number"
  | some b =>
    match digit? b with
    | some 0 =>
      if ((← peek).bind digit?).isSome then failNext "invalid number" else pure ()
    | some _ => do let _ ← skipDigitRun fuel false
    | none => failHere "invalid number"
  if (← peek) == some 46 then do
    eat
    if !(← skipDigitRun fuel false) then failNext "invalid number"
  match ← peek with
  | some 101 | some 69 => do
    eat
    match ← peek with
    | some 43 | some 45 => eat
    | _ => pure ()
    match (← next).bind digit? with
    | some _ => do let _ ← skipDigitRun fuel false
    | none => failHere "invalid number"
  | _ => pure ()

def skipScalar : Reader (Option UInt8) := do
  match ← blanks with
  | none => failNext "EOF while parsing a value"
  | some 110 => do eat; ident [117, 108, 108]; pure none
  | some 116 => do eat; ident [114, 117, 101]; pure none
  | some 102 => do eat; ident [97, 108, 115, 101]; pure none
  | some 45 => do eat; skipNumber; pure none
  | some 34 => do eat; skipString (← remaining); pure none
  | some 91 => do eat; pure (some 91)
  | some 123 => do eat; pure (some 123)
  | some b => if (digit? b).isSome then do skipNumber; pure none else failNext "expected value"

/-- After a value inside the open containers `stack` (innermost first): closes what ends and
consumes the separator before the next value; the containers still open, or `none` when the
outermost has closed. -/
def skipClose : Nat → List UInt8 → Bool → Reader (Option (List UInt8))
  | 0, _, _ => failHere "EOF while parsing a value"
  | fuel + 1, stack, acceptComma => do
    match stack with
    | [] => pure none
    | frame :: outer =>
      match ← blanks with
      | some 44 =>
        if acceptComma then do eat; pure (some stack)
        else pure (some stack)
      | some 93 =>
        if frame == 91 then do eat; skipClose fuel outer true
        else if acceptComma then failNext "expected `,` or `\x7d`" else pure (some stack)
      | some 125 =>
        if frame == 123 then do eat; skipClose fuel outer true
        else if acceptComma then failNext "expected `,` or `]`" else pure (some stack)
      | some _ =>
        if acceptComma then
          failNext (if frame == 91 then "expected `,` or `]`" else "expected `,` or `\x7d`")
        else pure (some stack)
      | none =>
        failNext (if frame == 91 then "EOF while parsing a list" else "EOF while parsing an object")

def skipKey : Reader Unit := do
  match ← blanks with
  | some 34 => do eat; skipString (← remaining)
  | some _ => failNext "key must be a string"
  | none => failNext "EOF while parsing an object"
  match ← blanks with
  | some 58 => eat
  | some _ => failNext "expected `:`"
  | none => failNext "EOF while parsing an object"

def skipLoop : Nat → List UInt8 → Reader Unit
  | 0, _ => failHere "EOF while parsing a value"
  | fuel + 1, stack => do
    match ← skipScalar with
    | some frame =>
      -- an opened container: it may close at once
      match ← skipClose fuel (frame :: stack) false with
      | none => pure ()
      | some st =>
        match st with
        | f :: _ => do
          if f == 123 then skipKey
          skipLoop fuel st
        | [] => pure ()
    | none =>
      match ← skipClose fuel stack true with
      | none => pure ()
      | some st =>
        match st with
        | f :: _ => do
          if f == 123 then skipKey
          skipLoop fuel st
        | [] => pure ()

def skipValue : Reader Unit := do skipLoop (2 * (← remaining) + 2) []

/-- Finishes an object read as a structure: blanks, then its closing brace, or the failure
found there (returned, not raised, so the blanks stay consumed). -/
def endObjectSoft : Reader (Option ReadError) := do
  let at? := fun (msg : String) => fun (c : Cursor) =>
    Except.ok (some ({ message := msg, position := some (lineColumn c.bytes (min c.bytes.size (c.index + 1))) } : ReadError), c)
  match ← blanks with
  | some 125 => do eat; pure none
  | some 44 => at? "trailing comma"
  | some _ => at? "trailing characters"
  | none => at? "EOF while parsing an object"

def endArraySoft : Reader (Option ReadError) := do
  let at? := fun (msg : String) => fun (c : Cursor) =>
    Except.ok (some ({ message := msg, position := some (lineColumn c.bytes (min c.bytes.size (c.index + 1))) } : ReadError), c)
  match ← blanks with
  | some 93 => do eat; pure none
  | some 44 => do
    eat
    match ← blanks with
    | some 93 => at? "trailing comma"
    | _ => at? "trailing characters"
  | some _ => at? "trailing characters"
  | none => at? "EOF while parsing a list"

/-- The key of the next member of a structure (consuming the comma before it), or `none` at
its closing brace (not consumed). -/
def structKey (first : Bool) : Reader (Option String) := do
  match ← blanks with
  | some 125 => pure none
  | some 44 =>
    if first then failNext "key must be a string"
    else do
      eat
      match ← blanks with
      | some 34 => do eat; return some (← string)
      | some 125 => failNext "trailing comma"
      | some _ => failNext "key must be a string"
      | none => failNext "EOF while parsing a value"
  | some 34 => if first then do eat; return some (← string) else failNext "expected `,` or `\x7d`"
  | some _ => if first then failNext "key must be a string" else failNext "expected `,` or `\x7d`"
  | none => failNext "EOF while parsing an object"

def structColon : Reader Unit := do
  match ← blanks with
  | some 58 => eat
  | some _ => failNext "expected `:`"
  | none => failNext "EOF while parsing an object"

/-- Whether another element of a structure given as an array follows (consuming the comma
before it). -/
def structElement (first : Bool) : Reader Bool := do
  match ← blanks with
  | some 93 => pure false
  | some 44 =>
    if first then pure true
    else do
      eat
      match ← blanks with
      | some 93 => failNext "trailing comma"
      | some _ => pure true
      | none => failNext "EOF while parsing a value"
  | some _ => if first then pure true else failNext "expected `,` or `]`"
  | none => failNext "EOF while parsing a list"

/-- A structure read member by member: `step` reads the value of a known member (or skips an
unknown one), `finish` checks what is missing. A failure of `finish` or of a repeated member
takes the position at the end of the object. -/
structure Fields (σ : Type) where
  start : σ
  names : List String
  has : σ → String → Bool
  read : σ → String → Nat → Reader σ
  finish : σ → Except String σ

def structMembers {σ : Type} (fields : Fields σ) (depth : Nat) : Nat → Bool → σ → Reader (Except String σ)
  | 0, _, st => pure (.ok st)
  | fuel + 1, first, st => do
    match ← structKey first with
    | none => pure (fields.finish st)
    | some key =>
      if fields.names.contains key then
        if fields.has st key then pure (.error s!"duplicate field `{key}`")
        else do
          structColon
          let st ← fields.read st key depth
          structMembers fields depth fuel false st
      else do
        structColon
        skipValue
        structMembers fields depth fuel false st

def structElements {σ : Type} (fields : Fields σ) (depth : Nat) (what : String) :
    List String → Bool → σ → Nat → Reader (Except String σ)
  | [], _, st, _ => pure (.ok st)
  | key :: rest, first, st, n => do
    if ← structElement first then
      let st ← fields.read st key depth
      structElements fields depth what rest false st (n + 1)
    else
      match fields.finish st with
      | .ok st => pure (.ok st)
      | .error _ => pure (.error s!"invalid length {n}, expected {what}")

def typedStruct {σ : Type} (fields : Fields σ) (name : String) (depth : Nat) : Reader σ := do
  let what := s!"struct {name}"
  match ← blanks with
  | none => failNext "EOF while parsing a value"
  | some 123 =>
    if depth ≤ 1 then failNext "recursion limit exceeded"
    else do
      eat
      let r ← structMembers fields (depth - 1) (← remaining) true fields.start
      let close ← endObjectSoft
      match r, close with
      | .ok st, none => pure st
      | .ok _, some e => fun _ => .error e
      | .error msg, _ => failHere msg
  | some 91 =>
    if depth ≤ 1 then failNext "recursion limit exceeded"
    else do
      eat
      let r ← structElements fields (depth - 1) (what ++ s!" with {fields.names.length} elements")
        fields.names true fields.start 0
      let close ← endArraySoft
      match r, close with
      | .ok st, none => pure st
      | .ok _, some e => fun _ => .error e
      | .error msg, _ => failHere msg
  | some _ => invalidType what

def errorFields : Fields (Option Int × Option String × Option String) where
  start := (none, none, none)
  names := ["code", "message", "data"]
  has := fun (c, m, d) key => match key with
    | "code" => c.isSome
    | "message" => m.isSome
    | _ => d.isSome
  read := fun (c, m, d) key _ => match key with
    | "code" => do return (some (← typedInt), m, d)
    | "message" => do return (c, some (← typedString), d)
    | _ => do return (c, m, some (← typedString))
  finish := fun st => if st.1.isSome then .ok st else .error "missing field `code`"

def rpcError (depth : Nat) : Reader RpcError := do
  let (c, m, d) ← typedStruct errorFields "RpcError" depth
  pure ⟨c.getD 0, m.getD "", d.getD ""⟩

abbrev ResponseState :=
  Option (Option String) × Option (Option Value) × Option (Option RpcError) × Option (Option Value)

def responseFields : Fields ResponseState where
  start := (none, none, none, none)
  names := ["jsonrpc", "result", "error", "id"]
  has := fun (j, r, e, i) key => match key with
    | "jsonrpc" => j.isSome
    | "result" => r.isSome
    | "error" => e.isSome
    | _ => i.isSome
  read := fun (j, r, e, i) key depth => match key with
    | "jsonrpc" => do return (some (← optional typedString), r, e, i)
    | "result" => do
      return (j, some (← optional (do value (← remaining) depth)), e, i)
    | "error" => do return (j, r, some (← optional (rpcError depth)), i)
    | _ => do return (j, r, e, some (← optional (do value (← remaining) depth)))
  finish := .ok

end Reader

def readResponse (body : String) : Except ReadError RpcResponse :=
  runReader (do
    let (j, r, e, i) ← Reader.typedStruct Reader.responseFields "RpcResponse" Reader.depthLimit
    Reader.finish
    pure ⟨j.join, r.join, e.join, i.join⟩) (Utf8.encode body)

end Json

end MonitorWire
