import MonitorWire.Json.Cursor

namespace MonitorWire

namespace Json

namespace Reader

def depthLimit : Nat := 128

def colon : Reader Unit := do
  match ← blanks with
  | some 58 => eat
  | some _ => failNext "expected `:`"
  | none => failNext "EOF while parsing an object"

def endArray : Reader Unit := do
  match ← blanks with
  | some 93 => eat
  | some 44 => do
    eat
    match ← blanks with
    | some 93 => failNext "trailing comma"
    | _ => failNext "trailing characters"
  | some _ => failNext "trailing characters"
  | none => failNext "EOF while parsing a list"

def endObject : Reader Unit := do
  match ← blanks with
  | some 125 => eat
  | some 44 => failNext "trailing comma"
  | some _ => failNext "trailing characters"
  | none => failNext "EOF while parsing an object"

def moreItems (first : Bool) : Reader Bool := do
  match ← blanks with
  | none => failNext "EOF while parsing a list"
  | some 93 => pure false
  | some b =>
    if first then pure true
    else if b == 44 then do
      eat
      match ← blanks with
      | some 93 => failNext "trailing comma"
      | some _ => pure true
      | none => failNext "EOF while parsing a value"
    else failNext "expected `,` or `]`"

/-- The key of the next object member (consuming the comma before it), or `none` at the end. -/
def nextKey (first : Bool) : Reader (Option String) := do
  let start ← do
    match ← blanks with
    | some 125 => pure (none, true)
    | some 44 => if first then pure (some 44, false) else do eat; pure ((← blanks), false)
    | some b => if first then pure (some b, false) else failNext "expected `,` or `\x7d`"
    | none => failNext "EOF while parsing an object"
  if start.2 then pure none
  else
    match start.1 with
    | some 34 => do eat; return some (← string)
    | some 125 => failNext "trailing comma"
    | some _ => failNext "key must be a string"
    | none => failNext "EOF while parsing a value"

mutual

def value : Nat → Nat → Reader Value
  | 0, _ => failHere "EOF while parsing a value"
  | fuel + 1, depth => do
    match ← blanks with
    | none => failNext "EOF while parsing a value"
    | some b =>
      if b == 110 then do eat; ident [117, 108, 108]; pure .null
      else if b == 116 then do eat; ident [114, 117, 101]; pure (.bool true)
      else if b == 102 then do eat; ident [97, 108, 115, 101]; pure (.bool false)
      else if b == 45 then do eat; return .number (← number false)
      else if (digit? b).isSome then return .number (← number true)
      else if b == 34 then do eat; return .string (← string)
      else if b == 91 then
        if depth ≤ 1 then failNext "recursion limit exceeded"
        else do
          eat
          let xs ← items fuel (depth - 1) true []
          endArray
          pure (.array xs)
      else if b == 123 then
        if depth ≤ 1 then failNext "recursion limit exceeded"
        else do
          eat
          let fs ← members fuel (depth - 1) true []
          endObject
          pure (.object fs)
      else failNext "expected value"

def items : Nat → Nat → Bool → List Value → Reader (List Value)
  | 0, _, _, acc => pure acc
  | fuel + 1, depth, first, acc => do
    if ← moreItems first then
      let v ← value fuel depth
      items fuel depth false (acc ++ [v])
    else pure acc

def members : Nat → Nat → Bool → List (String × Value) → Reader (List (String × Value))
  | 0, _, _, acc => pure acc
  | fuel + 1, depth, first, acc => do
    match ← nextKey first with
    | none => pure acc
    | some key => do
      colon
      let v ← value fuel depth
      members fuel depth false (setField acc key v)

end

def finish : Reader Unit := do
  match ← blanks with
  | some _ => failNext "trailing characters"
  | none => pure ()

end Reader

def runReader {α : Type} (r : Reader α) (bytes : Bytes) : Except ReadError α :=
  (r.run ⟨bytes.toArray, 0⟩).map (·.1)

def parse (text : String) : Except ReadError Value :=
  let bytes := Utf8.encode text
  runReader (do
    let v ← Reader.value (2 * bytes.length + 4) Reader.depthLimit
    Reader.finish
    pure v) bytes

end Json

end MonitorWire
