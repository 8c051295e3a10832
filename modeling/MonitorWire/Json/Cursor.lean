import MonitorWire.Bytes.Utf8
import MonitorWire.Json.Value

namespace MonitorWire

namespace Json

/-- A failure to read JSON: its message and, when known, line and column. -/
structure ReadError where
  message : String
  position : Option (Nat × Nat) := none
  deriving Repr, Inhabited

def ReadError.text (e : ReadError) : String :=
  match e.position with
  | some (line, column) => s!"{e.message} at line {line} column {column}"
  | none => e.message

structure Cursor where
  bytes : Array UInt8
  index : Nat

abbrev Reader := StateT Cursor (Except ReadError)

/-- The line and column of a byte offset: lines counted from one, columns counting the bytes
since the last line break. -/
def lineColumn (bytes : Array UInt8) (i : Nat) : Nat × Nat :=
  (bytes.toList.take i).foldl (fun (acc : Nat × Nat) b =>
    if b == 10 then (acc.1 + 1, 0) else (acc.1, acc.2 + 1)) (1, 0)

namespace Reader

def peek : Reader (Option UInt8) := fun c => .ok (c.bytes[c.index]?, c)

def eat : Reader Unit := fun c => .ok ((), { c with index := c.index + 1 })

def next : Reader (Option UInt8) := fun c =>
  match c.bytes[c.index]? with
  | some b => .ok (some b, { c with index := c.index + 1 })
  | none => .ok (none, c)

def failHere {α : Type} (message : String) : Reader α := fun c =>
  .error { message, position := some (lineColumn c.bytes c.index) }

def failNext {α : Type} (message : String) : Reader α := fun c =>
  .error { message, position := some (lineColumn c.bytes (min c.bytes.size (c.index + 1))) }

def place (e : ReadError) : Reader ReadError := fun c =>
  match e.position with
  | some _ => .ok (e, c)
  | none => .ok ({ e with position := some (lineColumn c.bytes c.index) }, c)

def failPlaced {α : Type} (e : ReadError) : Reader α := do
  let e ← place e
  fun _ => .error e

def isBlank (b : UInt8) : Bool := b == 32 || b == 10 || b == 9 || b == 13

def skipBlanks : Nat → Reader (Option UInt8)
  | 0 => peek
  | fuel + 1 => do
    match ← peek with
    | some b => if isBlank b then do eat; skipBlanks fuel else pure (some b)
    | none => pure none

def remaining : Reader Nat := fun c => .ok (c.bytes.size - c.index + 1, c)

def blanks : Reader (Option UInt8) := do
  skipBlanks (← remaining)

def ident : List UInt8 → Reader Unit
  | [] => pure ()
  | b :: rest => do
    match ← next with
    | none => failHere "EOF while parsing a value"
    | some x => if x == b then ident rest else failHere "expected ident"

def digit? (b : UInt8) : Option Nat :=
  if 48 ≤ b.toNat ∧ b.toNat ≤ 57 then some (b.toNat - 48) else none

def hexDigit? (b : UInt8) : Option Nat :=
  Bytes.hexValue? (Char.ofNat b.toNat)

def hexDigits : Nat → Option Nat → Reader (Option Nat)
  | 0, n => pure n
  | k + 1, n => do
    let b ← next
    hexDigits k (do let acc ← n; let v ← b.bind hexDigit?; pure (16 * acc + v))

/-- Reads the four hexadecimal digits of a `\u` escape; all four are consumed before a bad
one is reported. -/
def hexEscape : Reader Nat := fun c =>
  if c.index + 4 > c.bytes.size then
    let c' := { c with index := c.bytes.size }
    .error { message := "EOF while parsing a string", position := some (lineColumn c'.bytes c'.index) }
  else (do
    match ← hexDigits 4 (some 0) with
    | some n => pure n
    | none => failHere "invalid escape") c

/-- The next byte, consumed; the end of the text is a failure inside a string. -/
def nextInString : Reader UInt8 := do
  match ← next with
  | some b => pure b
  | none => failHere "EOF while parsing a string"

/-- The next byte, not consumed; the end of the text is a failure inside a string. -/
def peekInString : Reader UInt8 := do
  match ← peek with
  | some b => pure b
  | none => failHere "EOF while parsing a string"

def escape (out : Array UInt8) : Reader (Array UInt8) := do
  let b ← nextInString
  if b == 34 then pure (out.push 34)
  else if b == 92 then pure (out.push 92)
  else if b == 47 then pure (out.push 47)
  else if b == 98 then pure (out.push 8)
  else if b == 102 then pure (out.push 12)
  else if b == 110 then pure (out.push 10)
  else if b == 114 then pure (out.push 13)
  else if b == 116 then pure (out.push 9)
  else if b == 117 then do
    let n ← hexEscape
    if 0xDC00 ≤ n ∧ n ≤ 0xDFFF then failHere "lone leading surrogate in hex escape"
    else if n < 0xD800 || n > 0xDBFF then
      pure (out ++ (Utf8.encodeChar (Char.ofNat n)).toArray)
    else do
      -- A leading surrogate must be followed by `\u` and a trailing surrogate.
      if (← peekInString) == 92 then eat else do eat; failHere "unexpected end of hex escape"
      if (← peekInString) == 117 then eat else do eat; failHere "unexpected end of hex escape"
      let n2 ← hexEscape
      if n2 < 0xDC00 || n2 > 0xDFFF then failHere "lone leading surrogate in hex escape"
      else
        let cp := ((n - 0xD800) * 1024 + (n2 - 0xDC00)) + 0x10000
        pure (out ++ (Utf8.encodeChar (Char.ofNat cp)).toArray)
  else failHere "invalid escape"

def stringBody : Nat → Array UInt8 → Reader String
  | 0, _ => failHere "EOF while parsing a string"
  | fuel + 1, out => do
    match ← next with
    | none => failHere "EOF while parsing a string"
    | some b =>
      if b == 34 then pure (Utf8.decodeLossy out.toList)
      else if b == 92 then do
        let out ← escape out
        stringBody fuel out
      else if b < 32 then failHere "control character (\\u0000-\\u001F) found while parsing a string"
      else stringBody fuel (out.push b)

def string : Reader String := do
  stringBody (← remaining) #[]

def u64Max : Nat := Nat.pow 2 64 - 1

def i32Max : Int := Nat.pow 2 31 - 1

def saturate (n : Int) : Int := max (-Nat.pow 2 31) (min i32Max n)

def overflows (sig d : Nat) : Bool := sig * 10 + d > u64Max

/-- `significand * 10 ^ exponent` as one rounded product or quotient of doubles, dividing by
`1e308` first while the exponent is below the table. -/
def fromParts (positive : Bool) (sig : Nat) (exponent : Int) : Reader Binary64 :=
  let rec go : Nat → Binary64 → Int → Reader Binary64
    | 0, f, _ => pure f
    | fuel + 1, f, e =>
      if e.natAbs ≤ 308 then
        if e ≥ 0 then
          let g := Binary64.mul f (Binary64.powTen e.toNat)
          if g.isInfinite then failHere "number out of range" else pure g
        else pure (Binary64.div f (Binary64.powTen e.natAbs))
      else if f.mantissa == 0 then pure f
      else if e ≥ 0 then failHere "number out of range"
      else go fuel (Binary64.div f (Binary64.powTen 308)) (e + 308)
  do
    let f ← go 16 (Binary64.ofNat sig) exponent
    pure (if positive then f else f.negate)

def skipDigits : Nat → Reader Unit
  | 0 => pure ()
  | fuel + 1 => do
    match ← peek with
    | some b => if (digit? b).isSome then do eat; skipDigits fuel else pure ()
    | none => pure ()

/-- The digits of an exponent after its first one; `none` once the value passes the 32-bit
range (the overflowing digit consumed). -/
def exponentDigits : Nat → Int → Reader (Option Int)
  | 0, e => pure (some e)
  | fuel + 1, e => do
    match (← peek).bind digit? with
    | some d => do
      eat
      if e * 10 + d > i32Max then pure none else exponentDigits fuel (e * 10 + d)
    | none => pure (some e)

def exponentPart (positive : Bool) (sig : Nat) (start : Int) : Reader Binary64 := do
  eat
  let positiveExp ← do
    match ← peek with
    | some 43 => do eat; pure true
    | some 45 => do eat; pure false
    | _ => pure true
  match ← next with
  | none => failHere "EOF while parsing a value"
  | some b =>
    match digit? b with
    | none => failHere "invalid number"
    | some d => do
      match ← exponentDigits (← remaining) d with
      | some e =>
        let final := if positiveExp then saturate (start + e) else saturate (start - e)
        fromParts positive sig final
      | none =>
        if sig != 0 && positiveExp then failHere "number out of range"
        else do
          skipDigits (← remaining)
          pure (if positive then Binary64.zero false else Binary64.zero true)

def atExponent : Reader Bool := do
  match ← peek with
  | some 101 | some 69 => pure true
  | _ => pure false

def finishOverflow (positive : Bool) (sig : Nat) (exponent : Int) : Reader Binary64 := do
  skipDigits (← remaining)
  if ← atExponent then exponentPart positive sig exponent else fromParts positive sig exponent

def fraction (positive : Bool) (sig : Nat) (before : Int) : Reader Binary64 := do
  eat
  let rec loop : Nat → Nat → Int → Reader (Nat × Int × Bool)
    | 0, s, k => pure (s, k, false)
    | fuel + 1, s, k => do
      match (← peek).bind digit? with
      | some d =>
        if overflows s d then pure (s, k, true)
        else do eat; loop fuel (s * 10 + d) (k - 1)
      | none => pure (s, k, false)
  let (s, after, tooBig) ← loop (← remaining) sig 0
  if tooBig then finishOverflow positive s (before + after)
  else if after == 0 then
    match ← peek with
    | some _ => failNext "invalid number"
    | none => failNext "EOF while parsing a value"
  else if ← atExponent then exponentPart positive s (before + after)
  else fromParts positive s (before + after)

def longInteger (positive : Bool) (sig : Nat) : Nat → Int → Reader Binary64
  | 0, e => fromParts positive sig e
  | fuel + 1, e => do
    match ← peek with
    | some b =>
      if (digit? b).isSome then do eat; longInteger positive sig fuel (e + 1)
      else if b == 46 then fraction positive sig e
      else if b == 101 || b == 69 then exponentPart positive sig e
      else fromParts positive sig e
    | none => fromParts positive sig e

def afterInteger (positive : Bool) (sig : Nat) : Reader Number := do
  match ← peek with
  | some 46 => return .float (← fraction positive sig 0)
  | some 101 | some 69 => return .float (← exponentPart positive sig 0)
  | _ =>
    if positive then pure (.nat sig)
    else if sig == 0 then pure (.float (Binary64.zero true))
    else if sig ≤ Nat.pow 2 63 then pure (.neg (-(sig : Int)))
    else pure (.float (Binary64.ofNat sig).negate)

def number (positive : Bool) : Reader Number := do
  match ← next with
  | none => failHere "EOF while parsing a value"
  | some b =>
    match digit? b with
    | some 0 =>
      match (← peek).bind digit? with
      | some _ => failNext "invalid number"
      | none => afterInteger positive 0
    | some d => do
      let rec loop : Nat → Nat → Reader Number
        | 0, s => afterInteger positive s
        | fuel + 1, s => do
          match (← peek).bind digit? with
          | some x =>
            if overflows s x then return .float (← longInteger positive s (← remaining) 0)
            else do eat; loop fuel (s * 10 + x)
          | none => afterInteger positive s
      loop (← remaining) d
    | none => failHere "invalid number"

end Reader

end Json

end MonitorWire
