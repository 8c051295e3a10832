import MonitorWire.Toml.Value
import MonitorWire.Decimal.Text

namespace MonitorWire

namespace Toml

open Config (Span)

/-- A failure: what is wrong, the offset, and whether it is soft. -/
structure Fault where
  message : String
  pos : Nat
  soft : Bool

abbrev Reader := ReaderT (Array Char) (StateT Nat (Except Fault))

def isWs (c : Char) : Bool := c == ' ' || c == '\t'

def isKeyChar (c : Char) : Bool := c.isAlphanum || c == '_' || c == '-'

def isCommentChar (c : Char) : Bool := c == '\t' || (0x20 ≤ c.toNat && c.toNat ≤ 0x7E) || c.toNat ≥ 0x80

def isBasicChar (c : Char) : Bool :=
  let n := c.toNat
  c == '\t' || n == 0x20 || n == 0x21 || (0x23 ≤ n && n ≤ 0x5B) || (0x5D ≤ n && n ≤ 0x7E) ||
    n ≥ 0x80

def isLiteralChar (c : Char) : Bool :=
  let n := c.toNat
  c == '\t' || (0x20 ≤ n && n ≤ 0x26) || (0x28 ≤ n && n ≤ 0x7E) || n ≥ 0x80

def isHexDigit (c : Char) : Bool := (Bytes.hexValue? c).isSome

def isOctDigit (c : Char) : Bool := '0' ≤ c && c ≤ '7'

def isBinDigit (c : Char) : Bool := c == '0' || c == '1'

/-- The end of the longest run of characters satisfying `p` from `i`, at most `fuel` long. -/
def scan (cs : Array Char) (p : Char → Bool) : Nat → Nat → Nat
  | 0, i => i
  | fuel + 1, i =>
    match cs[i]? with
    | some c => if p c then scan cs p fuel (i + 1) else i
    | none => i

/-- The end of digits with single underscores between them, from a digit at `i`; or, as an
error, the offset after an underscore that no digit follows. -/
def scanDigits (cs : Array Char) (isDigit : Char → Bool) : Nat → Nat → Except Nat Nat
  | 0, i => .ok i
  | fuel + 1, i =>
    match cs[i]? with
    | some c =>
      if isDigit c then scanDigits cs isDigit fuel (i + 1)
      else if c == '_' then
        match cs[i + 1]? with
        | some d => if isDigit d then scanDigits cs isDigit fuel (i + 2) else .error (i + 1)
        | none => .error (i + 1)
      else .ok i
    | none => .ok i

def spells (cs : Array Char) (i : Nat) (word : String) : Bool :=
  word.toList.zipIdx.all fun (c, k) => cs[i + k]? == some c

def digitsValue (radix : Nat) (ds : List Char) : Nat :=
  ds.foldl (fun acc d => if d == '_' then acc else acc * radix + (Bytes.hexValue? d).getD 0) 0

def slice (cs : Array Char) (a b : Nat) : List Char := (cs.toList.drop a).take (b - a)

namespace Reader

def peek : Reader (Option Char) := do return (← read)[← get]?

def peekAt (k : Nat) : Reader (Option Char) := do return (← read)[(← get) + k]?

def bump : Reader Unit := modify (· + 1)

def bumpBy (k : Nat) : Reader Unit := modify (· + k)

def fail {α : Type} (msg : String) : Reader α := do throw ⟨msg, ← get, false⟩

def failSoft {α : Type} (msg : String) : Reader α := do throw ⟨msg, ← get, true⟩

def failAt {α : Type} (p : Nat) (msg : String) : Reader α := throw ⟨msg, p, false⟩

def skipWhile (p : Char → Bool) : Reader Unit := do
  let cs ← read
  set (scan cs p cs.size (← get))

def ws : Reader Unit := skipWhile isWs

def comment : Reader Unit := do
  if (← peek) == some '#' then
    bump
    skipWhile isCommentChar

def newline : Reader Bool := do
  match ← peek with
  | some '\n' => bump; return true
  | some '\r' =>
    if (← peekAt 1) == some '\n' then
      bumpBy 2
      return true
    else return false
  | _ => return false

/-- Reads the line break that must come here: a line feed, or a carriage return and a line
feed. The character here is taken before it is judged, so a failure (soft, with no message)
falls just past it, or at the end of the text. -/
def lineBreak : Reader Unit := do
  match ← peek with
  | none => failSoft ""
  | some c =>
    bump
    if c == '\r' then
      if (← peek) == some '\n' then bump else failSoft ""
    else if c != '\n' then failSoft ""

/-- Skips blanks, comments and line breaks. A comment must end with a line break, and a
carriage return must start one; otherwise the skip fails where `lineBreak` does. -/
def wsCommentNewline : Nat → Reader Unit
  | 0 => pure ()
  | fuel + 1 => do
    ws
    match ← peek with
    | some '#' =>
      comment
      lineBreak
      wsCommentNewline fuel
    | some '\n' | some '\r' =>
      lineBreak
      wsCommentNewline fuel
    | _ => pure ()

def lineEnd : Reader Bool := do
  ws
  comment
  match ← peek with
  | none => return true
  | some _ => newline

def outOfRange : String := "value is out of range"

def hexScalar (n : Nat) (msg : String) : Reader Char := do
  let cs ← read
  let start ← get
  let stop := scan cs isHexDigit n start
  let v := digitsValue 16 (slice cs start stop)
  if stop - start != n then failAt start msg
  if !(v < 0xD800 || (0xE000 ≤ v && v ≤ 0x10FFFF)) then failAt start (msg ++ "\n" ++ outOfRange)
  set stop
  return Char.ofNat v

def badEscape : String :=
  "invalid escape sequence\nexpected `b`, `f`, `n`, `r`, `t`, `u`, `U`, `\\`, `\"`"

/-- Reads an escape sequence at a backslash. An unknown escape fails just after its letter;
a backslash at the end of the text fails at the backslash with `msg`, the string's own
error. -/
def escape (msg : String) : Reader Char := do
  let here ← get
  bump
  match ← peek with
  | some 'b' => bump; return Char.ofNat 8
  | some 'f' => bump; return Char.ofNat 12
  | some 'n' => bump; return '\n'
  | some 'r' => bump; return '\r'
  | some 't' => bump; return '\t'
  | some '\\' => bump; return '\\'
  | some '"' => bump; return '"'
  | some 'u' => bump; hexScalar 4 "invalid unicode 4-digit hex code"
  | some 'U' => bump; hexScalar 8 "invalid unicode 8-digit hex code"
  | some _ => bump; fail badEscape
  | none => failAt here msg

def basicBody : Nat → List Char → Reader String
  | 0, _ => fail "invalid basic string"
  | fuel + 1, acc => do
    match ← peek with
    | some '"' => bump; return String.ofList acc.reverse
    | some '\\' =>
      let c ← escape "invalid basic string"
      basicBody fuel (c :: acc)
    | some c =>
      if isBasicChar c then
        bump
        basicBody fuel (c :: acc)
      else fail "invalid basic string"
    | none => fail "invalid basic string"

def quoteRun (q : Char) : Reader Nat := do
  let cs ← read
  let start ← get
  return scan cs (· == q) cs.size start - start

def mlBasicBody : Nat → List Char → Reader String
  | 0, _ => fail "invalid multiline basic string"
  | fuel + 1, acc => do
    let msg := "invalid multiline basic string"
    match ← peek with
    | some '"' =>
      let n ← quoteRun '"'
      if n ≥ 3 then
        let extra := min (n - 3) 2
        bumpBy (3 + extra)
        return String.ofList (acc.reverse ++ List.replicate extra '"')
      else if (← peekAt n).isNone then fail msg
      else
        bumpBy n
        mlBasicBody fuel (List.replicate n '"' ++ acc)
    | some '\\' =>
      let save ← get
      bump
      ws
      if ← newline then
        wsCommentNewlineBlank fuel
        mlBasicBody fuel acc
      else
        set save
        let c ← escape msg
        mlBasicBody fuel (c :: acc)
    | some c =>
      if ← newline then mlBasicBody fuel ('\n' :: acc)
      else if isBasicChar c then
        bump
        mlBasicBody fuel (c :: acc)
      else fail msg
    | none => fail msg
where
  wsCommentNewlineBlank : Nat → Reader Unit
    | 0 => pure ()
    | k + 1 => do
      ws
      if ← newline then wsCommentNewlineBlank k else pure ()

def literalBody : Reader String := do
  let cs ← read
  let start ← get
  let stop := scan cs isLiteralChar cs.size start
  set stop
  if (← peek) == some '\'' then
    bump
    return String.ofList (slice cs start stop)
  else fail "invalid literal string"

def mlLiteralBody : Nat → List Char → Reader String
  | 0, _ => fail "invalid multiline literal string"
  | fuel + 1, acc => do
    let msg := "invalid multiline literal string"
    match ← peek with
    | some '\'' =>
      let n ← quoteRun '\''
      if n ≥ 3 then
        let extra := min (n - 3) 2
        bumpBy (3 + extra)
        return String.ofList (acc.reverse ++ List.replicate extra '\'')
      else if (← peekAt n).isNone then fail msg
      else
        bumpBy n
        mlLiteralBody fuel (List.replicate n '\'' ++ acc)
    | some c =>
      if ← newline then mlLiteralBody fuel ('\n' :: acc)
      else if isLiteralChar c then
        bump
        mlLiteralBody fuel (c :: acc)
      else fail msg
    | none => fail msg

def string : Reader String := do
  let cs ← read
  let size := cs.size + 1
  match ← peek with
  | some '"' =>
    if (← peekAt 1) == some '"' && (← peekAt 2) == some '"' then
      bumpBy 3
      let _ ← newline
      mlBasicBody size []
    else
      bump
      basicBody size []
  | _ =>
    if (← peekAt 1) == some '\'' && (← peekAt 2) == some '\'' then
      bumpBy 3
      let _ ← newline
      mlLiteralBody size []
    else
      bump
      literalBody

def simpleKey : Reader (String × Span) := do
  let start ← get
  match ← peek with
  | some '"' =>
    bump
    let s ← basicBody ((← read).size + 1) []
    return (s, (start, ← get))
  | some '\'' =>
    bump
    let s ← literalBody
    return (s, (start, ← get))
  | _ =>
    skipWhile isKeyChar
    let stop ← get
    if stop == start then failSoft "invalid key"
    return (String.ofList (slice (← read) start stop), (start, stop))

def depthLimit : Nat := 80

def tooDeep : String := "recursion limit exceeded"

/-- Runs a reader; a soft failure gives `none` and leaves the offset where it was. -/
def attempt {α : Type} (r : Reader α) : Reader (Option α) := do
  let start ← get
  tryCatch (some <$> r) fun f => if f.soft then do set start; pure none else throw f

/-- Reads the parts of a key after its first, each after a dot (at the offset), with blanks
around each. A part that does not start after a dot ends the key before that dot. -/
def keyParts : Nat → List (String × Span) → Reader (List (String × Span))
  | 0, acc => return acc.reverse
  | fuel + 1, acc => do
    let dot ← get
    bump
    ws
    match ← attempt simpleKey with
    | none =>
      set dot
      return acc.reverse
    | some k =>
      ws
      if (← peek) == some '.' then keyParts fuel (k :: acc) else return (k :: acc).reverse

/-- Reads a key: its parts separated by dots, with blanks around each; a key of
`depthLimit` parts or more is refused where it starts. -/
def key : Reader (List (String × Span)) := do
  let start ← get
  ws
  let k ← simpleKey
  ws
  let keys ← if (← peek) == some '.' then keyParts ((← read).size + 1) [k] else pure [k]
  if keys.length ≥ depthLimit then failAt start tooDeep
  return keys

def twoDigits (cs : Array Char) (i : Nat) : Option Nat :=
  match cs[i]?, cs[i + 1]? with
  | some a, some b =>
    if a.isDigit && b.isDigit then some ((a.toNat - 48) * 10 + (b.toNat - 48)) else none
  | _, _ => none

def daysIn (year month : Nat) : Nat :=
  if month == 2 then
    if year % 4 == 0 && (year % 100 != 0 || year % 400 == 0) then 29 else 28
  else if month == 4 || month == 6 || month == 9 || month == 11 then 30
  else 31

/-- The failure of a date or time at `p`, naming what was being read, with the cause when a
number is out of its range. -/
def dateFault (what : String) (p : Nat) (range : Bool) : Fault :=
  ⟨"invalid " ++ what ++ (if range then "\n" ++ outOfRange else ""), p, false⟩

def hourAt (cs : Array Char) (i : Nat) : Option Nat :=
  (twoDigits cs i).filter (· ≤ 23)

/-- Reads the minutes, the seconds and an optional fraction of a time from `i`, just after
the hour and its colon; `what` names the value for a failure. Returns where the time ends. -/
def timeTail (cs : Array Char) (what : String) (i : Nat) : Except Fault Nat :=
  match twoDigits cs i with
  | none => .error (dateFault what i false)
  | some m =>
    if m > 59 then .error (dateFault what i true)
    else if cs[i + 2]? != some ':' then .error (dateFault what (i + 2) false)
    else
      match twoDigits cs (i + 3) with
      | none => .error (dateFault what (i + 3) false)
      | some sec =>
        if sec > 60 then .error (dateFault what (i + 3) true)
        else
          let e := i + 5
          if cs[e]? == some '.' && (cs[e + 1]?.map Char.isDigit).getD false then
            .ok (scan cs Char.isDigit cs.size (e + 1))
          else .ok e

def offsetAt (cs : Array Char) (j : Nat) : Except Fault Nat :=
  let what := "time offset"
  match cs[j]? with
  | some 'Z' | some 'z' => .ok (j + 1)
  | some '+' | some '-' =>
    match twoDigits cs (j + 1) with
    | none => .error (dateFault what (j + 1) false)
    | some h =>
      if h > 23 then .error (dateFault what (j + 1) true)
      else if cs[j + 3]? != some ':' then .error (dateFault what (j + 3) false)
      else
        match twoDigits cs (j + 4) with
        | none => .error (dateFault what (j + 4) false)
        | some m => if m > 59 then .error (dateFault what (j + 4) true) else .ok (j + 6)
  | _ => .ok j

/-- Reads a date, a date and time, or a time, starting at `i`: where it ends, `none` if none
starts there, or the failure of one that starts but does not read.

A date is a year of four digits and a dash, then (past the point of no return) a month, a
dash and a day valid for that month; a time may follow after `T`, `t` or a blank if an hour
and a colon start it, and then an offset. A time alone is an hour and a colon, then minutes,
seconds and a fraction. -/
def dateTimeEnd (cs : Array Char) (i : Nat) : Except Fault (Option Nat) :=
  let what := "date-time"
  let isDigit := fun (j : Nat) => (cs[j]?.map Char.isDigit).getD false
  if isDigit i && isDigit (i + 1) && isDigit (i + 2) && isDigit (i + 3) && cs[i + 4]? == some '-' then
    let year := digitsValue 10 (slice cs i (i + 4))
    match twoDigits cs (i + 5) with
    | none => .error (dateFault what (i + 5) false)
    | some month =>
      if month < 1 || month > 12 then .error (dateFault what (i + 5) true)
      else if cs[i + 7]? != some '-' then .error (dateFault what (i + 7) false)
      else
        match twoDigits cs (i + 8) with
        | none => .error (dateFault what (i + 8) false)
        | some day =>
          if day < 1 || day > 31 || day > daysIn year month then .error (dateFault what (i + 8) true)
          else
            let e := i + 10
            let delim := cs[e]? == some 'T' || cs[e]? == some 't' || cs[e]? == some ' '
            if delim && (hourAt cs (e + 1)).isSome && cs[e + 3]? == some ':' then do
              let t ← timeTail cs what (e + 4)
              let o ← offsetAt cs t
              pure (some o)
            else .ok (some e)
  else if (hourAt cs i).isSome && cs[i + 2]? == some ':' then do
    let t ← timeTail cs "time" (i + 3)
    pure (some t)
  else .ok none

def number : Reader Value := do
  let cs ← read
  let start ← get
  let at1 := cs[start + 1]?
  -- a date or a time
  if (cs[start]?.map Char.isDigit).getD false then
    match dateTimeEnd cs start with
    | .error f => throw f
    | .ok (some stop) =>
      set stop
      return .datetime (String.ofList (slice cs start stop)) (start, stop)
    | .ok none => pure ()
  -- a special float
  let afterSign := if cs[start]? == some '+' || cs[start]? == some '-' then start + 1 else start
  if spells cs afterSign "inf" || spells cs afterSign "nan" then
    let stop := afterSign + 3
    set stop
    let x := (Binary64.parse? (String.ofList (slice cs start stop))).getD Binary64.nan
    return .float x (start, stop)
  -- the integer part of a decimal number
  let intEnd : Option Nat ← match cs[afterSign]? with
    | some '0' => pure (some (afterSign + 1))
    | some c =>
      if c.isDigit then
        match scanDigits cs Char.isDigit cs.size (afterSign + 1) with
        | .ok e => pure (some e)
        | .error p => failAt p "invalid integer\nexpected digit"
      else pure none
    | none => pure none
  -- a float: a fraction, an exponent, or both
  -- a fraction must start with a digit, and so must a digit group after an underscore; an
  -- exponent must start with a digit too, but that failure names no expected digit
  let floatMsg := "invalid floating-point number"
  let digitMsg := floatMsg ++ "\nexpected digit"
  let exponent := fun (j : Nat) => do
    let k := if cs[j + 1]? == some '+' || cs[j + 1]? == some '-' then j + 2 else j + 1
    if !((cs[k]?.map Char.isDigit).getD false) then failAt k floatMsg
    match scanDigits cs Char.isDigit cs.size k with
    | .ok e => pure e
    | .error p => failAt p digitMsg
  let floatEnd : Option Nat ← match intEnd with
    | none => pure none
    | some j =>
      if cs[j]? == some '.' then
        if !((cs[j + 1]?.map Char.isDigit).getD false) then failAt (j + 1) digitMsg
        let k ← match scanDigits cs Char.isDigit cs.size (j + 1) with
          | .ok e => pure e
          | .error p => failAt p (digitMsg ++ ", digit")
        if cs[k]? == some 'e' || cs[k]? == some 'E' then some <$> exponent k else pure (some k)
      else if cs[j]? == some 'e' || cs[j]? == some 'E' then some <$> exponent j
      else pure none
  if let some stop := floatEnd then
    set stop
    let text := (slice cs start stop).filter (· != '_')
    let x := (Binary64.parse? (String.ofList text)).getD Binary64.nan
    -- a value too large for a double is refused, unless negative
    if x.isInfinite && !x.negative then failAt start "invalid floating-point number"
    return .float x (start, stop)
  -- an integer in another radix
  let radix := if cs[start]? == some '0' then
      match at1 with
      | some 'x' => some (16, isHexDigit, "hexadecimal")
      | some 'o' => some (8, isOctDigit, "octal")
      | some 'b' => some (2, isBinDigit, "binary")
      | _ => none
    else none
  let tooLarge := "number too large to fit in target type"
  match radix with
  | some (r, isDigit, name) =>
    let msg := "invalid " ++ name ++ " integer"
    if !((cs[start + 2]?.map isDigit).getD false) then failAt (start + 2) msg
    let stop ← match scanDigits cs isDigit cs.size (start + 2) with
      | .ok e => pure e
      | .error p => failAt p (msg ++ "\nexpected digit")
    let v := digitsValue r (slice cs (start + 2) stop)
    if v ≥ Nat.pow 2 63 then failAt start tooLarge
    set stop
    return .integer v (start, stop)
  | none =>
    match intEnd with
    | none =>
      set afterSign
      failSoft "invalid integer"
    | some stop =>
      let magnitude := digitsValue 10 (slice cs afterSign stop)
      let v : Int := if cs[start]? == some '-' then -(magnitude : Int) else magnitude
      if v ≥ Nat.pow 2 63 then failAt start tooLarge
      if v < -(Nat.pow 2 63) then failAt start "number too small to fit in target type"
      set stop
      return .integer v (start, stop)

def notAValue : String := "invalid string\nexpected `\"`, `'`"

/-- Reads a word value (`true`, `false`, `inf`, `nan`) at its first letter. A `t` or an `f`
commits to a boolean, so a misspelt one fails outright; a misspelt `inf` or `nan` fails
softly. -/
def word : Reader Value := do
  let cs ← read
  let start ← get
  match cs[start]? with
  | some 't' =>
    if spells cs start "true" then
      bumpBy 4
      return .boolean true (start, start + 4)
    else fail notAValue
  | some 'f' =>
    if spells cs start "false" then
      bumpBy 5
      return .boolean false (start, start + 5)
    else fail notAValue
  | _ => if spells cs start "inf" || spells cs start "nan" then number else failSoft notAValue

def hexFour (n : Nat) : String :=
  String.ofList ((List.range 4).reverse.map fun k =>
    let d := n / Nat.pow 16 k % 16
    Char.ofNat (if d < 10 then 48 + d else 55 + d))

def quotedKeyChar (c : Char) : String :=
  match c.toNat with
  | 8 => "\\b"
  | 9 => "\\t"
  | 10 => "\\n"
  | 12 => "\\f"
  | 13 => "\\r"
  | 34 => "\\\""
  | 92 => "\\\\"
  | n => if n < 0x20 || n == 0x7F then "\\u" ++ hexFour n else c.toString

/-- A key as a document writes it by default: bare when it is made only of bare-key
characters; between single quotes when it holds a double quote or a backslash (which would
need escapes) and no single quote or control character; else between double quotes, with
escapes. -/
def keyRepr (key : String) : String :=
  let cs := key.toList
  let isControl := fun (c : Char) => (c.toNat < 0x20 && c != '\t') || c.toNat == 0x7F
  if !cs.isEmpty && cs.all isKeyChar then key
  else if cs.any (fun c => c == '"' || c == '\\') && !cs.contains '\'' && !cs.any isControl then
    "'" ++ key ++ "'"
  else "\"" ++ String.join (cs.map quotedKeyChar) ++ "\""

def duplicateIn (key : String) (path : List String) : String :=
  if path.isEmpty then "duplicate key `" ++ key ++ "` in document root"
  else "duplicate key `" ++ key ++ "` in table `" ++ ".".intercalate path ++ "`"

def extendsValue (path : List String) (v : Value) : String :=
  "dotted key `" ++ ".".intercalate path ++ "` attempted to extend non-table type (" ++
    v.typeName ++ ")"

def inlineInsert (whole : List String) (key : String) (v : Value) :
    Nat → Bool → List (String × Span) → List (String × Value) →
      Except String (List (String × Value))
  | _, here, [], ms =>
    if here == whole.isEmpty then .error ("duplicate key `" ++ key ++ "`")
    else if (ms.lookup key).isSome then .error ("duplicate key `" ++ key ++ "`")
    else .ok (ms ++ [(key, v)])
  | i, _, (k, sp) :: rest, ms =>
    match ms.lookup k with
    | none => do
      let inner ← inlineInsert whole key v (i + 1) true rest []
      pure (ms ++ [(k, .inline inner true true sp)])
    | some (.inline inner imp dot span) => do
      if !imp then throw ("duplicate key `" ++ k ++ "`")
      let inner ← inlineInsert whole key v (i + 1) dot rest inner
      pure (ms.map fun (k', v') => if k' == k then (k, .inline inner imp dot span) else (k', v'))
    | some other => .error (extendsValue (whole.take (i + 1)) other)

def inlineTable (pairs : List (List (String × Span) × Value)) :
    Except String (List (String × Value)) :=
  pairs.foldlM (fun ms (keys, v) =>
    match keys.getLast? with
    | some (key, _) =>
      let path := keys.dropLast
      inlineInsert (path.map (·.1)) key v 0 false path ms
    | none => .ok ms) []

mutual

/-- Reads a value inside `depth` arrays and inline tables; opening one more at the depth
limit is refused at its bracket. -/
def value : Nat → Nat → Reader Value
  | 0, _ => fail "invalid value"
  | fuel + 1, depth => do
    let start ← get
    match ← peek with
    | none => failSoft ""
    | some '"' | some '\'' =>
      let s ← string
      return .string s (start, ← get)
    | some '[' =>
      if depth + 1 ≥ depthLimit then fail tooDeep
      bump
      arrayBody fuel (depth + 1) start
    | some '{' =>
      if depth + 1 ≥ depthLimit then fail tooDeep
      bump
      ws
      if (← peek) == some '}' then
        bump
        return .inline [] false false (start, ← get)
      inlineMembers fuel (depth + 1) start true []
    | some c =>
      if c == '+' || c == '-' || c.isDigit then number
      else if c == 't' || c == 'f' || c == 'i' || c == 'n' then word
      else if c == '_' then failSoft "invalid integer\nexpected leading digit"
      else if c == '.' then failSoft "invalid floating-point number\nexpected leading digit"
      else failSoft notAValue

/-- Reads an item of an array with the blanks, comments and line breaks around it; `none`
when it fails softly, leaving the offset where it was. -/
def arrayItem : Nat → Nat → Reader (Option Value)
  | 0, _ => pure none
  | fuel + 1, depth => attempt do
    let size := (← read).size + 1
    wsCommentNewline size
    let v ← value fuel depth
    wsCommentNewline size
    pure v

/-- Reads the items of an array after its first, each after a comma; one that fails softly
ends the items before its comma. -/
def arrayMore : Nat → Nat → List Value → Reader (List Value)
  | 0, _, acc => pure acc.reverse
  | fuel + 1, depth, acc => do
    let comma ← get
    if (← peek) == some ',' then
      bump
      match ← arrayItem fuel depth with
      | some v => arrayMore fuel depth (v :: acc)
      | none =>
        set comma
        pure acc.reverse
    else pure acc.reverse

/-- Reads the items of an array after its opening bracket, and its closing bracket. The
items are separated by commas, and a comma may follow the last; if the first item fails
softly there are none. Blanks, comments and line breaks may follow, and fail outright where
they do not read; then the closing bracket must come. -/
def arrayBody : Nat → Nat → Nat → Reader Value
  | 0, _, _ => fail "invalid array\nexpected `]`"
  | fuel + 1, depth, start => do
    let items ← match ← arrayItem fuel depth with
      | none => pure []
      | some v => do
        let vs ← arrayMore fuel depth [v]
        if (← peek) == some ',' then bump
        pure vs
    tryCatch (wsCommentNewline ((← read).size + 1)) fun f => throw { f with soft := false }
    if (← peek) == some ']' then
      bump
      return .array items (start, ← get)
    else fail "invalid array\nexpected `]`"

/-- Reads the pairs of an inline table after its opening brace; `first` tells whether no
pair has been read yet. -/
def inlineMembers : Nat → Nat → Nat → Bool → List (List (String × Span) × Value) → Reader Value
  | 0, _, _, _, _ => fail "invalid inline table\nexpected `\x7d`"
  | fuel + 1, depth, start, first, acc => do
    let close := "invalid inline table\nexpected `\x7d`"
    let pairStart ← get
    let keys ← tryCatch key fun f =>
      if f.soft then
        if first then do
          set pairStart
          ws
          fail close
        else failAt (pairStart - 1) close
      else throw f
    if (← peek) == some '=' then bump else fail "expected `.`, `=`"
    ws
    let v ← tryCatch (value fuel depth) fun f => throw { f with soft := false }
    ws
    let acc := (keys, v) :: acc
    match ← peek with
    | some ',' =>
      bump
      inlineMembers fuel depth start false acc
    | some '}' =>
      bump
      match inlineTable acc.reverse with
      | .ok ms => return .inline ms false false (start, ← get)
      | .error m => failAt (start + 1) m
    | _ => fail close

end

end Reader

structure Doc where
  root : List (String × Value) := []
  current : List (String × Value) := []
  currentSpan : Option Span := none
  path : List (String × Span) := []
  isArray : Bool := false

def replaceMember (k : String) (v : Value) (ms : List (String × Value)) : List (String × Value) :=
  ms.map fun (k', v') => if k' == k then (k, v) else (k', v')

/-- Applies `f` to the members of the table at the end of `path` below `ms`, creating the
tables on the way as implied ones (made by dotted keys if `dotted`) and entering the last
table of an array of tables. `f` is told whether the table it gets was made by dotted keys. -/
def descend {β : Type} (dotted : Bool) (whole : List String)
    (f : Bool → List (String × Value) → Except String (List (String × Value) × β)) :
    Nat → Bool → List (String × Span) → List (String × Value) →
      Except String (List (String × Value) × β)
  | _, here, [], ms => f here ms
  | i, _, (k, sp) :: rest, ms =>
    match ms.lookup k with
    | none => do
      let (inner, b) ← descend dotted whole f (i + 1) dotted rest []
      pure (ms ++ [(k, .table inner true dotted (some sp))], b)
    | some (.table inner imp dot span) => do
      if dotted && !imp then throw ("duplicate key `" ++ k ++ "`")
      let (inner, b) ← descend dotted whole f (i + 1) dot rest inner
      pure (replaceMember k (.table inner imp dot span) ms, b)
    | some (.tables items span) =>
      match items.getLast? with
      | some (.table inner imp dot tspan) => do
        let (inner, b) ← descend dotted whole f (i + 1) dot rest inner
        pure (replaceMember k (.tables (items.dropLast ++ [.table inner imp dot tspan]) span) ms, b)
      | _ => .error ("duplicate key `" ++ k ++ "`")
    | some other => .error (Reader.extendsValue (whole.take (i + 1)) other)

namespace Doc

def addPair (d : Doc) (keys : List (String × Span)) (v : Value) : Except String Doc :=
  match keys.getLast? with
  | none => .ok d
  | some (key, _) =>
    let path := keys.dropLast
    let span := match d.currentSpan, v.span? with
      | some (a, _), some (_, b) => some (a, b)
      | s, _ => s
    let insert := fun (here : Bool) (ms : List (String × Value)) =>
      if here == path.isEmpty then Except.error ("duplicate key `" ++ key ++ "`")
      else if (ms.lookup key).isSome then .error (Reader.duplicateIn key (d.path.map (·.1)))
      else .ok (ms ++ [(key, v)], ())
    match descend true (keys.map (·.1)) insert 0 false path d.current with
    | .ok (current, _) => .ok { d with current := current, currentSpan := span }
    | .error e => .error e

def finish (d : Doc) : Except String Doc :=
  match d.path.getLast? with
  | none => .ok { d with root := d.current, current := [], currentSpan := none }
  | some (key, keySpan) =>
    let parent := d.path.dropLast
    let parentNames := parent.map (·.1)
    let table := Value.table d.current false false d.currentSpan
    let place := fun (_ : Bool) (ms : List (String × Value)) =>
      if d.isArray then
        match ms.lookup key with
        | none => Except.ok (ms ++ [(key, .tables [table] (some keySpan))], ())
        | some (.tables items sp) => .ok (replaceMember key (.tables (items ++ [table]) sp) ms, ())
        | some _ => .error (Reader.duplicateIn (Reader.keyRepr key) parentNames)
      else
        match ms.lookup key with
        | none => .ok (ms ++ [(key, table)], ())
        | some (.table _ true _ _) => .ok (replaceMember key table ms, ())
        | some _ => .error (Reader.duplicateIn (Reader.keyRepr key) parentNames)
    match descend false (d.path.map (·.1)) place 0 false parent d.root with
    | .ok (root, _) =>
      .ok { root := root, current := [], currentSpan := none, path := [], isArray := false }
    | .error e => .error e

def startTable (d : Doc) (keys : List (String × Span)) (span : Span) : Except String Doc :=
  match keys.getLast? with
  | none => .ok d
  | some (key, _) =>
    let parent := keys.dropLast
    let parentNames := parent.map (·.1)
    let take := fun (_ : Bool) (ms : List (String × Value)) =>
      match ms.lookup key with
      | none => Except.ok (ms, [])
      | some (.table inner true false _) => .ok (ms.filter (·.1 != key), inner)
      | some _ => .error (Reader.duplicateIn (Reader.keyRepr key) parentNames)
    match descend false (keys.map (·.1)) take 0 false parent d.root with
    | .ok (root, current) =>
      let d : Doc := { root := root, current := current, currentSpan := some span, path := keys }
      .ok d
    | .error e => .error e

def startArrayTable (d : Doc) (keys : List (String × Span)) (span : Span) :
    Except String Doc :=
  match keys.getLast? with
  | none => .ok d
  | some (key, keySpan) =>
    let parent := keys.dropLast
    let parentNames := parent.map (·.1)
    let make := fun (_ : Bool) (ms : List (String × Value)) =>
      match ms.lookup key with
      | none => Except.ok (ms ++ [(key, .tables [] (some keySpan))], ())
      | some (.tables _ _) => .ok (ms, ())
      | some _ => .error (Reader.duplicateIn (Reader.keyRepr key) parentNames)
    match descend false (keys.map (·.1)) make 0 false parent d.root with
    | .ok (root, _) =>
      .ok { root := root, current := [], currentSpan := some span, path := keys, isArray := true }
    | .error e => .error e

end Doc

namespace Reader

def header (d : Doc) : Reader Doc := do
  let start ← get
  let isArray := (← peekAt 1) == some '['
  bumpBy (if isArray then 2 else 1)
  let keys ← key
  if isArray then
    if (← peek) == some ']' && (← peekAt 1) == some ']' then bumpBy 2
    else fail "invalid table header\nexpected `.`, `]]`"
  else
    if (← peek) == some ']' then bump
    else fail "invalid table header\nexpected `.`, `]`"
  let span := (start, ← get)
  if !(← lineEnd) then fail "invalid table header\nexpected newline, `#`"
  let started := do
    let d ← d.finish
    if isArray then d.startArrayTable keys span else d.startTable keys span
  match started with
  | .ok d => return d
  | .error m => failAt start ("invalid table header\n" ++ m)

def pair (d : Doc) : Reader Doc := do
  let start ← get
  let keys ← key
  if (← peek) == some '=' then bump else fail "expected `.`, `=`"
  ws
  let v ← value (4 * (← read).size + 4) 0
  if !(← lineEnd) then fail "expected newline, `#`"
  match d.addPair keys v with
  | .ok d => return d
  | .error m => failAt start m

def lines : Nat → Doc → Reader Doc
  | 0, d => pure d
  | fuel + 1, d => do
    ws
    match ← peek with
    | none => pure d
    | some '#' =>
      comment
      if (← peek).isNone then pure d
      else if ← newline then lines fuel d
      else fail ""
    | some '\n' =>
      bump
      lines fuel d
    | some '\r' =>
      if ← newline then lines fuel d else fail ""
    | some '[' => lines fuel (← header d)
    | some _ => lines fuel (← pair d)

end Reader

def parse (text : String) : Except TomlError Value :=
  let cs := text.toList.toArray
  let start := if cs[0]? == some (Char.ofNat 0xFEFF) then 1 else 0
  match ((Reader.lines (cs.size + 1) {}).run cs).run start with
  | .error f => .error ⟨f.message, some (f.pos, if f.pos < cs.size then f.pos + 1 else f.pos)⟩
  | .ok (d, _) =>
    match d.finish with
    | .ok d => .ok (.table d.root false false none)
    | .error m => .error ⟨m, none⟩

end Toml

end MonitorWire
