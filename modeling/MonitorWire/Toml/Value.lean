import MonitorWire.Config.Decode

namespace MonitorWire

namespace Toml

open Config (Span)

/-- A TOML value with the place it was written. Tables also record how they came about:
`implicit` when only named as the parent of another table, `dotted` when made by a dotted
key. -/
inductive Value where
  | string (s : String) (span : Span)
  | integer (i : Int) (span : Span)
  | float (x : Binary64) (span : Span)
  | boolean (b : Bool) (span : Span)
  | datetime (raw : String) (span : Span)
  | array (items : List Value) (span : Span)
  | inline (members : List (String × Value)) (implicit dotted : Bool) (span : Span)
  | table (members : List (String × Value)) (implicit dotted : Bool) (span : Option Span)
  | tables (items : List Value) (span : Option Span)
  deriving Repr, Inhabited

namespace Value

def typeName : Value → String
  | string .. => "string"
  | integer .. => "integer"
  | float .. => "float"
  | boolean .. => "boolean"
  | datetime .. => "datetime"
  | array .. => "array"
  | inline .. => "inline table"
  | table .. => "table"
  | tables .. => "array of tables"

def span? : Value → Option Span
  | string _ s | integer _ s | float _ s | boolean _ s | datetime _ s | array _ s => some s
  | inline _ _ _ s => some s
  | table _ _ _ s | tables _ s => s

end Value

instance : Config.Source Value where
  shape
    | .string s _ => .string s
    | .integer i _ => .int i
    | .float x _ => .float (Decimal.withPoint x)
    | .boolean b _ => .bool b
    | .datetime raw _ => .map [("$__toml_private_datetime", .string raw (0, 0))]
    | .array items _ => .seq items
    | .inline members _ _ _ => .map members
    | .table members _ _ _ => .map members
    | .tables items _ => .seq items
  span v := v.span?
  exactLength := false

structure TomlError where
  message : String
  span : Option Span
  deriving DecidableEq, Repr

def byteLength (cs : List Char) : Nat := (cs.map Char.utf8Size).foldl (· + ·) 0

/-- The line (from 0) and column (from 0) of an offset. Past the end the column runs on from
the last character, counting characters; where the character at the offset is not a single
byte, the column counts the bytes before it on its line. -/
def position (cs : Array Char) (index : Nat) : Nat × Nat :=
  if cs.size == 0 then (0, index)
  else
    let safe := min index (cs.size - 1)
    let extra := index - safe
    let before := cs.toList.take safe
    let lineStart := match (before.zipIdx.filter (·.1 == '\n')).getLast? with
      | some (_, i) => i + 1
      | none => 0
    let line := ((cs.toList.take lineStart).filter (· == '\n')).length
    let column :=
      if extra > 0 || (cs[safe]?.map Char.utf8Size).getD 1 == 1 then safe - lineStart
      else byteLength ((cs.toList.drop lineStart).take (safe - lineStart))
    (line, column + extra)

def repeatChar (c : Char) (n : Nat) : String := String.ofList (List.replicate n c)

def TomlError.render (e : TomlError) (doc : String) : String :=
  match e.span with
  | none => e.message ++ "\n"
  | some (a, b) =>
    let cs := doc.toList.toArray
    let (line, column) := position cs a
    let lineNum := line + 1
    let gutter := (toString lineNum).length
    let content := ((doc.toList.splitOn '\n')[line]?).getD []
    let highlight := byteLength ((cs.toList.drop a).take (b - a))
    let highlight := min highlight (byteLength content - column)
    "TOML parse error at line " ++ toString lineNum ++ ", column " ++ toString (column + 1) ++
      "\n" ++ repeatChar ' ' (gutter + 1) ++ "|\n" ++ toString lineNum ++ " | " ++
      String.ofList content ++ "\n" ++ repeatChar ' ' (gutter + 1) ++ "|" ++
      repeatChar ' ' (column + 1) ++ repeatChar '^' (max 1 highlight) ++ "\n" ++ e.message ++ "\n"

end Toml

end MonitorWire
