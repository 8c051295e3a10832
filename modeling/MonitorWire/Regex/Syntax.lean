import MonitorWire.Regex.CharSet

namespace MonitorWire

namespace Regex

/-- Zero-width assertions. The word assertions look at word characters in the Unicode sense,
or at ASCII word characters only (`[0-9A-Za-z_]`) when `ascii` is set. -/
inductive Look where
  | start
  | finish
  | startLine
  | endLine
  | startLineCrlf
  | endLineCrlf
  | wordBoundary (ascii : Bool)
  | notWordBoundary (ascii : Bool)
  | wordStart (ascii : Bool)
  | wordEnd (ascii : Bool)
  | wordStartHalf (ascii : Bool)
  | wordEndHalf (ascii : Bool)
  deriving DecidableEq, Repr

inductive Pattern where
  | empty
  | literal (cs : List Char)
  /-- One character from the set; the empty set never matches. -/
  | chars (s : CharSet)
  | look (l : Look)
  | capture (index : Nat) (body : Pattern)
  | concat (items : List Pattern)
  | alt (branches : List Pattern)
  | rep (min : Nat) (max : Option Nat) (greedy : Bool) (body : Pattern)
  deriving Repr, Inhabited, BEq

abbrev Span := Nat × Nat

structure SyntaxError where
  message : String
  span : Span
  aux : Option Span := none
  deriving DecidableEq, Repr

namespace SyntaxError

def position (pattern : List Char) (offset : Nat) : Nat × Nat :=
  let before := pattern.take offset
  let line := (before.filter (· == '\n')).length + 1
  let column := (before.reverse.takeWhile (· != '\n')).length + 1
  (line, column)

/-- The lines of a text: split at line feeds, a final empty line dropped, and a carriage
return right before a line feed removed (one that ends the text stays). -/
def textLines (s : List Char) : List (List Char) :=
  let parts := s.splitOn '\n'
  let ended := parts.dropLast.map fun l => if l.getLast? == some '\r' then l.dropLast else l
  let last := parts.getLast?.getD []
  if last.isEmpty then ended else ended ++ [last]

def repeatChar (c : Char) (n : Nat) : String := String.ofList (List.replicate n c)

def caretLine (padding : Nat) (spans : List ((Nat × Nat) × (Nat × Nat))) : String := Id.run do
  let mut notes := repeatChar ' ' padding
  let mut pos := 0
  for ((_, c0), (_, c1)) in spans do
    let gap := c0 - 1 - pos
    notes := notes ++ repeatChar ' ' gap
    pos := pos + gap
    let len := max 1 (c1 - c0)
    notes := notes ++ repeatChar '^' len
    pos := pos + len
  return notes

def render (e : SyntaxError) (pattern : String) : String :=
  let cs := pattern.toList
  let lines := textLines cs
  let lineCount := lines.length + (if cs.getLast? == some '\n' then 1 else 0)
  let width := if lineCount ≤ 1 then 0 else (toString lineCount).length
  let spans := ([e.span] ++ e.aux.toList).mergeSort
    (fun s t => s.1 < t.1 || (s.1 == t.1 && s.2 ≤ t.2))
  let sorted := spans.map fun (a, b) => (position cs a, position cs b)
  let oneLine := sorted.filter (fun (s, t) => s.1 == t.1)
  let multi := sorted.filter (fun (s, t) => s.1 != t.1)
  let padding := if width == 0 then 4 else width + 2
  let numbered := lines.zipIdx.map fun (l, i) =>
    let label :=
      if width == 0 then "    "
      else repeatChar ' ' (width - (toString (i + 1)).length) ++ toString (i + 1) ++ ": "
    let here := oneLine.filter (fun (s, _) => s.1 == i + 1)
    label ++ String.ofList l ++ "\n" ++
      (if here.isEmpty then "" else caretLine padding here ++ "\n")
  let notated := String.join numbered
  if cs.contains '\n' then
    let divider := repeatChar '~' 79
    let notes := multi.map fun (s, t) =>
      s!"on line {s.1} (column {s.2}) through line {t.1} (column {t.2 - 1})"
    "regex parse error:\n" ++ divider ++ "\n" ++ notated ++ divider ++ "\n" ++
      (if notes.isEmpty then "" else "\n".intercalate notes ++ "\n") ++ "error: " ++ e.message
  else "regex parse error:\n" ++ notated ++ "error: " ++ e.message

end SyntaxError

end Regex

end MonitorWire
