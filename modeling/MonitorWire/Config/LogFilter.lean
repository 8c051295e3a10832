import MonitorWire.Config.Settings
import MonitorWire.Decimal.Text
import MonitorWire.Regex.Elaborate
import MonitorWire.Text.Debug
import MonitorWire.Unicode.Classify

namespace MonitorWire

namespace Config

/-- Why a filter is refused, or why reading it stops the whole run. -/
inductive FilterFault where
  | invalid (reason : String)
  | halt (message : String)
  deriving DecidableEq, Repr

def badDirective : String := "invalid filter directive"

def badLevel : String :=
  "error parsing level filter: expected one of \"off\", \"error\", \"warn\", \"info\", " ++
    "\"debug\", \"trace\", or a number 0-5"

def badFieldPattern : String := "error building NFA"

def unicodeWordField : String :=
  "unsupported regex feature for DFAs: cannot build DFAs for regexes with Unicode word " ++
    "boundaries; switch to ASCII word boundaries, or heuristically enable Unicode word " ++
    "boundaries or use a different regex engine"

def isLevel (s : String) : Bool :=
  ["", "off", "error", "warn", "info", "debug", "trace"].contains
    (String.ofList (s.toList.map Char.toLower)) ||
    ((Text.parseUnsigned s (Nat.pow 2 64)).map (fun n => decide (n ≤ 5))).getD false

def isAlnum (c : Char) : Bool := Unicode.isAlphanumeric c

def checkFieldValue (value : String) : Except String Unit :=
  if value == "true" || value == "false" || Binary64.isText value then .ok ()
  else
    match Regex.parse value with
    | .error _ => .error badFieldPattern
    | .ok (p, _) => if p.anyLook Regex.Look.isUnicodeWord then .error unicodeWordField else .ok ()

/-- Checks a field filter: a name, then optionally `=` and a value; a second `=` and what
follows it are ignored. -/
def checkField (field : String) : Except String Unit :=
  match field.splitOn "=" with
  | _ :: value :: _ => checkFieldValue value
  | _ => .ok ()

def charOffsets (s : String) : List (Nat × Char) :=
  (s.toList.foldl (fun (acc : Nat × List (Nat × Char)) c =>
    (acc.1 + c.utf8Size, (acc.1, c) :: acc.2)) (0, [])).2.reverse

structure Directive where
  text : String
  chars : List (Nat × Char)
  size : Nat

namespace Directive

def ofText (s : String) : Directive :=
  let chars := charOffsets s
  ⟨s, chars, chars.foldl (fun n (_, c) => n + c.utf8Size) 0⟩

def isBoundary (d : Directive) (i : Nat) : Bool :=
  i == d.size || d.chars.any (·.1 == i)

/-- The text shown for the directive in a message: at most its first 256 bytes, cut between
characters, and `[...]` when something was left out. -/
def shown (d : Directive) : String :=
  if d.size ≤ 256 then d.text
  else String.ofList ((d.chars.filter fun (o, c) => o + c.utf8Size ≤ 256).map (·.2)) ++ "[...]"

def cutMessage (d : Directive) (index : Nat) : String :=
  match (d.chars.filter (·.1 ≤ index)).getLast? with
  | some (start, c) =>
    "byte index " ++ toString index ++ " is not a char boundary; it is inside " ++
      Text.debugCharQuoted c ++ " (bytes " ++ toString start ++ ".." ++
      toString (start + c.utf8Size) ++ ") of `" ++ d.shown ++ "`"
  | none => "byte index " ++ toString index ++ " is not a char boundary"

def slice (d : Directive) (first stop : Nat) : Except FilterFault String :=
  if !d.isBoundary first then .error (.halt (d.cutMessage first))
  else if !d.isBoundary stop then .error (.halt (d.cutMessage stop))
  else .ok (String.ofList ((d.chars.filter fun (o, _) => first ≤ o && o < stop).map (·.2)))

end Directive

inductive DirectiveStage where
  | start
  | levelOrTarget
  | span (first : Nat)
  | field (first : Nat)
  | fields
  | target
  | level (first : Nat)
  deriving DecidableEq, Repr

def readStep (d : Directive) : DirectiveStage → Nat × Char → Except FilterFault DirectiveStage
  | .start, (i, '[') => .ok (.span (i + 1))
  | .start, (_, c) =>
    if c == '-' || c == ':' || c == '_' || isAlnum c then .ok .levelOrTarget
    else .error (.invalid badDirective)
  | .levelOrTarget, (i, '=') => do
    let _ ← d.slice 0 i
    pure (.level (i + 1))
  | .levelOrTarget, (i, '[') => do
    let _ ← d.slice 0 i
    pure (.span (i + 1))
  | .levelOrTarget, _ => .ok .levelOrTarget
  | .target, (i, '=') => .ok (.level (i + 1))
  | .span first, (i, ']') => do
    let _ ← d.slice first i
    pure .target
  | .span first, (i, '{') => do
    let _ ← d.slice first i
    pure (.field (i + 1))
  | .span first, _ => .ok (.span first)
  | .field first, (i, '}') => do
    let f ← d.slice first i
    if f.isEmpty then throw (.invalid badDirective)
    match checkField f with
    | .error e => throw (.invalid ("invalid field filter: " ++ e))
    | .ok () => pure .fields
  | .field first, _ => .ok (.field first)
  | .fields, (_, ']') => .ok .target
  | .level first, _ => .ok (.level first)
  | _, _ => .error (.invalid badDirective)

def checkDirective (text : String) : Except FilterFault Unit := do
  let d := Directive.ofText text
  let final ← (charOffsets (Text.trim text)).foldlM (readStep d) .start
  match final with
  | .levelOrTarget | .target => pure ()
  | .level first =>
    let t ← d.slice first d.size
    if isLevel t then pure () else throw (.invalid badLevel)
  | _ => throw (.invalid badDirective)

def checkFilter (filter : String) : Except FilterFault Unit :=
  if filter.isEmpty then .ok ()
  else ((filter.splitOn ",").filter (!·.isEmpty)).forM checkDirective

/-- Installs the logging described by the settings, where `installed` tells whether logging
is already installed for the process: a filter that does not read is refused, and so is a
second installation. The outer failure is a stop of the whole run, with its message. -/
def initLogging (installed : Bool) (c : LoggingConfig) : Except String (Except ProtocolError Unit) :=
  match checkFilter c.level with
  | .error (.halt message) => .error message
  | .error (.invalid e) => .ok (.error (.configError ("Invalid log filter: " ++ e)))
  | .ok () =>
    if installed then
      .ok (.error (.configError ("Subscriber already initialized: a global default trace " ++
        "dispatcher has already been set")))
    else .ok (.ok ())

end Config

end MonitorWire
