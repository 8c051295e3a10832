import MonitorWire.Regex.Ast
import MonitorWire.Text.Basic
import MonitorWire.Bytes.Basic
import MonitorWire.Unicode.Classify

namespace MonitorWire

namespace Regex

structure ParseState where
  pos : Nat := 0
  groups : Nat := 0
  names : List (String × Span) := []
  spaced : Bool := false

abbrev Parser := ReaderT (Array Char) (StateT ParseState (Except SyntaxError))

inductive Prim where
  | lit (l : Literal)
  | unicode (u : UnicodeClass)
  | perl (p : PerlClass)
  | assertion (span : Span) (kind : Assertion)

namespace Prim

def span : Prim → Span
  | lit l => l.span
  | unicode u => u.span
  | perl p => p.span
  | assertion s _ => s

end Prim

def ClassTree.span : ClassTree → Span
  | .empty s => s
  | .literal l => l.span
  | .range s _ _ => s
  | .ascii s _ _ => s
  | .unicode u => u.span
  | .perl p => p.span
  | .bracketed s _ _ => s
  | .union s _ => s
  | .op s _ _ _ => s

def Ast.span : Ast → Span
  | .empty s => s
  | .flags s _ => s
  | .literal l => l.span
  | .dot s => s
  | .assertion s _ => s
  | .unicodeClass u => u.span
  | .perlClass p => p.span
  | .bracketed s _ _ => s
  | .repetition s _ _ _ _ => s
  | .group s _ _ => s
  | .alternation s _ => s
  | .concat s _ => s

namespace Parser

def unclosedClass : String := "unclosed character class"
def missingRepeated : String := "repetition operator missing expression"
def unclosedGroup : String := "unclosed group"
def unopenedGroup : String := "unopened group"
def escapeEof : String := "incomplete escape sequence, reached end of pattern prematurely"
def unclosedCounted : String := "unclosed counted repetition"
def decimalEmpty : String := "repetition quantifier expects a valid decimal"
def decimalInvalid : String := "decimal literal invalid"

def fail {α : Type} (message : String) (span : Span) (aux : Option Span := none) : Parser α :=
  throw ⟨message, span, aux⟩

def pos : Parser Nat := return (← get).pos

def cur : Parser (Option Char) := return (← read)[(← get).pos]?

def atEnd : Parser Bool := return (← cur).isNone

def curIs (c : Char) : Parser Bool := return (← cur) == some c

def peek : Parser (Option Char) := return (← read)[(← get).pos + 1]?

def here : Parser Span := do let p ← pos; pure (p, p)

def spanChar : Parser Span := do let p ← pos; pure (p, p + 1)

def bump : Parser Bool := do
  if ← atEnd then return false
  modify fun s => { s with pos := s.pos + 1 }
  return !(← atEnd)

def skipFrom (pat : Array Char) : Nat → Nat → Nat
  | 0, i => i
  | fuel + 1, i =>
    match pat[i]? with
    | some c =>
      if Text.isSpace c then skipFrom pat fuel (i + 1)
      else if c == '#' then
        let lineEnd := ((List.range (pat.size - i)).find? fun k => pat[i + k]? == some '\n')
        match lineEnd with
        | some k => skipFrom pat fuel (i + k + 1)
        | none => pat.size
      else i
    | none => i

def bumpSpace : Parser Unit := do
  if (← get).spaced then
    let pat ← read
    let p := skipFrom pat (pat.size + 1) (← pos)
    modify fun s => { s with pos := p }

def bumpAndBumpSpace : Parser Bool := do
  if !(← bump) then return false
  bumpSpace
  return !(← atEnd)

/-- The next character after the current one, past blanks and comment marks when blanks
are ignored. -/
def peekSpace : Parser (Option Char) := do
  if !(← get).spaced then return ← peek
  if ← atEnd then return none
  let pat ← read
  let first := (← pos) + 1
  let rest := (pat.toList.drop first).zipIdx
  let stop := (rest.foldl (fun (acc : Option Nat × Bool) (c, i) =>
    match acc with
    | (some j, b) => (some j, b)
    | (none, inComment) =>
      if Text.isSpace c then (none, inComment)
      else if !inComment && c == '#' then (none, true)
      else (some i, inComment)) (none, false)).1
  return pat[stop.getD first]?

def bumpIf (s : String) : Parser Bool := do
  let pat ← read
  let p ← pos
  let cs := s.toList
  if (pat.toList.drop p).take cs.length == cs then
    modify fun st => { st with pos := p + cs.length }
    return true
  else return false

def bumpIfAny : List String → Parser Bool
  | [] => pure false
  | s :: rest => do if ← bumpIf s then pure true else bumpIfAny rest

def seek (p : Nat) : Parser Unit := modify fun s => { s with pos := p }

def isMeta (c : Char) : Bool := "\\.+*?()|[]\x7b\x7d^$#&-~".toList.contains c

def isEscapable (c : Char) : Bool :=
  isMeta c || (c.toNat < 128 && !c.isAlphanum && c != '<' && c != '>')

def isNameChar (c : Char) (first : Bool) : Bool :=
  if first then c == '_' || Unicode.isAlphabetic c
  else c == '_' || c == '.' || c == '[' || c == ']' || Unicode.isAlphanumeric c

def hexChar? (ds : List Char) : Option Char :=
  let v := ds.foldl (fun acc d => 16 * acc + (Bytes.hexValue? d).getD 0) 0
  if v < 0xD800 || (0xDFFF < v && v ≤ 0x10FFFF) then some (Char.ofNat v) else none

def isHex (c : Char) : Bool := (Bytes.hexValue? c).isSome

def hexDigits (count : Nat) : Parser (Char × Span) := do
  let start ← pos
  let mut ds : List Char := []
  for i in List.range count do
    if i > 0 then
      if !(← bumpAndBumpSpace) then fail escapeEof (← here)
    match ← cur with
    | some c =>
      if !isHex c then fail "invalid hexadecimal digit" (← spanChar)
      ds := ds ++ [c]
    | none => fail escapeEof (← here)
  let _ ← bumpAndBumpSpace
  let stop ← pos
  match hexChar? ds with
  | some c => pure (c, (start, stop))
  | none => fail "hexadecimal literal is not a Unicode scalar value" (start, stop)

def hexBrace (fuel : Nat) : Parser (Char × Span) := do
  let bracePos ← pos
  let start := bracePos + 1
  let mut ds : List Char := []
  for _ in List.range fuel do
    if !(← bumpAndBumpSpace) then break
    match ← cur with
    | some '}' => break
    | some c =>
      if !isHex c then fail "invalid hexadecimal digit" (← spanChar)
      ds := ds ++ [c]
    | none => break
  if ← atEnd then fail escapeEof (bracePos, ← pos)
  let stop ← pos
  let _ ← bumpAndBumpSpace
  if ds.isEmpty then fail "hexadecimal literal empty" (bracePos, ← pos)
  match hexChar? ds with
  | some c => pure (c, (start, stop))
  | none => fail "hexadecimal literal is not a Unicode scalar value" (start, stop)

def hexEscape (escStart : Nat) : Parser Prim := do
  let kind := (← cur).getD 'U'
  let count := match kind with
    | 'x' => 2
    | 'u' => 4
    | _ => 8
  if !(← bumpAndBumpSpace) then fail escapeEof (← here)
  let pat ← read
  let braced ← curIs '{'
  let (c, (_, stop)) ← if braced then hexBrace (pat.size + 1) else hexDigits count
  pure (.lit ⟨(escStart, stop), c, kind == 'x' && !braced⟩)

def unicodeQuery (name : List Char) : UnicodeQuery :=
  let text := String.ofList name
  match text.splitOn "!=" with
  | n :: v :: vs => .byValue n ("!=".intercalate (v :: vs)) true
  | _ =>
    match name.findIdx? (fun c => c == ':' || c == '=') with
    | some i => .byValue (String.ofList (name.take i)) (String.ofList (name.drop (i + 1))) false
    | none => .named text

def unicodeClass (escStart : Nat) : Parser Prim := do
  let negated ← curIs 'P'
  if !(← bumpAndBumpSpace) then fail escapeEof (← here)
  let pat ← read
  let query ← if (← curIs '{') then do
      let mut cs : List Char := []
      for _ in List.range (pat.size + 1) do
        if !(← bumpAndBumpSpace) then break
        match ← cur with
        | some '}' => break
        | some c => cs := cs ++ [c]
        | none => break
      if ← atEnd then fail escapeEof (← here)
      let _ ← bump
      pure (unicodeQuery cs)
    else do
      let c := (← cur).getD ' '
      if c == '\\' then fail "invalid Unicode character class" (← spanChar)
      let _ ← bumpAndBumpSpace
      pure (.oneLetter c)
  pure (.unicode ⟨(escStart, ← pos), negated, query⟩)

def specialBoundary (escStart : Nat) : Parser (Option Assertion) := do
  let valid := fun (c : Char) => c.isAlpha && c.toNat < 128 || c == '-'
  let start ← pos
  if !(← bumpAndBumpSpace) then
    fail ("found either the beginning of a special word boundary or a bounded repetition on " ++
      "a \\b with an opening brace, but no closing brace") (escStart, ← pos)
  let contentStart ← pos
  if !valid ((← cur).getD ' ') then
    seek start
    return none
  let pat ← read
  let mut cs : List Char := []
  for _ in List.range (pat.size + 1) do
    match ← cur with
    | some c =>
      if valid c then
        cs := cs ++ [c]
        let _ ← bumpAndBumpSpace
      else break
    | none => break
  if (← atEnd) || !(← curIs '}') then
    fail "special word boundary assertion is either unclosed or contains an invalid character"
      (start, ← pos)
  let stop ← pos
  let _ ← bump
  match String.ofList cs with
  | "start" => return some .wordStart
  | "end" => return some .wordEnd
  | "start-half" => return some .wordStartHalf
  | "end-half" => return some .wordEndHalf
  | _ => fail ("unrecognized special word boundary assertion, valid choices are: start, end, " ++
      "start-half or end-half") (contentStart, stop)

def escape : Parser Prim := do
  let start ← pos
  if !(← bump) then fail escapeEof (start, ← pos)
  let c := (← cur).getD ' '
  if c.isDigit then fail "backreferences are not supported" (start, (← pos) + 1)
  if c == 'x' || c == 'u' || c == 'U' then return ← hexEscape start
  if c == 'p' || c == 'P' then return ← unicodeClass start
  if "dswDSW".toList.contains c then
    let _ ← bump
    let kind := match c.toLower with
      | 'd' => PerlKind.digit
      | 's' => PerlKind.space
      | _ => PerlKind.word
    return .perl ⟨(start, ← pos), kind, c.isUpper⟩
  let _ ← bump
  let span := (start, ← pos)
  if isEscapable c then return .lit ⟨span, c, false⟩
  match c with
  | 'a' => return .lit ⟨span, Char.ofNat 7, false⟩
  | 'f' => return .lit ⟨span, Char.ofNat 12, false⟩
  | 't' => return .lit ⟨span, '\t', false⟩
  | 'n' => return .lit ⟨span, '\n', false⟩
  | 'r' => return .lit ⟨span, '\r', false⟩
  | 'v' => return .lit ⟨span, Char.ofNat 11, false⟩
  | 'A' => return .assertion span .startText
  | 'z' => return .assertion span .endText
  | 'b' =>
    if ← curIs '{' then
      match ← specialBoundary start with
      | some l => return .assertion (start, ← pos) l
      | none => return .assertion span .wordBoundary
    else return .assertion span .wordBoundary
  | 'B' => return .assertion span .notWordBoundary
  | '<' => return .assertion span .wordStart
  | '>' => return .assertion span .wordEnd
  | _ => fail "unrecognized escape sequence" span

def classItem : Parser Prim := do
  if ← curIs '\\' then escape
  else
    let c := (← cur).getD ' '
    let span ← spanChar
    let _ ← bump
    pure (.lit ⟨span, c, false⟩)

def standalone : Prim → Parser ClassTree
  | .lit l => pure (.literal l)
  | .unicode u => pure (.unicode u)
  | .perl p => pure (.perl p)
  | p => fail "invalid escape sequence found in character class" p.span

def boundary : Prim → Parser Literal
  | .lit l => pure l
  | p => fail "invalid range boundary, must be a literal" p.span

def classRange (setSpan : Span) : Parser ClassTree := do
  let first ← classItem
  bumpSpace
  if ← atEnd then fail unclosedClass setSpan
  let next ← peekSpace
  if !(← curIs '-') || next == some ']' || next == some '-' then return ← standalone first
  if !(← bumpAndBumpSpace) then fail unclosedClass setSpan
  let second ← classItem
  let span := (first.span.1, second.span.2)
  let lo ← boundary first
  let hi ← boundary second
  if hi.c < lo.c then fail "invalid character class range, the start must be <= the end" span
  pure (.range span lo hi)

def posixClass : Parser (Option ClassTree) := do
  let start ← pos
  let pat ← read
  let back := fun (x : Option ClassTree) => do seek start; pure x
  if !(← bump) || !(← curIs ':') then return ← back none
  if !(← bump) then return ← back none
  let negated ← curIs '^'
  if negated then
    if !(← bump) then return ← back none
  let nameStart ← pos
  for _ in List.range (pat.size + 1) do
    if ← curIs ':' then break
    if !(← bump) then break
  if ← atEnd then return ← back none
  let name := String.ofList ((pat.toList.drop nameStart).take ((← pos) - nameStart))
  if !(← bumpIf ":]") then return ← back none
  match CharSet.posix name with
  | some s => return some (.ascii (start, ← pos) s negated)
  | none => back none

def unionOf (start : Nat) (items : List ClassTree) : ClassTree :=
  match items with
  | [] => .empty (start, start)
  | [t] => t
  | t :: rest => .union (t.span.1, ((rest.getLast?).getD t).span.2) items

def joinPending (pending : Option (ClassOp × ClassTree)) (rhs : ClassTree) : ClassTree :=
  match pending with
  | some (op, lhs) => .op (lhs.span.1, rhs.span.2) op lhs rhs
  | none => rhs

def bracketed : Nat → Parser ClassTree
  | 0 => do fail unclosedClass (← spanChar)
  | fuel + 1 => do
    let start ← pos
    if !(← bumpAndBumpSpace) then fail unclosedClass (start, ← pos)
    let negated ← curIs '^'
    if negated then
      if !(← bumpAndBumpSpace) then fail unclosedClass (start, ← pos)
    let mut unionStart ← pos
    let mut items : List ClassTree := []
    for _ in List.range (fuel + 1) do
      if !(← curIs '-') then break
      items := items ++ [.literal ⟨← spanChar, '-', false⟩]
      if !(← bumpAndBumpSpace) then fail unclosedClass (start, start)
    if items.isEmpty && (← curIs ']') then
      items := [.literal ⟨← spanChar, ']', false⟩]
      if !(← bumpAndBumpSpace) then fail unclosedClass (start, ← pos)
    let setSpan := (start, ← pos)
    let mut pending : Option (ClassOp × ClassTree) := none
    let mut result : Option ClassTree := none
    for _ in List.range (fuel + 1) do
      bumpSpace
      match ← cur with
      | none => fail unclosedClass setSpan
      | some ']' =>
        let _ ← bump
        let body := joinPending pending (unionOf unionStart items)
        result := some (.bracketed (start, ← pos) negated body)
        break
      | some '[' =>
        match ← posixClass with
        | some t => items := items ++ [t]
        | none => items := items ++ [← bracketed fuel]
      | some c =>
        let nxt ← peek
        let op : Option (ClassOp × String) :=
          if c == '&' && nxt == some '&' then some (.inter, "&&")
          else if c == '-' && nxt == some '-' then some (.diff, "--")
          else if c == '~' && nxt == some '~' then some (.symm, "~~")
          else none
        match op with
        | some (o, text) =>
          let _ ← bumpIf text
          pending := some (o, joinPending pending (unionOf unionStart items))
          items := []
          unionStart ← pos
        | none => items := items ++ [← classRange setSpan]
    match result with
    | none => fail unclosedClass setSpan
    | some t => pure t

def flagItems (fuel : Nat) : Parser (List FlagItem) := do
  let mut items : List (FlagItem × Span) := []
  let mut lastNegation : Option Span := none
  for _ in List.range fuel do
    let c := (← cur).getD ')'
    if c == ':' || c == ')' then break
    let span ← spanChar
    if c == '-' then
      lastNegation := some span
      match items.find? (·.1 == .negation) with
      | some (_, orig) => fail "flag negation operator repeated" span (some orig)
      | none => items := items ++ [(.negation, span)]
    else
      lastNegation := none
      if !"imsUuRx".toList.contains c then fail "unrecognized flag" span
      match items.find? (·.1 == .flag c) with
      | some (_, orig) => fail "duplicate flag" span (some orig)
      | none => items := items ++ [(.flag c, span)]
    if !(← bump) then fail "expected flag but got end of regex" (← here)
  match lastNegation with
  | some span => fail "dangling flag negation operator" span
  | none => pure (items.map (·.1))

def spacedAfter (spaced : Bool) (items : List FlagItem) : Bool :=
  ({ spaced := spaced } : Flags).apply items |>.spaced

def groupName : Parser Unit := do
  if ← atEnd then fail "unclosed capture group name" (← here)
  let start ← pos
  let pat ← read
  for _ in List.range (pat.size + 1) do
    match ← cur with
    | some '>' => break
    | some c =>
      if !isNameChar c ((← pos) == start) then fail "invalid capture group character" (← spanChar)
      if !(← bump) then break
    | none => break
  let stop ← pos
  if ← atEnd then fail "unclosed capture group name" (← here)
  let _ ← bump
  let name := String.ofList ((pat.toList.drop start).take (stop - start))
  if name.isEmpty then fail "empty capture group name" (start, start)
  match (← get).names.find? (·.1 == name) with
  | some (_, orig) => fail "duplicate capture group name" (start, stop) (some orig)
  | none => modify fun s => { s with names := (name, (start, stop)) :: s.names }

def nextGroup : Parser Nat := do
  modify fun s => { s with groups := s.groups + 1 }
  return (← get).groups

def decimal (fuel : Nat) : Parser Nat := do
  for _ in List.range fuel do
    match ← cur with
    | some c => if Text.isSpace c then let _ ← bump else break
    | none => break
  let start ← pos
  let mut ds : List Char := []
  for _ in List.range fuel do
    match ← cur with
    | some c => if c.isDigit then ds := ds ++ [c]; let _ ← bumpAndBumpSpace else break
    | none => break
  let span := (start, ← pos)
  for _ in List.range fuel do
    match ← cur with
    | some c => if Text.isSpace c then let _ ← bumpAndBumpSpace else break
    | none => break
  match Text.digitsValue? ds with
  | none => fail decimalEmpty span
  | some n => if n < Nat.pow 2 32 then pure n else fail decimalInvalid span

/-- The node to repeat: the last one read, which must not be a flag group. -/
def lastRepeatable (items : List Ast) : Parser (Ast × List Ast) := do
  match items with
  | a :: rest =>
    match a with
    | .flags _ _ | .empty _ => fail missingRepeated (← here)
    | _ => pure (a, rest)
  | [] => fail missingRepeated (← here)

/-- Applies `?`, `*` or `+` to the last node read (the list is in reverse). -/
def uncounted (items : List Ast) : Parser (List Ast) := do
  let c := (← cur).getD '?'
  let (a, rest) ← lastRepeatable items
  let mut greedy := true
  if (← bump) && (← curIs '?') then
    greedy := false
    let _ ← bump
  let (lo, hi) := match c with
    | '?' => (0, some 1)
    | '*' => (0, none)
    | _ => (1, none)
  pure (.repetition (a.span.1, ← pos) lo hi greedy a :: rest)

/-- Applies `{n}`, `{n,}` or `{n,m}` to the last node read (the list is in reverse). -/
def counted (items : List Ast) : Parser (List Ast) := do
  let start ← pos
  let (a, rest) ← lastRepeatable items
  let fuel := (← read).size + 1
  if !(← bumpAndBumpSpace) then fail unclosedCounted (start, ← pos)
  let lo ← decimal fuel
  if ← atEnd then fail unclosedCounted (start, ← pos)
  let mut hi := some lo
  if ← curIs ',' then
    if !(← bumpAndBumpSpace) then fail unclosedCounted (start, ← pos)
    if !(← curIs '}') then hi := some (← decimal fuel) else hi := none
  if (← atEnd) || !(← curIs '}') then fail unclosedCounted (start, ← pos)
  let mut greedy := true
  if (← bumpAndBumpSpace) && (← curIs '?') then
    greedy := false
    let _ ← bump
  let opSpan := (start, ← pos)
  match hi with
  | some h =>
    if h < lo then fail "invalid repetition count range, the start must be <= the end" opSpan
  | none => pure ()
  pure (.repetition (a.span.1, ← pos) lo hi greedy a :: rest)

def primitive : Parser Ast := do
  let span ← spanChar
  match ← cur with
  | some '\\' =>
    match ← escape with
    | .lit l => return .literal l
    | .unicode u => return .unicodeClass u
    | .perl p => return .perlClass p
    | .assertion s k => return .assertion s k
  | some '.' => let _ ← bump; return .dot span
  | some '^' => let _ ← bump; return .assertion span .startLine
  | some '$' => let _ ← bump; return .assertion span .endLine
  | some c => let _ ← bump; return .literal ⟨span, c, false⟩
  | none => return .empty (← here)

def concatOf (start stop : Nat) (items : List Ast) : Ast :=
  match items.reverse with
  | [] => .empty (start, stop)
  | [a] => a
  | all => .concat (start, stop) all

structure OpenGroup where
  span : Span
  kind : GroupKind
  spacedBefore : Bool

mutual

/-- Reads alternatives up to the end of the pattern, or up to the `)` of the group `group`.
The alternatives read so far are `branches` (with the start of the first), the current one
started at `start` with the nodes `items` (in reverse). -/
def alternation : Nat → Option OpenGroup → Option (Nat × List Ast) → Nat → List Ast →
    Parser Ast
  | 0, _, _, _, _ => do fail unclosedGroup (← here)
  | fuel + 1, group, branches, start, items => do
    bumpSpace
    let finish := fun (stop : Nat) =>
      let last := concatOf start stop items
      match branches with
      | none => last
      | some (altStart, bs) => .alternation (altStart, stop) (bs ++ [last])
    match ← cur with
    | none =>
      match group with
      | some g => fail unclosedGroup g.span
      | none => pure (finish (← pos))
    | some ')' =>
      match group with
      | some _ => pure (finish (← pos))
      | none => fail unopenedGroup (← spanChar)
    | some '|' =>
      let stop ← pos
      let branch := concatOf start stop items
      let branches := match branches with
        | none => some (start, [branch])
        | some (s, bs) => some (s, bs ++ [branch])
      let _ ← bump
      alternation fuel group branches (← pos) []
    | some '(' =>
      let node ← groupAt fuel
      alternation fuel group branches start (node :: items)
    | some '[' =>
      let t ← bracketed ((← read).size + 1)
      match t with
      | .bracketed s neg body => alternation fuel group branches start (.bracketed s neg body :: items)
      | _ => alternation fuel group branches start items
    | some '?' | some '*' | some '+' =>
      alternation fuel group branches start (← uncounted items)
    | some '{' =>
      alternation fuel group branches start (← counted items)
    | some _ =>
      let p ← primitive
      alternation fuel group branches start (p :: items)

def groupAt : Nat → Parser Ast
  | 0 => do fail unclosedGroup (← spanChar)
  | fuel + 1 => do
    let openSpan ← spanChar
    let _ ← bump
    bumpSpace
    if ← bumpIfAny ["?=", "?!", "?<=", "?<!"] then
      fail "look-around, including look-ahead and look-behind, is not supported"
        (openSpan.1, ← pos)
    let inner ← here
    let spaced := (← get).spaced
    if ← bumpIfAny ["?P<", "?<"] then
      let index ← nextGroup
      groupName
      groupBody fuel ⟨openSpan, .capture index, spaced⟩
    else if ← bumpIf "?" then
      if ← atEnd then fail unclosedGroup openSpan
      let items ← flagItems ((← read).size + 1)
      let closing ← curIs ')'
      let _ ← bump
      if closing then
        if items.isEmpty then fail missingRepeated inner
        modify fun s => { s with spaced := spacedAfter s.spaced items }
        return .flags (openSpan.1, ← pos) items
      else
        modify fun s => { s with spaced := spacedAfter s.spaced items }
        groupBody fuel ⟨openSpan, .nonCapturing items, spaced⟩
    else
      let index ← nextGroup
      groupBody fuel ⟨openSpan, .capture index, spaced⟩

def groupBody : Nat → OpenGroup → Parser Ast
  | 0, g => fail unclosedGroup g.span
  | fuel + 1, g => do
    let body ← alternation fuel (some g) none (← pos) []
    modify fun s => { s with spaced := g.spacedBefore }
    let _ ← bump
    pure (.group (g.span.1, ← pos) g.kind body)

end

end Parser

def parseAst (pattern : String) : Except SyntaxError (Ast × Nat) :=
  let chars := pattern.toList.toArray
  let run : Parser (Ast × Nat) := do
    let a ← Parser.alternation (4 * chars.size + 4) none none 0 []
    pure (a, (← get).groups)
  (run.run chars |>.run {}).map (·.1)

end Regex

end MonitorWire
