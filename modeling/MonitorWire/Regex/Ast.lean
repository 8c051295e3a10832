import MonitorWire.Regex.Syntax

namespace MonitorWire

namespace Regex

/-- A literal character, with how it was written: only a two-digit hexadecimal escape such
as `\xFF` stands for a byte rather than a character when Unicode is off. -/
structure Literal where
  span : Span
  c : Char
  hexByte : Bool := false
  deriving Repr, Inhabited

inductive PerlKind where
  | digit
  | space
  | word
  deriving DecidableEq, Repr

structure PerlClass where
  span : Span
  kind : PerlKind
  negated : Bool
  deriving Repr

inductive UnicodeQuery where
  | oneLetter (c : Char)
  | named (name : String)
  | byValue (name value : String) (notEqual : Bool)
  deriving Repr

structure UnicodeClass where
  span : Span
  negated : Bool
  query : UnicodeQuery
  deriving Repr

inductive ClassOp where
  | inter
  | diff
  | symm
  deriving DecidableEq, Repr

inductive ClassTree where
  | empty (span : Span)
  | literal (lit : Literal)
  | range (span : Span) (lo hi : Literal)
  | ascii (span : Span) (set : CharSet) (negated : Bool)
  | unicode (u : UnicodeClass)
  | perl (p : PerlClass)
  | bracketed (span : Span) (negated : Bool) (body : ClassTree)
  | union (span : Span) (items : List ClassTree)
  | op (span : Span) (kind : ClassOp) (lhs rhs : ClassTree)
  deriving Repr, Inhabited

inductive FlagItem where
  | negation
  | flag (c : Char)
  deriving DecidableEq, Repr

inductive Assertion where
  | startLine
  | endLine
  | startText
  | endText
  | wordBoundary
  | notWordBoundary
  | wordStart
  | wordEnd
  | wordStartHalf
  | wordEndHalf
  deriving DecidableEq, Repr

inductive GroupKind where
  | capture (index : Nat)
  | nonCapturing (flags : List FlagItem)
  deriving Repr

inductive Ast where
  | empty (span : Span)
  | flags (span : Span) (items : List FlagItem)
  | literal (lit : Literal)
  | dot (span : Span)
  | assertion (span : Span) (kind : Assertion)
  | unicodeClass (u : UnicodeClass)
  | perlClass (p : PerlClass)
  | bracketed (span : Span) (negated : Bool) (body : ClassTree)
  | repetition (span : Span) (min : Nat) (max : Option Nat) (greedy : Bool) (body : Ast)
  | group (span : Span) (kind : GroupKind) (body : Ast)
  | alternation (span : Span) (branches : List Ast)
  | concat (span : Span) (items : List Ast)
  deriving Repr, Inhabited

structure Flags where
  caseless : Bool := false
  multiLine : Bool := false
  dotAll : Bool := false
  swapGreed : Bool := false
  unicode : Bool := true
  crlf : Bool := false
  spaced : Bool := false
  deriving DecidableEq, Repr

def Flags.apply (f : Flags) (items : List FlagItem) : Flags :=
  (items.foldl (fun (acc : Flags × Bool) item =>
    let (f, on) := acc
    match item with
    | .negation => (f, false)
    | .flag 'i' => ({ f with caseless := on }, on)
    | .flag 'm' => ({ f with multiLine := on }, on)
    | .flag 's' => ({ f with dotAll := on }, on)
    | .flag 'U' => ({ f with swapGreed := on }, on)
    | .flag 'u' => ({ f with unicode := on }, on)
    | .flag 'R' => ({ f with crlf := on }, on)
    | .flag 'x' => ({ f with spaced := on }, on)
    | .flag _ => (f, on)) (f, true)).1

def nestLimit : Nat := 250

def nestError (span : Span) : SyntaxError :=
  ⟨"exceed the maximum number of nested parentheses/brackets (" ++ toString nestLimit ++ ")",
    span, none⟩

/-- The first node, in the order a depth-first walk enters them, that nests deeper than the
limit, for a node entered at depth `depth`; the walk counts only the nodes that nest. -/
def enterNode (depth : Nat) (span : Span) (inside : Nat → Option Span) : Option Span :=
  if depth + 1 > nestLimit then some span else inside (depth + 1)

mutual

def ClassTree.tooDeep (depth : Nat) : ClassTree → Option Span
  | .bracketed span _ body => enterNode depth span fun d => body.tooDeep d
  | .union span items => enterNode depth span fun d => ClassTree.tooDeepList d items
  | .op span _ lhs rhs => enterNode depth span fun d => lhs.tooDeep d <|> rhs.tooDeep d
  | _ => none

def ClassTree.tooDeepList (depth : Nat) : List ClassTree → Option Span
  | [] => none
  | t :: rest => t.tooDeep depth <|> ClassTree.tooDeepList depth rest

end

mutual

def Ast.tooDeep (depth : Nat) : Ast → Option Span
  | .bracketed span _ body => enterNode depth span fun d => body.tooDeep d
  | .repetition span _ _ _ body => enterNode depth span fun d => body.tooDeep d
  | .group span _ body => enterNode depth span fun d => body.tooDeep d
  | .alternation span items => enterNode depth span fun d => Ast.tooDeepList d items
  | .concat span items => enterNode depth span fun d => Ast.tooDeepList d items
  | _ => none

def Ast.tooDeepList (depth : Nat) : List Ast → Option Span
  | [] => none
  | a :: rest => a.tooDeep depth <|> Ast.tooDeepList depth rest

end

def Ast.checkNesting (a : Ast) : Except SyntaxError Unit :=
  match a.tooDeep 0 with
  | some span => .error (nestError span)
  | none => .ok ()

end Regex

end MonitorWire
