import MonitorWire.Regex.Parse
import MonitorWire.Regex.Property

namespace MonitorWire

namespace Regex

def utf8Width (c : Nat) : Nat :=
  if c < 0x80 then 1 else if c < 0x800 then 2 else if c < 0x10000 then 3 else 4

def ClassOp.apply : ClassOp → CharSet → CharSet → CharSet
  | .inter => CharSet.inter
  | .diff => CharSet.diff
  | .symm => CharSet.symmDiff

namespace Pattern

def ofSet (s : CharSet) : Pattern :=
  match s.ranges.toList with
  | [(a, b)] => if a == b then .literal [Char.ofNat a] else .chars s
  | _ => .chars s

mutual

def minLen : Pattern → Option Nat
  | .empty => some 0
  | .literal cs => some (cs.foldl (fun n c => n + utf8Width c.toNat) 0)
  | .chars s => s.ranges[0]?.map fun (a, _) => utf8Width a
  | .look _ => some 0
  | .capture _ body => body.minLen
  | .concat items => (minLens items).foldl (fun acc m =>
      match acc, m with
      | some a, some b => some (a + b)
      | _, _ => none) (some 0)
  | .alt branches => match minLens branches with
    | [] => none
    | first :: rest => rest.foldl (fun acc m =>
        match acc, m with
        | some a, some b => some (min a b)
        | _, _ => none) first
  | .rep lo _ _ body => body.minLen.map (· * lo)

def minLens : List Pattern → List (Option Nat)
  | [] => []
  | p :: rest => p.minLen :: minLens rest

end

mutual

def maxLen : Pattern → Option Nat
  | .empty => some 0
  | .literal cs => some (cs.foldl (fun n c => n + utf8Width c.toNat) 0)
  | .chars s => s.ranges.back?.map fun (_, b) => utf8Width b
  | .look _ => some 0
  | .capture _ body => body.maxLen
  | .concat items => (maxLens items).foldl (fun acc m =>
      match acc, m with
      | some a, some b => some (a + b)
      | _, _ => none) (some 0)
  | .alt branches => match maxLens branches with
    | [] => none
    | first :: rest => rest.foldl (fun acc m =>
        match acc, m with
        | some a, some b => some (max a b)
        | _, _ => none) first
  | .rep _ hi _ body => match hi, body.maxLen with
    | some h, some m => some (m * h)
    | _, _ => none

def maxLens : List Pattern → List (Option Nat)
  | [] => []
  | p :: rest => p.maxLen :: maxLens rest

end

mutual

def anchoredStart : Pattern → Bool
  | .look l => l == .start
  | .capture _ body => body.anchoredStart
  | .concat items =>
    ((anchoredStarts items).foldl (fun (acc : Bool × Bool) (m, a) =>
      if acc.1 then acc else (m != some 0, acc.2 || a)) (false, false)).2
  | .alt branches => !branches.isEmpty && (anchoredStarts branches).all (·.2)
  | .rep lo _ _ body => lo > 0 && body.anchoredStart
  | _ => false

def anchoredStarts : List Pattern → List (Option Nat × Bool)
  | [] => []
  | p :: rest => (p.maxLen, p.anchoredStart) :: anchoredStarts rest

end

mutual

def anchoredEnd : Pattern → Bool
  | .look l => l == .finish
  | .capture _ body => body.anchoredEnd
  | .concat items =>
    ((anchoredEnds items).reverse.foldl (fun (acc : Bool × Bool) (m, a) =>
      if acc.1 then acc else (m != some 0, acc.2 || a)) (false, false)).2
  | .alt branches => !branches.isEmpty && (anchoredEnds branches).all (·.2)
  | .rep lo _ _ body => lo > 0 && body.anchoredEnd
  | _ => false

def anchoredEnds : List Pattern → List (Option Nat × Bool)
  | [] => []
  | p :: rest => (p.maxLen, p.anchoredEnd) :: anchoredEnds rest

end

def joinLiterals : List Pattern → List Pattern
  | [] => []
  | .literal a :: rest =>
    match joinLiterals rest with
    | .literal b :: more => .literal (a ++ b) :: more
    | more => .literal a :: more
  | p :: rest => p :: joinLiterals rest

def mkConcat (items : List Pattern) : Pattern :=
  let flat := items.flatMap fun
    | .concat xs => xs
    | .empty => []
    | p => [p]
  match joinLiterals flat with
  | [] => .empty
  | [p] => p
  | ps => .concat ps

def singleChar? : Pattern → Option Char
  | .literal [c] => some c
  | _ => none

def classSet? : Pattern → Option CharSet
  | .chars s => some s
  | _ => none

def concatItems? : Pattern → Option (List Pattern)
  | .concat xs => some xs
  | _ => none

def commonPrefixLength : List Pattern → List Pattern → Nat
  | a :: as, b :: bs => if a == b then commonPrefixLength as bs + 1 else 0
  | _, _ => 0

def mkAltWith : Nat → List Pattern → Pattern
  | fuel, branches =>
    let flat := branches.flatMap fun
      | .alt xs => xs
      | p => [p]
    match flat with
    | [] => .chars CharSet.empty
    | [p] => p
    | first :: rest =>
      match flat.mapM singleChar? with
      | some cs => ofSet (CharSet.normalize (cs.map fun c => (c.toNat, c.toNat)))
      | none =>
        match flat.mapM classSet? with
        | some sets => ofSet (sets.foldl CharSet.union CharSet.empty)
        | none =>
          match fuel, flat.mapM concatItems? with
          | fuel + 1, some concats =>
            let firstItems := (concatItems? first).getD []
            let common := concats.foldl (fun n xs => min n (commonPrefixLength firstItems xs))
              firstItems.length
            if common == 0 || rest.isEmpty then .alt flat
            else
              let suffixes := concats.map fun xs => mkConcat (xs.drop common)
              mkConcat (firstItems.take common ++ [mkAltWith fuel suffixes])
          | _, _ => .alt flat

mutual

def size : Pattern → Nat
  | .capture _ body => body.size + 1
  | .concat items => (sizes items).foldl (· + ·) 1
  | .alt branches => (sizes branches).foldl (· + ·) 1
  | .rep _ _ _ body => body.size + 1
  | _ => 1

def sizes : List Pattern → List Nat
  | [] => []
  | p :: rest => p.size :: sizes rest

end

mutual

def anyLook (p : Look → Bool) : Pattern → Bool
  | .look l => p l
  | .capture _ body => body.anyLook p
  | .concat items => anyLookIn p items
  | .alt branches => anyLookIn p branches
  | .rep _ _ _ body => body.anyLook p
  | _ => false

def anyLookIn (p : Look → Bool) : List Pattern → Bool
  | [] => false
  | q :: rest => q.anyLook p || anyLookIn p rest

end

def mkAlt (branches : List Pattern) : Pattern :=
  mkAltWith (branches.foldl (fun n p => n + p.size) 1) branches

def mkRep (lo : Nat) (hi : Option Nat) (greedy : Bool) (body : Pattern) : Pattern :=
  let (lo, hi) := if body.maxLen == some 0 then (min lo 1, some ((hi.map (min · 1)).getD 1))
    else (lo, hi)
  if lo == 0 && hi == some 0 then .empty
  else if lo == 1 && hi == some 1 then body
  else .rep lo hi greedy body

end Pattern

namespace Elaborate

def unicodeNotAllowed : String := "Unicode not allowed here"
def invalidUtf8 : String := "pattern can match invalid UTF-8"

def fail {α : Type} (message : String) (span : Span) : Except SyntaxError α :=
  .error ⟨message, span, none⟩

def literalChar (f : Flags) (l : Literal) : Except SyntaxError Char :=
  if !f.unicode && l.hexByte && l.c.toNat > 0x7F then fail invalidUtf8 l.span else pure l.c

/-- The character of a literal inside a class with Unicode off: it must be ASCII. -/
def classByte (l : Literal) : Except SyntaxError Char :=
  if l.c.toNat ≤ 0x7F then pure l.c
  else if l.hexByte then fail invalidUtf8 l.span
  else fail unicodeNotAllowed l.span

def isAsciiLetter (c : Char) : Bool := ('a' ≤ c && c ≤ 'z') || ('A' ≤ c && c ≤ 'Z')

def fold (f : Flags) (s : CharSet) : CharSet :=
  if !f.caseless then s else if f.unicode then s.caseFold else s.asciiFold

def literal (f : Flags) (l : Literal) : Except SyntaxError Pattern := do
  let c ← literalChar f l
  if !f.caseless then pure (.literal [c])
  else if f.unicode then pure (Pattern.ofSet (CharSet.single c).caseFold)
  else if isAsciiLetter c then pure (Pattern.ofSet (CharSet.single c).asciiFold)
  else pure (.literal [c])

def dot (f : Flags) (span : Span) : Except SyntaxError Pattern :=
  if !f.unicode then fail invalidUtf8 span
  else if f.dotAll then pure (.chars CharSet.full)
  else if f.crlf then pure (.chars (CharSet.normalize [(10, 10), (13, 13)]).complement)
  else pure (.chars (CharSet.single '\n').complement)

def look (f : Flags) : Assertion → Look
  | .startLine => if f.multiLine then (if f.crlf then .startLineCrlf else .startLine) else .start
  | .endLine => if f.multiLine then (if f.crlf then .endLineCrlf else .endLine) else .finish
  | .startText => .start
  | .endText => .finish
  | .wordBoundary => .wordBoundary !f.unicode
  | .notWordBoundary => .notWordBoundary !f.unicode
  | .wordStart => .wordStart !f.unicode
  | .wordEnd => .wordEnd !f.unicode
  | .wordStartHalf => .wordStartHalf !f.unicode
  | .wordEndHalf => .wordEndHalf !f.unicode

def asciiPerl : PerlKind → CharSet
  | .digit => CharSet.normalize [(0x30, 0x39)]
  | .space => CharSet.normalize [(0x9, 0xD), (0x20, 0x20)]
  | .word => CharSet.normalize [(0x30, 0x39), (0x41, 0x5A), (0x5F, 0x5F), (0x61, 0x7A)]

def perl (f : Flags) (p : PerlClass) : Except SyntaxError CharSet :=
  if f.unicode then
    let base := match p.kind with
      | .digit => CharSet.digit
      | .space => CharSet.space
      | .word => CharSet.word
    pure (if p.negated then base.complement else base)
  else if p.negated then fail invalidUtf8 p.span
  else pure (asciiPerl p.kind)

def unicode (f : Flags) (u : UnicodeClass) : Except SyntaxError CharSet := do
  if !f.unicode then fail unicodeNotAllowed u.span
  else
    match u.query.resolve with
    | .error e => fail e.message u.span
    | .ok s =>
      let notEqual := match u.query with
        | .byValue _ _ ne => ne
        | _ => false
      let s := fold f s
      pure (if u.negated != notEqual then s.complement else s)

def foldNegate (f : Flags) (span : Span) (negated : Bool) (s : CharSet) :
    Except SyntaxError CharSet :=
  let s := fold f s
  if !negated then pure s
  else if f.unicode then pure s.complement
  else fail invalidUtf8 span

mutual

def classTree (f : Flags) : ClassTree → Except SyntaxError CharSet
  | .empty _ => pure CharSet.empty
  | .literal l => if f.unicode then pure (CharSet.single l.c) else do
      pure (CharSet.single (← classByte l))
  | .range _ lo hi => if f.unicode then pure (CharSet.range lo.c hi.c) else do
      let a ← classByte lo
      let b ← classByte hi
      pure (CharSet.range a b)
  | .ascii span set negated => foldNegate f span negated set
  | .unicode u => unicode f u
  | .perl p => perl f p
  | .bracketed span negated body => do foldNegate f span negated (← classTree f body)
  | .union _ items => classItems f CharSet.empty items
  | .op _ kind lhs rhs => do
    let l ← classTree f lhs
    let r ← classTree f rhs
    pure (kind.apply (fold f l) (fold f r))

def classItems (f : Flags) (acc : CharSet) : List ClassTree → Except SyntaxError CharSet
  | [] => pure acc
  | t :: rest => do classItems f (acc.union (← classTree f t)) rest

end

mutual

def node (f : Flags) : Ast → Except SyntaxError (Pattern × Flags)
  | .empty _ => pure (.empty, f)
  | .flags _ items => pure (.empty, f.apply items)
  | .literal l => do pure (← literal f l, f)
  | .dot span => do pure (← dot f span, f)
  | .assertion _ k => pure (.look (look f k), f)
  | .unicodeClass u => do pure (Pattern.ofSet (← unicode f u), f)
  | .perlClass p => do pure (Pattern.ofSet (← perl f p), f)
  | .bracketed span negated body => do
    pure (Pattern.ofSet (← foldNegate f span negated (← classTree f body)), f)
  | .repetition _ lo hi greedy body => do
    let (p, _) ← node f body
    pure (Pattern.mkRep lo hi (if f.swapGreed then !greedy else greedy) p, f)
  | .group _ kind body => do
    match kind with
    | .capture index =>
      let (p, _) ← node f body
      pure (.capture index p, f)
    | .nonCapturing items =>
      let (p, _) ← node (f.apply items) body
      pure (p, f)
  | .alternation _ branches => do
    let (ps, f) ← nodes f [] branches
    pure (Pattern.mkAlt ps, f)
  | .concat _ items => do
    let (ps, f) ← nodes f [] items
    pure (Pattern.mkConcat ps, f)

/-- The patterns of nodes in turn, each under the flags the ones before leave, added to `acc`
(in order). -/
def nodes (f : Flags) (acc : List Pattern) : List Ast → Except SyntaxError (List Pattern × Flags)
  | [] => pure (acc, f)
  | a :: rest => do
    let (p, f) ← node f a
    nodes f (acc ++ [p]) rest

end

end Elaborate

def Look.isUnicodeWord : Look → Bool
  | .wordBoundary ascii | .notWordBoundary ascii | .wordStart ascii | .wordEnd ascii
  | .wordStartHalf ascii | .wordEndHalf ascii => !ascii
  | _ => false

def parse (pattern : String) : Except SyntaxError (Pattern × Nat) := do
  let (a, groups) ← parseAst pattern
  a.checkNesting
  let (p, _) ← Elaborate.node {} a
  pure (p, groups)

end Regex

end MonitorWire
