import MonitorWire.Regex.Footprint

namespace MonitorWire

namespace Regex

inductive Inst where
  | chars (s : CharSet) (next : Nat)
  | look (l : Look) (next : Nat)
  | save (slot : Nat) (next : Nat)
  | split (first second : Nat)
  | jump (next : Nat)
  | accept
  deriving Repr, Inhabited, DecidableEq

abbrev Program := Array Inst

def emit (prog : Program) (i : Inst) : Nat × Program := (prog.size, prog.push i)

def choice (greedy : Bool) (body out : Nat) : Inst :=
  if greedy then .split body out else .split out body

mutual

def compile : Pattern → Nat → Program → Nat × Program
  | .empty, next, prog => (next, prog)
  | .literal cs, next, prog =>
    cs.foldr (fun c (cur, prog) => emit prog (.chars (CharSet.single c) cur)) (next, prog)
  | .chars s, next, prog => emit prog (.chars s next)
  | .look l, next, prog => emit prog (.look l next)
  | .capture i body, next, prog =>
    let (close, prog) := emit prog (.save (2 * i + 1) next)
    let (entry, prog) := compile body close prog
    emit prog (.save (2 * i) entry)
  | .concat items, next, prog => compileSeq items next prog
  | .alt branches, next, prog =>
    let (entries, prog) := compileBranches branches next prog
    let (entry, prog) := entries.reverse.foldl (fun (acc : Option Nat × Program) e =>
      match acc with
      | (none, prog) => (some e, prog)
      | (some rest, prog) =>
        let (s, prog) := emit prog (.split e rest)
        (some s, prog)) (none, prog)
    (entry.getD next, prog)
  | .rep lo hi greedy body, next, prog =>
    -- the copies after the required ones, then the required ones in front of them
    let (tail, prog) : Nat × Program := match hi with
      | some h =>
        (List.range (h - lo)).foldl (fun (cur, prog) _ =>
          let (e, prog) := compile body cur prog
          emit prog (choice greedy e next)) (next, prog)
      | none =>
        if lo == 0 then
          let (loop, prog) := emit prog (.jump 0)
          let (e, prog) := compile body loop prog
          let prog := prog.setIfInBounds loop (choice greedy e next)
          emit prog (choice greedy e next)
        else
          let (loop, prog) := emit prog (.jump 0)
          let (e, prog) := compile body loop prog
          (e, prog.setIfInBounds loop (choice greedy e next))
    let required := match hi with
      | none => lo - 1
      | some _ => lo
    (List.range (if hi.isNone && lo == 0 then 0 else required)).foldl (fun (cur, prog) _ =>
      compile body cur prog) (tail, prog)

def compileSeq : List Pattern → Nat → Program → Nat × Program
  | [], next, prog => (next, prog)
  | p :: rest, next, prog =>
    let (e, prog) := compileSeq rest next prog
    compile p e prog

def compileBranches : List Pattern → Nat → Program → List Nat × Program
  | [], _, prog => ([], prog)
  | b :: rest, next, prog =>
    let (e, prog) := compile b next prog
    let (es, prog) := compileBranches rest next prog
    (e :: es, prog)

end

structure Compiled where
  source : String
  program : Program
  start : Nat
  groups : Nat

abbrev Slots := Array (Option Nat)

structure Thread where
  pc : Nat
  slots : Slots

structure Threads where
  seen : Array Bool
  list : Array Thread

def compileText (pattern : String) : Except String Compiled :=
  match parse pattern with
  | .error e => .error (e.render pattern)
  | .ok (p, groups) =>
    if !p.fitsSizeLimit then .error sizeLimitError else
    let (acc, prog) := emit #[] .accept
    let (close, prog) := emit prog (.save 1 acc)
    let (entry, prog) := compile p close prog
    let (start, prog) := emit prog (.save 0 entry)
    .ok ⟨pattern, prog, start, groups⟩

def isAsciiWord (c : Char) : Bool := c.isAlphanum && c.toNat < 0x80 || c == '_'

/-- Whether the characters before and at `pos` are word characters (in the Unicode sense, or
ASCII word characters only). -/
def wordSides (ascii : Bool) (text : Array Char) (pos : Nat) : Bool × Bool :=
  let isWord := if ascii then isAsciiWord else CharSet.isWord
  let before := if pos == 0 then false else (text[pos - 1]?.map isWord).getD false
  let after := (text[pos]?.map isWord).getD false
  (before, after)

def holds (text : Array Char) (pos : Nat) : Look → Bool
  | .start => pos == 0
  | .finish => pos == text.size
  | .startLine => pos == 0 || text[pos - 1]? == some '\n'
  | .endLine => pos == text.size || text[pos]? == some '\n'
  | .startLineCrlf =>
    pos == 0 || text[pos - 1]? == some '\n' ||
      (text[pos - 1]? == some '\r' && text[pos]? != some '\n')
  | .endLineCrlf =>
    pos == text.size || text[pos]? == some '\r' ||
      (text[pos]? == some '\n' && (pos == 0 || text[pos - 1]? != some '\r'))
  | .wordBoundary ascii => let (b, a) := wordSides ascii text pos; b != a
  | .notWordBoundary ascii => let (b, a) := wordSides ascii text pos; b == a
  | .wordStart ascii => let (b, a) := wordSides ascii text pos; !b && a
  | .wordEnd ascii => let (b, a) := wordSides ascii text pos; b && !a
  | .wordStartHalf ascii => !(wordSides ascii text pos).1
  | .wordEndHalf ascii => !(wordSides ascii text pos).2

def closure (prog : Program) (text : Array Char) (pos : Nat) :
    Nat → Nat → Slots → Threads → Threads
  | 0, _, _, ts => ts
  | fuel + 1, pc, slots, ts =>
    if ts.seen.getD pc true then ts
    else
      let ts := { ts with seen := ts.seen.setIfInBounds pc true }
      match prog[pc]? with
      | some (.split a b) => closure prog text pos fuel b slots (closure prog text pos fuel a slots ts)
      | some (.jump a) => closure prog text pos fuel a slots ts
      | some (.save k a) => closure prog text pos fuel a (slots.setIfInBounds k (some pos)) ts
      | some (.look l a) => if holds text pos l then closure prog text pos fuel a slots ts else ts
      | some (.chars _ _) | some .accept => { ts with list := ts.list.push ⟨pc, slots⟩ }
      | none => ts

def Threads.empty (size : Nat) : Threads := ⟨Array.replicate size false, #[]⟩

/-- Moves the threads over the character at `pos`; the slots of the first accepting thread,
which cuts off the threads behind it. -/
def advance (prog : Program) (text : Array Char) (pos : Nat) :
    List Thread → Threads → Threads × Option Slots
  | [], next => (next, none)
  | t :: rest, next =>
    match prog[t.pc]? with
    | some .accept => (next, some t.slots)
    | some (.chars s a) =>
      match text[pos]? with
      | some c =>
        if s.mem c then
          advance prog text pos rest (closure prog text (pos + 1) (prog.size + 1) a t.slots next)
        else advance prog text pos rest next
      | none => advance prog text pos rest next
    | _ => advance prog text pos rest next

def groupSpan (slots : Slots) (i : Nat) : Option (Nat × Nat) :=
  match slots[2 * i]?, slots[2 * i + 1]? with
  | some (some a), some (some b) => some (a, b)
  | _, _ => none

namespace Compiled

def run (r : Compiled) (text : Array Char) : Nat → Nat → Threads → Option Slots → Option Slots
  | 0, _, _, found => found
  | fuel + 1, pos, curr, found =>
    if curr.list.isEmpty && found.isSome then found
    else
      let curr := if found.isNone then
          closure r.program text pos (r.program.size + 1) r.start
            (Array.replicate (2 * r.groups + 2) none) curr
        else curr
      let (next, m) := advance r.program text pos curr.list.toList (Threads.empty r.program.size)
      let found := m <|> found
      if pos ≥ text.size then found else run r text fuel (pos + 1) next found

def searchAt (r : Compiled) (text : Array Char) (start : Nat) : Option Slots :=
  if start > text.size then none
  else run r text (text.size + 2 - start) start (Threads.empty r.program.size) none

def isMatch (r : Compiled) (text : String) : Bool := (searchAt r text.toList.toArray 0).isSome

def captures (r : Compiled) (text : String) : Option (List (Option String)) :=
  let cs := text.toList.toArray
  (searchAt r cs 0).map fun slots =>
    (List.range (r.groups + 1)).map fun i =>
      (groupSpan slots i).map fun (a, b) => String.ofList ((cs.toList.drop a).take (b - a))

def matchesFrom (r : Compiled) (text : Array Char) : Nat → Nat → Option Nat → List Slots
  | 0, _, _ => []
  | fuel + 1, start, lastEnd =>
    match searchAt r text start with
    | none => []
    | some m =>
      let m := match groupSpan m 0 with
        | some (a, b) => if a == b && lastEnd == some b then searchAt r text (start + 1) else some m
        | none => some m
      match m with
      | none => []
      | some m =>
        let stop := ((groupSpan m 0).map (·.2)).getD start
        m :: matchesFrom r text fuel stop (some stop)

def allMatches (r : Compiled) (text : Array Char) : List Slots :=
  matchesFrom r text (text.size + 2) 0 none

def replaceAll (r : Compiled) (text : String) (f : Array Char → Slots → String) : String :=
  let cs := text.toList.toArray
  let ms := allMatches r cs
  let slice := fun (a b : Nat) => String.ofList ((cs.toList.drop a).take (b - a))
  let (out, last) := ms.foldl (fun (acc : String × Nat) m =>
    match groupSpan m 0 with
    | some (a, b) => (acc.1 ++ slice acc.2 a ++ f cs m, b)
    | none => acc) ("", 0)
  out ++ slice last cs.size

end Compiled

def escapePattern (s : String) : String :=
  String.ofList (s.toList.flatMap fun c => if Parser.isMeta c then ['\\', c] else [c])

end Regex

end MonitorWire
