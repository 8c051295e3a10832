import MonitorWire.Regex.Elaborate

namespace MonitorWire

namespace Regex

namespace Footprint

def sizeLimit : Nat := 10485760

def stateBytes : Nat := 32
def transitionBytes : Nat := 8
def alternativeBytes : Nat := 4

structure Counts where
  states : Nat := 0
  heap : Nat := 0
  deriving Repr

def Counts.usage (c : Counts) : Nat := stateBytes * c.states + c.heap

abbrev Build := StateT Counts (Except Unit)

def check : Build Unit := do
  if (← get).usage > sizeLimit then throw ()

def add (heap : Nat) : Build Nat := do
  let c ← get
  set { c with states := c.states + 1, heap := c.heap + heap }
  check
  pure c.states

def addAlternative : Build Unit := do
  modify fun c => { c with heap := c.heap + alternativeBytes }
  check

/-- A piece of automaton: its entry, its exit, and whether the exit is a union state (which
grows when something is attached after it). -/
structure Piece where
  start : Nat
  stop : Nat
  stopUnion : Bool := false

def attachAfter (p : Piece) : Build Unit := if p.stopUnion then addAlternative else pure ()

def emptyPiece : Build Piece := do
  let s ← add 0
  pure ⟨s, s, false⟩

def joinPieces (a b : Piece) : Build Piece := do
  attachAfter a
  pure ⟨a.start, b.stop, b.stopUnion⟩

def utf8Bytes (c : Nat) : List Nat :=
  if c < 0x80 then [c]
  else if c < 0x800 then [0xC0 + c / 64, 0x80 + c % 64]
  else if c < 0x10000 then [0xE0 + c / 4096, 0x80 + c / 64 % 64, 0x80 + c % 64]
  else [0xF0 + c / 262144, 0x80 + c / 4096 % 64, 0x80 + c / 64 % 64, 0x80 + c % 64]

def lengthBounds : List Nat := [0x7F, 0x7FF, 0xFFFF]

/-- The block sizes (powers of 64) a range is cut at so that its ends differ only in the
last bytes. -/
def blockSizes : List Nat := [0x40, 0x1000, 0x40000]

def lengthCut (s e : Nat) : Option Nat :=
  lengthBounds.find? fun m => s ≤ m && m < e

def blockCut : Nat → Nat → List Nat → Option ((Nat × Nat) × (Nat × Nat))
  | _, _, [] => none
  | s, e, size :: rest =>
    if s / size != e / size then
      if s % size != 0 then
        let edge := s / size * size + size - 1
        some ((s, edge), (edge + 1, e))
      else if e % size != size - 1 then
        some ((s, e / size * size - 1), (e / size * size, e))
      else blockCut s e rest
    else blockCut s e rest

/-- The byte-range sequences matching exactly the UTF-8 encodings of the ranges on the
stack, the top first; surrogates are left out. -/
def sequencesOf : Nat → List (Nat × Nat) → List (List (Nat × Nat))
  | 0, _ => []
  | _, [] => []
  | fuel + 1, (s, e) :: rest =>
    if s < 0xE000 && e > 0xD7FF then sequencesOf fuel ((s, 0xD7FF) :: (0xE000, e) :: rest)
    else if s > e then sequencesOf fuel rest
    else match lengthCut s e with
      | some m => sequencesOf fuel ((s, m) :: (m + 1, e) :: rest)
      | none =>
        if e ≤ 0x7F then [(s, e)] :: sequencesOf fuel rest
        else match blockCut s e blockSizes with
          | some (a, b) => sequencesOf fuel (a :: b :: rest)
          | none => (utf8Bytes s).zip (utf8Bytes e) :: sequencesOf fuel rest

def utf8Sequences (lo hi : Nat) : List (List (Nat × Nat)) := sequencesOf 256 [(lo, hi)]

def fnv (xs : List Nat) : UInt64 :=
  xs.foldl (fun h x => (h ^^^ x.toUInt64) * 1099511628211) 14695981039346656037

/-- A cache of numbered slots, each holding the entry stored in it last. -/
structure SlotCache (α : Type) where
  entries : List (Nat × α) := []

def SlotCache.get? {α : Type} (c : SlotCache α) (slot : Nat) : Option α :=
  (c.entries.find? (·.1 == slot)).map (·.2)

def SlotCache.set {α : Type} (c : SlotCache α) (slot : Nat) (a : α) : SlotCache α :=
  ⟨(slot, a) :: c.entries.filter (·.1 != slot)⟩

abbrev Transition := Nat × Nat × Nat

/-- A state of the forward class compiler not built yet: its transitions, and the range of a
last transition whose target is not known yet. -/
structure Pending where
  trans : Array Transition := #[]
  last : Option (Nat × Nat) := none

/-- The forward class compiler: the shared exit, the built states by cache slot, and the
states not built yet (a stack, the root first). -/
structure Forward where
  target : Nat
  built : SlotCache (Array Transition × Nat) := {}
  pending : Array Pending := #[{}]

def Pending.freeze (p : Pending) (next : Nat) : Array Transition :=
  match p.last with
  | some (s, e) => p.trans.push (s, e, next)
  | none => p.trans

def Forward.build (f : Forward) (trans : Array Transition) : Build (Nat × Forward) := do
  let slot := ((fnv (trans.toList.flatMap fun (s, e, n) => [s, e, n])) % 10000).toNat
  match f.built.get? slot with
  | some (key, id) => if key == trans then return (id, f) else pure ()
  | none => pure ()
  let id ← add (transitionBytes * trans.size)
  pure (id, { f with built := f.built.set slot (trans, id) })

/-- Builds the pending states above the first `keep + 1`, deepest first, and points the last
transition of the one left on top at what was built. -/
def Forward.buildFrom (f : Forward) (keep : Nat) : Build Forward := do
  let mut f := f
  let mut next := f.target
  for _ in [0:f.pending.size] do
    if keep + 1 < f.pending.size then
      let top := f.pending.back?.getD {}
      let (id, f') ← f.build (top.freeze next)
      f := { f' with pending := f'.pending.pop }
      next := id
  match f.pending.back? with
  | some top => pure { f with pending := f.pending.pop.push ⟨top.freeze next, none⟩ }
  | none => pure f

def Forward.addSequence (f : Forward) (seq : List (Nat × Nat)) : Build Forward := do
  let shared := ((seq.zip f.pending.toList).takeWhile fun (r, p) => p.last == some r).length
  let f ← f.buildFrom shared
  match seq.drop shared with
  | [] => pure f
  | first :: rest =>
    let top := f.pending.back?.getD {}
    let pending := f.pending.pop.push { top with last := some first }
    pure { f with pending := rest.foldl (fun ps r => ps.push ⟨#[], some r⟩) pending }

def Forward.finish (f : Forward) : Build Piece := do
  let f ← f.buildFrom 0
  let root := (f.pending.back?.getD {}).trans
  let (start, _) ← f.build root
  pure ⟨start, f.target, false⟩

def classForward (s : CharSet) : Build Piece := do
  let target ← add 0
  let mut f : Forward := { target }
  for (lo, hi) in s.ranges.toList do
    for seq in utf8Sequences lo hi do
      f ← f.addSequence seq
  f.finish

def classBackward (s : CharSet) : Build Piece := do
  let union ← add 0
  let altEnd ← add 0
  let mut cache : SlotCache ((Nat × Nat × Nat) × Nat) := {}
  for (lo, hi) in s.ranges.toList do
    for seq in utf8Sequences lo hi do
      let mut stop := altEnd
      for (b1, b2) in seq do
        let key := (stop, b1, b2)
        let slot := ((fnv [stop, b1, b2]) % 1000).toNat
        match cache.get? slot with
        | some (k, id) =>
          if k == key then
            stop := id
            continue
        | none => pure ()
        let id ← add 0
        stop := id
        cache := cache.set slot (key, id)
      addAlternative
  pure ⟨union, altEnd, false⟩

def classSparse (ranges : Nat) : Build Piece := do
  let stop ← add 0
  let start ← add (transitionBytes * ranges)
  pure ⟨start, stop, false⟩

def classPiece (backward : Bool) (s : CharSet) : Build Piece :=
  if s.isAscii then classSparse s.ranges.size
  else if backward then classBackward s
  else classForward s

/-- A node of a trie of byte strings: its edges, each a byte and the node it leads to, and the
ends of the runs of edges closed by a string ending at the node. Edges added after such an
end start a new run, so that the earlier string keeps its priority. -/
structure TrieNode where
  edges : List (Nat × Nat) := []
  runs : List Nat := []

def TrieNode.runStart (n : TrieNode) : Nat := n.runs.getLast?.getD 0

def TrieNode.chunks (n : TrieNode) : List (List (Nat × Nat)) :=
  ((0 :: n.runs).zip (n.runs ++ [n.edges.length])).map fun (s, e) => (n.edges.drop s).take (e - s)

/-- Adds a byte string to a trie whose root is node 0, following the edges of the open runs
(kept in byte order) and adding the ones missing, and records that a string ends at its last
node. -/
def trieAdd (nodes : Array TrieNode) (bytes : List Nat) : Array TrieNode :=
  let (nodes, last) := bytes.foldl (fun (acc : Array TrieNode × Nat) b =>
    let (nodes, here) := acc
    let node := nodes[here]?.getD {}
    let start := node.runStart
    let open_ := node.edges.drop start
    match open_.find? (·.1 == b) with
    | some (_, next) => (nodes, next)
    | none =>
      let pos := start + (open_.filter (·.1 < b)).length
      let next := nodes.size
      let edges := node.edges.take pos ++ (b, next) :: node.edges.drop pos
      ((nodes.modify here fun n => { n with edges := edges }).push {}, next)) (nodes, 0)
  nodes.modify last fun n =>
    if n.edges.isEmpty && !n.runs.isEmpty then n else { n with runs := n.runs ++ [n.edges.length] }

/-- Builds the states of a trie node that is not a leaf, its children first; `fuel` bounds the
depth. Returns the node's union state. -/
def trieNode (nodes : Array TrieNode) : Nat → Nat → Build Nat
  | 0, _ => add 0
  | fuel + 1, id => do
    let mut alternatives := 0
    let mut first := true
    for chunk in (nodes[id]?.getD {}).chunks do
      if !first then alternatives := alternatives + 1
      first := false
      for (_, next) in chunk do
        if !(nodes[next]?.getD {}).edges.isEmpty then
          let _ ← trieNode nodes fuel next
      if !chunk.isEmpty then
        let _ ← add (if chunk.length == 1 then 0 else transitionBytes * chunk.length)
        alternatives := alternatives + 1
    add (alternativeBytes * alternatives)

def literalAlternation (backward : Bool) (words : List (List Char)) : Build Piece := do
  let stop ← add 0
  let strings := words.map fun cs =>
    let bytes := cs.flatMap (utf8Bytes ·.toNat)
    if backward then bytes.reverse else bytes
  let nodes := strings.foldl trieAdd #[{}]
  let start ← trieNode nodes ((strings.map List.length).foldl max 0 + 1) 0
  pure ⟨start, stop, false⟩

def literalChars? : Pattern → Option (List Char)
  | .literal cs => some cs
  | _ => none

def union : Build Nat := add 0

mutual

def piece (backward captures : Bool) : Nat → Pattern → Build Piece
  | 0, _ => emptyPiece
  | fuel + 1, p =>
    match p with
    | .empty => emptyPiece
    | .literal cs => do
      let bytes := cs.flatMap (utf8Bytes ·.toNat)
      let first ← add 0
      for _ in bytes.drop 1 do
        let _ ← add 0
      pure ⟨first, first, false⟩
    | .chars s => classPiece backward s
    | .look _ => emptyPiece
    | .capture _ body =>
      if captures then do
        let open_ ← add 0
        let inner ← piece backward captures fuel body
        let close ← add 0
        attachAfter inner
        pure ⟨open_, close, false⟩
      else piece backward captures fuel body
    | .concat items => sequence backward captures fuel (if backward then items.reverse else items)
    | .alt branches =>
      match branches.mapM literalChars?, branches with
      | some words, _ :: _ :: _ => literalAlternation backward words
      | _, first :: second :: rest => do
        let a ← piece backward captures fuel first
        let b ← piece backward captures fuel second
        let u ← union
        let stop ← add 0
        addAlternative
        attachAfter a
        addAlternative
        attachAfter b
        for r in rest do
          let c ← piece backward captures fuel r
          addAlternative
          attachAfter c
        pure ⟨u, stop, false⟩
      | _, [b] => piece backward captures fuel b
      | _, [] => emptyPiece
    | .rep lo hi _ body => repetition backward captures fuel lo hi body

def sequence (backward captures : Bool) : Nat → List Pattern → Build Piece
  | 0, _ => emptyPiece
  | _ + 1, [] => emptyPiece
  | fuel + 1, first :: rest => do
    let mut acc ← piece backward captures fuel first
    for p in rest do
      let next ← piece backward captures fuel p
      acc ← joinPieces acc next
    pure acc

def copies (backward captures : Bool) : Nat → Nat → Pattern → Build Piece
  | 0, _, _ => emptyPiece
  | fuel + 1, n, body => do
    if n == 0 then return ← emptyPiece
    let mut acc ← piece backward captures fuel body
    for _ in [1:n] do
      let next ← piece backward captures fuel body
      acc ← joinPieces acc next
    pure acc

def repetition (backward captures : Bool) : Nat → Nat → Option Nat → Pattern → Build Piece
  | 0, _, _, _ => emptyPiece
  | fuel + 1, lo, hi, body =>
    match lo, hi with
    | 0, some 1 => do
      let u ← union
      let inner ← piece backward captures fuel body
      let stop ← add 0
      addAlternative
      addAlternative
      attachAfter inner
      pure ⟨u, stop, false⟩
    | 0, none =>
      if body.minLen.any (fun n => decide (n > 0)) then do
        let u ← union
        let inner ← piece backward captures fuel body
        addAlternative
        attachAfter inner
        pure ⟨u, u, true⟩
      else do
        let inner ← piece backward captures fuel body
        let _ ← union
        attachAfter inner
        addAlternative
        let question ← union
        let stop ← add 0
        addAlternative
        addAlternative
        addAlternative
        pure ⟨question, stop, false⟩
    | 1, none => do
      let inner ← piece backward captures fuel body
      let u ← union
      attachAfter inner
      addAlternative
      pure ⟨inner.start, u, true⟩
    | n, none => do
      let front ← copies backward captures fuel (n - 1) body
      let last ← piece backward captures fuel body
      let u ← union
      attachAfter front
      attachAfter last
      addAlternative
      pure ⟨front.start, u, true⟩
    | n, some m =>
      if n == m then copies backward captures fuel n body
      else do
        let front ← copies backward captures fuel n body
        let stop ← add 0
        let mut prev := front
        for _ in [n:m] do
          let _ ← union
          let next ← piece backward captures fuel body
          attachAfter prev
          addAlternative
          addAlternative
          prev := next
        attachAfter prev
        pure ⟨front.start, stop, false⟩

end

def automaton (backward : Bool) (p : Pattern) : Except Unit Nat := do
  let build : Build Unit := do
    let anchored := if backward then p.anchoredEnd else p.anchoredStart
    let front ← if anchored then emptyPiece else do
      let u ← union
      let _ ← classSparse 1
      addAlternative
      pure ⟨u, u, true⟩
    let body ← piece backward (!backward) (2 * p.size + 4) (.capture 0 p)
    let _ ← add 0
    attachAfter body
    attachAfter front
  let ((), counts) ← build.run {}
  pure counts.usage

end Footprint

def Pattern.fitsSizeLimit (p : Pattern) : Bool :=
  (Footprint.automaton false p).isOk && (Footprint.automaton true p).isOk

def sizeLimitError : String :=
  "Compiled regex exceeds size limit of " ++ toString Footprint.sizeLimit ++ " bytes."

end Regex

end MonitorWire
