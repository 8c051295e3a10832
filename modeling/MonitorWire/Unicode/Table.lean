
namespace MonitorWire

namespace Unicode

abbrev Ranges := Array (Nat × Nat)

def maxCode : Nat := 0x10FFFF

def digit36? (c : Char) : Option Nat :=
  let n := c.toNat
  if 0x30 ≤ n && n ≤ 0x39 then some (n - 0x30)
  else if 0x41 ≤ n && n ≤ 0x5A then some (n - 0x41 + 10)
  else none

def number36 (s : String) : Nat :=
  s.toList.foldl (fun acc c => 36 * acc + (digit36? c).getD 0) 0

/-- The pieces of a list of characters between the occurrences of a separator, after the
pieces `done` (last first) and the piece `cur` (reversed) read so far. -/
def splitCharsFrom (sep : Char) (done : List (List Char)) (cur : List Char) :
    List Char → List (List Char)
  | [] => (cur.reverse :: done).reverse
  | c :: rest =>
    if c == sep then splitCharsFrom sep (cur.reverse :: done) [] rest
    else splitCharsFrom sep done (c :: cur) rest

def splitChars (sep : Char) (cs : List Char) : List (List Char) := splitCharsFrom sep [] [] cs

def words (s : String) : List String :=
  ((splitChars ' ' s.toList).map String.ofList).filter (!·.isEmpty)

/-- The range a word `g` or `g+e` stands for, `next` being the first code point it may
start at. -/
def wordRange (next : Nat) (w : String) : Nat × Nat :=
  match (splitChars '+' w.toList).map String.ofList with
  | g :: e :: _ => (next + number36 g, next + number36 g + number36 e)
  | g :: [] => (next + number36 g, next + number36 g)
  | [] => (next, next)

def decodeRanges (s : String) : Ranges :=
  ((words s).foldl (fun (acc : Array (Nat × Nat) × Nat) w =>
    let r := wordRange acc.2 w
    (acc.1.push r, r.2 + 1)) (#[], 0)).1

def decodeTagged (s : String) : Array ((Nat × Nat) × String) :=
  ((words s).foldl (fun (acc : Array ((Nat × Nat) × String) × Nat) w =>
    match w.splitOn ":" with
    | r :: v :: _ =>
      let range := wordRange acc.2 r
      (acc.1.push (range, v), range.2 + 1)
    | _ => acc) (#[], 0)).1

def decodeRuns (s : String) : Array (Nat × String) :=
  ((words s).foldl (fun (acc : Array (Nat × String) × Nat) w =>
    match w.splitOn ":" with
    | n :: v :: _ => (acc.1.push (acc.2, v), acc.2 + number36 n)
    | _ => acc) (#[], 0)).1

/-- The number of entries of `xs` whose key is below `c`, for entries sorted by key: the
index of the first entry with key `c` or more. Binary search on `[lo, hi)`. -/
def lowerBoundIn {α : Type} (xs : Array (Nat × α)) (c : Nat) : Nat → Nat → Nat → Nat
  | 0, lo, _ => lo
  | fuel + 1, lo, hi =>
    if hi ≤ lo then lo
    else
      let mid := (lo + hi) / 2
      match xs[mid]? with
      | some (k, _) => if k < c then lowerBoundIn xs c fuel (mid + 1) hi else lowerBoundIn xs c fuel lo mid
      | none => lo

def lowerBound {α : Type} (xs : Array (Nat × α)) (c : Nat) : Nat :=
  lowerBoundIn xs c (xs.size + 1) 0 xs.size

/-- The value of the run holding a code point: the last run starting at or before it. -/
def runAt {α : Type} (runs : Array (Nat × α)) (c : Nat) (default : α) : α :=
  let i := lowerBound runs (c + 1)
  if i = 0 then default
  else match runs[i - 1]? with
    | some (_, v) => v
    | none => default

def runsWhere {α : Type} (runs : Array (Nat × α)) (p : α → Bool) : Ranges :=
  let ends := (runs.toList.drop 1).map (·.1 - 1) ++ [maxCode]
  let picked := (runs.toList.zip ends).filterMap fun ((start, v), stop) =>
    if p v then some (start, stop) else none
  (picked.foldl (fun (acc : List (Nat × Nat)) (a, b) =>
    match acc with
    | (c, d) :: rest => if a ≤ d + 1 then (c, max b d) :: rest else (a, b) :: (c, d) :: rest
    | [] => [(a, b)]) []).reverse.toArray

def insertByStart (r : Nat × Nat) : List (Nat × Nat) → List (Nat × Nat)
  | [] => [r]
  | s :: rest => if r.1 ≤ s.1 then r :: s :: rest else s :: insertByStart r rest

def mergeRanges (rs : List (Nat × Nat)) : Ranges :=
  -- sorted by start, stably, from the last range to the first
  let sorted := (rs.filter (fun r => r.1 ≤ r.2)).foldr insertByStart []
  (sorted.foldl (fun (acc : List (Nat × Nat)) (a, b) =>
    match acc with
    | (c, d) :: rest => if a ≤ d + 1 then (c, max b d) :: rest else (a, b) :: (c, d) :: rest
    | [] => [(a, b)]) []).reverse.toArray

def cutRange (r cut : Nat × Nat) : List (Nat × Nat) :=
  if cut.2 < r.1 || r.2 < cut.1 then [r]
  else (if r.1 < cut.1 then [(r.1, cut.1 - 1)] else []) ++
    (if cut.2 < r.2 then [(cut.2 + 1, r.2)] else [])

def subtractRanges (rs : Ranges) (cuts : List (Nat × Nat)) : List (Nat × Nat) :=
  cuts.foldl (fun acc cut => acc.flatMap (cutRange · cut)) rs.toList

def rangesHoldIn (rs : Ranges) (c : Nat) : Nat → Nat → Nat → Bool
  | 0, _, _ => false
  | fuel + 1, lo, hi =>
    if hi ≤ lo then false
    else
      let mid := (lo + hi) / 2
      let (a, b) := rs.getD mid (0, 0)
      if c < a then rangesHoldIn rs c fuel lo mid
      else if b < c then rangesHoldIn rs c fuel (mid + 1) hi
      else true

def rangesHold (rs : Ranges) (c : Nat) : Bool := rangesHoldIn rs c (rs.size + 1) 0 rs.size

end Unicode

end MonitorWire
