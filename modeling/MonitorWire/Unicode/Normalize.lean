import MonitorWire.Unicode.Compose

namespace MonitorWire

namespace Unicode

def hangulFirst : Nat := 0xAC00

def hangulCount : Nat := 11172

def leadFirst : Nat := 0x1100

def vowelFirst : Nat := 0x1161

def trailBase : Nat := 0x11A7

def isSyllable (c : Nat) : Bool := hangulFirst ≤ c && c < hangulFirst + hangulCount

/-- The complete canonical decomposition of a code point; `fuel` bounds the depth, which is
at most four in the data. -/
def decomposeCode : Nat → Nat → List Nat
  | 0, c => [c]
  | fuel + 1, c =>
    if isSyllable c then
      let s := c - hangulFirst
      let lead := leadFirst + s / 588
      let vowel := vowelFirst + s % 588 / 28
      if s % 28 == 0 then [lead, vowel] else [lead, vowel, trailBase + s % 28]
    else
      match decompositionOf c with
      | some ds => ds.flatMap (decomposeCode fuel)
      | none => [c]

def reorderMarks (cs : List Nat) : List Nat :=
  let flush := fun (run : List Nat) =>
    run.reverse.mergeSort fun a b => combiningClass a ≤ combiningClass b
  let (done, run) := cs.foldl (fun (acc : List Nat × List Nat) c =>
    if combiningClass c == 0 then (c :: (flush acc.2).reverse ++ acc.1, [])
    else (acc.1, c :: acc.2)) ([], [])
  ((flush run).reverse ++ done).reverse

def composeCodes (a b : Nat) : Option Nat :=
  if leadFirst ≤ a && a < leadFirst + 19 && vowelFirst ≤ b && b < vowelFirst + 21 then
    some (hangulFirst + ((a - leadFirst) * 21 + (b - vowelFirst)) * 28)
  else if isSyllable a && (a - hangulFirst) % 28 == 0 && trailBase < b && b < trailBase + 28 then
    some (a + (b - trailBase))
  else composePair a b

/-- The state of composition: the code points so far (last first), the index of the last
starter among them counted from the front, and the class of the last code point kept (`256`
while nothing may join the starter). -/
structure Composing where
  out : Array Nat := #[]
  starter : Option Nat := none
  lastClass : Nat := 0

def composeStep (st : Composing) (c : Nat) : Composing :=
  let cls := combiningClass c
  let joined := match st.starter with
    | some i =>
      if st.lastClass < cls || st.lastClass == 0 then
        (composeCodes (st.out.getD i 0) c).map fun p => { st with out := st.out.set! i p }
      else none
    | none => none
  match joined with
  | some st => st
  | none =>
    if cls == 0 then { out := st.out.push c, starter := some st.out.size, lastClass := 0 }
    else { st with out := st.out.push c, lastClass := cls }

def composeCanonical : List Nat → List Nat
  | [] => []
  | c :: rest =>
    let cls := combiningClass c
    let start : Composing :=
      { out := #[c], starter := some 0, lastClass := if cls == 0 then 0 else 256 }
    (rest.foldl composeStep start).out.toList

def nfcCodes (cs : List Nat) : List Nat :=
  composeCanonical (reorderMarks (cs.flatMap (decomposeCode 8)))

def nfc (cs : List Char) : List Char :=
  (nfcCodes (cs.map Char.toNat)).map Char.ofNat

def isNfc (cs : List Char) : Bool := nfc cs == cs

end Unicode

end MonitorWire
