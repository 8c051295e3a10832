import MonitorWire.Decimal.Binary64

namespace MonitorWire

namespace Decimal

def cmpScaled (a : Nat) (k : Int) (b : Nat) (p : Int) : Ordering :=
  let lhs := a * Nat.pow 10 (max k 0).toNat * Nat.pow 2 (max (-p) 0).toNat
  let rhs := b * Nat.pow 10 (max (-k) 0).toNat * Nat.pow 2 (max p 0).toNat
  compare lhs rhs

def gridRatio (m : Nat) (e t : Int) : Nat × Nat :=
  (m * Nat.pow 2 (max e 0).toNat * Nat.pow 10 (max (-t) 0).toNat,
    Nat.pow 2 (max (-e) 0).toNat * Nat.pow 10 (max t 0).toNat)

def digitCount (n : Nat) : Nat := (Nat.toDigits 10 n).length

def leadingPosition (m : Nat) (e : Int) : Int :=
  let (num, den) := gridRatio m e 0
  if num ≥ den then (digitCount (num / den) : Int) - 1
  else
    -- Below one: the first `j` with `m * 2 ^ e * 10 ^ j ≥ 1`.
    let j := (List.range 400).find? (fun j => num * Nat.pow 10 (j + 1) ≥ den)
    Int.negSucc (j.getD 399)

def trimZeros : Nat → Nat → Int → Nat × Int
  | 0, d, k => (d, k)
  | fuel + 1, d, k => if d != 0 && d % 10 == 0 then trimZeros fuel (d / 10) (k + 1) else (d, k)

/-- The rounding interval of a finite positive double `m * 2 ^ e`, in units of `2 ^ (e - 2)`:
its low end, its high end, and whether the ends belong to it. The interval is narrower below
when `m` is the smallest mantissa of its binade (the next double down is closer). -/
def interval (x : Binary64) : Nat × Nat × Bool :=
  let m := x.mantissa
  let low := if x.fraction == 0 && x.biased > 1 then 4 * m - 1 else 4 * m - 2
  (low, 4 * m + 2, m % 2 == 0)

def inInterval (x : Binary64) (d : Nat) (t : Int) : Bool :=
  let (low, high, closed) := interval x
  let p := x.exponent - 2
  let aboveLow := match cmpScaled d t low p with
    | .gt => true
    | .eq => closed
    | .lt => false
  let belowHigh := match cmpScaled d t high p with
    | .lt => true
    | .eq => closed
    | .gt => false
  aboveLow && belowHigh

def candidate (x : Binary64) (t : Int) : Option Nat :=
  let (num, den) := gridRatio x.mantissa x.exponent t
  let lo := num / den
  let hi := if num % den == 0 then lo else lo + 1
  let okLo := inInterval x lo t
  let okHi := inInterval x hi t
  if okLo && okHi then
    if lo == hi then some lo
    else match compare (2 * num) ((lo + hi) * den) with
      | .lt => some lo
      | .gt => some hi
      | .eq => some (if lo % 2 == 0 then lo else hi)
  else if okLo then some lo
  else if okHi then some hi
  else none

/-- The shortest digits `d` and exponent `k` with `d * 10 ^ k` reading back as the finite,
nonzero double `x` (sign ignored); `d` has no trailing zeros. -/
def shortest (x : Binary64) : Nat × Int :=
  let top := leadingPosition x.mantissa x.exponent
  let found := (List.range 17).findSome? fun (i : Nat) =>
    let t := top - (i : Int)
    (candidate x t).map fun d => (d, t)
  let (d, k) := found.getD (x.mantissa, x.exponent)
  trimZeros 20 d k

end Decimal

end MonitorWire
