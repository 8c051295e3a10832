
namespace MonitorWire

structure Binary64 where
  bits : UInt64
  deriving DecidableEq, Repr, Inhabited

namespace Binary64

def negative (x : Binary64) : Bool := x.bits.toNat / Nat.pow 2 63 == 1

def biased (x : Binary64) : Nat := x.bits.toNat / Nat.pow 2 52 % 2048

def fraction (x : Binary64) : Nat := x.bits.toNat % Nat.pow 2 52

def isFinite (x : Binary64) : Bool := x.biased != 2047

def isInfinite (x : Binary64) : Bool := x.biased == 2047 && x.fraction == 0

def mantissa (x : Binary64) : Nat :=
  if x.biased == 0 then x.fraction else x.fraction + Nat.pow 2 52

def exponent (x : Binary64) : Int :=
  if x.biased == 0 then -1074 else (x.biased : Int) - 1075

def make (neg : Bool) (biased fraction : Nat) : Binary64 :=
  ⟨UInt64.ofNat ((if neg then Nat.pow 2 63 else 0) + biased * Nat.pow 2 52 + fraction)⟩

def zero (neg : Bool) : Binary64 := make neg 0 0

def infinity (neg : Bool) : Binary64 := make neg 2047 0

def negate (x : Binary64) : Binary64 :=
  make (!x.negative) x.biased x.fraction

def powTwoLe (k : Int) (num den : Nat) : Bool :=
  if k ≥ 0 then Nat.pow 2 k.toNat * den ≤ num else den ≤ num * Nat.pow 2 (-k).toNat

def log2Ratio (num den : Nat) : Int :=
  let guess : Int := (num.log2 : Int) - den.log2
  if powTwoLe guess num den then guess else guess - 1

/-- `num / den` rounded to the nearest natural, a tie going to the even one. -/
def roundHalfEven (num den : Nat) : Nat :=
  let q := num / den
  let r := num % den
  if 2 * r > den || (2 * r == den && q % 2 == 1) then q + 1 else q

def roundRatio (neg : Bool) (num den : Nat) : Binary64 :=
  if num == 0 || den == 0 then zero neg
  else
    let e0 : Int := max (log2Ratio num den - 52) (-1074)
    let q0 := if e0 ≥ 0 then roundHalfEven num (den * Nat.pow 2 e0.toNat)
      else roundHalfEven (num * Nat.pow 2 (-e0).toNat) den
    let (q, e) := if q0 == Nat.pow 2 53 then (Nat.pow 2 52, e0 + 1) else (q0, e0)
    if q ≥ Nat.pow 2 52 then
      let b := e + 1075
      if b ≥ 2047 then infinity neg else make neg b.toNat (q - Nat.pow 2 52)
    else make neg 0 q

def ofNat (n : Nat) : Binary64 := roundRatio false n 1

def ratio (m : Nat) (e : Int) : Nat × Nat :=
  if e ≥ 0 then (m * Nat.pow 2 e.toNat, 1) else (m, Nat.pow 2 (-e).toNat)

def mul (x y : Binary64) : Binary64 :=
  let (n, d) := ratio (x.mantissa * y.mantissa) (x.exponent + y.exponent)
  roundRatio (x.negative != y.negative) n d

def div (x y : Binary64) : Binary64 :=
  let (n1, d1) := ratio x.mantissa x.exponent
  let (n2, d2) := ratio y.mantissa y.exponent
  roundRatio (x.negative != y.negative) (n1 * d2) (d1 * n2)

/-- The double nearest to `±digits * 10 ^ exp10`, rounding once. Exponents far outside the
double range give zero or infinity directly. -/
def ofDecimal (neg : Bool) (digits : Nat) (exp10 : Int) : Binary64 :=
  let size : Int := (Nat.toDigits 10 digits).length
  if digits == 0 then zero neg
  else if size + exp10 > 310 then infinity neg
  else if size + exp10 < -330 then zero neg
  else if exp10 ≥ 0 then roundRatio neg (digits * Nat.pow 10 exp10.toNat) 1
  else roundRatio neg digits (Nat.pow 10 (-exp10).toNat)

def powTen (n : Nat) : Binary64 := roundRatio false (Nat.pow 10 n) 1

end Binary64

end MonitorWire
