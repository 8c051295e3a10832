import MonitorWire.Decimal.Binary64
import MonitorWire.Text.Basic

namespace MonitorWire

namespace Binary64

def nan : Binary64 := make false 2047 (Nat.pow 2 51)

def takeDigits (cs : List Char) : List Char × List Char := (cs.takeWhile Char.isDigit, cs.dropWhile Char.isDigit)

def digitsOr0 (cs : List Char) : Nat := (Text.digitsValue? cs).getD 0

inductive Magnitude where
  | infinite
  | notANumber
  /-- Digits before and after the point, and the written exponent. -/
  | finite (whole frac : List Char) (exponent : Int)

def readParts (cs : List Char) : Option Magnitude :=
  let lower := String.ofList (cs.map Char.toLower)
  if lower == "inf" || lower == "infinity" then some .infinite
  else if lower == "nan" then some .notANumber
  else
    let (whole, rest) := takeDigits cs
    let (frac, rest) := match rest with
      | '.' :: r => takeDigits r
      | r => ([], r)
    if whole.isEmpty && frac.isEmpty then none
    else
      let exp : Option Int := match rest with
        | [] => some 0
        | e :: r =>
          if e == 'e' || e == 'E' then
            let (sign, ds) := match r with
              | '+' :: ds => (1, ds)
              | '-' :: ds => (-1, ds)
              | ds => (1, ds)
            match Text.digitsValue? ds with
            | some n => some (sign * (n : Int))
            | none => none
          else none
      exp.map (.finite whole frac)

def readMagnitude (neg : Bool) (cs : List Char) : Option Binary64 :=
  (readParts cs).map fun
    | .infinite => infinity neg
    | .notANumber => nan
    | .finite whole frac e => ofDecimal neg (digitsOr0 (whole ++ frac)) (e - frac.length)

def splitSign (s : String) : Bool × List Char :=
  match s.toList with
  | '+' :: rest => (false, rest)
  | '-' :: rest => (true, rest)
  | cs => (false, cs)

def parse? (s : String) : Option Binary64 :=
  let (neg, cs) := splitSign s
  readMagnitude neg cs

def isText (s : String) : Bool :=
  (readParts (splitSign s).2).isSome

end Binary64

end MonitorWire
