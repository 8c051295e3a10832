import MonitorWire.Decimal.Shortest

namespace MonitorWire

namespace Decimal

def zeros (n : Nat) : String := String.ofList (List.replicate n '0')

def exponentText (n : Int) : String :=
  if n ≥ 0 then "+" ++ toString n.toNat else "-" ++ toString (-n).toNat

def digitsOf (x : Binary64) : String × Int :=
  let (d, k) := shortest x
  (toString d, k)

def json (x : Binary64) : String :=
  let sign := if x.negative then "-" else ""
  if x.mantissa == 0 then sign ++ "0.0"
  else
    let (ds, k) := digitsOf x
    let len : Int := ds.length
    let kk := len + k
    let body :=
      if 0 ≤ k ∧ kk ≤ 16 then ds ++ zeros k.toNat ++ ".0"
      else if 0 < kk ∧ kk ≤ 16 then
        String.ofList (ds.toList.take kk.toNat) ++ "." ++ String.ofList (ds.toList.drop kk.toNat)
      else if -5 < kk ∧ kk ≤ 0 then "0." ++ zeros (-kk).toNat ++ ds
      else if len == 1 then ds ++ "e" ++ exponentText (kk - 1)
      else
        String.ofList (ds.toList.take 1) ++ "." ++ String.ofList (ds.toList.drop 1) ++ "e" ++
          exponentText (kk - 1)
    sign ++ body

def plain (x : Binary64) : String :=
  let sign := if x.negative then "-" else ""
  if x.mantissa == 0 then sign ++ "0"
  else
    let (ds, k) := digitsOf x
    let kk := (ds.length : Int) + k
    let body :=
      if 0 ≤ k then ds ++ zeros k.toNat
      else if 0 < kk then
        String.ofList (ds.toList.take kk.toNat) ++ "." ++ String.ofList (ds.toList.drop kk.toNat)
      else "0." ++ zeros (-kk).toNat ++ ds
    sign ++ body

def withPoint (x : Binary64) : String :=
  if x.isInfinite then (if x.negative then "-inf" else "inf")
  else if !x.isFinite then "NaN"
  else
    let t := plain x
    if t.toList.contains '.' then t else t ++ ".0"

end Decimal

end MonitorWire
