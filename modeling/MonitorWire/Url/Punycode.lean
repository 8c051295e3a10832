
namespace MonitorWire

namespace Url

namespace Punycode

def digitValue (c : Char) : Option Nat :=
  if 'a' ≤ c && c ≤ 'z' then some (c.toNat - 97)
  else if 'A' ≤ c && c ≤ 'Z' then some (c.toNat - 65)
  else if '0' ≤ c && c ≤ '9' then some (c.toNat - 22)
  else none

def limit : Nat := Nat.pow 2 32

def threshold (k bias : Nat) : Nat :=
  if k ≤ bias then 1 else if k ≥ bias + 26 then 26 else k - bias

def adapt (delta points : Nat) (first : Bool) : Nat :=
  let delta := if first then delta / 700 else delta / 2
  let delta := delta + delta / points
  let rec go : Nat → Nat → Nat → Nat
    | 0, d, k => k + 36 * d / (d + 38)
    | fuel + 1, d, k => if d > 455 then go fuel (d / 35) (k + 36) else k + 36 * d / (d + 38)
  go 32 delta 0

def readNumber (bias : Nat) : Nat → Nat → Nat → Nat → List Char → Option (Nat × List Char)
  | 0, _, _, _, _ => none
  | _ + 1, _, _, _, [] => none
  | fuel + 1, i, w, k, c :: rest => do
    let d ← digitValue c
    let i := i + d * w
    if i ≥ limit then none
    else
      let t := threshold k bias
      if d < t then some (i, rest)
      else
        let w := w * (36 - t)
        if w ≥ limit then none else readNumber bias fuel i w (k + 36) rest

def insertAll : Nat → Nat → Nat → Nat → List Nat → List Char → Option (List Nat)
  | 0, _, _, _, _, _ => none
  | _ + 1, _, _, _, out, [] => some out
  | fuel + 1, n, i, bias, out, cs => do
    let (i', rest) ← readNumber bias (cs.length + 1) i 1 36 cs
    let points := out.length + 1
    let bias := adapt (i' - i) points (i == 0)
    let n := n + i' / points
    let pos := i' % points
    if n ≥ limit || n > 0x10FFFF || (0xD800 ≤ n && n ≤ 0xDFFF) then none
    else insertAll fuel n (pos + 1) bias (out.take pos ++ [n] ++ out.drop pos) rest

def decode (body : List Char) : Option (List Char) :=
  let (basic, deltas) := match body.reverse.dropWhile (· != '-') with
    | [] => ([], body)
    | _ :: before => (before.reverse, body.drop (before.length + 1))
  if !basic.all (fun c => c.toNat < 0x80) then none
  else
    (insertAll (deltas.length + 1) 128 0 72 (basic.map Char.toNat) deltas).map
      (·.map Char.ofNat)

end Punycode

end Url

end MonitorWire
