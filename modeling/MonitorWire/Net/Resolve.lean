
namespace MonitorWire

namespace Net

inductive IpAddress where
  | v4 (value : Nat)
  | v6 (groups : List Nat)
  deriving DecidableEq, Repr

def digitIn (radix : Nat) (c : Char) : Option Nat :=
  let v := if c.isDigit then some (c.toNat - 48)
    else if 'a' ≤ c && c ≤ 'f' then some (c.toNat - 87)
    else if 'A' ≤ c && c ≤ 'F' then some (c.toNat - 55)
    else none
  v.filter (· < radix)

def spanDigits (radix : Nat) (cs : List Char) : List Char × List Char :=
  (cs.takeWhile fun c => (digitIn radix c).isSome, cs.dropWhile fun c => (digitIn radix c).isSome)

def valueIn (radix : Nat) (ds : List Char) : Nat :=
  ds.foldl (fun acc d => acc * radix + (digitIn radix d).getD 0) 0

/-- Reads a number of at most `most` digits in a radix, every digit that follows counting;
a leading zero is refused before another digit unless `zeros`. The value and the rest. -/
def readNumber (radix most : Nat) (zeros : Bool) (cs : List Char) : Option (Nat × List Char) :=
  let (ds, rest) := spanDigits radix cs
  if ds.isEmpty || ds.length > most then none
  else if !zeros && ds.length > 1 && ds.head? == some '0' then none
  else some (valueIn radix ds, rest)

def readIpv4 (cs : List Char) : Option (Nat × List Char) := do
  let (a, r) ← readNumber 10 3 false cs
  let r ← match r with | '.' :: r => some r | _ => none
  let (b, r) ← readNumber 10 3 false r
  let r ← match r with | '.' :: r => some r | _ => none
  let (c, r) ← readNumber 10 3 false r
  let r ← match r with | '.' :: r => some r | _ => none
  let (d, r) ← readNumber 10 3 false r
  if a ≤ 255 && b ≤ 255 && c ≤ 255 && d ≤ 255 then
    some (((a * 256 + b) * 256 + c) * 256 + d, r)
  else none

def parseIpv4 (cs : List Char) : Option Nat :=
  match readIpv4 cs with
  | some (v, []) => some v
  | _ => none

/-- Reads at most `n` groups of an IPv6 address, each after a colon but the first when
`first`; an IPv4 address may take the place of two groups when two are left. The groups,
whether they ended with an IPv4 address, and the rest, which starts where the last group read
ends. -/
def readGroups : Nat → Bool → List Char → List Nat × Bool × List Char
  | 0, _, cs => ([], false, cs)
  | n + 1, first, cs =>
    let body := if first then some cs else match cs with | ':' :: r => some r | _ => none
    match body with
    | none => ([], false, cs)
    | some r =>
      match (if n ≥ 1 then readIpv4 r else none) with
      | some (v, rest) => ([v / 65536, v % 65536], true, rest)
      | none =>
        match readNumber 16 4 true r with
        | some (g, rest) =>
          let (gs, embedded, rest) := readGroups n false rest
          (g :: gs, embedded, rest)
        | none => ([], false, cs)

def parseIpv6 (cs : List Char) : Option (List Nat) :=
  let (head, embedded, rest) := readGroups 8 true cs
  if head.length == 8 then (if rest.isEmpty then some head else none)
  else if embedded then none
  else
    match rest with
    | ':' :: ':' :: rest =>
      let (tail, _, rest) := readGroups (7 - head.length) true rest
      if rest.isEmpty then some (head ++ List.replicate (8 - head.length - tail.length) 0 ++ tail)
      else none
    | _ => none

def parseIpAddress (cs : List Char) : Option IpAddress :=
  match parseIpv4 cs with
  | some v => some (.v4 v)
  | none => (parseIpv6 cs).map .v6

/-- Reads one part of the older numeric form of IPv4, which starts with a digit: hexadecimal
after `0x` or `0X` and a hexadecimal digit, octal after another leading `0`, else decimal. The
value and the rest. -/
def readNumericPart (cs : List Char) : Option (Nat × List Char) :=
  match cs with
  | '0' :: x :: r =>
    if (x == 'x' || x == 'X') && ((r.head?.bind (digitIn 16)).isSome) then
      let (ds, rest) := spanDigits 16 r
      some (valueIn 16 ds, rest)
    else
      let (ds, rest) := spanDigits 8 (x :: r)
      some (valueIn 8 ds, rest)
  | c :: _ =>
    if c.isDigit then
      let (ds, rest) := spanDigits 10 cs
      some (valueIn 10 ds, rest)
    else none
  | [] => none

/-- Reads the parts of the older numeric form of IPv4 after `done` parts: the value of the
whole address. -/
def readNumericParts : Nat → Nat → Nat → List Char → Option Nat
  | 0, _, _, _ => none
  | fuel + 1, done, high, cs => do
    let (v, rest) ← readNumericPart cs
    if v ≥ Nat.pow 2 32 then none
    match rest with
    | '.' :: more =>
      if done ≥ 3 || v > 255 then none
      else readNumericParts fuel (done + 1) (high * 256 + v) more
    | [] =>
      let room := Nat.pow 256 (4 - done)
      if v < room then some (high * room + v) else none
    | _ => none

def parseNumericIpv4 (cs : List Char) : Option Nat := readNumericParts 5 0 0 cs

def unknownName : String :=
  "failed to lookup address information: Name or service not known"

def nulInName : String := "file name contained an unexpected NUL byte"

def resolve (address : String) : Except String IpAddress :=
  let cs := address.toList
  match parseIpAddress cs with
  | some a => .ok a
  | none =>
    if cs.contains (Char.ofNat 0) then .error nulInName
    else
      match parseNumericIpv4 cs with
      | some v => .ok (.v4 v)
      | none =>
        if String.ofList (cs.map Char.toLower) == "localhost" then .ok (.v4 0x7F000001)
        else .error unknownName

end Net

end MonitorWire
