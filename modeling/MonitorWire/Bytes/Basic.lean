
namespace MonitorWire

abbrev Bytes := List UInt8

namespace Bytes

def hexDigit (n : Nat) : Char :=
  if n < 10 then Char.ofNat (48 + n) else Char.ofNat (87 + n)

def byteHex (b : UInt8) : List Char :=
  [hexDigit (b.toNat / 16), hexDigit (b.toNat % 16)]

def toHex (b : Bytes) : String :=
  String.ofList (b.flatMap byteHex)

def hexValue? (c : Char) : Option Nat :=
  if '0' ≤ c ∧ c ≤ '9' then some (c.toNat - 48)
  else if 'a' ≤ c ∧ c ≤ 'f' then some (c.toNat - 87)
  else if 'A' ≤ c ∧ c ≤ 'F' then some (c.toNat - 55)
  else none

def ofHexChars? : List Char → Option Bytes
  | [] => some []
  | hi :: lo :: rest => do
    let h ← hexValue? hi
    let l ← hexValue? lo
    let tail ← ofHexChars? rest
    pure (UInt8.ofNat (16 * h + l) :: tail)
  | [_] => none

def ofHex? (s : String) : Option Bytes :=
  ofHexChars? s.toList

def wordLE (n : Nat) : Bytes :=
  [UInt8.ofNat n, UInt8.ofNat (n / 256), UInt8.ofNat (n / 65536), UInt8.ofNat (n / 16777216)]

def readWordLE (b : Bytes) : Nat :=
  match b with
  | b0 :: b1 :: b2 :: b3 :: _ => b0.toNat + 256 * b1.toNat + 65536 * b2.toNat + 16777216 * b3.toNat
  | _ => 0

@[simp] theorem length_wordLE (n : Nat) : (wordLE n).length = 4 := rfl

theorem readWordLE_wordLE (n : Nat) : readWordLE (wordLE n) = n % Nat.pow 2 32 := by
  simp only [wordLE, readWordLE, UInt8.toNat_ofNat', Nat.pow_eq, Nat.reducePow]
  omega

theorem hexValue?_hexDigit : ∀ n, n < 16 → hexValue? (hexDigit n) = some n := by
  decide

theorem ofHexChars?_flatMap (b : Bytes) : ofHexChars? (b.flatMap byteHex) = some b := by
  induction b with
  | nil => rfl
  | cons x xs ih =>
    have h1 : x.toNat / 16 < 16 := by have := x.toNat_lt; omega
    have h2 : x.toNat % 16 < 16 := Nat.mod_lt _ (by decide)
    simp only [List.flatMap_cons, byteHex, List.cons_append, List.nil_append, ofHexChars?,
      hexValue?_hexDigit _ h1, hexValue?_hexDigit _ h2, ih, Option.bind_eq_bind, Option.bind_some,
      Option.pure_def, Option.some.injEq, List.cons.injEq, and_true]
    apply UInt8.toNat_inj.mp
    simp only [UInt8.toNat_ofNat', Nat.reducePow]
    have := x.toNat_lt
    omega

theorem ofHex?_toHex (b : Bytes) : ofHex? (toHex b) = some b := by
  simp [ofHex?, toHex, ofHexChars?_flatMap]

end Bytes

end MonitorWire
