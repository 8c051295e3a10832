import MonitorWire.Bytes.Basic

namespace MonitorWire

namespace Utf8

def replacement : Char := Char.ofNat 0xFFFD

def encodeChar (c : Char) : Bytes :=
  let n := c.toNat
  if n < 0x80 then [UInt8.ofNat n]
  else if n < 0x800 then [UInt8.ofNat (0xC0 + n / 64), UInt8.ofNat (0x80 + n % 64)]
  else if n < 0x10000 then
    [UInt8.ofNat (0xE0 + n / 4096), UInt8.ofNat (0x80 + n / 64 % 64), UInt8.ofNat (0x80 + n % 64)]
  else
    [UInt8.ofNat (0xF0 + n / 262144), UInt8.ofNat (0x80 + n / 4096 % 64),
      UInt8.ofNat (0x80 + n / 64 % 64), UInt8.ofNat (0x80 + n % 64)]

def encode (s : String) : Bytes :=
  s.toList.flatMap encodeChar

def within (lo hi : UInt8) (b : UInt8) : Bool :=
  lo ≤ b && b ≤ hi

def low6 (b : UInt8) : Nat := b.toNat % 64

/-- Reads the continuation bytes of a sequence: `need` more bytes, the first within
`lo..hi` and the others within `0x80..0xBF`, adding six bits each to `acc`. On a byte out of
range it stops before that byte, so the bytes read so far form the malformed piece. -/
def continuation (acc : Nat) (lo hi : UInt8) : Nat → Bytes → Option Nat × Bytes
  | 0, rest => (some acc, rest)
  | _ + 1, [] => (none, [])
  | n + 1, c :: r =>
    if within lo hi c then continuation (acc * 64 + low6 c) 0x80 0xBF n r else (none, c :: r)

/-- What a leading byte announces: its payload bits, how many continuation bytes follow,
and the range of the first of them (which excludes overlong forms, surrogates and values
above U+10FFFF). -/
def lead (b : UInt8) : Option (Nat × Nat × UInt8 × UInt8) :=
  if b < 0xC2 then none
  else if b < 0xE0 then some (b.toNat % 32, 1, 0x80, 0xBF)
  else if b == 0xE0 then some (0, 2, 0xA0, 0xBF)
  else if b == 0xED then some (13, 2, 0x80, 0x9F)
  else if b < 0xF0 then some (b.toNat % 16, 2, 0x80, 0xBF)
  else if b == 0xF0 then some (0, 3, 0x90, 0xBF)
  else if b == 0xF4 then some (4, 3, 0x80, 0x8F)
  else if b < 0xF5 then some (b.toNat % 8, 3, 0x80, 0xBF)
  else none

/-- Reads one character whose first byte is `b` and whose following bytes are `rest`:
the character (or `none` for a malformed piece) and the bytes left after it. -/
def step (b : UInt8) (rest : Bytes) : Option Char × Bytes :=
  if b < 0x80 then (some (Char.ofNat b.toNat), rest)
  else
    match lead b with
    | none => (none, rest)
    | some (acc, need, lo, hi) =>
      let r := continuation acc lo hi need rest
      (r.1.map Char.ofNat, r.2)

theorem length_continuation_le (acc : Nat) (lo hi : UInt8) (n : Nat) (rest : Bytes) :
    (continuation acc lo hi n rest).2.length ≤ rest.length := by
  induction n generalizing acc lo hi rest with
  | zero => exact Nat.le_refl _
  | succ n ih =>
    cases rest with
    | nil => exact Nat.le_refl _
    | cons c r =>
      simp only [continuation]
      split
      · exact Nat.le_trans (ih _ _ _ r) (Nat.le_succ _)
      · exact Nat.le_refl _

theorem length_step_le (b : UInt8) (rest : Bytes) : (step b rest).2.length ≤ rest.length := by
  unfold step
  split
  · exact Nat.le_refl _
  · split
    · exact Nat.le_refl _
    · exact length_continuation_le _ _ _ _ _

def lossyChars (bs : Bytes) : List Char :=
  match bs with
  | [] => []
  | b :: rest =>
    have := length_step_le b rest
    ((step b rest).1.getD replacement) :: lossyChars (step b rest).2
termination_by bs.length

def chars? (bs : Bytes) : Option (List Char) :=
  match bs with
  | [] => some []
  | b :: rest =>
    have := length_step_le b rest
    match (step b rest).1 with
    | some c => (chars? (step b rest).2).map (c :: ·)
    | none => none
termination_by bs.length

def decodeLossy (bs : Bytes) : String :=
  String.ofList (lossyChars bs)

def decode? (bs : Bytes) : Option String :=
  (chars? bs).map String.ofList

end Utf8

end MonitorWire
