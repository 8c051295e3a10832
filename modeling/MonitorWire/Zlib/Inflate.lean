import MonitorWire.Bytes.Basic

namespace MonitorWire

namespace Zlib

def adler32 (bs : Bytes) : Nat :=
  let sums := bs.foldl (fun (acc : Nat × Nat) x =>
    let a := (acc.1 + x.toNat) % 65521
    (a, (acc.2 + a) % 65521)) (1, 0)
  sums.2 * 65536 + sums.1

/-- A position in a byte array, counted in bits, least significant bit of a byte first. -/
structure BitReader where
  data : Array UInt8
  pos : Nat

abbrev Decoder := StateT BitReader Option

namespace Decoder

def fail {α : Type} : Decoder α := fun _ => none

def bit : Decoder Nat := fun r =>
  let i := r.pos / 8
  if h : i < r.data.size then
    some ((r.data[i].toNat >>> (r.pos % 8)) % 2, { r with pos := r.pos + 1 })
  else none

def bits : Nat → Decoder Nat
  | 0 => pure 0
  | n + 1 => do
    let b ← bit
    let rest ← bits n
    pure (b + 2 * rest)

def align : Decoder Unit := fun r =>
  some ((), { r with pos := (r.pos + 7) / 8 * 8 })

def byte : Decoder Nat := bits 8

def bytes : Nat → Decoder (List UInt8)
  | 0 => pure []
  | n + 1 => do
    let b ← byte
    let rest ← bytes n
    pure (UInt8.ofNat b :: rest)

end Decoder

structure Huffman where
  counts : Array Nat
  symbols : Array Nat

namespace Huffman

def countLengths (lengths : List Nat) : Array Nat :=
  lengths.foldl (fun acc l => if l < 16 then acc.modify l (· + 1) else acc) (Array.replicate 16 0)

def fills (counts : Array Nat) : Bool :=
  ((List.range 15).map fun i => counts.getD (i + 1) 0 * Nat.pow 2 (15 - (i + 1))).foldl (· + ·) 0 ==
    Nat.pow 2 15

/-- The code of some code lengths (zero meaning unused), if it is usable: it fills the code
space exactly, has no symbol, or has a single symbol of length one. -/
def ofLengths? (lengths : List Nat) : Option Huffman :=
  let counts := countLengths lengths
  let used := ((List.range 15).map fun i => counts.getD (i + 1) 0).foldl (· + ·) 0
  if fills counts || used == 0 || (used == 1 && counts.getD 1 0 == 1) then
    -- Symbols ordered by code length, then by symbol.
    let arr := lengths.toArray
    let symbols := (List.range 16).tail.flatMap fun len =>
      ((List.range arr.size).filter fun s => arr.getD s 0 == len)
    some ⟨counts, symbols.toArray⟩
  else none

def ofLengths (lengths : List Nat) : Huffman :=
  let arr := lengths.toArray
  let symbols := (List.range 16).tail.flatMap fun len =>
    ((List.range arr.size).filter fun s => arr.getD s 0 == len)
  ⟨countLengths lengths, symbols.toArray⟩

def decodeFrom (h : Huffman) : Nat → Nat → Nat → Nat → Nat → Decoder Nat
  | 0, _, _, _, _ => Decoder.fail
  | remaining + 1, len, code, first, index => do
    let b ← Decoder.bit
    let code := code + b
    let count := h.counts.getD len 0
    if code < first + count then pure (h.symbols.getD (index + (code - first)) 0)
    else decodeFrom h remaining (len + 1) (2 * code) (2 * (first + count)) (index + count)

def decode (h : Huffman) : Decoder Nat :=
  decodeFrom h 15 1 0 0 0

end Huffman

def fixedLiterals : Huffman :=
  Huffman.ofLengths (List.replicate 144 8 ++ List.replicate 112 9 ++ List.replicate 24 7 ++
    List.replicate 8 8)

def fixedDistances : Huffman :=
  Huffman.ofLengths (List.replicate 32 5)

def lengthBase : Array Nat :=
  #[3, 4, 5, 6, 7, 8, 9, 10, 11, 13, 15, 17, 19, 23, 27, 31, 35, 43, 51, 59, 67, 83, 99, 115,
    131, 163, 195, 227, 258]

def lengthExtra : Array Nat :=
  #[0, 0, 0, 0, 0, 0, 0, 0, 1, 1, 1, 1, 2, 2, 2, 2, 3, 3, 3, 3, 4, 4, 4, 4, 5, 5, 5, 5, 0]

def distanceBase : Array Nat :=
  #[1, 2, 3, 4, 5, 7, 9, 13, 17, 25, 33, 49, 65, 97, 129, 193, 257, 385, 513, 769, 1025, 1537,
    2049, 3073, 4097, 6145, 8193, 12289, 16385, 24577]

def distanceExtra : Array Nat :=
  #[0, 0, 0, 0, 1, 1, 2, 2, 3, 3, 4, 4, 5, 5, 6, 6, 7, 7, 8, 8, 9, 9, 10, 10, 11, 11, 12, 12,
    13, 13]

/-- Appends `n` bytes copied from `distance` bytes back; the copy may overlap what it writes.
The window starts out as zeros, so a byte from before the start of the output is a zero. -/
def copyBack (out : Array UInt8) (distance : Nat) : Nat → Array UInt8
  | 0 => out
  | n + 1 =>
    let b := if distance ≤ out.size then out.getD (out.size - distance) 0 else 0
    copyBack (out.push b) distance n

def codes (lit dist : Huffman) : Nat → Array UInt8 → Decoder (Array UInt8)
  | 0, _ => Decoder.fail
  | fuel + 1, out => do
    let sym ← lit.decode
    if sym < 256 then codes lit dist fuel (out.push (UInt8.ofNat sym))
    else if sym == 256 then pure out
    else
      let i := sym - 257
      if i ≥ 29 then Decoder.fail
      else
        let extra ← Decoder.bits (lengthExtra.getD i 0)
        let length := lengthBase.getD i 0 + extra
        let d ← dist.decode
        if d ≥ 30 then Decoder.fail
        else
          let dextra ← Decoder.bits (distanceExtra.getD d 0)
          let distance := distanceBase.getD d 0 + dextra
          codes lit dist fuel (copyBack out distance length)

def codeLengthOrder : List Nat :=
  [16, 17, 18, 0, 8, 7, 9, 6, 10, 5, 11, 4, 12, 3, 13, 2, 14, 1, 15]

def readLengths (clc : Huffman) (total : Nat) : Nat → List Nat → Decoder (List Nat)
  | 0, _ => Decoder.fail
  | fuel + 1, acc =>
    if acc.length ≥ total then
      if acc.length == total then pure acc else Decoder.fail
    else do
      let sym ← clc.decode
      if sym < 16 then readLengths clc total fuel (acc ++ [sym])
      else if sym == 16 then
        match acc.getLast? with
        | none => Decoder.fail
        | some prev => do
          let r ← Decoder.bits 2
          readLengths clc total fuel (acc ++ List.replicate (3 + r) prev)
      else if sym == 17 then do
        let r ← Decoder.bits 3
        readLengths clc total fuel (acc ++ List.replicate (3 + r) 0)
      else do
        let r ← Decoder.bits 7
        readLengths clc total fuel (acc ++ List.replicate (11 + r) 0)

def Decoder.ofOption {α : Type} : Option α → Decoder α
  | some a => pure a
  | none => Decoder.fail

def dynamicCodes (fuel : Nat) : Decoder (Huffman × Huffman) := do
  let nlen := 257 + (← Decoder.bits 5)
  let ndist := 1 + (← Decoder.bits 5)
  let ncode := 4 + (← Decoder.bits 4)
  if nlen > 286 || ndist > 30 then Decoder.fail
  else
    let sent ← (List.range ncode).mapM fun _ => Decoder.bits 3
    let clcLengths := (List.range 19).map fun s =>
      match (codeLengthOrder.zip sent).find? (·.1 == s) with
      | some (_, l) => l
      | none => 0
    let clc ← Decoder.ofOption (Huffman.ofLengths? clcLengths)
    let lengths ← readLengths clc (nlen + ndist) fuel []
    let lit ← Decoder.ofOption (Huffman.ofLengths? (lengths.take nlen))
    let dist ← Decoder.ofOption (Huffman.ofLengths? (lengths.drop nlen))
    pure (lit, dist)

def stored (out : Array UInt8) : Decoder (Array UInt8) := do
  Decoder.align
  let l0 ← Decoder.byte
  let l1 ← Decoder.byte
  let n0 ← Decoder.byte
  let n1 ← Decoder.byte
  let len := l0 + 256 * l1
  if len + (n0 + 256 * n1) != 65535 then Decoder.fail
  else
    let data ← Decoder.bytes len
    pure (out ++ data.toArray)

def blocks (fuel : Nat) : Nat → Array UInt8 → Decoder (Array UInt8)
  | 0, _ => Decoder.fail
  | left + 1, out => do
    let final ← Decoder.bit
    let kind ← Decoder.bits 2
    let out ← match kind with
      | 0 => stored out
      | 1 => codes fixedLiterals fixedDistances fuel out
      | 2 => do
        let (lit, dist) ← dynamicCodes fuel
        codes lit dist fuel out
      | _ => Decoder.fail
    if final == 1 then pure out else blocks fuel left out

/-- Whether two header bytes announce a zlib stream this reader accepts: deflate with a window
of at most 32 KiB, a valid check value, and no preset dictionary. -/
def headerOk (cmf flg : Nat) : Bool :=
  cmf % 16 == 8 && cmf / 16 ≤ 7 && (cmf * 256 + flg) % 31 == 0 && (flg / 32) % 2 == 0

def stream (fuel : Nat) : Decoder Bytes := do
  let cmf ← Decoder.byte
  let flg ← Decoder.byte
  if !headerOk cmf flg then Decoder.fail
  else
    let out ← blocks fuel fuel #[]
    Decoder.align
    let check ← Decoder.bytes 4
    let expected := check.foldl (fun acc b => acc * 256 + b.toNat) 0
    let data := out.toList
    if expected == adler32 data then pure data else Decoder.fail

def inflate? (bs : Bytes) : Option Bytes :=
  let fuel := 8 * bs.length + 1
  (stream fuel ⟨bs.toArray, 0⟩).map (·.1)

end Zlib

end MonitorWire
