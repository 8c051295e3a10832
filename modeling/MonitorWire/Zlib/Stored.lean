import MonitorWire.Zlib.Inflate

namespace MonitorWire

namespace Zlib

@[irreducible] def blockLimit : Nat := 65535

def storedHead (final : Bool) (n : Nat) : Bytes :=
  [if final then 1 else 0, UInt8.ofNat n, UInt8.ofNat (n / 256), UInt8.ofNat (65535 - n),
    UInt8.ofNat ((65535 - n) / 256)]

def storedBlocks (bs : Bytes) : Bytes :=
  if _h : bs.length ≤ blockLimit then storedHead true bs.length ++ bs
  else storedHead false blockLimit ++ bs.take blockLimit ++ storedBlocks (bs.drop blockLimit)
termination_by bs.length
decreasing_by
  have hb : blockLimit = 65535 := by unfold blockLimit; rfl
  simp only [List.length_drop]
  omega

def wordBE (n : Nat) : Bytes :=
  [UInt8.ofNat (n / 16777216), UInt8.ofNat (n / 65536), UInt8.ofNat (n / 256), UInt8.ofNat n]

def deflateStored (bs : Bytes) : Bytes :=
  [0x78, 0x01] ++ storedBlocks bs ++ wordBE (adler32 bs)

end Zlib

end MonitorWire
