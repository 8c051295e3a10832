import MonitorWire.Outcome

namespace MonitorWire

structure Header where
  flags : UInt8
  dataLength : UInt32
  reserved : UInt32
  deriving DecidableEq, Repr

namespace Header

def magic : Bytes := [0x5A, 0x42, 0x58, 0x44]

def size : Nat := 13

def protocolFlag : UInt8 := 0x01

def compressedFlag : UInt8 := 0x02

def largeFlag : UInt8 := 0x04

def maxPayload : Nat := Nat.pow 2 30

def compressed (h : Header) : Bool := h.flags &&& compressedFlag != 0

def toBytes (h : Header) : Bytes :=
  magic ++ [h.flags] ++ Bytes.wordLE h.dataLength.toNat ++ Bytes.wordLE h.reserved.toNat

def parse (b : Bytes) : Except ProtocolError Header :=
  if b.length != size || b.take 4 != magic then .error .invalidHeader
  else
    let flags := b.getD 4 0
    let dataLength := Bytes.readWordLE (b.drop 5)
    let reserved := Bytes.readWordLE (b.drop 9)
    if flags &&& largeFlag != 0 then .error .largePacketUnsupported
    else if flags &&& protocolFlag == 0 then .error (.unexpectedFlags flags)
    else if dataLength > maxPayload then .error (.oversizedPacket dataLength)
    else .ok ⟨flags, UInt32.ofNat dataLength, UInt32.ofNat reserved⟩

def showBytes (b : Bytes) : String :=
  "[" ++ ", ".intercalate (b.map fun x => toString x.toNat) ++ "]"

def check (b : Bytes) : Outcome Header :=
  match parse b with
  | .error .invalidHeader => do
    Outcome.debug "Unexpected response header received" [("header", showBytes b)]
    Outcome.fail .invalidHeader
  | r => Outcome.ofExcept r

end Header

end MonitorWire
