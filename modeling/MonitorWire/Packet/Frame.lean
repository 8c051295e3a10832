import MonitorWire.Packet.Header
import MonitorWire.Bytes.Utf8
import MonitorWire.Json.Writer
import MonitorWire.Zlib.Inflate
import MonitorWire.Redact.Mask

namespace MonitorWire

inductive Payload where
  | bytes (b : Bytes)
  | text (s : String)
  | json (v : Json.Value)

namespace Payload

def kindName : Json.Value → String
  | .null => "null"
  | .bool _ => "bool"
  | .number _ => "number"
  | .string _ => "string"
  | .array _ => "array"
  | .object _ => "object"

def toBytes : Payload → Except ProtocolError Bytes
  | bytes b => .ok b
  | text s => .ok (Utf8.encode s)
  | json v =>
    match v with
    | .array _ | .object _ => .ok (Utf8.encode v.write)
    | other => .error (.unsupportedPayloadType (kindName other))

end Payload

structure Packet where
  header : Header
  payload : Bytes
  deriving DecidableEq, Repr

namespace Packet

def previewLength : Nat := 200

/-- A length as a header word; lengths from 2^32 on are refused. -/
def wireLength (n : Nat) : Except ProtocolError UInt32 :=
  if n < Nat.pow 2 32 then .ok (UInt32.ofNat n) else .error (.oversizedPacket n)

def new (deflate : Bytes → Bytes) (p : Payload) (compress : Bool) : Outcome Packet := do
  let request ← Outcome.ofExcept p.toBytes
  Outcome.debug ("Request data: " ++ shorten (Utf8.decodeLossy request) previewLength)
  if compress then
    let reserved ← Outcome.ofExcept (wireLength request.length)
    let body := deflate request
    let len ← Outcome.ofExcept (wireLength body.length)
    pure ⟨⟨Header.protocolFlag ||| Header.compressedFlag, len, reserved⟩, body⟩
  else
    let len ← Outcome.ofExcept (wireLength request.length)
    pure ⟨⟨Header.protocolFlag, len, 0⟩, request⟩

def toBytes (p : Packet) : Bytes := p.header.toBytes ++ p.payload

/-- The bytes a compressed payload inflates to. A stream that does not read is refused, and so
is one that gives more than `Header.maxPayload` bytes. -/
def inflatePayload (payload : Bytes) : Except ProtocolError Bytes :=
  match Zlib.inflate? payload with
  | some b => if b.length ≤ Header.maxPayload then .ok b else .error .decompressionFailure
  | none => .error .decompressionFailure

def payloadText (h : Header) (payload : Bytes) : Except ProtocolError String := do
  let body ← if h.compressed then inflatePayload payload else .ok payload
  match Utf8.decode? body with
  | some s => .ok s
  | none => .error .invalidUtf8

def text (p : Packet) : Except ProtocolError String := payloadText p.header p.payload

def fromBytes (b : Bytes) : Outcome Packet := do
  if b.length < Header.size then Outcome.fail .invalidHeader
  else
    let h ← Header.check (b.take Header.size)
    let payload := b.drop Header.size
    if payload.length != h.dataLength.toNat then Outcome.fail .invalidHeader
    else pure ⟨h, payload⟩

end Packet

def encodeFrame (deflate : Bytes → Bytes) (p : Payload) (compress : Bool) : Outcome Bytes :=
  Packet.toBytes <$> Packet.new deflate p compress

/-- The text of a frame given as its header bytes and payload bytes. A payload shorter or
longer than announced is reported and refused. -/
def decodeFrame (header payload : Bytes) : Outcome String := do
  let h ← Header.check header
  if payload.length != h.dataLength.toNat then
    Outcome.debug "Connection was closed before receiving expected amount of data"
      [("expected", toString h.dataLength.toNat), ("received", toString payload.length)]
    Outcome.fail .invalidHeader
  else Outcome.ofExcept (Packet.payloadText h payload)

end MonitorWire
