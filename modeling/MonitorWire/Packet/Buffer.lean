import MonitorWire.Packet.Frame

namespace MonitorWire

abbrev FrameBuffer := Bytes

namespace FrameBuffer

/-- What one reading attempt gives: a frame's text, nothing yet, or a failure, with the buffer
after the attempt. -/
abbrev Step := Traced (Except ProtocolError (Option String) × FrameBuffer)

def decode (buf : FrameBuffer) : Step :=
  let n := min buf.length 4
  if buf.take n != Header.magic.take n then pure (.error .invalidHeader, buf)
  else if buf.length < Header.size then pure (.ok none, buf)
  else do
    match ← ExceptT.run (Header.check (buf.take Header.size)) with
    | .error e => pure (.error e, buf)
    | .ok h =>
      let frameLength := Header.size + h.dataLength.toNat
      if buf.length < frameLength then pure (.ok none, buf)
      else
        let frame := buf.take frameLength
        let r ← ExceptT.run (decodeFrame (frame.take Header.size) (frame.drop Header.size))
        pure (r.map some, buf.drop frameLength)

def decodeEnd (buf : FrameBuffer) : Step := do
  let (r, buf) ← decode buf
  match r with
  | .ok none =>
    if buf.isEmpty then pure (.ok none, buf)
    else do
      Traced.debug "Connection closed in the middle of a packet" [("received", toString buf.length)]
      pure (.error .invalidHeader, [])
  | other => pure (other, buf)

/-- Reads the first frame of input that arrives in chunks, as a frame reader does: an attempt
after each arrival, then the attempt at the end of the input. Nothing means the input ended
cleanly before a frame. -/
def readFirst (buf : FrameBuffer) : List Bytes → Traced (Except ProtocolError (Option String))
  | [] => (·.1) <$> decodeEnd buf
  | chunk :: chunks => do
    let (r, buf) ← decode (buf ++ chunk)
    match r with
    | .ok none => readFirst buf chunks
    | other => pure other

def push (buf : FrameBuffer) (p : Packet) : FrameBuffer := buf ++ p.toBytes

end FrameBuffer

end MonitorWire
