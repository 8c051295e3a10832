import Mathlib
import MonitorWire.Proofs.HeaderParsing
import MonitorWire.Proofs.ChunkedReading

namespace MonitorWire

/-- The failures of a frame's header: bytes that do not start a frame, and the three refusals
of a header's fields. -/
def ProtocolError.isHeaderError : ProtocolError → Bool
  | .invalidHeader | .largePacketUnsupported | .unexpectedFlags _ | .oversizedPacket _ => true
  | _ => false

theorem Header.parse_error_isHeaderError {b : Bytes} {e : ProtocolError}
    (h : Header.parse b = .error e) : e.isHeaderError = true := by
  rw [Header.parse_eq] at h
  split_ifs at h <;> cases h <;> rfl

namespace FrameBuffer

inductive Effect (buf : FrameBuffer) : Except ProtocolError (Option String) × FrameBuffer → Prop
  | wait : Effect buf (.ok none, buf)
  | refuse {e : ProtocolError} (he : e.isHeaderError = true) : Effect buf (.error e, buf)
  /-- The first frame taken off the front whole, with its text or the failure of its body. -/
  | consume {h : Header} {r : Except ProtocolError (Option String)}
      (hparse : Header.parse (buf.take Header.size) = .ok h)
      (hlen : Header.size + h.dataLength.toNat ≤ buf.length)
      (hr : (∃ t, r = .ok (some t)) ∨ ∃ e, r = .error e ∧ e.isBodyError = true) :
      Effect buf (r, buf.drop (Header.size + h.dataLength.toNat))

theorem effect_decode (buf : FrameBuffer) : Effect buf (decode buf).value := by
  by_cases hs : buf.length < Header.size
  · by_cases hm : buf.take (min buf.length 4) = Header.magic.take (min buf.length 4)
    · rw [decode_of_short hs hm]
      exact .wait
    · rw [decode_of_bad_magic hm]
      exact .refuse rfl
  · have hs : Header.size ≤ buf.length := Nat.not_lt.mp hs
    cases hp : Header.parse (buf.take Header.size) with
    | error e =>
        rw [decode_of_parse_error hs hp]
        exact .refuse (Header.parse_error_isHeaderError hp)
    | ok h =>
        rw [decode_of_parse hs hp]
        split_ifs with hl
        · exact .wait
        · refine .consume hp (by omega) ?_
          -- the frame's text, or the failure of its body
          cases hpt : Packet.payloadText h ((buf.drop Header.size).take h.dataLength.toNat) with
          | ok t => exact .inl ⟨t, rfl⟩
          | error e => exact .inr ⟨e, rfl, Packet.payloadText_error_body hpt⟩

theorem rest_of_effect_wait {buf rest : FrameBuffer} (h : Effect buf (.ok none, rest)) :
    rest = buf := by
  cases h with
  | wait => rfl
  | consume _ _ hr => simp at hr

theorem decodeEnd_value (buf : FrameBuffer) :
    (decodeEnd buf).value =
      if (decode buf).value.1 = .ok none ∧ buf ≠ [] then (.error .invalidHeader, [])
      else (decode buf).value := by
  rcases hv : (decode buf).value with ⟨r, rest⟩
  simp only [decodeEnd, Traced.value_bind, hv]
  by_cases hr : r = .ok none
  · subst hr
    have hrest := rest_of_effect_wait (hv ▸ effect_decode buf)
    subst hrest
    cases rest with
    | nil => rfl
    | cons x xs => rfl
  · simp only [hr, false_and, if_false]
    -- every other result is passed on with its buffer
    rcases r with e | (_ | t)
    · rfl
    · exact absurd rfl hr
    · rfl

end FrameBuffer

/-- Reading a frame from a buffer either waits or refuses a header and keeps the buffer, so
that trying again gives the same, or takes exactly the first frame off the front, thirteen
header bytes and the payload the header announces, and gives its text or the failure of its
body. At the end of the input, bytes that would be waited on are dropped and refused. -/
theorem decode_buffer_effect (buf : FrameBuffer) :
    ((((FrameBuffer.decode buf).value.1 = .ok none ∨
          ∃ e, (FrameBuffer.decode buf).value.1 = .error e ∧ e.isHeaderError = true) ∧
        (FrameBuffer.decode buf).value.2 = buf ∧
        (FrameBuffer.decode (FrameBuffer.decode buf).value.2).value =
          (FrameBuffer.decode buf).value) ∨
      (((∃ t, (FrameBuffer.decode buf).value.1 = .ok (some t)) ∨
          ∃ e, (FrameBuffer.decode buf).value.1 = .error e ∧ e.isBodyError = true) ∧
        ∃ h, Header.parse (buf.take Header.size) = .ok h ∧
          Header.size + h.dataLength.toNat ≤ buf.length ∧
          (FrameBuffer.decode buf).value.2 = buf.drop (Header.size + h.dataLength.toNat))) ∧
    (FrameBuffer.decodeEnd buf).value =
      if (FrameBuffer.decode buf).value.1 = .ok none ∧ buf ≠ [] then (.error .invalidHeader, [])
      else (FrameBuffer.decode buf).value := by
  refine ⟨?_, FrameBuffer.decodeEnd_value buf⟩
  have heffect := FrameBuffer.effect_decode buf
  rcases hv : (FrameBuffer.decode buf).value with ⟨r, rest⟩
  rw [hv] at heffect
  cases heffect with
  | wait => exact .inl ⟨.inl rfl, rfl, hv⟩
  | refuse he => exact .inl ⟨.inr ⟨_, rfl, he⟩, rfl, hv⟩
  | consume hparse hlen hr => exact .inr ⟨hr, _, hparse, hlen, rfl⟩

end MonitorWire
