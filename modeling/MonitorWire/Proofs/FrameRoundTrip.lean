import Mathlib
import MonitorWire.Proofs.StoredStream
import MonitorWire.Packet.Frame

namespace MonitorWire

namespace Outcome

variable {α β : Type}

@[simp] theorem result_bind (x : Outcome α) (f : α → Outcome β) :
    (x >>= f).result = x.result.bind fun a => (f a).result := by
  simp only [result, run, bind, ExceptT.bind, ExceptT.mk, ExceptT.run, ExceptT.bindCont]
  cases x.value with
  | ok a => simp [Except.bind]
  | error e => simp [Except.bind, pure]

@[simp] theorem result_pure (a : α) : (pure a : Outcome α).result = .ok a := rfl

@[simp] theorem result_fail (e : ProtocolError) : (fail e : Outcome α).result = .error e := rfl

@[simp] theorem result_throw (e : ProtocolError) : (throw e : Outcome α).result = .error e := rfl

@[simp] theorem result_ofExcept (r : Except ProtocolError α) : (ofExcept r).result = r := rfl

@[simp] theorem result_debug (message : String) (fields : List (String × String)) :
    (debug message fields).result = .ok () := rfl

@[simp] theorem result_warn (message : String) : (warn message).result = .ok () := rfl

@[simp] theorem result_lift (t : Traced α) :
    Outcome.result (ExceptT.lift t : Outcome α) = .ok t.value := rfl

theorem value_run (x : Outcome α) : (ExceptT.run x).value = x.result := rfl

@[simp] theorem result_map (f : α → β) (x : Outcome α) : (f <$> x).result = x.result.map f := by
  obtain ⟨v, events⟩ := x
  cases v with
  | ok a => rfl
  | error e => rfl

end Outcome

namespace Bytes

theorem readWordLE_wordLE_append (n : Nat) (rest : Bytes) :
    readWordLE (wordLE n ++ rest) = n % 4294967296 := by
  simp only [wordLE, readWordLE, List.cons_append, UInt8.toNat_ofNat']
  omega

end Bytes

namespace Header

theorem toBytes_eq (h : Header) :
    h.toBytes =
      magic ++ h.flags :: (Bytes.wordLE h.dataLength.toNat ++ Bytes.wordLE h.reserved.toNat) := by
  simp [toBytes]

@[simp] theorem length_toBytes (h : Header) : h.toBytes.length = size := by
  simp [toBytes, magic, size]

theorem parse_toBytes (h : Header) :
    parse h.toBytes =
      if h.flags &&& largeFlag != 0 then .error .largePacketUnsupported
      else if h.flags &&& protocolFlag == 0 then .error (.unexpectedFlags h.flags)
      else if h.dataLength.toNat > maxPayload then .error (.oversizedPacket h.dataLength.toNat)
      else .ok h := by
  have hdl : Bytes.readWordLE (h.toBytes.drop 5) = h.dataLength.toNat := by
    rw [toBytes_eq]
    simp [magic, Bytes.readWordLE_wordLE_append]
  have hrs : Bytes.readWordLE (h.toBytes.drop 9) = h.reserved.toNat := by
    rw [toBytes_eq]
    simp [magic, Bytes.wordLE, Bytes.readWordLE, UInt8.toNat_ofNat']
    have := h.reserved.toNat_lt
    omega
  have hmagic : h.toBytes.take 4 = magic := by simp [toBytes_eq, magic]
  have hflags : h.toBytes.getD 4 0 = h.flags := by simp [toBytes_eq, magic]
  simp only [parse, length_toBytes, bne_self_eq_false, hmagic, Bool.or_self, Bool.false_eq_true,
    if_false, hflags, hdl, hrs, UInt32.ofNat_toNat]

theorem result_check (b : Bytes) : (check b).result = parse b := by
  unfold check
  split
  · next h => simp [h, Except.bind]
  · simp

end Header

structure Packet.Readable (p : Packet) : Prop where
  noLarge : p.header.flags &&& Header.largeFlag = 0
  protocol : p.header.flags &&& Header.protocolFlag ≠ 0
  length_eq : p.header.dataLength.toNat = p.payload.length
  length_le : p.payload.length ≤ Header.maxPayload

namespace Packet

theorem parse_header_toBytes {p : Packet} (hp : p.Readable) :
    Header.parse p.header.toBytes = .ok p.header := by
  rw [Header.parse_toBytes]
  simp [hp.noLarge, hp.protocol, hp.length_eq, hp.length_le]

theorem take_toBytes (p : Packet) : p.toBytes.take Header.size = p.header.toBytes :=
  List.take_left' (Header.length_toBytes p.header)

theorem drop_toBytes (p : Packet) : p.toBytes.drop Header.size = p.payload :=
  List.drop_left' (Header.length_toBytes p.header)

theorem fromBytes_toBytes {p : Packet} (hp : p.Readable) :
    (fromBytes p.toBytes).result = .ok p := by
  have hlen : ¬p.toBytes.length < Header.size := by simp [toBytes]
  simp [fromBytes, hlen, take_toBytes, drop_toBytes, Header.result_check,
    parse_header_toBytes hp, Except.bind, hp.length_eq]

theorem decodeFrame_toBytes {p : Packet} (hp : p.Readable) :
    (decodeFrame (p.toBytes.take Header.size) (p.toBytes.drop Header.size)).result = p.text := by
  simp [decodeFrame, take_toBytes, drop_toBytes, Header.result_check, parse_header_toBytes hp,
    Except.bind, hp.length_eq, text]

theorem wireLength_eq_ok {n : Nat} {v : UInt32} (h : wireLength n = .ok v) :
    n < 4294967296 ∧ v = UInt32.ofNat n := by
  unfold wireLength at h
  split at h
  · next hn =>
      cases h
      exact ⟨hn, rfl⟩
  · cases h

theorem new_ok {deflate : Bytes → Bytes} {P : Payload} {c : Bool} {p : Packet}
    (h : (new deflate P c).result = .ok p) :
    ∃ w, P.toBytes = .ok w ∧ w.length < 4294967296 ∧ p.payload.length < 4294967296 ∧
      p.payload = (if c then deflate w else w) ∧
      p.header = ⟨if c then 3 else 1, UInt32.ofNat p.payload.length,
        if c then UInt32.ofNat w.length else 0⟩ := by
  cases hw : P.toBytes with
  | error e => simp [new, hw, Except.bind] at h
  | ok w =>
      cases c with
      | false =>
          cases hl : wireLength w.length with
          | error e => simp [new, hw, hl, Except.bind] at h
          | ok len =>
              obtain ⟨hlt, rfl⟩ := wireLength_eq_ok hl
              simp [new, hw, hl, Except.bind] at h
              subst h
              exact ⟨w, rfl, hlt, hlt, rfl, rfl⟩
      | true =>
          cases hr : wireLength w.length with
          | error e => simp [new, hw, hr, Except.bind] at h
          | ok reserved =>
              obtain ⟨hlt, rfl⟩ := wireLength_eq_ok hr
              cases hl : wireLength (deflate w).length with
              | error e => simp [new, hw, hr, hl, Except.bind] at h
              | ok len =>
                  obtain ⟨hlt', rfl⟩ := wireLength_eq_ok hl
                  simp [new, hw, hr, hl, Except.bind] at h
                  subst h
                  exact ⟨w, rfl, hlt, hlt', rfl, rfl⟩

theorem readable_of_new {deflate : Bytes → Bytes} {P : Payload} {c : Bool} {p : Packet}
    (h : (new deflate P c).result = .ok p) (hp : p.payload.length ≤ Header.maxPayload) :
    p.Readable := by
  obtain ⟨w, -, -, hlt, -, hhead⟩ := new_ok h
  have hlen : (UInt32.ofNat p.payload.length).toNat = p.payload.length := by
    rw [UInt32.toNat_ofNat', Nat.mod_eq_of_lt hlt]
  refine ⟨?_, ?_, ?_, hp⟩
  · rw [hhead]; cases c <;> simp [Header.largeFlag] <;> decide
  · rw [hhead]; cases c <;> simp [Header.protocolFlag]; decide
  · rw [hhead]; exact hlen

theorem inflatePayload_of_inflate {z w : Bytes} (hz : Zlib.inflate? z = some w)
    (hw : w.length ≤ Header.maxPayload) : inflatePayload z = .ok w := by
  simp [inflatePayload, hz, hw]

theorem text_of_new {deflate : Bytes → Bytes} {P : Payload} {c : Bool} {p : Packet} {w : Bytes}
    (hinv : ∀ b, Zlib.inflate? (deflate b) = some b) (h : (new deflate P c).result = .ok p)
    (hw : P.toBytes = .ok w) (hwl : w.length ≤ Header.maxPayload) :
    p.text = match Utf8.decode? w with
      | some s => .ok s
      | none => .error .invalidUtf8 := by
  obtain ⟨w', hw', -, -, hpay, hhead⟩ := new_ok h
  rw [hw, Except.ok.injEq] at hw'
  subst hw'
  unfold text payloadText
  rw [hhead, hpay]
  cases c with
  | false =>
      have hflag : (1 : UInt8) &&& Header.compressedFlag = 0 := by decide
      cases hd : Utf8.decode? w <;> simp [Header.compressed, hflag, bind, Except.bind, hd]
  | true =>
      have hflag : (3 : UInt8) &&& Header.compressedFlag ≠ 0 := by decide
      cases hd : Utf8.decode? w <;>
        simp [Header.compressed, hflag, inflatePayload_of_inflate (hinv w) hwl, bind, Except.bind, hd]

end Packet

/-- Every frame the encoder builds with a compressor that inflating undoes, within the size a
frame may announce, is read back whole from its bytes and decodes from its header and body to
its text, which is the payload's bytes read as UTF-8. -/
theorem encoded_frame_round_trip {deflate : Bytes → Bytes} {P : Payload} {c : Bool} {p : Packet}
    {w : Bytes} (hinv : ∀ b, Zlib.inflate? (deflate b) = some b)
    (hnew : (Packet.new deflate P c).result = .ok p) (hw : P.toBytes = .ok w)
    (hp : p.payload.length ≤ Header.maxPayload) (hwl : w.length ≤ Header.maxPayload) :
    (Packet.fromBytes p.toBytes).result = .ok p ∧
      (decodeFrame (p.toBytes.take Header.size) (p.toBytes.drop Header.size)).result = p.text ∧
      p.text = match Utf8.decode? w with
        | some s => .ok s
        | none => .error .invalidUtf8 := by
  have hr := Packet.readable_of_new hnew hp
  exact ⟨Packet.fromBytes_toBytes hr, Packet.decodeFrame_toBytes hr,
    Packet.text_of_new hinv hnew hw hwl⟩

theorem encoded_frame_round_trip_ping :
    (∀ b, Zlib.inflate? (Zlib.deflateStored b) = some b) ∧
    (Packet.new Zlib.deflateStored (.text "agent.ping") false).result =
        .ok ⟨⟨1, 10, 0⟩, Utf8.encode "agent.ping"⟩ ∧
      (Payload.text "agent.ping").toBytes = .ok (Utf8.encode "agent.ping") ∧
      (Utf8.encode "agent.ping").length ≤ Header.maxPayload ∧
      (Packet.fromBytes (Packet.toBytes ⟨⟨1, 10, 0⟩, Utf8.encode "agent.ping"⟩)).result =
        .ok ⟨⟨1, 10, 0⟩, Utf8.encode "agent.ping"⟩ ∧
      (decodeFrame ((Packet.toBytes ⟨⟨1, 10, 0⟩, Utf8.encode "agent.ping"⟩).take Header.size)
        ((Packet.toBytes ⟨⟨1, 10, 0⟩, Utf8.encode "agent.ping"⟩).drop Header.size)).result =
        Packet.text ⟨⟨1, 10, 0⟩, Utf8.encode "agent.ping"⟩ ∧
      Packet.text ⟨⟨1, 10, 0⟩, Utf8.encode "agent.ping"⟩ =
        (match Utf8.decode? (Utf8.encode "agent.ping") with
          | some s => .ok s
          | none => .error .invalidUtf8) := by
  have hnew : (Packet.new Zlib.deflateStored (.text "agent.ping") false).result =
      .ok ⟨⟨1, 10, 0⟩, Utf8.encode "agent.ping"⟩ := by decide
  have hw : (Payload.text "agent.ping").toBytes = .ok (Utf8.encode "agent.ping") := rfl
  have hl : (Utf8.encode "agent.ping").length ≤ Header.maxPayload := by decide
  exact ⟨Zlib.inflate_deflateStored, hnew, hw, hl,
    encoded_frame_round_trip Zlib.inflate_deflateStored hnew hw hl hl⟩

theorem fromBytes_new_oversized (deflate : Bytes → Bytes) (b : Bytes)
    (hgt : Header.maxPayload < b.length) (hlt : b.length < 4294967296) :
    ∃ p, (Packet.new deflate (.bytes b) false).result = .ok p ∧
      (Packet.fromBytes p.toBytes).result = .error (.oversizedPacket b.length) := by
  refine ⟨⟨⟨1, UInt32.ofNat b.length, 0⟩, b⟩, ?_, ?_⟩
  · simp [Packet.new, Payload.toBytes, Packet.wireLength, hlt, Except.bind, Header.protocolFlag]
  · have hlen : ¬(Packet.toBytes ⟨⟨1, UInt32.ofNat b.length, 0⟩, b⟩).length < Header.size := by
      simp [Packet.toBytes]
    have hdl : (UInt32.ofNat b.length).toNat = b.length := by
      rw [UInt32.toNat_ofNat', Nat.mod_eq_of_lt hlt]
    have hlarge : (1 : UInt8) &&& Header.largeFlag = 0 := by decide
    have hproto : (1 : UInt8) &&& Header.protocolFlag ≠ 0 := by decide
    simp [Packet.fromBytes, hlen, Packet.take_toBytes, Header.result_check, Header.parse_toBytes,
      Except.bind, hdl, hgt, hlarge, hproto]

/-- The encoder accepts payloads up to 2^32 bytes, but a frame announcing more than 2^30 bytes
is refused when read: a payload of 2^30 + 1 bytes is not read back. -/
theorem oversized_frame_refused :
    ∃ p, (Packet.new Zlib.deflateStored (.bytes (List.replicate (Nat.pow 2 30 + 1) 0)) false).result =
      .ok p ∧
      (Packet.fromBytes p.toBytes).result = .error (.oversizedPacket (Nat.pow 2 30 + 1)) := by
  have h := fromBytes_new_oversized Zlib.deflateStored (List.replicate (Nat.pow 2 30 + 1) 0)
    (by rw [List.length_replicate]; decide) (by rw [List.length_replicate]; decide)
  rwa [List.length_replicate] at h

end MonitorWire
