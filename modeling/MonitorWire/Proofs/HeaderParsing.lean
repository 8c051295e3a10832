import Mathlib
import MonitorWire.Proofs.FrameRoundTrip

namespace MonitorWire

namespace Bytes

theorem readWordLE_lt (c : Bytes) : readWordLE c < 4294967296 := by
  unfold readWordLE
  split
  · next b0 b1 b2 b3 _ =>
      have := b0.toNat_lt
      have := b1.toNat_lt
      have := b2.toNat_lt
      have := b3.toNat_lt
      omega
  · decide

theorem wordLE_readWordLE {c : Bytes} (hc : 4 ≤ c.length) : wordLE (readWordLE c) = c.take 4 := by
  rcases c with _ | ⟨b0, _ | ⟨b1, _ | ⟨b2, _ | ⟨b3, rest⟩⟩⟩⟩ <;> simp at hc
  have h0 := b0.toNat_lt
  have h1 := b1.toNat_lt
  have h2 := b2.toNat_lt
  have h3 := b3.toNat_lt
  simp only [wordLE, readWordLE, List.take_succ_cons, List.take_zero, List.cons.injEq, and_true]
  -- each byte is one base-256 digit of the word
  refine ⟨?_, ?_, ?_, ?_⟩ <;> apply UInt8.toNat_inj.mp <;> simp only [UInt8.toNat_ofNat'] <;> omega

end Bytes

namespace Header

def Framed (b : Bytes) : Prop := b.length = size ∧ b.take 4 = magic

instance : DecidablePred Framed := fun _ => inferInstanceAs (Decidable (_ ∧ _))

def ofBytes (b : Bytes) : Header :=
  ⟨b.getD 4 0, UInt32.ofNat (Bytes.readWordLE (b.drop 5)),
    UInt32.ofNat (Bytes.readWordLE (b.drop 9))⟩

structure Valid (h : Header) : Prop where
  protocol : h.flags &&& protocolFlag ≠ 0
  noLarge : h.flags &&& largeFlag = 0
  length_le : h.dataLength.toNat ≤ maxPayload

@[simp] theorem flags_ofBytes (b : Bytes) : (ofBytes b).flags = b.getD 4 0 := rfl

@[simp] theorem dataLength_ofBytes (b : Bytes) :
    (ofBytes b).dataLength.toNat = Bytes.readWordLE (b.drop 5) := by
  simp [ofBytes, Nat.mod_eq_of_lt (Bytes.readWordLE_lt _)]

@[simp] theorem reserved_ofBytes (b : Bytes) :
    (ofBytes b).reserved.toNat = Bytes.readWordLE (b.drop 9) := by
  simp [ofBytes, Nat.mod_eq_of_lt (Bytes.readWordLE_lt _)]

theorem framed_toBytes (h : Header) : Framed h.toBytes :=
  ⟨length_toBytes h, by simp [toBytes_eq, magic]⟩

theorem toBytes_ofBytes {b : Bytes} (hb : Framed b) : (ofBytes b).toBytes = b := by
  obtain ⟨hlen, hmagic⟩ := hb
  have hlen : b.length = 13 := hlen
  -- cut the bytes where the fields start: magic, flag byte, length word, reserved word
  have hsplit : b = b.take 4 ++ b.getD 4 0 :: ((b.drop 5).take 4 ++ b.drop 9) := by
    have h4 : b.drop 4 = b.getD 4 0 :: b.drop 5 := by
      rw [List.getD_eq_getElem _ _ (by omega)]
      exact List.drop_eq_getElem_cons (by omega)
    have h5 : b.drop 5 = (b.drop 5).take 4 ++ b.drop 9 := by
      have h9 : b.drop 9 = (b.drop 5).drop 4 := by rw [List.drop_drop]
      rw [h9, List.take_append_drop]
    rw [← h5, ← h4, List.take_append_drop]
  have hword : Bytes.wordLE (Bytes.readWordLE (b.drop 5)) = (b.drop 5).take 4 :=
    Bytes.wordLE_readWordLE (by simp; omega)
  have hres : Bytes.wordLE (Bytes.readWordLE (b.drop 9)) = b.drop 9 := by
    rw [Bytes.wordLE_readWordLE (by simp; omega), List.take_of_length_le (by simp; omega)]
  rw [toBytes_eq, dataLength_ofBytes, reserved_ofBytes, hword, hres, flags_ofBytes, ← hmagic,
    ← hsplit]

theorem parse_of_not_framed {b : Bytes} (hb : ¬Framed b) : parse b = .error .invalidHeader := by
  have hbad : (b.length != size || b.take 4 != magic) = true := by
    simp only [Framed, not_and_or] at hb
    simpa using hb
  simp [parse, hbad]

theorem framed_of_parse {b : Bytes} {h : Header} (hb : parse b = .ok h) : Framed b := by
  by_contra hf
  rw [parse_of_not_framed hf] at hb
  cases hb

theorem parse_eq (b : Bytes) :
    parse b =
      if ¬Framed b then .error .invalidHeader
      else if b.getD 4 0 &&& largeFlag ≠ 0 then .error .largePacketUnsupported
      else if b.getD 4 0 &&& protocolFlag = 0 then .error (.unexpectedFlags (b.getD 4 0))
      else if maxPayload < Bytes.readWordLE (b.drop 5) then
        .error (.oversizedPacket (Bytes.readWordLE (b.drop 5)))
      else .ok (ofBytes b) := by
  by_cases hb : Framed b
  · conv_lhs => rw [← toBytes_ofBytes hb]
    rw [parse_toBytes, if_neg (not_not.mpr hb)]
    simp
  · rw [parse_of_not_framed hb, if_pos hb]

theorem parse_toBytes_of_valid {h : Header} (hv : h.Valid) : parse h.toBytes = .ok h := by
  rw [parse_toBytes]
  simp [hv.noLarge, hv.protocol, hv.length_le]

theorem parse_eq_ok_iff (b : Bytes) (h : Header) : parse b = .ok h ↔ h.Valid ∧ h.toBytes = b := by
  constructor
  · intro hparse
    have hb := framed_of_parse hparse
    rw [parse_eq, if_neg (not_not.mpr hb)] at hparse
    split_ifs at hparse with hlarge hproto hlen
    cases hparse
    exact ⟨⟨hproto, not_not.mp hlarge, by simpa using hlen⟩, toBytes_ofBytes hb⟩
  · rintro ⟨hv, rfl⟩
    exact parse_toBytes_of_valid hv

theorem parse_eq_invalidHeader_iff (b : Bytes) :
    parse b = .error .invalidHeader ↔ ¬Framed b := by
  rw [parse_eq]
  split_ifs <;> simp_all

theorem parse_eq_largePacket_iff (b : Bytes) :
    parse b = .error .largePacketUnsupported ↔ Framed b ∧ b.getD 4 0 &&& largeFlag ≠ 0 := by
  rw [parse_eq]
  split_ifs <;> simp_all

theorem parse_eq_unexpectedFlags_iff (b : Bytes) (x : UInt8) :
    parse b = .error (.unexpectedFlags x) ↔
      Framed b ∧ b.getD 4 0 &&& largeFlag = 0 ∧ b.getD 4 0 &&& protocolFlag = 0 ∧
        x = b.getD 4 0 := by
  rw [parse_eq]
  split_ifs <;> simp_all [eq_comm (a := x)]

theorem parse_eq_oversized_iff (b : Bytes) (n : Nat) :
    parse b = .error (.oversizedPacket n) ↔
      Framed b ∧ b.getD 4 0 &&& largeFlag = 0 ∧ b.getD 4 0 &&& protocolFlag ≠ 0 ∧
        maxPayload < Bytes.readWordLE (b.drop 5) ∧ n = Bytes.readWordLE (b.drop 5) := by
  rw [parse_eq]
  split_ifs <;> simp_all [eq_comm (a := n)]

theorem eq_ofBytes_iff (b : Bytes) (h : Header) :
    ofBytes b = h ↔ h.flags = b.getD 4 0 ∧ h.dataLength.toNat = Bytes.readWordLE (b.drop 5) ∧
      h.reserved.toNat = Bytes.readWordLE (b.drop 9) := by
  constructor
  · rintro rfl
    simp
  · rintro ⟨hf, hd, hr⟩
    obtain ⟨flags, dataLength, reserved⟩ := h
    simp only [ofBytes, mk.injEq]
    refine ⟨hf.symm, ?_, ?_⟩ <;> apply UInt32.toNat_inj.mp <;>
      simp [hd, hr, Nat.mod_eq_of_lt (Bytes.readWordLE_lt _)]

theorem parse_eq_ok_iff_fields (b : Bytes) (h : Header) :
    parse b = .ok h ↔
      Framed b ∧ b.getD 4 0 &&& largeFlag = 0 ∧ b.getD 4 0 &&& protocolFlag ≠ 0 ∧
        Bytes.readWordLE (b.drop 5) ≤ maxPayload ∧ h.flags = b.getD 4 0 ∧
        h.dataLength.toNat = Bytes.readWordLE (b.drop 5) ∧
        h.reserved.toNat = Bytes.readWordLE (b.drop 9) := by
  rw [parse_eq]
  split_ifs <;> simp_all [eq_ofBytes_iff]

end Header

/-- Reading a header refuses bytes without the header's shape as a bad header, then a set
large-packet flag, then a clear protocol flag (naming the flag byte), then a length above the
limit (naming the length); anything else is read as the header its fields spell, which is
exactly a valid header written out. -/
theorem header_parse_exact (b : Bytes) :
    (Header.parse b = .error .invalidHeader ↔ b.length ≠ Header.size ∨ b.take 4 ≠ Header.magic) ∧
    (Header.parse b = .error .largePacketUnsupported ↔
      Header.Framed b ∧ b.getD 4 0 &&& Header.largeFlag ≠ 0) ∧
    (∀ f, Header.parse b = .error (.unexpectedFlags f) ↔
      Header.Framed b ∧ b.getD 4 0 &&& Header.largeFlag = 0 ∧
        b.getD 4 0 &&& Header.protocolFlag = 0 ∧ f = b.getD 4 0) ∧
    (∀ n, Header.parse b = .error (.oversizedPacket n) ↔
      Header.Framed b ∧ b.getD 4 0 &&& Header.largeFlag = 0 ∧
        b.getD 4 0 &&& Header.protocolFlag ≠ 0 ∧ Header.maxPayload < Bytes.readWordLE (b.drop 5) ∧
        n = Bytes.readWordLE (b.drop 5)) ∧
    (∀ h, Header.parse b = .ok h ↔
      Header.Framed b ∧ b.getD 4 0 &&& Header.largeFlag = 0 ∧
        b.getD 4 0 &&& Header.protocolFlag ≠ 0 ∧ Bytes.readWordLE (b.drop 5) ≤ Header.maxPayload ∧
        h.flags = b.getD 4 0 ∧ h.dataLength.toNat = Bytes.readWordLE (b.drop 5) ∧
        h.reserved.toNat = Bytes.readWordLE (b.drop 9)) ∧
    (∀ h, Header.parse b = .ok h ↔ h.Valid ∧ h.toBytes = b) := by
  have hshape : ¬Header.Framed b ↔ b.length ≠ Header.size ∨ b.take 4 ≠ Header.magic := by
    simp only [Header.Framed, not_and_or]
  exact ⟨(Header.parse_eq_invalidHeader_iff b).trans hshape, Header.parse_eq_largePacket_iff b,
    Header.parse_eq_unexpectedFlags_iff b, Header.parse_eq_oversized_iff b,
    Header.parse_eq_ok_iff_fields b, Header.parse_eq_ok_iff b⟩

end MonitorWire
