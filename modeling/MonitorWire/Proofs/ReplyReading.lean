import Mathlib
import MonitorWire.Proofs.ChunkedReading
import MonitorWire.Net.Link

namespace MonitorWire

namespace Source

theorem take_append_take_drop (l : Bytes) {n k : Nat} (hnk : n ≤ k) :
    l.take n ++ (l.drop n).take (k - (l.take n).length) = l.take k := by
  by_cases hn : n ≤ l.length
  · rw [List.length_take, Nat.min_eq_left hn, ← List.take_add, Nat.add_sub_cancel' hnk]
  · have hdrop : l.drop n = [] := List.drop_eq_nil_of_le (by omega)
    rw [hdrop, List.take_nil, List.append_nil, List.take_of_length_le (by omega),
      List.take_of_length_le (by omega)]

theorem drop_drop_take (l : Bytes) {n k : Nat} (hnk : n ≤ k) :
    (l.drop n).drop (k - (l.take n).length) = l.drop k := by
  by_cases hn : n ≤ l.length
  · rw [List.length_take, Nat.min_eq_left hn, List.drop_drop, Nat.add_sub_cancel' hnk]
  · rw [List.drop_eq_nil_of_le (by omega : l.length ≤ n), List.drop_nil,
      List.drop_eq_nil_of_le (by omega : l.length ≤ k)]

def Live (s : Source) : Prop := ∀ i, 0 < s.arrivals i

theorem Live.consume {s : Source} (hs : s.Live) (n k : Nat) : (s.consume n k).Live :=
  fun i => hs (k + i)

theorem steady_live (d : Bytes) {step : Nat} (h : 0 < step) : (steady d step).Live := fun _ => h

@[simp] theorem pending_consume (s : Source) (n k : Nat) :
    (s.consume n k).pending = s.pending.drop n := rfl

@[simp] theorem consume_zero (s : Source) : s.consume 0 0 = s := by
  obtain ⟨d, arrivals⟩ := s
  simp [consume]

theorem consume_consume_take (s : Source) {n size : Nat} (hn : n ≤ size) (k k' : Nat) :
    (s.consume n k).consume (size - (s.pending.take n).length) k' = s.consume size (k + k') := by
  simp only [consume, drop_drop_take _ hn, Nat.add_assoc]

theorem gather_eq (s : Source) (hs : s.Live) (size fuel : Nat) (acc : Bytes)
    (hacc : acc.length ≤ size) (hfuel : size - acc.length < fuel) :
    ∃ k, s.gather size acc fuel =
      (acc ++ s.pending.take (size - acc.length), s.consume (size - acc.length) k) := by
  induction fuel generalizing s acc with
  | zero => omega
  | succ fuel ih =>
      rw [gather]
      by_cases hfull : acc.length ≥ size
      · have h0 : size - acc.length = 0 := by omega
        exact ⟨0, by simp [hfull, h0]⟩
      · rw [if_neg hfull]
        -- one read hands out `m` bytes, at least one while any are pending
        set m := min (s.arrivals 0) (size - acc.length) with hm
        have hn : 0 < m := by have := hs 0; omega
        have hnk : m ≤ size - acc.length := Nat.min_le_right _ _
        have hread : s.read (size - acc.length) = (s.pending.take m, s.consume m 1) := rfl
        by_cases hend : s.pending = []
        · exact ⟨1, by simp [hread, hend, consume]⟩
        · have hchunk : (s.pending.take m).isEmpty = false := by
            simp [hend]; omega
          have hpos : 0 < (s.pending.take m).length := by
            simp [List.length_pos_iff, hend]; omega
          have hle : (s.pending.take m).length ≤ size - acc.length :=
            (List.length_take_le _ _).trans hnk
          obtain ⟨k, hk⟩ := ih (s.consume m 1) (hs.consume m 1) (acc ++ s.pending.take m)
            (by simp only [List.length_append]; omega) (by simp only [List.length_append]; omega)
          have hrest : size - (acc ++ s.pending.take m).length =
              size - acc.length - (s.pending.take m).length := by
            simp; omega
          refine ⟨1 + k, ?_⟩
          simp only [hread, hchunk, Bool.false_eq_true, if_false]
          rw [hk, hrest, List.append_assoc, pending_consume, take_append_take_drop _ hnk,
            consume_consume_take s hnk]

theorem readExact_value (s : Source) (hs : s.Live) (size : Nat) :
    ∃ k, (s.readExact size).value = (s.pending.take size, s.consume size k) := by
  obtain ⟨k, hg⟩ := gather_eq s hs size (size + 1) [] (by simp) (by omega)
  simp only [List.length_nil, Nat.sub_zero, List.nil_append] at hg
  refine ⟨k, ?_⟩
  simp only [readExact, hg]
  split <;> rfl

end Source

namespace Net.NetM

variable {σ α β : Type}

theorem value_ask_bind (f : σ → α × σ) (g : α → NetM σ β) (s : σ) :
    ((ExceptT.run (NetM.ask f >>= g)).run s).value = ((ExceptT.run (g (f s).1)).run (f s).2).value :=
  rfl

theorem value_ofOutcome_bind_ok {x : Outcome α} {a : α} (hx : x.result = .ok a) (g : α → NetM σ β)
    (s : σ) :
    ((ExceptT.run (NetM.ofOutcome x >>= g)).run s).value = ((ExceptT.run (g a)).run s).value := by
  obtain ⟨v, events⟩ := x
  cases hx
  rfl

theorem value_ofOutcome_bind_error {x : Outcome α} {e : ProtocolError} (hx : x.result = .error e)
    (g : α → NetM σ β) (s : σ) :
    ((ExceptT.run (NetM.ofOutcome x >>= g)).run s).value = (.error e, s) := by
  obtain ⟨v, events⟩ := x
  cases hx
  rfl

end Net.NetM

theorem decodeFrame_result (header payload : Bytes) :
    (decodeFrame header payload).result = (Header.parse header).bind fun h =>
      if payload.length = h.dataLength.toNat then Packet.payloadText h payload
      else .error .invalidHeader := by
  cases hp : Header.parse header with
  | error e => simp [decodeFrame, Header.result_check, hp, Except.bind]
  | ok h =>
      by_cases hl : payload.length = h.dataLength.toNat <;>
        simp [decodeFrame, Header.result_check, hp, Except.bind, hl]

theorem Header.parse_short {b : Bytes} (hb : b.length < Header.size) :
    Header.parse b = .error .invalidHeader := by
  have hbad : (b.length != Header.size || b.take 4 != Header.magic) = true := by
    simp; omega
  simp [Header.parse, hbad]

theorem Header.length_of_parse {b : Bytes} {h : Header} (hb : Header.parse b = .ok h) :
    b.length = Header.size := by
  by_contra hl
  have hbad : (b.length != Header.size || b.take 4 != Header.magic) = true := by simp [hl]
  simp [Header.parse, hbad] at hb

namespace Net

/-- The text of a reply: its first frame's, when the header is accepted and the whole payload
it announces is there; bytes after the frame are ignored. A reply too short for a header or
for the payload is refused as a bad header. -/
def replyText (reply : Bytes) : Except ProtocolError String :=
  if reply.length < Header.size then .error .invalidHeader
  else match Header.parse (reply.take Header.size) with
    | .error e => .error e
    | .ok h =>
      if reply.length < Header.size + h.dataLength.toNat then .error .invalidHeader
      else Packet.payloadText h ((reply.drop Header.size).take h.dataLength.toNat)

theorem readBlockingFrom_result (s : Source) (hs : s.Live) :
    (Link.readBlockingFrom s).result = replyText s.pending := by
  obtain ⟨k, hhead⟩ := Source.readExact_value s hs Header.size
  simp only [Link.readBlockingFrom, Outcome.result_bind, Outcome.result_lift, hhead,
    Header.result_check]
  unfold replyText
  by_cases hshort : s.pending.length < Header.size
  · have hcut : (s.pending.take Header.size).length < Header.size := by simp; omega
    simp [Except.bind, Header.parse_short hcut, hshort]
  · cases hp : Header.parse (s.pending.take Header.size) with
    | error e => simp [Except.bind, hp, hshort]
    | ok h =>
        obtain ⟨k', hbody⟩ := Source.readExact_value (s.consume Header.size k) (hs.consume _ _)
          h.dataLength.toNat
        rw [Source.pending_consume] at hbody
        -- the payload read is whole exactly when the reply holds the frame
        have hlen : ((s.pending.drop Header.size).take h.dataLength.toNat).length =
            h.dataLength.toNat ↔ ¬s.pending.length < Header.size + h.dataLength.toNat := by
          simp; omega
        simp only [Except.bind, hp, hshort, if_false, hbody, decodeFrame_result]
        by_cases hl : s.pending.length < Header.size + h.dataLength.toNat
        · rw [if_neg (mt hlen.mp (not_not.mpr hl)), if_pos hl]
        · rw [if_pos (hlen.mpr hl), if_neg hl]

end Net

namespace FrameBuffer

theorem decodeEnd_of_ne {buf rest : FrameBuffer} {r : Except ProtocolError (Option String)}
    (h : (decode buf).value = (r, rest)) (hr : r ≠ .ok none) : (decodeEnd buf).value.1 = r := by
  simp only [decodeEnd, Traced.value_bind, h]
  rfl

theorem decodeEnd_of_wait {buf : FrameBuffer} (h : (decode buf).value = (.ok none, buf)) :
    (decodeEnd buf).value.1 = if buf.isEmpty then .ok none else .error .invalidHeader := by
  simp only [decodeEnd, Traced.value_bind, h]
  split <;> simp

theorem readFirst_nil (buf : FrameBuffer) : (readFirst buf []).value = (decodeEnd buf).value.1 :=
  rfl

theorem readFirst_cons_of_wait (buf chunk : Bytes) (chunks : List Bytes) {rest : FrameBuffer}
    (h : (decode (buf ++ chunk)).value = (.ok none, rest)) :
    (readFirst buf (chunk :: chunks)).value = (readFirst rest chunks).value := by
  simp only [readFirst, Traced.value_bind, h]

theorem readFirst_cons_of_ne (buf chunk : Bytes) (chunks : List Bytes) {rest : FrameBuffer}
    {r : Except ProtocolError (Option String)}
    (h : (decode (buf ++ chunk)).value = (r, rest)) (hr : r ≠ .ok none) :
    (readFirst buf (chunk :: chunks)).value = r := by
  simp only [readFirst, Traced.value_bind, h]
  rfl

theorem Attempt.settled {buf rest : FrameBuffer} {r : Except ProtocolError (Option String)}
    (hA : Attempt buf (r, rest)) (hr : r ≠ .ok none) (more : Bytes) :
    ∃ rest', (decode (buf ++ more)).value = (r, rest') := by
  cases hA with
  | wait => exact absurd rfl hr
  | refuse _ hmore => exact ⟨_, hmore more⟩
  | frame _ _ _ hmore => exact ⟨_, hmore more⟩

theorem readFirst_append (buf a b : Bytes) :
    (readFirst buf [a ++ b]).value = (readFirst (buf ++ a) [b]).value := by
  simp only [readFirst, List.append_assoc]

theorem readFirst_flatten (buf : FrameBuffer) (chunks : List Bytes) :
    (readFirst buf chunks).value = (readFirst buf [chunks.flatten]).value := by
  induction chunks generalizing buf with
  | nil =>
      -- the end of the input is one more attempt on the same buffer
      rcases hv : (decode buf).value with ⟨r, rest⟩
      have hv' : (decode (buf ++ [])).value = (r, rest) := by rw [List.append_nil]; exact hv
      rw [List.flatten_nil, readFirst_nil]
      by_cases hr : r = .ok none
      · subst hr
        rw [rest_of_wait hv] at hv'
        rw [readFirst_cons_of_wait buf [] [] hv', readFirst_nil]
      · rw [decodeEnd_of_ne hv hr, readFirst_cons_of_ne buf [] [] hv' hr]
  | cons c cs ih =>
      rcases hv : (decode (buf ++ c)).value with ⟨r, rest⟩
      rw [List.flatten_cons]
      by_cases hr : r = .ok none
      · subst hr
        obtain rfl := rest_of_wait hv
        rw [readFirst_cons_of_wait buf c cs hv, ih, readFirst_append]
      · obtain ⟨rest', hmore⟩ := (attempt_of_value hv).settled hr cs.flatten
        rw [List.append_assoc] at hmore
        rw [readFirst_cons_of_ne buf c cs hv hr,
          readFirst_cons_of_ne buf (c ++ cs.flatten) [] hmore hr]

end FrameBuffer

namespace Net

open FrameBuffer

theorem readFramedFrom_result (node : Node) (chunks : List Bytes) :
    (Link.readFramedFrom node chunks).result =
      (readFirst [] chunks).value.bind fun o => o.elim (.error .invalidHeader) .ok := by
  simp only [Link.readFramedFrom, Outcome.result_bind, Outcome.result_lift, Outcome.result_ofExcept]
  cases (readFirst [] chunks).value with
  | error e => rfl
  | ok o =>
      cases o with
      | none => simp [Except.bind]
      | some t => simp [Except.bind]

theorem readFirst_reply (reply : Bytes) :
    ((readFirst [] [reply]).value.bind fun o => o.elim (.error .invalidHeader) .ok) =
      replyText reply := by
  unfold replyText
  by_cases hs : reply.length < Header.size
  · rw [if_pos hs]
    by_cases hm : reply.take (min reply.length 4) = Header.magic.take (min reply.length 4)
    · -- a prefix of a header: the reader waits, and the input ends
      have hv := decode_of_short hs hm
      rw [readFirst_cons_of_wait [] reply [] hv, readFirst_nil, decodeEnd_of_wait hv]
      split <;> rfl
    · rw [readFirst_cons_of_ne [] reply [] (decode_of_bad_magic hm) (by simp)]
      rfl
  · rw [if_neg hs]
    have hs : Header.size ≤ reply.length := Nat.not_lt.mp hs
    cases hp : Header.parse (reply.take Header.size) with
    | error e =>
        rw [readFirst_cons_of_ne [] reply [] (decode_of_parse_error hs hp) (by simp)]
        rfl
    | ok h =>
        have hv := decode_of_parse hs hp
        dsimp only
        by_cases hl : reply.length < Header.size + h.dataLength.toNat
        · -- the payload is cut short
          rw [if_pos hl] at hv
          rw [if_pos hl, readFirst_cons_of_wait [] reply [] hv, readFirst_nil, decodeEnd_of_wait hv]
          have hne : reply.isEmpty = false := by
            rw [List.isEmpty_eq_false_iff, ← List.length_pos_iff]
            simp [Header.size] at hs; omega
          rw [hne]
          rfl
        · rw [if_neg hl] at hv
          rw [if_neg hl, readFirst_cons_of_ne [] reply [] hv (by cases Packet.payloadText h _ <;> simp [Except.map])]
          cases Packet.payloadText h ((reply.drop Header.size).take h.dataLength.toNat) <;> rfl

theorem readFramedFrom_flatten (node : Node) (chunks : List Bytes) :
    (Link.readFramedFrom node chunks).result = replyText chunks.flatten := by
  rw [readFramedFrom_result, readFirst_flatten, readFirst_reply]

theorem send_of_reply {σ : Type} (net : Network σ) (mode : Mode) (l : Link) (p : Packet)
    {s s' : σ} {reply : Bytes} (h : net.deliver l.node p.toBytes l.timeout s = (.bytes reply, s')) :
    (NetM.run (l.send net mode p) s).1 = (replyText reply, s') := by
  have hread : ∀ x : Outcome String, x.result = replyText reply →
      ((ExceptT.run (do
        let text ← NetM.ofOutcome x
        NetM.debug ("Response from " ++ l.node.display ++ ": " ++ text)
        pure text : NetM σ String)).run s').value = (replyText reply, s') := by
    intro x hx
    cases hr : replyText reply with
    | error e => exact NetM.value_ofOutcome_bind_error (hx.trans hr) _ s'
    | ok t =>
        rw [NetM.value_ofOutcome_bind_ok (hx.trans hr)]
        rfl
  simp only [NetM.run, Link.send, NetM.value_ask_bind, h]
  cases mode with
  | blocking => exact hread _ (readBlockingFrom_result _ (Source.steady_live reply (Nat.succ_pos _)))
  | async =>
      exact hread _ (by rw [Link.readFramed, readFramedFrom_flatten, List.flatten_singleton])

theorem replyText_eq_ok (reply : Bytes) (t : String) :
    replyText reply = .ok t ↔ ∃ header payload rest h, reply = header ++ payload ++ rest ∧
      Header.parse header = .ok h ∧ payload.length = h.dataLength.toNat ∧
      Packet.payloadText h payload = .ok t := by
  constructor
  · intro ht
    unfold replyText at ht
    split_ifs at ht with hs
    cases hp : Header.parse (reply.take Header.size) with
    | error e => rw [hp] at ht; cases ht
    | ok h =>
        rw [hp] at ht
        dsimp only at ht
        split_ifs at ht with hl
        refine ⟨reply.take Header.size, (reply.drop Header.size).take h.dataLength.toNat,
          (reply.drop Header.size).drop h.dataLength.toNat, h, ?_, hp, ?_, ht⟩
        · rw [List.append_assoc, List.take_append_drop, List.take_append_drop]
        · simp; omega
  · rintro ⟨header, payload, rest, h, rfl, hp, hlen, ht⟩
    have hsize := Header.length_of_parse hp
    have htake : (header ++ payload ++ rest).take Header.size = header := by
      rw [List.append_assoc, List.take_left' hsize]
    have hbody : ((header ++ payload ++ rest).drop Header.size).take h.dataLength.toNat =
        payload := by
      rw [List.append_assoc, List.drop_left' hsize, List.take_left' hlen]
    have hs : ¬(header ++ payload ++ rest).length < Header.size := by simp; omega
    have hl : ¬(header ++ payload ++ rest).length < Header.size + h.dataLength.toNat := by
      simp; omega
    simp only [replyText, hs, if_false, htake, hp, hl, hbody, ht]

theorem replyText_error {reply : Bytes} {e : ProtocolError} (he : replyText reply = .error e) :
    e = .invalidHeader ∨ Header.parse (reply.take Header.size) = .error e ∨ e.isBodyError := by
  unfold replyText at he
  split_ifs at he with hs
  · cases he
    exact .inl rfl
  · cases hp : Header.parse (reply.take Header.size) with
    | error e' =>
        rw [hp] at he
        cases he
        exact .inr (.inl rfl)
    | ok h =>
        rw [hp] at he
        dsimp only at he
        split_ifs at he with hl
        · cases he
          exact .inl rfl
        · exact .inr (.inr (Packet.payloadText_error_body he))

end Net

/-- Both kinds of connection send a request as its frame's bytes and read the reply alike: to
the text of the reply's first frame, or to the same failure. The blocking read gives that for
any sizes of successive reads, the frame reader for any split of the reply into chunks. The reply reads to
a text exactly when it starts with a whole frame whose header is accepted and whose payload
reads; otherwise it is refused for its header, a payload cut short, or the payload's body. -/
theorem transports_agree {σ : Type} (net : Net.Network σ) (l : Net.Link) (p : Packet) {s s' : σ}
    {reply : Bytes} (hdeliver : net.deliver l.node p.toBytes l.timeout s = (.bytes reply, s')) :
    (Net.NetM.run (l.send net .blocking p) s).1 = (Net.replyText reply, s') ∧
      (Net.NetM.run (l.send net .async p) s).1 = (Net.replyText reply, s') ∧
      (∀ arrivals : Nat → Nat, (∀ i, 0 < arrivals i) →
        (Net.Link.readBlockingFrom ⟨reply, arrivals⟩).result = Net.replyText reply) ∧
      (∀ chunks : List Bytes, chunks.flatten = reply →
        (Net.Link.readFramedFrom l.node chunks).result = Net.replyText reply) ∧
      (∀ t, Net.replyText reply = .ok t ↔ ∃ header payload rest h,
        reply = header ++ payload ++ rest ∧ Header.parse header = .ok h ∧
        payload.length = h.dataLength.toNat ∧ Packet.payloadText h payload = .ok t) ∧
      ∀ e, Net.replyText reply = .error e →
        e = .invalidHeader ∨ Header.parse (reply.take Header.size) = .error e ∨ e.isBodyError := by
  refine ⟨Net.send_of_reply net .blocking l p hdeliver, Net.send_of_reply net .async l p hdeliver,
    fun arrivals harr => Net.readBlockingFrom_result ⟨reply, arrivals⟩ harr, ?_,
    Net.replyText_eq_ok reply, fun e he => Net.replyText_error he⟩
  rintro chunks rfl
  exact Net.readFramedFrom_flatten l.node chunks

theorem transports_agree_ping :
    let p : Packet := ⟨⟨1, 10, 0⟩, Utf8.encode "agent.ping"⟩
    let reply := Packet.toBytes ⟨⟨1, 2, 0⟩, Utf8.encode "ok"⟩ ++ [0]
    let net : Net.Network Unit := ⟨fun _ _ _ => (.connected, ()), fun _ _ _ _ => (.bytes reply, ())⟩
    let l : Net.Link := ⟨⟨"127.0.0.1", 10051⟩, ⟨3, 0⟩, none⟩
    net.deliver l.node p.toBytes l.timeout () = (.bytes reply, ()) ∧
      (Net.NetM.run (l.send net .blocking p) ()).1 = (Net.replyText reply, ()) ∧
      (Net.NetM.run (l.send net .async p) ()).1 = (Net.replyText reply, ()) ∧
      (∀ arrivals : Nat → Nat, (∀ i, 0 < arrivals i) →
        (Net.Link.readBlockingFrom ⟨reply, arrivals⟩).result = Net.replyText reply) ∧
      (∀ chunks : List Bytes, chunks.flatten = reply →
        (Net.Link.readFramedFrom l.node chunks).result = Net.replyText reply) ∧
      (∀ t, Net.replyText reply = .ok t ↔ ∃ header payload rest h,
        reply = header ++ payload ++ rest ∧ Header.parse header = .ok h ∧
        payload.length = h.dataLength.toNat ∧ Packet.payloadText h payload = .ok t) ∧
      ∀ e, Net.replyText reply = .error e →
        e = .invalidHeader ∨ Header.parse (reply.take Header.size) = .error e ∨ e.isBodyError := by
  intro p reply net l
  exact ⟨rfl, transports_agree net l p rfl⟩

end MonitorWire
