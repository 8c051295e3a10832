import Mathlib
import MonitorWire.Proofs.FrameRoundTrip
import MonitorWire.Packet.Buffer

namespace MonitorWire

/-- The failures of a frame's body, as opposed to its header: a payload that does not inflate
or is not UTF-8. -/
def ProtocolError.isBodyError : ProtocolError → Bool
  | .invalidUtf8 | .decompressionFailure => true
  | _ => false

theorem Header.parse_error_not_body {b : Bytes} {e : ProtocolError}
    (h : Header.parse b = .error e) : e.isBodyError = false := by
  simp only [Header.parse] at h
  split_ifs at h <;> cases h <;> rfl

theorem Header.magic_of_parse {b : Bytes} {h : Header} (hb : Header.parse b = .ok h) :
    b.take 4 = Header.magic := by
  by_contra hm
  have hbad : (b.length != Header.size || b.take 4 != Header.magic) = true := by simp [hm]
  simp [Header.parse, hbad] at hb

theorem Packet.inflatePayload_error {payload : Bytes} {e : ProtocolError}
    (he : Packet.inflatePayload payload = .error e) : e = .decompressionFailure := by
  unfold Packet.inflatePayload at he
  split at he
  · split at he
    · cases he
    · cases he; rfl
  · cases he; rfl

theorem Packet.payloadText_error_body {h : Header} {payload : Bytes} {e : ProtocolError}
    (he : Packet.payloadText h payload = .error e) : e.isBodyError = true := by
  simp only [Packet.payloadText, bind, Except.bind] at he
  split at he
  · -- a compressed payload is inflated first
    split at he
    · next e' hinflate =>
        cases he
        rw [Packet.inflatePayload_error hinflate]
        rfl
    · split at he
      · cases he
      · cases he
        rfl
  · split at he
    · cases he
    · cases he
      rfl

namespace FrameBuffer

theorem decodeFrame_take (buf : FrameBuffer) (h : Header)
    (hparse : Header.parse (buf.take Header.size) = .ok h)
    (hlen : Header.size + h.dataLength.toNat ≤ buf.length) :
    (decodeFrame ((buf.take (Header.size + h.dataLength.toNat)).take Header.size)
      ((buf.take (Header.size + h.dataLength.toNat)).drop Header.size)).result =
      Packet.payloadText h ((buf.drop Header.size).take h.dataLength.toNat) := by
  have htake : (buf.take (Header.size + h.dataLength.toNat)).take Header.size =
      buf.take Header.size := by
    rw [List.take_take]; congr 1; omega
  have hdrop : (buf.take (Header.size + h.dataLength.toNat)).drop Header.size =
      (buf.drop Header.size).take h.dataLength.toNat := by
    rw [List.drop_take]; congr 1; omega
  have hplen : ((buf.drop Header.size).take h.dataLength.toNat).length = h.dataLength.toNat := by
    simp; omega
  simp [decodeFrame, htake, hdrop, Header.result_check, hparse, Except.bind, hplen]

theorem decode_value (buf : FrameBuffer) :
    (decode buf).value =
      if buf.take (min buf.length 4) != Header.magic.take (min buf.length 4) then
        (.error .invalidHeader, buf)
      else if buf.length < Header.size then (.ok none, buf)
      else match Header.parse (buf.take Header.size) with
        | .error e => (.error e, buf)
        | .ok h =>
          if buf.length < Header.size + h.dataLength.toNat then (.ok none, buf)
          else ((Packet.payloadText h ((buf.drop Header.size).take h.dataLength.toNat)).map some,
            buf.drop (Header.size + h.dataLength.toNat)) := by
  by_cases hm : (buf.take (min buf.length 4) != Header.magic.take (min buf.length 4)) = true
  · simp only [decode, hm, if_true]
    rfl
  · by_cases hs : buf.length < Header.size
    · simp only [decode, hm, hs, if_true, if_false, Bool.false_eq_true]
      rfl
    · simp only [decode, hm, hs, if_false, Bool.false_eq_true, Traced.value_bind,
        Outcome.value_run, Header.result_check]
      cases hp : Header.parse (buf.take Header.size) with
      | error e => rfl
      | ok h =>
          by_cases hl : buf.length < Header.size + h.dataLength.toNat
          · simp only [hl, if_true]
            rfl
          · simp only [hl, if_false, Traced.value_bind, Traced.value_pure, Outcome.value_run]
            rw [decodeFrame_take buf h hp (by omega)]

theorem decode_of_bad_magic {buf : FrameBuffer}
    (hm : buf.take (min buf.length 4) ≠ Header.magic.take (min buf.length 4)) :
    (decode buf).value = (.error .invalidHeader, buf) := by
  rw [decode_value, if_pos (bne_iff_ne.mpr hm)]

theorem decode_of_short {buf : FrameBuffer} (hs : buf.length < Header.size)
    (hm : buf.take (min buf.length 4) = Header.magic.take (min buf.length 4)) :
    (decode buf).value = (.ok none, buf) := by
  rw [decode_value]
  simp only [hm, bne_self_eq_false, Bool.false_eq_true, if_false, hs, if_true]

/-- Once a whole header has arrived, the magic was checked with it: an attempt refuses what
the header check refuses, and otherwise waits for the payload or reads the frame. -/
theorem decode_of_parse {buf : FrameBuffer} {h : Header} (hs : Header.size ≤ buf.length)
    (hparse : Header.parse (buf.take Header.size) = .ok h) :
    (decode buf).value =
      if buf.length < Header.size + h.dataLength.toNat then (.ok none, buf)
      else ((Packet.payloadText h ((buf.drop Header.size).take h.dataLength.toNat)).map some,
        buf.drop (Header.size + h.dataLength.toNat)) := by
  have h4 : min buf.length 4 = 4 := by simp [Header.size] at hs; omega
  have hmagic : buf.take 4 = Header.magic := by
    have hm := Header.magic_of_parse hparse
    rwa [List.take_take, Nat.min_eq_left (by decide : 4 ≤ Header.size)] at hm
  rw [decode_value, h4, hmagic]
  simp only [show Header.magic.take 4 = Header.magic from rfl, bne_self_eq_false,
    Bool.false_eq_true, if_false, Nat.not_lt.mpr hs, hparse]

theorem decode_of_parse_error {buf : FrameBuffer} {e : ProtocolError}
    (hs : Header.size ≤ buf.length) (hparse : Header.parse (buf.take Header.size) = .error e) :
    (decode buf).value = (.error e, buf) := by
  have h4 : min buf.length 4 = 4 := by simp [Header.size] at hs; omega
  by_cases hm : buf.take 4 = Header.magic
  · rw [decode_value, h4, hm]
    simp only [show Header.magic.take 4 = Header.magic from rfl, bne_self_eq_false,
      Bool.false_eq_true, if_false, Nat.not_lt.mpr hs, hparse]
  · -- a header without the magic is refused by both checks alike
    have hbad : (buf.take Header.size).take 4 ≠ Header.magic := by
      rwa [List.take_take, Nat.min_eq_left (by decide : 4 ≤ Header.size)]
    have he : e = .invalidHeader := by
      have hor : ((buf.take Header.size).length != Header.size ||
          (buf.take Header.size).take 4 != Header.magic) = true := by simp [hbad]
      simp only [Header.parse, hor, if_true, Except.error.injEq] at hparse
      exact hparse.symm
    subst he
    exact decode_of_bad_magic (by rw [h4]; exact hm)

theorem magic_mismatch_append {buf : FrameBuffer} (more : Bytes)
    (hm : buf.take (min buf.length 4) ≠ Header.magic.take (min buf.length 4)) :
    (buf ++ more).take (min (buf ++ more).length 4) ≠
      Header.magic.take (min (buf ++ more).length 4) := by
  intro heq
  apply hm
  have hle : min buf.length 4 ≤ min (buf ++ more).length 4 := by simp
  have h := congrArg (List.take (min buf.length 4)) heq
  rwa [List.take_take, List.take_take, Nat.min_eq_left hle,
    List.take_append_of_le_length (by omega)] at h

/-- What one reading attempt can do to a buffer, and what it does once more bytes have
arrived: wait (the buffer untouched), refuse the header (untouched, and refused the same
whatever follows), or take a whole frame off the front (the same frame whatever follows). -/
inductive Attempt (buf : FrameBuffer) : Except ProtocolError (Option String) × FrameBuffer → Prop
  | wait : Attempt buf (.ok none, buf)
  | refuse {e : ProtocolError} (he : e.isBodyError = false)
      (hmore : ∀ more, (decode (buf ++ more)).value = (.error e, buf ++ more)) :
      Attempt buf (.error e, buf)
  | frame {r : Except ProtocolError (Option String)} {rest : FrameBuffer}
      (hr : r ≠ .ok none) (hbody : ∀ e, r = .error e → e.isBodyError = true)
      (hlt : rest.length < buf.length)
      (hmore : ∀ more, (decode (buf ++ more)).value = (r, rest ++ more)) :
      Attempt buf (r, rest)

theorem attempt_complete_frame {buf : FrameBuffer} {h : Header} (hs : Header.size ≤ buf.length)
    (hparse : Header.parse (buf.take Header.size) = .ok h)
    (hl : Header.size + h.dataLength.toNat ≤ buf.length) :
    Attempt buf ((Packet.payloadText h ((buf.drop Header.size).take h.dataLength.toNat)).map some,
      buf.drop (Header.size + h.dataLength.toNat)) := by
  refine .frame ?_ ?_ ?_ ?_
  · cases Packet.payloadText h ((buf.drop Header.size).take h.dataLength.toNat) <;>
      simp [Except.map]
  · intro e he
    cases hpt : Packet.payloadText h ((buf.drop Header.size).take h.dataLength.toNat) with
    | error e' =>
        rw [hpt] at he
        cases he
        exact Packet.payloadText_error_body hpt
    | ok t => rw [hpt] at he; cases he
  · have hpos : 0 < Header.size := by decide
    rw [List.length_drop]
    omega
  · intro more
    have hs' : Header.size ≤ (buf ++ more).length := by simp; omega
    have htake : (buf ++ more).take Header.size = buf.take Header.size :=
      List.take_append_of_le_length hs
    have hl' : ¬(buf ++ more).length < Header.size + h.dataLength.toNat := by simp; omega
    have hpay : ((buf ++ more).drop Header.size).take h.dataLength.toNat =
        (buf.drop Header.size).take h.dataLength.toNat := by
      rw [List.drop_append_of_le_length hs, List.take_append_of_le_length (by simp; omega)]
    rw [decode_of_parse hs' (htake ▸ hparse), if_neg hl', hpay,
      List.drop_append_of_le_length hl]

theorem attempt_decode (buf : FrameBuffer) : Attempt buf (decode buf).value := by
  by_cases hs : buf.length < Header.size
  · by_cases hm : buf.take (min buf.length 4) = Header.magic.take (min buf.length 4)
    · rw [decode_of_short hs hm]
      exact .wait
    · rw [decode_of_bad_magic hm]
      exact .refuse rfl fun more => decode_of_bad_magic (magic_mismatch_append more hm)
  · have hs : Header.size ≤ buf.length := Nat.not_lt.mp hs
    have htake : ∀ more, (buf ++ more).take Header.size = buf.take Header.size :=
      fun more => List.take_append_of_le_length hs
    cases hp : Header.parse (buf.take Header.size) with
    | error e =>
        rw [decode_of_parse_error hs hp]
        refine .refuse (Header.parse_error_not_body hp) fun more => ?_
        exact decode_of_parse_error (by simp; omega) (htake more ▸ hp)
    | ok h =>
        rw [decode_of_parse hs hp]
        by_cases hl : buf.length < Header.size + h.dataLength.toNat
        · rw [if_pos hl]
          exact .wait
        · rw [if_neg hl]
          exact attempt_complete_frame hs hp (by omega)

theorem attempt_of_value {buf rest : FrameBuffer} {r : Except ProtocolError (Option String)}
    (h : (decode buf).value = (r, rest)) : Attempt buf (r, rest) :=
  h ▸ attempt_decode buf

theorem rest_of_wait {buf rest : FrameBuffer} (h : (decode buf).value = (.ok none, rest)) :
    rest = buf := by
  cases attempt_of_value h with
  | wait => rfl
  | frame hr => exact absurd rfl hr

theorem refused_of_value {buf rest : FrameBuffer} {e : ProtocolError}
    (h : (decode buf).value = (.error e, rest)) (he : e.isBodyError = false) :
    rest = buf ∧ ∀ more, (decode (buf ++ more)).value = (.error e, buf ++ more) := by
  cases attempt_of_value h with
  | refuse _ hmore => exact ⟨rfl, hmore⟩
  | frame _ hbody => simp [hbody e rfl] at he

theorem decode_shrinks {buf rest : FrameBuffer} {r : Except ProtocolError (Option String)}
    (h : (decode buf).value = (r, rest)) (hr : r ≠ .ok none)
    (hbody : ∀ e, r = .error e → e.isBodyError = true) : rest.length < buf.length := by
  cases attempt_of_value h with
  | wait => exact absurd rfl hr
  | refuse he => exact absurd (hbody _ rfl) (by simp [he])
  | frame _ _ hlt => exact hlt

/-- Reading a buffer until an attempt waits or refuses a header: what was read (texts, and the
failures of frames' bodies), the header failure reading stopped at, if any, and the bytes left. -/
structure Drained where
  read : List (Except ProtocolError String)
  refused : Option ProtocolError
  rest : FrameBuffer

def Drained.results (d : Drained) : List (Except ProtocolError String) :=
  d.read ++ d.refused.toList.map .error

def Drained.after (r : Except ProtocolError String) (d : Drained) : Drained :=
  { d with read := r :: d.read }

/-- Reads frames off the front of the buffer until an attempt waits for more bytes or refuses
a header. A frame whose body fails is reported and reading goes on. -/
def drain (buf : FrameBuffer) : Drained :=
  match _h : (decode buf).value with
  | (.ok none, rest) => ⟨[], none, rest⟩
  | (.ok (some t), rest) => (drain rest).after (.ok t)
  | (.error e, rest) =>
    if _he : e.isBodyError then (drain rest).after (.error e) else ⟨[], some e, rest⟩
termination_by buf.length
decreasing_by
  · exact decode_shrinks _h (by simp) (by simp)
  · exact decode_shrinks _h (by simp) (fun _ h' => by cases h'; exact _he)

theorem drain_of_wait {buf rest : FrameBuffer} (h : (decode buf).value = (.ok none, rest)) :
    drain buf = ⟨[], none, rest⟩ := by
  rw [drain]
  split <;> simp_all

theorem drain_of_read {buf rest : FrameBuffer} {r : Except ProtocolError String}
    (h : (decode buf).value = (r.map some, rest))
    (hbody : ∀ e, r = .error e → e.isBodyError = true) :
    drain buf = (drain rest).after r := by
  rw [drain]
  split
  · next heq => cases r <;> simp_all [Except.map]
  · next t rest' heq => cases r <;> simp_all [Except.map]
  · next e rest' heq =>
      cases r with
      | ok t => simp_all [Except.map]
      | error e' =>
          simp only [h, Except.map, Prod.mk.injEq, Except.error.injEq] at heq
          obtain ⟨rfl, rfl⟩ := heq
          rw [dif_pos (hbody _ rfl)]

theorem drain_of_refused {buf rest : FrameBuffer} {e : ProtocolError}
    (h : (decode buf).value = (.error e, rest)) (he : e.isBodyError = false) :
    drain buf = ⟨[], some e, rest⟩ := by
  rw [drain]
  split <;> simp_all

theorem drain_nil : drain [] = ⟨[], none, []⟩ := drain_of_wait rfl

/-- Reading resumed once more bytes have arrived: after a wait the bytes left are read with the
new ones; after a refused header the refusal stands and the bytes pile up behind it. -/
def Drained.resume (d : Drained) (more : Bytes) : Drained :=
  match d.refused with
  | none =>
    let d' := drain (d.rest ++ more)
    ⟨d.read ++ d'.read, d'.refused, d'.rest⟩
  | some e => ⟨d.read, some e, d.rest ++ more⟩

theorem Drained.after_resume (r : Except ProtocolError String) (d : Drained) (more : Bytes) :
    (d.after r).resume more = (d.resume more).after r := by
  obtain ⟨read, refused, rest⟩ := d
  cases refused <;> rfl

theorem drain_append (buf more : Bytes) : drain (buf ++ more) = (drain buf).resume more := by
  fun_induction drain buf with
  | case1 buf rest h =>
      obtain rfl := rest_of_wait h
      simp [Drained.resume]
  | case2 buf t rest h ih =>
      cases attempt_of_value h with
      | frame _ _ _ hmore =>
          rw [drain_of_read (r := .ok t) (hmore more) (by simp), ih, Drained.after_resume]
  | case3 buf e rest h he ih =>
      cases attempt_of_value h with
      | refuse he' => simp [he] at he'
      | frame _ _ _ hmore =>
          rw [drain_of_read (r := .error e) (hmore more) (by simpa using he), ih,
            Drained.after_resume]
  | case4 buf e rest h he =>
      have hb : e.isBodyError = false := by simpa using he
      obtain ⟨rfl, hmore⟩ := refused_of_value h hb
      rw [drain_of_refused (hmore more) hb]
      rfl

theorem drain_rest (buf : FrameBuffer) :
    drain (drain buf).rest = ⟨[], (drain buf).refused, (drain buf).rest⟩ := by
  fun_induction drain buf with
  | case1 buf rest h =>
      obtain rfl := rest_of_wait h
      exact drain_of_wait h
  | case2 buf t rest h ih => exact ih
  | case3 buf e rest h he ih => exact ih
  | case4 buf e rest h he =>
      have hb : e.isBodyError = false := by simpa using he
      obtain ⟨rfl, -⟩ := refused_of_value h hb
      exact drain_of_refused h hb

/-- One chunk arrives: it is appended to the buffer, which is read until an attempt waits or
refuses a header. The results so far grow by what was read. -/
def feed (acc : List (Except ProtocolError String) × FrameBuffer) (chunk : Bytes) :
    List (Except ProtocolError String) × FrameBuffer :=
  let d := drain (acc.2 ++ chunk)
  (acc.1 ++ d.results, d.rest)

def readChunks (chunks : List Bytes) : List (Except ProtocolError String) × FrameBuffer :=
  chunks.foldl feed ([], [])

/-- The state of reading once the bytes p have arrived, however they were split: the results of
reading p in one piece, then the header failure that reading stopped at, once for each later
attempt; and the same buffer. -/
def Agrees (p : Bytes) (acc : List (Except ProtocolError String) × FrameBuffer) : Prop :=
  acc.2 = (drain p).rest ∧ ∃ later, acc.1 = (drain p).results ++ later ∧
    ∀ x ∈ later, ∃ e, (drain p).refused = some e ∧ x = .error e

theorem later_eq_nil {later : List (Except ProtocolError String)} {refused : Option ProtocolError}
    (h : ∀ x ∈ later, ∃ e, refused = some e ∧ x = .error e) (hr : refused = none) :
    later = [] := by
  refine List.eq_nil_iff_forall_not_mem.mpr fun x hx => ?_
  obtain ⟨e, he, -⟩ := h x hx
  simp [hr] at he

theorem agrees_feed {p : Bytes} {acc : List (Except ProtocolError String) × FrameBuffer}
    (h : Agrees p acc) (c : Bytes) : Agrees (p ++ c) (feed acc c) := by
  obtain ⟨hrest, later, hres, hlater⟩ := h
  unfold Agrees feed
  rw [hrest, drain_append, drain_append, drain_rest, hres]
  generalize drain p = d at hlater
  obtain ⟨read, refused, rest⟩ := d
  cases refused with
  | none =>
      obtain rfl := later_eq_nil hlater rfl
      refine ⟨rfl, [], ?_, by simp⟩
      simp [Drained.resume, Drained.results]
  | some e =>
      -- the refusal is met again, once more
      refine ⟨rfl, later ++ [.error e], ?_, ?_⟩
      · simp [Drained.resume, Drained.results]
      · intro x hx
        simp only [List.mem_append, List.mem_singleton] at hx
        rcases hx with hx | rfl
        · exact hlater x hx
        · exact ⟨e, rfl, rfl⟩

theorem agrees_foldl (chunks : List Bytes) {p : Bytes}
    {acc : List (Except ProtocolError String) × FrameBuffer} (h : Agrees p acc) :
    Agrees (p ++ chunks.flatten) (chunks.foldl feed acc) := by
  induction chunks generalizing p acc with
  | nil => simpa using h
  | cons c cs ih => simpa [List.append_assoc] using ih (agrees_feed h c)

theorem agrees_readChunks (chunks : List Bytes) : Agrees chunks.flatten (readChunks chunks) := by
  have h0 : Agrees [] ([], []) :=
    ⟨by rw [drain_nil], [], by simp [drain_nil, Drained.results], by simp⟩
  simpa [readChunks] using agrees_foldl chunks h0

theorem decode_toBytes_append {p : Packet} (hp : p.Readable) (more : Bytes) :
    (decode (p.toBytes ++ more)).value = (p.text.map some, more) := by
  have hsize : Header.size ≤ p.toBytes.length := by simp [Packet.toBytes]
  have hhead : (p.toBytes ++ more).take Header.size = p.header.toBytes := by
    rw [List.take_append_of_le_length hsize, Packet.take_toBytes]
  have hlen : ¬(p.toBytes ++ more).length < Header.size + p.header.dataLength.toNat := by
    simp [Packet.toBytes, hp.length_eq]
  have hbody : ((p.toBytes ++ more).drop Header.size).take p.header.dataLength.toNat =
      p.payload := by
    rw [List.drop_append_of_le_length hsize, Packet.drop_toBytes, hp.length_eq,
      List.take_left' rfl]
  have hrest : (p.toBytes ++ more).drop (Header.size + p.header.dataLength.toNat) = more :=
    List.drop_left' (by simp [Packet.toBytes, hp.length_eq])
  rw [decode_of_parse (by simp; omega) (hhead ▸ Packet.parse_header_toBytes hp), if_neg hlen,
    hbody, hrest]
  rfl

theorem drain_toBytes_append {p : Packet} (hp : p.Readable) (more : Bytes) :
    drain (p.toBytes ++ more) = (drain more).after p.text :=
  drain_of_read (decode_toBytes_append hp more) fun _ he => Packet.payloadText_error_body he

theorem drain_frames (ps : List Packet) (hps : ∀ p ∈ ps, p.Readable) :
    drain (ps.map Packet.toBytes).flatten = ⟨ps.map Packet.text, none, []⟩ := by
  induction ps with
  | nil => exact drain_nil
  | cons p ps ih =>
      rw [List.map_cons, List.flatten_cons, drain_toBytes_append (hps p (by simp)),
        ih fun q hq => hps q (by simp [hq])]
      rfl

theorem foldl_push (ps : List Packet) (buf : FrameBuffer) :
    ps.foldl push buf = buf ++ (ps.map Packet.toBytes).flatten := by
  induction ps generalizing buf with
  | nil => simp
  | cons p ps ih => simp [ih, push]

end FrameBuffer

open FrameBuffer in
/-- Reading frames as bytes arrive does not depend on how the bytes were split: the buffer left
is the same as when they arrive in one piece, and so are the results, up to and including the
header failure that reading stopped at, which every later attempt gives again. A stream of
frames the encoder built, with any compressor, is read back to their texts, in order, with nothing left. -/
theorem chunked_reading_agrees (chunks : List Bytes) :
    (readChunks chunks).2 = (drain chunks.flatten).rest ∧
      (∃ later, (readChunks chunks).1 = (drain chunks.flatten).results ++ later ∧
        ∀ x ∈ later, ∃ e, (drain chunks.flatten).refused = some e ∧ x = .error e) ∧
      ∀ ps : List Packet,
        (∀ p ∈ ps, (∃ deflate P c, (Packet.new deflate P c).result = .ok p) ∧
          p.payload.length ≤ Header.maxPayload) →
        chunks.flatten = ps.foldl push [] →
        (readChunks chunks).1 = ps.map Packet.text ∧ (readChunks chunks).2 = [] ∧
          (decodeEnd (readChunks chunks).2).value.1 = .ok none := by
  obtain ⟨hrest, later, hres, hlater⟩ := agrees_readChunks chunks
  refine ⟨hrest, ⟨later, hres, hlater⟩, ?_⟩
  intro ps hps hflat
  have hread : ∀ p ∈ ps, p.Readable := by
    intro p hp
    obtain ⟨⟨deflate, P, c, hnew⟩, hle⟩ := hps p hp
    exact Packet.readable_of_new hnew hle
  have hdrain : drain chunks.flatten = ⟨ps.map Packet.text, none, []⟩ := by
    rw [hflat, foldl_push, List.nil_append, drain_frames ps hread]
  rw [hdrain] at hrest hres hlater
  obtain rfl := later_eq_nil hlater rfl
  refine ⟨by simpa [Drained.results] using hres, hrest, ?_⟩
  rw [hrest]
  rfl

theorem chunked_reading_two_frames :
    let ps : List Packet := [⟨⟨1, 10, 0⟩, Utf8.encode "agent.ping"⟩, ⟨⟨1, 1, 0⟩, [255]⟩]
    let s := ps.foldl FrameBuffer.push []
    let chunks := [s.take 2, (s.drop 2).take 17, s.drop 19]
    (∀ p ∈ ps, (∃ deflate P c, (Packet.new deflate P c).result = .ok p) ∧
        p.payload.length ≤ Header.maxPayload) ∧
      chunks.flatten = ps.foldl FrameBuffer.push [] ∧
      (FrameBuffer.readChunks chunks).1 = ps.map Packet.text ∧
      (FrameBuffer.readChunks chunks).2 = [] ∧
      (FrameBuffer.decodeEnd (FrameBuffer.readChunks chunks).2).value.1 = .ok none := by
  intro ps s chunks
  have hps : ∀ p ∈ ps, (∃ deflate P c, (Packet.new deflate P c).result = .ok p) ∧
      p.payload.length ≤ Header.maxPayload := by
    intro p hp
    simp only [ps, List.mem_cons, List.not_mem_nil, or_false] at hp
    rcases hp with rfl | rfl
    · exact ⟨⟨Zlib.deflateStored, .text "agent.ping", false, by decide⟩, by decide⟩
    · exact ⟨⟨Zlib.deflateStored, .bytes [255], false, by decide⟩, by decide⟩
  have hflat : chunks.flatten = ps.foldl FrameBuffer.push [] := by decide
  exact ⟨hps, hflat, (chunked_reading_agrees chunks).2.2 ps hps hflat⟩

end MonitorWire
