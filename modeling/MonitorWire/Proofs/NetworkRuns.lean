import Mathlib
import MonitorWire.Proofs.ReplyReading

namespace MonitorWire

namespace Net

namespace NetM

variable {σ α β : Type}

def outcome (x : NetM σ α) (st : σ) : Except ProtocolError α × σ := (x.run st).1

theorem outcome_bind (x : NetM σ α) (f : α → NetM σ β) (st : σ) :
    (x >>= f).outcome st = match x.outcome st with
      | (.ok a, st') => (f a).outcome st'
      | (.error e, st') => (.error e, st') := by
  simp only [outcome, run, bind, ExceptT.bind, ExceptT.mk, ExceptT.run, StateT.run, StateT.bind]
  generalize x st = t
  obtain ⟨⟨_ | a, st'⟩, events⟩ := t <;> rfl

@[simp] theorem outcome_pure (a : α) (st : σ) : (pure a : NetM σ α).outcome st = (.ok a, st) := rfl

@[simp] theorem outcome_throw (e : ProtocolError) (st : σ) :
    (throw e : NetM σ α).outcome st = (.error e, st) := rfl

@[simp] theorem outcome_ask (f : σ → α × σ) (st : σ) :
    (ask f).outcome st = (.ok (f st).1, (f st).2) := rfl

@[simp] theorem outcome_ofTraced (t : Traced α) (st : σ) :
    (ofTraced t : NetM σ α).outcome st = (.ok t.value, st) := rfl

@[simp] theorem outcome_debug (message : String) (fields : List (String × String)) (st : σ) :
    (debug message fields : NetM σ Unit).outcome st = (.ok (), st) := rfl

@[simp] theorem outcome_ofOutcome (x : Outcome α) (st : σ) :
    (ofOutcome x : NetM σ α).outcome st = (x.result, st) := rfl

@[simp] theorem outcome_attempt (x : NetM σ α) (st : σ) :
    (attempt x).outcome st = (.ok (x.outcome st).1, (x.outcome st).2) := rfl

@[simp] theorem outcome_ask_bind (f : σ → α × σ) (g : α → NetM σ β) (st : σ) :
    (ask f >>= g).outcome st = (g (f st).1).outcome (f st).2 := by
  rw [outcome_bind]
  rfl

@[simp] theorem outcome_throw_bind (e : ProtocolError) (g : α → NetM σ β) (st : σ) :
    (throw e >>= g).outcome st = (.error e, st) := by
  rw [outcome_bind]
  rfl

@[simp] theorem outcome_debug_bind (message : String) (fields : List (String × String))
    (g : Unit → NetM σ β) (st : σ) :
    (debug message fields >>= g).outcome st = (g ()).outcome st := by
  rw [outcome_bind]
  rfl

@[simp] theorem outcome_ofTraced_bind (t : Traced α) (g : α → NetM σ β) (st : σ) :
    (ofTraced t >>= g).outcome st = (g t.value).outcome st := by
  rw [outcome_bind]
  rfl

@[simp] theorem outcome_attempt_bind (x : NetM σ α) (g : Except ProtocolError α → NetM σ β)
    (st : σ) : (attempt x >>= g).outcome st = (g (x.outcome st).1).outcome (x.outcome st).2 := by
  rw [outcome_bind]
  rfl

@[simp] theorem outcome_ofOutcome_bind (x : Outcome α) (g : α → NetM σ β) (st : σ) :
    (ofOutcome x >>= g).outcome st = match x.result with
      | .ok a => (g a).outcome st
      | .error e => (.error e, st) := by
  rw [outcome_bind, outcome_ofOutcome]
  cases x.result <;> rfl

theorem outcome_bind_congr {x y : NetM σ α} {f g : α → NetM σ β} (hxy : x.outcome = y.outcome)
    (hfg : ∀ a, (f a).outcome = (g a).outcome) : (x >>= f).outcome = (y >>= g).outcome := by
  funext st
  rw [outcome_bind, outcome_bind, hxy]
  rcases y.outcome st with ⟨_ | a, st'⟩
  · rfl
  · exact congrFun (hfg a) st'

theorem outcome_foldlM_congr {f g : β → α → NetM σ β}
    (hfg : ∀ acc a, (f acc a).outcome = (g acc a).outcome) (xs : List α) (init : β) :
    (xs.foldlM f init).outcome = (xs.foldlM g init).outcome := by
  induction xs generalizing init with
  | nil => rfl
  | cons a xs ih => exact outcome_bind_congr (hfg init a) ih

end NetM

variable {σ : Type}

inductive Contact where
  | dial (node : Node) (result : Dial)
  | deliver (node : Node) (request : Bytes) (answer : Answer)

def Network.logging (net : Network σ) : Network (σ × List Contact) where
  dial node timeout st :=
    let r := net.dial node timeout st.1
    (r.1, (r.2, st.2 ++ [.dial node r.1]))
  deliver node request timeout st :=
    let r := net.deliver node request timeout st.1
    (r.1, (r.2, st.2 ++ [.deliver node request r.1]))

@[simp] theorem logging_dial (net : Network σ) (node : Node) (timeout : Duration) (st : σ)
    (log : List Contact) :
    net.logging.dial node timeout (st, log) = ((net.dial node timeout st).1,
      ((net.dial node timeout st).2, log ++ [.dial node (net.dial node timeout st).1])) := rfl

@[simp] theorem logging_deliver (net : Network σ) (node : Node) (request : Bytes)
    (timeout : Duration) (st : σ) (log : List Contact) :
    net.logging.deliver node request timeout (st, log) = ((net.deliver node request timeout st).1,
      ((net.deliver node request timeout st).2,
        log ++ [.deliver node request (net.deliver node request timeout st).1])) := rfl

/-- What a peer's answer reads to: the text of the reply, or the failure of a reset or of
silence. -/
def answerText : Answer → Except ProtocolError String
  | .bytes reply => replyText reply
  | .reset => .error connectionReset
  | .silent => .error .timeout

theorem Link.outcome_send (net : Network σ) (mode : Mode) (l : Link) (p : Packet) (st : σ) :
    (l.send net mode p).outcome st = (answerText (net.deliver l.node p.toBytes l.timeout st).1,
      (net.deliver l.node p.toBytes l.timeout st).2) := by
  rcases hd : net.deliver l.node p.toBytes l.timeout st with ⟨a, st'⟩
  cases a with
  | bytes reply => exact send_of_reply net mode l p hd
  | reset => simp [Link.send, hd, answerText]
  | silent => simp [Link.send, hd, answerText]

end Net

end MonitorWire
