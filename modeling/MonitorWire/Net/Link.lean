import MonitorWire.Cluster
import MonitorWire.Duration
import MonitorWire.Packet.Buffer
import MonitorWire.Packet.Source
import MonitorWire.Text.Debug

namespace MonitorWire

namespace Net

inductive Answer where
  | bytes (b : Bytes)
  | reset
  | silent
  deriving DecidableEq, Repr

inductive Dial where
  | connected
  | timedOut
  /-- The system refused, with its text, e.g. `Connection refused (os error 111)`. -/
  | failed (reason : String)
  | unresolved (reason : String)
  deriving DecidableEq, Repr

structure Network (σ : Type) where
  dial : Node → Duration → σ → Dial × σ
  deliver : Node → Bytes → Duration → σ → Answer × σ

inductive Decorator where
  | keep
  | refuse (e : ProtocolError)
  | delay (d : Duration)
  deriving Repr

inductive Mode where
  | blocking
  | async
  deriving DecidableEq, Repr

def Mode.label : Mode → String
  | .blocking => ""
  | .async => "Async"

/-- A computation over a network with state `σ` that reports events and may fail. Changes
to the network's state and events made before a failure are kept. -/
abbrev NetM (σ : Type) := ExceptT ProtocolError (StateT σ Traced)

namespace NetM

variable {σ α : Type}

def ofOutcome (x : Outcome α) : NetM σ α := ExceptT.mk (StateT.lift (ExceptT.run x))

def ofTraced (x : Traced α) : NetM σ α := ExceptT.lift (StateT.lift x)

def ofExcept (x : Except ProtocolError α) : NetM σ α := ExceptT.mk (pure x)

def debug (message : String) (fields : List (String × String) := []) : NetM σ Unit :=
  ofTraced (Traced.debug message fields)

def ask (f : σ → α × σ) : NetM σ α := ExceptT.lift (modifyGet f)

def attempt (x : NetM σ α) : NetM σ (Except ProtocolError α) := ExceptT.lift (ExceptT.run x)

def run (x : NetM σ α) (s : σ) : (Except ProtocolError α × σ) × List Event :=
  let t := (ExceptT.run x).run s
  (t.value, t.events)

end NetM

def connectionReset : ProtocolError :=
  .io ⟨.connectionReset, "Connection reset by peer (os error 104)"⟩

structure Link where
  node : Node
  timeout : Duration
  decorator : Option Decorator := none
  deriving Repr

namespace Link

variable {σ : Type}

/-- Opens a connection, reporting a failed dial, then lets the decorator see it. A blocking
connection resolves the address before it dials and fails on its own when the address does
not resolve; a task reports that failure as a failed dial. -/
def connect (net : Network σ) (mode : Mode) (l : Link) : NetM σ Unit := do
  let node := l.node.display
  let failed := fun (reason : String) => do
    NetM.debug ("An error occurred while trying to connect to " ++ node ++ ": " ++ reason)
    throw (ProtocolError.transport ("Cannot connect to " ++ node ++ ": " ++ reason))
  match ← NetM.ask (net.dial l.node l.timeout) with
  | .timedOut =>
    NetM.debug ("The connection to " ++ node ++ " timed out after " ++ l.timeout.text)
    throw .timeout
  | .failed reason => failed reason
  | .unresolved reason =>
    match mode with
    | .blocking => throw (.transport ("Cannot resolve " ++ node ++ ": " ++ reason))
    | .async => failed reason
  | .connected =>
    match l.decorator with
    | some (.refuse e) => throw e
    | some (.delay d) =>
      if mode == .async && d.totalNanos ≥ l.timeout.totalNanos then throw .timeout
    | _ => pure ()
    NetM.debug ("Connected to " ++ node)

def readBlockingFrom (source : Source) : Outcome String := do
  let (header, source) ← ExceptT.lift (source.readExact Header.size)
  let h ← Header.check header
  let (payload, _) ← ExceptT.lift (source.readExact h.dataLength.toNat)
  decodeFrame header payload

def readBlocking (reply : Bytes) : Outcome String :=
  readBlockingFrom (.steady reply (reply.length + 1))

def readFramedFrom (node : Node) (chunks : List Bytes) : Outcome String := do
  let r ← ExceptT.lift (FrameBuffer.readFirst [] chunks)
  match ← Outcome.ofExcept r with
  | some text => pure text
  | none =>
    Outcome.debug ("Connection to " ++ node.display ++ " was closed before a response arrived")
    Outcome.fail .invalidHeader

def readFramed (node : Node) (reply : Bytes) : Outcome String := readFramedFrom node [reply]

def send (net : Network σ) (mode : Mode) (l : Link) (request : Packet) : NetM σ String := do
  match ← NetM.ask (net.deliver l.node request.toBytes l.timeout) with
  | .reset => throw connectionReset
  | .silent => throw .timeout
  | .bytes reply =>
    let text ← NetM.ofOutcome (match mode with
      | .blocking => readBlocking reply
      | .async => readFramed l.node reply)
    NetM.debug ("Response from " ++ l.node.display ++ ": " ++ text)
    pure text

def exchange (net : Network σ) (mode : Mode) (l : Link) (request : Packet) : NetM σ String := do
  l.connect net mode
  l.send net mode request

end Link

def nodeDebug (n : Node) : String :=
  "Node \x7b address: " ++ Text.debugQuote n.address ++ ", port: " ++ toString n.port ++ " \x7d"

def clusterDebug (c : Cluster) : String :=
  "Cluster \x7b nodes: [" ++ ", ".intercalate (c.nodes.map nodeDebug) ++ "] \x7d"

def Link.debug (mode : Mode) (l : Link) : String :=
  mode.label ++ "TransportSession \x7b node: " ++ nodeDebug l.node ++ ", timeout: " ++
    l.timeout.text ++ ", decorated: " ++ toString l.decorator.isSome ++ " \x7d"

end Net

end MonitorWire
