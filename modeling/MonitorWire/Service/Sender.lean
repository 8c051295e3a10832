import MonitorWire.Net.Link
import MonitorWire.Config.Settings
import MonitorWire.Item
import MonitorWire.Reply
import MonitorWire.Zlib.Stored

namespace MonitorWire

/-- Splits a list into consecutive pieces of `size` elements, the last one possibly shorter;
a size of zero keeps the list whole. -/
def chunksOf {α : Type} (size : Nat) (xs : List α) : List (List α) :=
  if size = 0 then [xs]
  else
    match xs with
    | [] => []
    | x :: rest => (x :: rest).take size :: chunksOf size ((x :: rest).drop size)
termination_by xs.length
decreasing_by simp only [List.length_drop, List.length_cons]; omega

def numbered {α : Type} (start : Nat) : List α → List (Nat × α)
  | [] => []
  | x :: rest => (start, x) :: numbered (start + 1) rest

/-- Chunking, frame building and reply reading, shared by both modes of sender. -/
structure SenderCore where
  clusters : List Cluster
  chunkSize : Nat
  compression : Bool
  timeout : Duration
  deriving Repr

namespace SenderCore

def new (c : Config.SenderConfig) : Except ProtocolError SenderCore := do
  c.validateStrict
  let clusters ← c.clusters
  pure ⟨clusters, c.chunkSize, c.compression, c.timeout⟩

def chunks (s : SenderCore) (items : List Item) : List (Nat × List Item) :=
  numbered 1 (chunksOf s.chunkSize items)

def packet (s : SenderCore) (items : List Item) : Outcome Packet :=
  Packet.new Zlib.deflateStored (.json (senderRequest items)) s.compression

def debug (s : SenderCore) : String :=
  "SenderCore \x7b clusters: [" ++ ", ".intercalate (s.clusters.map Net.clusterDebug) ++
    "], chunk_size: " ++ toString s.chunkSize ++ ", compression: " ++ toString s.compression ++
    ", timeout: " ++ s.timeout.text ++ " \x7d"

end SenderCore

structure Sender where
  core : SenderCore
  mode : Net.Mode := .blocking
  decorator : Option Net.Decorator := none
  deriving Repr

namespace Sender

open Net

variable {σ : Type}

def new (mode : Mode) (c : Config.SenderConfig) : Except ProtocolError Sender := do
  pure ⟨← SenderCore.new c, mode, none⟩

def link (s : Sender) (node : Node) : Link := ⟨node, s.core.timeout, s.decorator⟩

def unreachable (cluster : Cluster) : NetM σ Node := do
  let message := "Couldn't connect to all of cluster nodes: " ++ cluster.display
  NetM.ofTraced (Traced.error message)
  throw (.transport message)

def connectFirst (net : Network σ) (s : Sender) (cluster : Cluster) : List Node → NetM σ Node
  | [] => unreachable cluster
  | node :: rest => do
    NetM.debug ("Trying to send data to " ++ node.display)
    match ← NetM.attempt ((s.link node).connect net s.mode) with
    | .ok () => pure node
    | .error e =>
      NetM.debug ("Node " ++ node.display ++ " is unavailable: " ++ e.message)
      connectFirst net s cluster rest

/-- Sends a chunk's frame to one cluster, through the first of its nodes that takes the
connection, and adds the node's answer to the sum. -/
def sendToCluster (net : Network σ) (s : Sender) (packet : Packet) (number : Nat)
    (response : SenderResponse) (cluster : Cluster) : NetM σ (Except String SenderResponse) := do
  let node ← connectFirst net s cluster cluster.nodes
  let reply ← (s.link node).send net s.mode packet
  let result ← NetM.ofOutcome (TrapperResult.parse reply number)
  pure (response.add node result)

def sendChunk (net : Network σ) (s : Sender) (packet : Packet) (number : Nat) :
    SenderResponse → List Cluster → NetM σ (Except String SenderResponse)
  | response, [] => pure (.ok response)
  | response, cluster :: rest => do
    match ← sendToCluster net s packet number response cluster with
    | .ok response => sendChunk net s packet number response rest
    | .error message => pure (.error message)

/-- Sends the next numbered chunk to every cluster, unless the sum so far has failed. -/
def sendNext (net : Network σ) (s : Sender) (sum : Except String SenderResponse)
    (chunk : Nat × List Item) : NetM σ (Except String SenderResponse) :=
  match sum with
  | .error message => pure (.error message)
  | .ok response => do
    let packet ← NetM.ofOutcome (s.core.packet chunk.2)
    sendChunk net s packet chunk.1 response s.core.clusters

def send (net : Network σ) (s : Sender) (items : List Item) :
    NetM σ (Except String SenderResponse) :=
  (s.core.chunks items).foldlM (sendNext net s) (.ok {})

def sendValue (net : Network σ) (s : Sender) (host key : String) (value : Reading)
    (clock ns : Option Int) : NetM σ (Except String SenderResponse) :=
  s.send net [{ Item.new host key value with clock := clock, ns := ns }]

def debug (s : Sender) : String :=
  s.mode.label ++ "Sender \x7b core: " ++ s.core.debug ++ ", decorated: " ++
    toString s.decorator.isSome ++ " \x7d"

end Sender

end MonitorWire
