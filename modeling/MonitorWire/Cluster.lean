import MonitorWire.Error
import MonitorWire.Text.Basic

namespace MonitorWire

structure Node where
  address : String
  port : Nat
  deriving DecidableEq, Repr

namespace Node

def defaultPort : Nat := 10051

def anyAddress : String := "0.0.0.0/0"

def localhost : String := "127.0.0.1"

def make (address : String) (port : Nat) : Node :=
  if address == anyAddress then ⟨localhost, port⟩ else ⟨address, port⟩

def display (n : Node) : String := n.address ++ ":" ++ toString n.port

def parse (raw : String) : Except ProtocolError Node :=
  let text := Text.trim raw
  if text.isEmpty then .error (.configError "Empty node address")
  else
    match Text.splitLast ':' text with
    | some (address, port) =>
      match Text.parseUnsigned port 65536 with
      | some p => .ok (make address p)
      | none => .error (.configError ("Port must be an integer value: '" ++ text ++ "'"))
    | none => .ok (make text defaultPort)

end Node

structure Cluster where
  nodes : List Node
  deriving DecidableEq, Repr

namespace Cluster

def ofNodes (nodes : List Node) : Except ProtocolError Cluster :=
  if nodes.isEmpty then .error (.configError "Cluster must contain at least one node")
  else .ok ⟨nodes⟩

def display (c : Cluster) : String :=
  "[" ++ ", ".intercalate (c.nodes.map Node.display) ++ "]"

def parse (raw : String) : Except ProtocolError Cluster := do
  let nodes ← ((Text.splitChar ';' raw).filter (fun p => !Text.isBlank p)).mapM Node.parse
  ofNodes nodes

end Cluster

def parseClusters (server : String) : Except ProtocolError (List Cluster) := do
  let clusters ← ((Text.splitChar ',' server).filter (fun p => !Text.isBlank p)).mapM Cluster.parse
  if clusters.isEmpty then .error (.configError "Sender server address cannot be empty")
  else pure clusters

end MonitorWire
