import MonitorWire.Net.Link
import MonitorWire.Config.Settings
import MonitorWire.Reply
import MonitorWire.Zlib.Stored

namespace MonitorWire

structure Getter where
  node : Node
  timeout : Duration
  mode : Net.Mode := .blocking
  decorator : Option Net.Decorator := none
  deriving Repr

namespace Getter

open Net

variable {σ : Type}

def new (mode : Mode) (c : Config.GetterConfig) : Except ProtocolError Getter := do
  c.validateStrict
  pure ⟨Node.make c.host c.port, c.timeout, mode, none⟩

def accessWarning : String := "Check access restrictions in Zabbix agent configuration."

def reportFailure (node : Node) (e : ProtocolError) : Traced Unit :=
  match e with
  | .io failure =>
    if failure.kind == .connectionReset then do
      Traced.debug ("Get value error: " ++ failure.text)
      Traced.warn accessWarning
    else Traced.debug ("Request to " ++ node.display ++ " failed: " ++ e.message)
  | _ => Traced.debug ("Request to " ++ node.display ++ " failed: " ++ e.message)

def get (net : Network σ) (g : Getter) (key : String) : NetM σ AgentResponse := do
  let request ← NetM.ofOutcome (Packet.new Zlib.deflateStored (.text key) false)
  match ← NetM.attempt ((⟨g.node, g.timeout, g.decorator⟩ : Link).exchange net g.mode request) with
  | .ok raw => pure (AgentResponse.parse raw)
  | .error e =>
    NetM.ofTraced (reportFailure g.node e)
    throw e

def debug (g : Getter) : String :=
  g.mode.label ++ "Getter \x7b node: " ++ nodeDebug g.node ++ ", timeout: " ++ g.timeout.text ++
    ", decorated: " ++ toString g.decorator.isSome ++ " \x7d"

end Getter

end MonitorWire
