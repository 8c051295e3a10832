import MonitorWire.Cluster
import MonitorWire.Duration
import MonitorWire.Decimal.Text
import MonitorWire.Json.Reader
import MonitorWire.Outcome
import MonitorWire.Regex.Machine

namespace MonitorWire

structure TrapperResult where
  processed : Nat
  failed : Nat
  total : Nat
  time : Duration
  chunk : Nat
  deriving DecidableEq, Repr

namespace TrapperResult

def infoPattern : String :=
  "[Pp]rocessed:\\s*(\\d+);\\s*[Ff]ailed:\\s*(\\d+);\\s*[Tt]otal:\\s*(\\d+);\\s*[Ss]econds " ++
    "spent:\\s*(\\d+(?:\\.\\d+)?)"

def readInfo (info : String) : Option (Nat × Nat × Nat × Duration) := do
  let r ← (Regex.compileText infoPattern).toOption
  let groups ← r.captures info
  let group := fun (i : Nat) => (groups[i]?).join
  let seconds ← Binary64.parse? (← group 4)
  let time ← Duration.ofSeconds? seconds
  let count := fun (i : Nat) => do Text.parseUnsigned (← group i) (Nat.pow 2 64)
  pure (← count 1, ← count 2, ← count 3, time)

def parse (reply : String) (chunk : Nat) : Outcome TrapperResult := do
  let unexpected : Outcome TrapperResult := do
    Outcome.debug ("Received unexpected response: " ++ reply)
    Outcome.fail (.unexpectedResponse reply)
  match Json.parse reply with
  | .error _ => unexpected
  | .ok body =>
    if (body.get? "response").bind Json.Value.str? != some "success" then unexpected
    else
      match (body.get? "info").bind Json.Value.str? with
      | none => unexpected
      | some "" => unexpected
      | some info =>
        match readInfo info with
        | some (processed, failed, total, time) => pure ⟨processed, failed, total, time, chunk⟩
        | none => unexpected

end TrapperResult

structure NodeResult where
  node : Node
  result : TrapperResult
  deriving DecidableEq, Repr

structure SenderResponse where
  processed : Nat := 0
  failed : Nat := 0
  total : Nat := 0
  time : Duration := ⟨0, 0⟩
  chunk : Nat := 0
  details : List NodeResult := []
  deriving DecidableEq, Repr

namespace SenderResponse

def counterBound : Nat := Nat.pow 2 64

def overflowMessage : String := "overflow when adding durations"

/-- Adds the answer of a node: counters wrap around at `counterBound`, and a total time of
`Duration.secsBound` seconds or more stops the sum with `overflowMessage`. -/
def add (s : SenderResponse) (node : Node) (r : TrapperResult) : Except String SenderResponse :=
  (s.time.checkedAdd r.time).elim (.error overflowMessage) fun time =>
    .ok { processed := (s.processed + r.processed) % counterBound
          failed := (s.failed + r.failed) % counterBound
          total := (s.total + r.total) % counterBound
          time := time
          chunk := max s.chunk r.chunk
          details := s.details ++ [⟨node, r⟩] }

def isSuccess (s : SenderResponse) : Bool := s.failed == 0

end SenderResponse

structure AgentResponse where
  raw : String
  value : Option String
  error : Option String
  deriving DecidableEq, Repr

namespace AgentResponse

def notSupported : String := "ZBX_NOTSUPPORTED"

def notSupportedDefault : String := "Not supported by Zabbix Agent"

def parse (raw : String) : AgentResponse :=
  let mark := notSupported.toList
  let cs := raw.toList
  if cs.take mark.length == mark then
    let rest := cs.drop mark.length
    let message := match rest with
      | '\x00' :: m@(_ :: _) => String.ofList m
      | _ => notSupportedDefault
    ⟨raw, none, some message⟩
  else ⟨raw, some raw, none⟩

def isSupported (a : AgentResponse) : Bool := a.error.isNone

end AgentResponse

end MonitorWire
