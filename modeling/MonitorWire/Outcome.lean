import MonitorWire.Error
import MonitorWire.Trace

namespace MonitorWire

abbrev Outcome (α : Type) := ExceptT ProtocolError Traced α

namespace Outcome

def fail {α : Type} (e : ProtocolError) : Outcome α := throw e

def ofExcept {α : Type} (r : Except ProtocolError α) : Outcome α := ExceptT.mk (pure r)

def debug (message : String) (fields : List (String × String) := []) : Outcome Unit :=
  ExceptT.lift (Traced.debug message fields)

def warn (message : String) : Outcome Unit :=
  ExceptT.lift (Traced.warn message)

def error (message : String) : Outcome Unit :=
  ExceptT.lift (Traced.error message)

def run {α : Type} (x : Outcome α) : Except ProtocolError α × List Event :=
  let t := ExceptT.run x
  (t.value, t.events)

def result {α : Type} (x : Outcome α) : Except ProtocolError α := (run x).1

end Outcome

end MonitorWire
