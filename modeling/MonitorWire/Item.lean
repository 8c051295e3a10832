import MonitorWire.Json.Writer

namespace MonitorWire

inductive Reading where
  | text (s : String)
  | flag (b : Bool)
  | int (i : Int)
  | real (x : Binary64)
  deriving DecidableEq, Repr

def Reading.render : Reading → String
  | .text s => s
  | .flag b => if b then "true" else "false"
  | .int i => toString i
  | .real x => Decimal.plain x

structure Item where
  host : String
  key : String
  value : String
  clock : Option Int := none
  ns : Option Int := none
  deriving DecidableEq, Repr

namespace Item

def new (host key : String) (value : Reading) : Item := ⟨host, key, value.render, none, none⟩

def withClock (i : Item) (clock : Int) : Item := { i with clock := some clock }

def withNs (i : Item) (ns : Int) : Item := { i with ns := some ns }

def toJson (i : Item) : Json.Value :=
  let base := [("host", Json.Value.string i.host), ("key", .string i.key),
    ("value", .string i.value)]
  let clock := match i.clock with
    | some c => [("clock", Json.Value.ofInt c)]
    | none => []
  let ns := match i.ns with
    | some n => [("ns", Json.Value.ofInt n)]
    | none => []
  .object (base ++ clock ++ ns)

def display (i : Item) : String := i.toJson.write

end Item

def senderRequestTag : String := "sender data"

def senderRequest (items : List Item) : Json.Value :=
  .object [("request", .string senderRequestTag), ("data", .array (items.map Item.toJson))]

end MonitorWire
