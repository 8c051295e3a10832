import MonitorWire.Decimal.Layout

namespace MonitorWire

namespace Json

inductive Number where
  | nat (n : Nat)
  | neg (n : Int)
  | float (x : Binary64)
  deriving DecidableEq, Repr, Inhabited

inductive Value where
  | null
  | bool (b : Bool)
  | number (n : Number)
  | string (s : String)
  | array (items : List Value)
  | object (fields : List (String × Value))
  deriving BEq, Repr, Inhabited

namespace Value

def get? (v : Value) (key : String) : Option Value :=
  match v with
  | object fields => (fields.find? (·.1 == key)).map (·.2)
  | _ => none

def str? : Value → Option String
  | string s => some s
  | _ => none

def isNull : Value → Bool
  | null => true
  | _ => false

def ofNat (n : Nat) : Value := number (.nat n)

def ofInt (i : Int) : Value := if i ≥ 0 then number (.nat i.toNat) else number (.neg i)

def ofOption (s : Option String) : Value :=
  match s with
  | some t => string t
  | none => null

end Value

/-- Sets a member: an existing key keeps its place and takes the new value, a new key goes
last. -/
def setField (fields : List (String × Value)) (key : String) (v : Value) : List (String × Value) :=
  if fields.any (·.1 == key) then fields.map fun (k, old) => if k == key then (k, v) else (k, old)
  else fields ++ [(key, v)]

end Json

end MonitorWire
