
namespace MonitorWire

def hidingMask : String := "********"

/-- Widths and counts are machine words of 64 bits; arithmetic on them wraps around here. -/
def wordModulus : Nat := Nat.pow 2 64

def maskSecret (secret : String) (visible : Nat) : String :=
  let cs := secret.toList
  if visible == 0 || cs.length ≤ 2 * visible % wordModulus then hidingMask
  else
    -- the count less a larger width wraps around past the end, and nothing is left after it
    let suffix := if visible ≤ cs.length then cs.drop (cs.length - visible) else []
    String.ofList (cs.take visible) ++ hidingMask ++ String.ofList suffix

def shorten (text : String) (maxLen : Nat) : String :=
  let cs := text.toList
  if cs.length ≤ maxLen then text else String.ofList (cs.take maxLen) ++ "..."

end MonitorWire
