import MonitorWire.Net.Link
import MonitorWire.Net.Resolve

namespace MonitorWire

namespace Net

def unreachableText : String := "Network is unreachable (os error 101)"

def noLocalAddressText : String := "Cannot assign requested address (os error 99)"

def isLocalIpv6 (groups : List Nat) : Bool :=
  groups.take 7 == List.replicate 7 0 &&
    match groups.getLast? with
    | some g => g ≤ 1
    | none => false

def IpAddress.refusal : IpAddress → String
  | .v4 _ => unreachableText
  | .v6 groups => if isLocalIpv6 groups then noLocalAddressText else unreachableText

def isolatedDial (node : Node) : Dial :=
  match resolve node.address with
  | .error reason => .unresolved reason
  | .ok a => .failed a.refusal

def isolated : Network Unit :=
  ⟨fun node _ s => (isolatedDial node, s), fun _ _ _ s => (.silent, s)⟩

end Net

end MonitorWire
