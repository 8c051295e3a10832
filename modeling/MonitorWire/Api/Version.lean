import MonitorWire.Error
import MonitorWire.Regex.Machine

namespace MonitorWire

structure ApiVersion where
  major : Nat
  minor : Nat
  revision : Nat
  suffix : String := ""
  deriving DecidableEq, Repr

namespace ApiVersion

def new (major minor revision : Nat) : ApiVersion := ⟨major, minor, revision, ""⟩

def pattern : String := "^\\s*(\\d+)\\.(\\d+)\\.(\\d+)(.*?)\\s*$"

def parse (raw : String) : Except ProtocolError ApiVersion :=
  let bad := ProtocolError.invalidVersion raw
  match Regex.compileText pattern with
  | .error _ => .error bad
  | .ok r =>
    match r.captures raw with
    | none => .error bad
    | some groups =>
      let number := fun (i : Nat) =>
        match (groups[i]?).join.bind (fun s => Text.parseUnsigned s (Nat.pow 2 32)) with
        | some n => Except.ok n
        | none => .error bad
      do
        let major ← number 1
        let minor ← number 2
        let revision ← number 3
        pure ⟨major, minor, revision, ((groups[4]?).join).getD ""⟩

def display (v : ApiVersion) : String :=
  s!"{v.major}.{v.minor}.{v.revision}" ++ v.suffix

def majorMinor (v : ApiVersion) : Nat × Nat := (v.major, v.minor)

def isLts (v : ApiVersion) : Bool := v.suffix.isEmpty && v.minor == 0

def compareText (a b : String) : Ordering := compareOfLessAndEq a b

def order (a b : ApiVersion) : Ordering :=
  (compare a.major b.major).then ((compare a.minor b.minor).then
    ((compare a.revision b.revision).then (compareText a.suffix b.suffix)))

instance : Ord ApiVersion := ⟨order⟩

def lt (a b : ApiVersion) : Bool := order a b == .lt

def atLeast (a b : ApiVersion) : Bool := order a b != .lt

end ApiVersion

end MonitorWire
