import MonitorWire.Trace
import MonitorWire.Bytes.Basic

namespace MonitorWire

/-- Bytes still to be read, and how they arrive: the `i`-th read from now hands out at most
`arrivals i` of them. A read of zero bytes means the end. -/
structure Source where
  pending : Bytes
  arrivals : Nat → Nat

namespace Source

def steady (d : Bytes) (step : Nat) : Source := ⟨d, fun _ => step⟩

/-- The source after `k` reads that took the first `n` pending bytes. -/
def consume (s : Source) (n k : Nat) : Source := ⟨s.pending.drop n, fun i => s.arrivals (k + i)⟩

def read (s : Source) (limit : Nat) : Bytes × Source :=
  let n := min (s.arrivals 0) limit
  (s.pending.take n, s.consume n 1)

def gather (s : Source) (size : Nat) (acc : Bytes) : Nat → Bytes × Source
  | 0 => (acc, s)
  | fuel + 1 =>
    if acc.length ≥ size then (acc, s)
    else
      let (chunk, s') := s.read (size - acc.length)
      if chunk.isEmpty then (acc, s') else gather s' size (acc ++ chunk) fuel

/-- Reads exactly `size` bytes, or fewer if the source ends first, which is reported. -/
def readExact (s : Source) (size : Nat) : Traced (Bytes × Source) := do
  let (got, s') := gather s size [] (size + 1)
  if got.length < size then
    Traced.debug "Socket connection was closed before receiving expected amount of data"
      [("expected", toString size), ("received", toString got.length)]
  pure (got, s')

end Source

end MonitorWire
