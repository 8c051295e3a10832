import MonitorWire.Decimal.Binary64

namespace MonitorWire

structure Duration where
  secs : Nat
  nanos : Nat
  deriving DecidableEq, Repr, Inhabited

namespace Duration

def nanosPerSec : Nat := 1000000000

def ofNanos (n : Nat) : Duration := ⟨n / nanosPerSec, n % nanosPerSec⟩

def ofMillis (ms : Nat) : Duration := ⟨ms / 1000, ms % 1000 * 1000000⟩

def totalNanos (d : Duration) : Nat := d.secs * nanosPerSec + d.nanos

def totalMillis (d : Duration) : Nat := d.secs * 1000 + d.nanos / 1000000

def add (a b : Duration) : Duration := ofNanos (a.totalNanos + b.totalNanos)

instance : Add Duration := ⟨add⟩

instance : LT Duration := ⟨fun a b => a.secs < b.secs ∨ (a.secs = b.secs ∧ a.nanos < b.nanos)⟩

instance : LE Duration := ⟨fun a b => a.secs < b.secs ∨ (a.secs = b.secs ∧ a.nanos ≤ b.nanos)⟩

theorem lt_def {a b : Duration} :
    a < b ↔ a.secs < b.secs ∨ (a.secs = b.secs ∧ a.nanos < b.nanos) := Iff.rfl

theorem le_def {a b : Duration} :
    a ≤ b ↔ a.secs < b.secs ∨ (a.secs = b.secs ∧ a.nanos ≤ b.nanos) := Iff.rfl

instance (a b : Duration) : Decidable (a < b) := decidable_of_iff _ lt_def.symm

instance (a b : Duration) : Decidable (a ≤ b) := decidable_of_iff _ le_def.symm

def secsBound : Nat := Nat.pow 2 64

def checkedAdd (a b : Duration) : Option Duration :=
  let d := a + b
  if d.secs < secsBound then some d else none

/-- The duration nearest to a number of seconds, if it is neither negative, NaN nor 2^64
seconds or more. -/
def ofSeconds? (x : Binary64) : Option Duration :=
  if !x.isFinite then none
  else if x.negative && x.bits.toNat % Nat.pow 2 63 != 0 then none
  else
    let (num, den) := Binary64.ratio x.mantissa x.exponent
    if num ≥ Nat.pow 2 64 * den then none
    else some (ofNanos (Binary64.roundHalfEven (num * nanosPerSec) den))

def fractionDigits (frac divisor : Nat) : Nat → List Char
  | 0 => []
  | fuel + 1 =>
    if frac == 0 || divisor == 0 then []
    else Char.ofNat (48 + frac / divisor) :: fractionDigits (frac % divisor) (divisor / 10) fuel

def decimalText (whole frac divisor : Nat) (unit : String) : String :=
  let ds := fractionDigits frac divisor 10
  toString whole ++ (if ds.isEmpty then "" else "." ++ String.ofList ds) ++ unit

def text (d : Duration) : String :=
  if d.secs > 0 then decimalText d.secs d.nanos 100000000 "s"
  else if d.nanos ≥ 1000000 then decimalText (d.nanos / 1000000) (d.nanos % 1000000) 100000 "ms"
  else if d.nanos ≥ 1000 then decimalText (d.nanos / 1000) (d.nanos % 1000) 100 "µs"
  else toString d.nanos ++ "ns"

end Duration

end MonitorWire
