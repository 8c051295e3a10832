
namespace MonitorWire

inductive Level where
  | debug
  | info
  | warn
  | error
  deriving DecidableEq, Repr

def Level.name : Level → String
  | .debug => "DEBUG"
  | .info => "INFO"
  | .warn => "WARN"
  | .error => "ERROR"

structure Event where
  level : Level
  message : String
  fields : List (String × String) := []
  deriving DecidableEq, Repr

def Event.line (e : Event) : String :=
  e.level.name ++ " " ++ e.message ++ String.join (e.fields.map fun (n, v) => " " ++ n ++ "=" ++ v)

structure Traced (α : Type) where
  value : α
  events : List Event

namespace Traced

instance : Monad Traced where
  pure a := ⟨a, []⟩
  bind x f := let y := f x.value; ⟨y.value, x.events ++ y.events⟩

def emit (e : Event) : Traced Unit := ⟨(), [e]⟩

def debug (message : String) (fields : List (String × String) := []) : Traced Unit :=
  emit { level := .debug, message, fields }

def warn (message : String) : Traced Unit :=
  emit { level := .warn, message }

def error (message : String) : Traced Unit :=
  emit { level := .error, message }

@[simp] theorem value_pure {α : Type} (a : α) : (pure a : Traced α).value = a := rfl

@[simp] theorem events_pure {α : Type} (a : α) : (pure a : Traced α).events = [] := rfl

@[simp] theorem value_bind {α β : Type} (x : Traced α) (f : α → Traced β) :
    (x >>= f).value = (f x.value).value := rfl

@[simp] theorem events_bind {α β : Type} (x : Traced α) (f : α → Traced β) :
    (x >>= f).events = x.events ++ (f x.value).events := rfl

end Traced

end MonitorWire
