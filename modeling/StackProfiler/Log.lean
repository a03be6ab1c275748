/-!
# Log records

Operations that report on themselves give a log beside their value. `Logged` composes them so that the
records come in the order of the operations.
-/

namespace StackProfiler

/-- How much a record matters. -/
inductive LogLevel
  | trace
  | debug
  | warn
  deriving DecidableEq

/-- The name of a level. -/
def LogLevel.name : LogLevel → String
  | .trace => "TRACE"
  | .debug => "DEBUG"
  | .warn => "WARN"

/-- One line of a log. -/
structure LogRecord where
  level : LogLevel
  text : String
  deriving DecidableEq

namespace LogRecord

/-- A record of little interest. -/
def trace (text : String) : LogRecord := ⟨.trace, text⟩

/-- A record for those who look for a fault. -/
def debug (text : String) : LogRecord := ⟨.debug, text⟩

/-- A record of something that should not happen. -/
def warn (text : String) : LogRecord := ⟨.warn, text⟩

end LogRecord

/-- A value and what was logged on the way to it. -/
structure Logged (α : Type) where
  value : α
  log : List LogRecord := []
  deriving DecidableEq

namespace Logged

variable {α β : Type}

/-- Goes on with the value; the records follow those there are. -/
def bind (x : Logged α) (next : α → Logged β) : Logged β :=
  let y := next x.value
  ⟨y.value, x.log ++ y.log⟩

instance : Monad Logged where
  pure value := { value }
  bind := bind

/-- Logs one record. -/
def tell (record : LogRecord) : Logged Unit := ⟨(), [record]⟩

end Logged

end StackProfiler
