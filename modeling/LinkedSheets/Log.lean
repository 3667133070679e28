import LinkedSheets.Text.Terminal

/-!
# Log entries
-/

namespace LinkedSheets

inductive LogLevel where
  | warn
  | info
  | debug
deriving DecidableEq

structure LogEntry where
  level : LogLevel
  message : String
deriving DecidableEq

/-- A result with what was logged on the way to it. -/
structure Logged (α : Type) where
  entries : List LogEntry
  result : α

namespace LogLevel

def name : LogLevel → String
  | .warn => "WARN"
  | .info => "INFO"
  | .debug => "DEBUG"

/-- How often more detail has to be asked for until the level is logged. -/
def detail : LogLevel → Nat
  | .warn => 0
  | .info => 1
  | .debug => 2

end LogLevel

/-- The further lines of a message are indented. -/
def indented (message : String) : String :=
  String.ofList (message.toList.flatMap fun c => if c = '\n' then "\n    ".toList else [c])

/-- An entry as it is printed: nothing in its message can control a terminal. -/
def LogEntry.printed (e : LogEntry) : LogEntry :=
  { e with message := Text.withoutControls (indented e.message) }

end LinkedSheets
