import ClientWiring.Error

/-!
# What is written to the log

Operations that write to the log give their entries back, in order, beside their answer.
-/

namespace ClientWiring

/-- How serious an entry is. -/
inductive LogLevel where
  | warn
  | error
deriving DecidableEq, Repr

/-- The name of a level. -/
def LogLevel.name : LogLevel → String
  | .warn => "WARN"
  | .error => "ERROR"

/-- An entry of the log: an event with its fields, or the start of a traced section. -/
inductive LogEntry where
  | event (level : LogLevel) (message : String) (fields : List (String × String))
  | span (name : String) (fields : List (String × String))
deriving DecidableEq, Repr

/-- A warning. -/
def LogEntry.warning (message : String) (fields : List (String × String)) : LogEntry :=
  .event .warn message fields

/-- An answer with the entries written on the way to it. -/
structure Logged (α : Type) where
  answer : Except AppError α
  log : List LogEntry

/-- An answer without entries. -/
def Logged.silent {α : Type} (answer : Except AppError α) : Logged α := ⟨answer, []⟩

end ClientWiring
