/-!
# Log — what a step has to say

A step never prints: it returns entries, and whoever drives it decides where they go.  Fields are
kept apart from the message so that a reader can filter on them.
-/

namespace DriveDecision

/-- How much an entry matters. -/
inductive LogLevel where
  | debug
  | info
  | warn
  | error
  deriving DecidableEq, Repr

/-- The value of a field: a scalar, or a text. -/
inductive LogValue (α : Type) where
  | number (value : α)
  | text (value : String)
  deriving DecidableEq, Repr

/-- A flag as a field. -/
def LogValue.flag {α : Type} (b : Bool) : LogValue α := .text (if b then "true" else "false")

/-- A count as a field. -/
def LogValue.count {α : Type} (n : Nat) : LogValue α := .text (toString n)

/-- One entry. -/
structure LogEntry (α : Type) where
  level : LogLevel
  message : String
  fields : List (String × LogValue α) := []
  deriving DecidableEq, Repr

end DriveDecision
