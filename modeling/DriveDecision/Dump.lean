/-!
# Dump — values as text for a reader of logs

A record shows its name and its fields, a choice its name and what it carries.
-/

namespace DriveDecision.Dump

/-- A record with named fields. -/
def record (name : String) (fields : List (String × String)) : String :=
  name ++ " \x7b " ++ ", ".intercalate (fields.map fun f => f.1 ++ ": " ++ f.2) ++ " \x7d"

/-- A choice that carries one value. -/
def choice (name content : String) : String := name ++ "(" ++ content ++ ")"

def option {β : Type} (text : β → String) : Option β → String
  | none => "None"
  | some b => choice "Some" (text b)

def flag (b : Bool) : String := if b then "true" else "false"

end DriveDecision.Dump
