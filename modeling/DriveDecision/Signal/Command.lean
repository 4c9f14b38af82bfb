import DriveDecision.Road.Lane

/-!
# Signal/Command — what the blinkers are told

A turn command says nothing, off, or a side; the hazard lights are either enabled or left alone.
-/

namespace DriveDecision

/-- A command to the turn signal. -/
inductive TurnCommand where
  | noCommand
  /-- Blinkers off. -/
  | off
  /-- Straight through a junction: blinkers off. -/
  | straight
  | left
  | right
  deriving DecidableEq, Repr, Inhabited

namespace TurnCommand

/-- The command's name in dumps. -/
def name : TurnCommand → String
  | noCommand => "NoCommand"
  | off => "None"
  | straight => "Straight"
  | left => "Left"
  | right => "Right"

/-- A side is blinking. -/
def isEnabled (command : TurnCommand) : Bool := command == left || command == right

theorem isEnabled_iff {command : TurnCommand} :
    command.isEnabled = true ↔ command = .left ∨ command = .right := by
  cases command <;> decide

/-- No side is blinking. -/
def isInactive (command : TurnCommand) : Bool := !command.isEnabled

end TurnCommand

/-- The command a lane's direction asks for. -/
def TurnDirection.command : TurnDirection → TurnCommand
  | .none => .off
  | .straight => .straight
  | .left => .left
  | .right => .right

@[simp] theorem TurnDirection.isEnabled_command (direction : TurnDirection) :
    direction.command.isEnabled = direction.requiresSignal := by
  cases direction <;> rfl

/-- A command to the hazard lights. -/
inductive HazardLights where
  | noCommand
  | enable
  deriving DecidableEq, Repr, Inhabited

/-- The command's name in dumps. -/
def HazardLights.name : HazardLights → String
  | .noCommand => "NoCommand"
  | .enable => "Enable"

end DriveDecision
