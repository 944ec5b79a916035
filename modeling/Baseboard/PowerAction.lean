import Baseboard.Text.Keyword

/-! The power actions of a chassis. -/
namespace Baseboard

/-- What a chassis control request does to the power. -/
inductive PowerAction where
  | powerDown
  | powerUp
  | powerCycle
  | hardReset
  | diagnostic
  | acpi
  deriving DecidableEq, Repr

namespace PowerAction

/-- The number that stands for the action on the wire. -/
def code : PowerAction → UInt8
  | powerDown => 0
  | powerUp => 1
  | powerCycle => 2
  | hardReset => 3
  | diagnostic => 4
  | acpi => 5

def ofName? : String → Option PowerAction :=
  Text.keywordValue?
    [("powerdown", powerDown), ("powerup", powerUp), ("powercycle", powerCycle),
      ("hardreset", hardReset), ("diagnostic", diagnostic), ("acpi", acpi)]

end PowerAction
end Baseboard
