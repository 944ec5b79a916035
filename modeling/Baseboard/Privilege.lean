import Baseboard.Text.Keyword

/-! The privilege levels of a session. -/
namespace Baseboard

/-- What a session's user may do, from least to most. -/
inductive Privilege where
  | none
  | callback
  | user
  | operator
  | administrator
  | oem
  deriving DecidableEq, Repr

namespace Privilege

/-- The number that stands for the level on the wire. -/
def code : Privilege → UInt8
  | none => 0
  | callback => 1
  | user => 2
  | operator => 3
  | administrator => 4
  | oem => 5

/-- The level with a given number; only the low four bits count. -/
def ofCode? (n : UInt8) : Option Privilege :=
  match n &&& 0x0F with
  | 0 => some none
  | 1 => some callback
  | 2 => some user
  | 3 => some operator
  | 4 => some administrator
  | 5 => some oem
  | _ => Option.none

def exceeds (p q : Privilege) : Bool := q.code < p.code

/-- The level with a given name, in either case. The level `none` has no name. -/
def ofName? : String → Option Privilege :=
  Text.keywordValue?
    [("callback", callback), ("user", user), ("operator", operator), ("admin", administrator),
      ("administrator", administrator), ("oem", oem)]

@[simp] theorem ofCode?_code (p : Privilege) : ofCode? p.code = some p := by
  cases p <;> decide

end Privilege
end Baseboard
