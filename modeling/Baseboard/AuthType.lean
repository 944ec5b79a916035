import Baseboard.Text.Keyword

/-! The authentication types of a session. -/
namespace Baseboard

/-- How the frames of a session are authenticated. -/
inductive AuthType where
  | none
  | md2
  | md5
  | password
  | oem
  deriving DecidableEq, Repr

namespace AuthType

/-- The number that stands for the type on the wire. -/
def code : AuthType → UInt8
  | none => 0x00
  | md2 => 0x01
  | md5 => 0x02
  | password => 0x04
  | oem => 0x05

/-- The bit of the type in a mask of supported types. -/
def mask (t : AuthType) : UInt8 := 1 <<< t.code

/-- The type with a given number; only the low four bits count. -/
def ofCode? (n : UInt8) : Option AuthType :=
  match n &&& 0x0F with
  | 0x00 => some none
  | 0x01 => some md2
  | 0x02 => some md5
  | 0x04 => some password
  | 0x05 => some oem
  | _ => Option.none

def name : AuthType → String
  | none => "None"
  | md2 => "MD2"
  | md5 => "MD5"
  | password => "Password"
  | oem => "Oem"

def ofName? : String → Option AuthType :=
  Text.keywordValue?
    [("none", none), ("md2", md2), ("md5", md5), ("password", password), ("oem", oem)]

@[simp] theorem ofCode?_code (t : AuthType) : ofCode? t.code = some t := by
  cases t <;> decide

theorem code_eq_zero_iff (t : AuthType) : t.code = 0 ↔ t = none := by
  cases t <;> decide

end AuthType
end Baseboard
