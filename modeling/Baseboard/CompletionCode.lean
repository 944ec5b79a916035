import Baseboard.Text.Numeral

/-! The completion code with which every response says how its request went. -/
namespace Baseboard

/-- The outcome of a request: zero when it was carried out, else the reason why
it was not. -/
structure CompletionCode where
  value : UInt8
  deriving DecidableEq, Repr

namespace CompletionCode

def completed : CompletionCode := ⟨0⟩

/-- What a generic code means. The codes that a command defines for itself are
told apart by whoever sent the command. -/
def description (c : CompletionCode) : String :=
  match c.value with
  | 0x00 => "command completed normally"
  | 0xC0 => "node busy"
  | 0xC1 => "invalid command"
  | 0xC2 => "command invalid for given LUN"
  | 0xC3 => "timeout while processing command"
  | 0xC4 => "out of space"
  | 0xC5 => "reservation canceled or invalid reservation ID"
  | 0xC6 => "request data truncated"
  | 0xC7 => "request data length invalid"
  | 0xC8 => "request data field length limit exceeded"
  | 0xC9 => "parameter out of range"
  | 0xCA => "cannot return number of requested data bytes"
  | 0xCB => "requested sensor, data, or record not present"
  | 0xCC => "invalid data field in request"
  | 0xCD => "command illegal for specified sensor or record type"
  | 0xCE => "command response could not be provided"
  | 0xCF => "cannot execute duplicated request"
  | 0xD0 => "SDR repository in update mode"
  | 0xD1 => "device firmware in update mode"
  | 0xD2 => "BMC initialization in progress"
  | 0xD3 => "destination unavailable"
  | 0xD4 => "insufficient privilege level"
  | 0xD5 => "command not supported in present state"
  | 0xD6 => "command sub-function disabled or unavailable"
  | 0xFF => "unspecified error"
  | v =>
    if v ≤ 0x7E ∨ (0x80 ≤ v ∧ v ≤ 0xBE) then "command specific error"
    else "reserved completion code"

def message (c : CompletionCode) : String :=
  c.description ++ " (0x" ++ Text.hexByte c.value ++ ")"

end CompletionCode
end Baseboard
