import Baseboard.Bridge
import Baseboard.Time

/-! What a session is to do: whom it talks to, as whom, and how patiently. -/
namespace Baseboard

/-- Whether a session starts by looking for the controller. -/
inductive PingPolicy where
  | skip
  | tolerate
  | require
  deriving DecidableEq, Repr

/-- The settings of a session. -/
structure Config where
  host : String
  port : UInt16 := 623
  username : String := ""
  password : String := ""
  /-- The authentication type to insist on; `none` takes the strongest. -/
  authType : Option AuthType := none
  privilege : Privilege := .administrator
  /-- How long the answer to a frame is waited for. -/
  timeout : Nat := 2 * second
  retries : Nat := 3
  pingTimeout : Nat := second
  ping : PingPolicy := .skip
  rejectUnauthenticated : Bool := false
  /-- The address of the controller that the session talks to. -/
  controller : UInt8 := controllerAddress
  /-- The address and channel of the controller that commands are for, if it is
  another one. -/
  target : Option (UInt8 × UInt8) := none
  /-- The address and channel of the controller on the way to the target. -/
  transit : Option (UInt8 × UInt8) := none
  /-- The manufacturers whose controllers expect a transformed challenge. -/
  xorVendors : List UInt32 := []
  deriving DecidableEq, Repr

namespace Config

/-- How often a frame is sent at most. It is always sent once. -/
def maxTries (c : Config) : Nat := max c.retries 1

def targetAddress (c : Config) : UInt8 := (c.target.map (·.1)).getD c.controller

def targetChannel (c : Config) : UInt8 := (c.target.map (·.2)).getD 0

/-- The route to a target, by way of the configured transit. -/
def route (c : Config) (target channel : UInt8) : Route :=
  ⟨c.controller, target, channel, c.transit⟩

def peer (c : Config) : String := c.host ++ ":" ++ toString c.port.toNat

def textBytes (s : String) : Bytes := s.toUTF8.toList

def validate (c : Config) : Except Error Unit :=
  if 16 < (textBytes c.username).length then .error .usernameTooLong
  else if 16 < (textBytes c.password).length then .error .passwordTooLong
  else .ok ()

end Config
end Baseboard
