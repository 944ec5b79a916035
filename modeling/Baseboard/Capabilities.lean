import Baseboard.Privilege
import Baseboard.Reading

/-! What a controller says it supports, and what a session makes of it: the
authentication type it uses and the frames it signs. -/
namespace Baseboard

/-- The authentication capabilities of a channel. -/
structure Capabilities where
  channel : UInt8
  typeByte : UInt8
  status : UInt8
  extended : UInt8
  oemEnterprise : UInt32
  oemData : UInt8
  deriving DecidableEq, Repr

namespace Capabilities

def authTypes (c : Capabilities) : UInt8 := c.typeByte &&& 0x3F

def supports (c : Capabilities) (t : AuthType) : Bool := c.authTypes &&& t.mask != 0

def hasExtended (c : Capabilities) : Bool := c.typeByte &&& 0x80 != 0

/-- Whether the frames of a session are authenticated one by one. -/
def perMessageAuth (c : Capabilities) : Bool := c.status &&& 0x10 == 0

def userLevelAuth (c : Capabilities) : Bool := c.status &&& 0x08 == 0

def namedUsers (c : Capabilities) : Bool := c.status &&& 0x04 != 0

/-- Whether there are users without names. -/
def unnamedUsers (c : Capabilities) : Bool := c.status &&& 0x02 != 0

/-- Whether one may log in without name and password. -/
def anonymousLogin (c : Capabilities) : Bool := c.status &&& 0x01 != 0

/-- Whether sessions of version 1.5 are possible. -/
def supportsVersionOne (c : Capabilities) : Bool := !c.hasExtended || c.extended &&& 0x01 != 0

/-- Whether sessions of version 2.0 are possible. -/
def supportsVersionTwo (c : Capabilities) : Bool := c.hasExtended && c.extended &&& 0x02 != 0

/-- Whether only sessions of version 2.0 are possible. -/
def requiresVersionTwo (c : Capabilities) : Bool := c.supportsVersionTwo && !c.supportsVersionOne

def parse (data : Bytes) : Except Error Capabilities := do
  if data.length < 8 then throw .badLength
  return {
    channel := ← Reading.byteAt data 0
    typeByte := ← Reading.byteAt data 1
    status := ← Reading.byteAt data 2
    extended := ← Reading.byteAt data 3
    oemEnterprise := UInt32.ofNat (Bytes.ofLittleEndian (← Reading.slice data 4 3))
    oemData := ← Reading.byteAt data 7 }

/-- The authentication types that can be chosen without being asked for,
strongest first. -/
def preference : List AuthType := [.md5, .md2, .password, .none]

/-- The authentication type of a session: the pinned one, or else the strongest
that is supported. -/
def negotiate (c : Capabilities) (pinned : Option AuthType) : Except Error AuthType :=
  if c.requiresVersionTwo then .error .versionTwoRequired
  else
    let candidates := match pinned with
      | some t => [t]
      | none => preference
    match candidates.find? c.supports with
    | some t => .ok t
    | none => .error (.noCommonAuthType c.authTypes)

end Capabilities

/-- Which frames of an active session carry an authentication code. -/
inductive SigningPolicy where
  | perMessage
  | userLevel
  | never
  deriving DecidableEq, Repr

namespace SigningPolicy

def ofCapabilities (c : Capabilities) : SigningPolicy :=
  if !c.perMessageAuth then never
  else if !c.userLevelAuth then userLevel
  else perMessage

def signs : SigningPolicy → Privilege → Bool
  | perMessage, _ => true
  | userLevel, level => level.exceeds .user
  | never, _ => false

end SigningPolicy
end Baseboard
