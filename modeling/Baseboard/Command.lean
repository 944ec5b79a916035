/-! The commands that the session uses, and the network functions they belong to. -/
namespace Baseboard

/-- A family of commands. Each has an even number for requests; responses carry
the next odd one. -/
inductive NetworkFunction where
  | chassis
  | bridge
  | sensor
  | app
  | firmware
  | storage
  | transport
  deriving DecidableEq, Repr

namespace NetworkFunction

def request : NetworkFunction → UInt8
  | chassis => 0x00
  | bridge => 0x02
  | sensor => 0x04
  | app => 0x06
  | firmware => 0x08
  | storage => 0x0A
  | transport => 0x0C

def response (f : NetworkFunction) : UInt8 := f.request ||| 0x01

end NetworkFunction

/-- The commands of the application family. -/
inductive AppCommand where
  | deviceId
  | sendMessage
  | authCapabilities
  | sessionChallenge
  | activateSession
  | setPrivilege
  | closeSession
  deriving DecidableEq, Repr

def AppCommand.code : AppCommand → UInt8
  | deviceId => 0x01
  | sendMessage => 0x34
  | authCapabilities => 0x38
  | sessionChallenge => 0x39
  | activateSession => 0x3A
  | setPrivilege => 0x3B
  | closeSession => 0x3C

/-- The commands of the chassis family. -/
inductive ChassisCommand where
  | status
  | control
  deriving DecidableEq, Repr

def ChassisCommand.code : ChassisCommand → UInt8
  | status => 0x01
  | control => 0x02

end Baseboard
