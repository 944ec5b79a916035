import Baseboard.CommandLine.Arguments
import Baseboard.Config
import Baseboard.Text.Numeral

/-! What a command line asks for. -/
namespace Baseboard.CommandLine

/-- The arguments that tell how to open a session. Names are still text. -/
structure Settings where
  host : String
  username : String
  password : String
  port : Option UInt16
  auth : Option String
  privilege : Option String
  target : Option UInt8
  channel : UInt8
  transit : Option UInt8
  transitChannel : UInt8
  /-- In seconds. -/
  timeout : Option Nat
  retries : Option Nat
  ping : Bool
  vendors : List UInt32
  deriving DecidableEq, Repr

/-- One use of the program. -/
inductive Invocation where
  | chassisStatus (settings : Settings)
  | chassisControl (settings : Settings) (action : String)
  | deviceInfo (settings : Settings)
  | raw (settings : Settings) (netFn unit command : UInt8) (data : Bytes)
  | ping (host : String) (port : Option UInt16)
  deriving DecidableEq, Repr

def portOption : OptionSpec := { name := "port", letter := some 'p' }

def sessionOptions : List OptionSpec := [
  portOption,
  { name := "auth", letter := some 'A' },
  { name := "privilege", letter := some 'L' },
  { name := "target", letter := some 't' },
  { name := "channel", letter := some 'b' },
  { name := "transit", letter := some 'T' },
  { name := "transit-channel", letter := some 'B' },
  { name := "timeout", letter := some 'N' },
  { name := "retries", letter := some 'R' },
  { name := "ping", takesValue := false },
  { name := "xor-vendor", repeatable := true }]

def unitOption : OptionSpec := { name := "lun" }

def readPort (text : String) : Option UInt16 :=
  (Text.readNonnegative 65535 text.toList).map UInt16.ofNat

def readWord (text : String) : Option Nat := Text.readNonnegative (UInt32.size - 1) text.toList

/-- A number of seconds. -/
def readSeconds (text : String) : Option Nat := Text.readUnsigned 10 (UInt64.size - 1) text.toList

/-- The settings for a session of a user on a host. -/
def Settings.read (a : Arguments) (host username password : String) : Option Settings := do
  return {
    host := host
    username := username
    password := password
    port := ← a.readOne "port" readPort
    auth := ← a.readOne "auth" some
    privilege := ← a.readOne "privilege" some
    target := ← a.readOne "target" Text.readByte
    channel := (← a.readOne "channel" Text.readByte).getD 0
    transit := ← a.readOne "transit" Text.readByte
    transitChannel := (← a.readOne "transit-channel" Text.readByte).getD 0
    timeout := ← a.readOne "timeout" readSeconds
    retries := ← a.readOne "retries" readWord
    ping := a.hasFlag "ping"
    vendors := (← a.readAll "xor-vendor" readWord).map UInt32.ofNat }

namespace Invocation

def parseChassis : List String → Option Invocation
  | "status" :: args => do
    let a ← Arguments.parse sessionOptions args
    match a.positionals with
    | [host, username, password] => return chassisStatus (← Settings.read a host username password)
    | _ => none
  | "control" :: args => do
    let a ← Arguments.parse sessionOptions args
    match a.positionals with
    | [host, username, password, action] =>
      return chassisControl (← Settings.read a host username password) action
    | _ => none
  | _ => none

def parseController : List String → Option Invocation
  | "info" :: args => do
    let a ← Arguments.parse sessionOptions args
    match a.positionals with
    | [host, username, password] => return deviceInfo (← Settings.read a host username password)
    | _ => none
  | _ => none

def parseRaw (args : List String) : Option Invocation := do
  let a ← Arguments.parse (unitOption :: sessionOptions) args
  match a.positionals with
  | host :: username :: password :: netFn :: command :: data =>
    return raw (← Settings.read a host username password) (← Text.readByte netFn)
      ((← a.readOne "lun" Text.readByte).getD 0) (← Text.readByte command)
      (← data.mapM Text.readByte)
  | _ => none

def parsePing (args : List String) : Option Invocation := do
  let a ← Arguments.parse [portOption] args
  match a.positionals with
  | [host] => return ping host (← a.readOne "port" readPort)
  | _ => none

/-- What the arguments ask for; `none` when they ask for nothing that can be done. -/
def parse : List String → Option Invocation
  | "chassis" :: args => parseChassis args
  | "mc" :: args => parseController args
  | "raw" :: args => parseRaw args
  | "ping" :: args => parsePing args
  | _ => none

end Invocation
end Baseboard.CommandLine
