import Baseboard.Checksum
import Baseboard.Command
import Baseboard.PowerAction
import Baseboard.Privilege
import Baseboard.Reading

/-! Requests: the messages that ask a management controller for something, and
the constructors of those that the session uses. -/
namespace Baseboard

/-- The bus address of the controller that sessions talk to. -/
def controllerAddress : UInt8 := 0x20

def remoteSoftware : UInt8 := 0x81

/-- A request. Two of its bytes hold two things each: `function` the network
function above two bits of logical unit, `sequenceByte` the requester's sequence
number above two bits of the requester's logical unit. -/
structure Request where
  responder : UInt8
  function : UInt8
  requester : UInt8
  sequenceByte : UInt8
  command : UInt8
  data : Option Bytes
  deriving DecidableEq, Repr

namespace Request

/-- A request from remote software to the controller, numbered zero. -/
def raw (netFn unit command : UInt8) (data : Option Bytes) : Request where
  responder := controllerAddress
  function := (netFn <<< 2) ||| (unit &&& 0x03)
  requester := remoteSoftware
  sequenceByte := 0
  command := command
  data := data

/-- A request for a command of a known family, to logical unit zero. -/
def ofFunction (f : NetworkFunction) (command : UInt8) (data : Option Bytes) : Request :=
  raw f.request 0 command data

def addressedTo (r : Request) (address : UInt8) : Request := { r with responder := address }

def askedBy (r : Request) (address : UInt8) : Request := { r with requester := address }

/-- The request with another sequence number, of which six bits count. -/
def numbered (r : Request) (n : UInt8) : Request :=
  { r with sequenceByte := ((n &&& 0x3F) <<< 2) ||| (r.sequenceByte &&& 0x03) }

def netFn (r : Request) : UInt8 := r.function >>> 2

def unit (r : Request) : UInt8 := r.function &&& 0x03

def sequence (r : Request) : UInt8 := r.sequenceByte >>> 2

/-- The data, empty when there is none. -/
def payload (r : Request) : Bytes := r.data.getD []

/-- Whether the request asks for another message to be sent on. -/
def isSendMessage (r : Request) : Bool :=
  r.netFn == NetworkFunction.app.request && r.command == AppCommand.sendMessage.code

/-- The addressing bytes, which have a checksum of their own. -/
def head (r : Request) : Bytes := [r.responder, r.function]

def body (r : Request) : Bytes := r.requester :: r.sequenceByte :: r.command :: r.payload

def encode (r : Request) : Bytes :=
  r.head ++ [checksum r.head] ++ r.body ++ [checksum r.body]

/-- The length of a request without data. -/
def shortest : Nat := 7

/-- The request written by a whole message. -/
def parse (b : Bytes) : Except Error Request := do
  if b.length < shortest then throw .badLength
  if checksum (← Reading.slice b 0 3) ≠ 0 ∨ checksum (← Reading.suffix b 3) ≠ 0 then
    throw .badChecksum
  return {
    responder := ← Reading.byteAt b 0
    function := ← Reading.byteAt b 1
    requester := ← Reading.byteAt b 3
    sequenceByte := ← Reading.byteAt b 4
    command := ← Reading.byteAt b 5
    data := ← if b.length > shortest then
        (Reading.slice b 6 (b.length - shortest)).map some
      else pure none }

/-- Asks what a channel supports, for a session at a given level. -/
def authCapabilities (channel : UInt8) (level : Privilege) : Request :=
  ofFunction .app AppCommand.authCapabilities.code (some [channel, level.code])

/-- Asks for the challenge that starts a session of a user. -/
def sessionChallenge (t : AuthType) (username : Field) : Request :=
  ofFunction .app AppCommand.sessionChallenge.code (some (t.code :: username.bytes))

/-- Asks for the session to be activated. `initial` is the number from which the
controller counts its own frames. -/
def activateSession (t : AuthType) (level : Privilege) (challenge : Field) (initial : UInt32) :
    Request :=
  ofFunction .app AppCommand.activateSession.code
    (some (t.code :: level.code :: challenge.bytes ++ Bytes.littleEndian 4 initial.toNat))

def setPrivilege (level : Privilege) : Request :=
  ofFunction .app AppCommand.setPrivilege.code (some [level.code])

def closeSession (sessionId : UInt32) : Request :=
  ofFunction .app AppCommand.closeSession.code (some (Bytes.littleEndian 4 sessionId.toNat))

/-- Asks for a message to be sent on to a channel, and for its answer to be
returned. -/
def sendMessage (channel : UInt8) (message : Bytes) : Request :=
  ofFunction .app AppCommand.sendMessage.code (some ((0x40 ||| (channel &&& 0x0F)) :: message))

def deviceId : Request := ofFunction .app AppCommand.deviceId.code none

def chassisStatus : Request := ofFunction .chassis ChassisCommand.status.code none

def chassisControl (action : PowerAction) : Request :=
  ofFunction .chassis ChassisCommand.control.code (some [action.code])

end Request
end Baseboard
