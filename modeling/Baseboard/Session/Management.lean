import Baseboard.Session.Exchange

/-! The requests that manage a session, with the meaning of their answers. They
can be made in every phase. -/
namespace Baseboard

/-- What a completion code says against a session management command, if it is one
of the command's own codes. -/
def refusal? : AppCommand → CompletionCode → Option Refusal
  | .sessionChallenge, ⟨0x81⟩ => some .invalidUsername
  | .sessionChallenge, ⟨0x82⟩ => some .nullUserDisabled
  | .activateSession, ⟨0x81⟩ => some .noSessionSlot
  | .activateSession, ⟨0x82⟩ => some .noSlotForUser
  | .activateSession, ⟨0x83⟩ => some .noSlotForPrivilege
  | .activateSession, ⟨0x84⟩ => some .sequenceOutOfRange
  | .activateSession, ⟨0x85⟩ => some .invalidSessionId
  | .activateSession, ⟨0x86⟩ => some .privilegeExceedsLimit
  | .setPrivilege, ⟨0x80⟩ => some .privilegeNotAvailable
  | .setPrivilege, ⟨0x81⟩ => some .privilegeExceedsLimit
  | .closeSession, ⟨0x87⟩ => some .invalidSessionId
  | _, _ => none

/-- The response itself when it reports completion, else what it says against the
command. -/
def Response.acceptedFor (r : Response) (command : AppCommand) : Except Error Response :=
  match r.accepted with
  | .ok r => .ok r
  | .error e => .error ((refusal? command r.code).elim e .refused)

namespace Session

def thisChannel : UInt8 := 0x0E

/-- Added to a channel to ask for what it supports beyond version 1.5. -/
def extendedBit : UInt8 := 0x80

/-- Asks what the controller supports. Controllers of version 1.5 reject the
extended question and are asked again without it. -/
def authCapabilities : Op Capabilities := do
  let level := (← get).config.privilege
  let first ← manage (.authCapabilities (extendedBit ||| thisChannel) level)
  let response ←
    if first.code = .completed then pure first
    else do ofResult (← manage (.authCapabilities thisChannel level)).accepted
  ofResult (Capabilities.parse response.payload)

def sessionChallenge (authType : AuthType) : Op Challenge := do
  let response ← manage (.sessionChallenge authType (← get).username)
  ofResult ((response.acceptedFor .sessionChallenge).bind (Challenge.parse ·.payload))

def activateSession (challenge : Field) (initial : UInt32) : Op Activation := do
  let s ← get
  let response ← manage (.activateSession s.authType s.config.privilege challenge initial)
  ofResult ((response.acceptedFor .activateSession).bind (Activation.parse ·.payload))

/-- Asks for a privilege level: the level granted. An answer without a level grants
the one that was asked for. -/
def setPrivilege (level : Privilege) : Op Privilege := do
  let response ← manage (.setPrivilege level)
  let accepted ← ofResult (response.acceptedFor .setPrivilege)
  return (accepted.payload.head?.bind Privilege.ofCode?).getD level

def closeSession (sessionId : UInt32) : Op Unit := do
  let response ← manage (.closeSession sessionId)
  let _ ← ofResult (response.acceptedFor .closeSession)

end Session
end Baseboard
