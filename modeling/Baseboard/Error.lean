import Baseboard.AuthType
import Baseboard.CompletionCode
import Baseboard.IoFailure
import Baseboard.Session.Phase

/-! Everything that can go wrong, and the words for it. -/
namespace Baseboard

/-- What a controller says against a session management request. -/
inductive Refusal where
  | invalidUsername
  | nullUserDisabled
  | noSessionSlot
  | noSlotForUser
  | noSlotForPrivilege
  | sequenceOutOfRange
  | invalidSessionId
  | privilegeExceedsLimit
  | privilegeNotAvailable
  deriving DecidableEq, Repr

def Refusal.message : Refusal → String
  | invalidUsername => "invalid user name"
  | nullUserDisabled => "null user name is not enabled"
  | noSessionSlot => "no session slot available"
  | noSlotForUser => "no session slot available for this user"
  | noSlotForPrivilege => "no session slot available for the requested privilege level"
  | sequenceOutOfRange => "session sequence number out of range"
  | invalidSessionId => "invalid session id"
  | privilegeExceedsLimit => "requested privilege level exceeds user or channel limit"
  | privilegeNotAvailable => "requested privilege level is not available for this user"

/-- Why an operation failed. `overrun`, a read past the end of the data at hand,
is kept apart from the errors of malformed data: no reader may ever give it. -/
inductive Error where
  | bindFailed (cause : IoFailure)
  | connectFailed (peer : String) (cause : IoFailure)
  | cancelled
  | wrongPhase (expected actual : Phase)
  | badChecksum
  | badLength
  | passwordTooLong
  | usernameTooLong
  | rejected (code : CompletionCode)
  | messageTooLong (length : Nat)
  | noCommonAuthType (offered : UInt8)
  | noResponse (tries : Nat)
  | receiveFailed (cause : IoFailure)
  | requestTooLong (length : Nat)
  | tooShort
  | sendFailed (cause : IoFailure)
  | refused (refusal : Refusal)
  | unauthenticatedReply
  | unexpectedClass (messageClass : UInt8)
  | unsupportedAuthType (authType : AuthType)
  | versionTwoRequired
  | overrun
  deriving DecidableEq, Repr

/-- Who has to act on an error. -/
inductive ErrorKind where
  | completion
  | transport
  | authentication
  | contract
  | cancelled
  deriving DecidableEq, Repr

namespace Error

def kind : Error → ErrorKind
  | rejected _ => .completion
  | bindFailed _ | connectFailed _ _ | badChecksum | badLength | messageTooLong _ | noResponse _
  | receiveFailed _ | tooShort | sendFailed _ | unexpectedClass _ => .transport
  | noCommonAuthType _ | refused _ | unauthenticatedReply | unsupportedAuthType _
  | versionTwoRequired => .authentication
  | passwordTooLong | wrongPhase _ _ | usernameTooLong | requestTooLong _ | overrun => .contract
  | cancelled => .cancelled

/-- The completion code of a request that the controller rejected. -/
def completionCode? : Error → Option CompletionCode
  | rejected code => some code
  | _ => none

def message : Error → String
  | bindFailed e => "failed to bind socket: " ++ e.text
  | connectFailed peer e => "failed to connect to " ++ peer ++ ": " ++ e.text
  | cancelled => "operation cancelled"
  | wrongPhase expected actual =>
    "invalid state: expected " ++ expected.name ++ ", got " ++ actual.name
  | badChecksum => "invalid checksum"
  | badLength => "invalid packet length"
  | passwordTooLong => "password longer than 16 bytes"
  | usernameTooLong => "user name longer than 16 bytes"
  | rejected code => "command failed: " ++ code.message
  | messageTooLong length => "message length " ++ toString length ++ " exceeds maximum"
  | noCommonAuthType offered =>
    "no common authentication type (offered mask 0x" ++ Text.hexByte offered ++ ")"
  | noResponse tries => "no response after " ++ toString tries ++ " tries"
  | receiveFailed e => "failed to receive packet: " ++ e.text
  | requestTooLong length => "request data length " ++ toString length ++ " exceeds maximum"
  | tooShort => "response too short"
  | sendFailed e => "failed to send packet: " ++ e.text
  | refused refusal => refusal.message
  | unauthenticatedReply => "reply is not authenticated"
  | unexpectedClass c => "unexpected RMCP message class 0x" ++ Text.hexByte c
  | unsupportedAuthType t => "unsupported authentication type " ++ t.name
  | versionTwoRequired => "BMC requires IPMI v2.0"
  | overrun => "read past the end of the data"

end Error
end Baseboard
