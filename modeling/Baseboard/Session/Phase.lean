/-! The phases of a session's life. -/
namespace Baseboard

/-- How far a session has come. -/
inductive Phase where
  | unconnected
  | socketOpen
  | bound
  | pingSent
  | pongReceived
  | challengeIssued
  | active
  | closed
  deriving DecidableEq, Repr

def Phase.name : Phase → String
  | unconnected => "Init"
  | socketOpen => "SockOpen"
  | bound => "Bound"
  | pingSent => "PingSent"
  | pongReceived => "PongReceived"
  | challengeIssued => "ChallengeIssued"
  | active => "Active"
  | closed => "Closed"

end Baseboard
