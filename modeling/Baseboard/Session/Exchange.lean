import Baseboard.Session.Basic
import Baseboard.Session.Reply

/-! One request and its answer within a session. -/
namespace Baseboard

namespace Standing

/-- The authentication type of the frame for a command: the session's own from the
request for activation on, as far as the policy signs. -/
def frameAuth (s : Standing) (command : UInt8) : AuthType :=
  match s.phase with
  | .challengeIssued => if command = AppCommand.activateSession.code then s.authType else .none
  | .active => if s.policy.signs s.privilege then s.authType else .none
  | _ => .none

/-- The session sequence number of the next frame. Only an active session counts. -/
def frameSequence (s : Standing) : UInt32 :=
  if s.phase = .active then s.outboundSequence else 0

def message (s : Standing) (request : Request) (route : Route) : Bytes :=
  route.enclose (request.numbered s.requestSequence)

def packet (s : Standing) (request : Request) (route : Route) : Except Error Packet := do
  let auth := s.frameAuth request.command
  let message := s.message request route
  let code ← authCode auth s.password s.sessionId message s.frameSequence
  let header ← SessionHeader.make auth s.frameSequence s.sessionId message.length
  return ⟨{ header with authCode := code }, message⟩

def expectation (s : Standing) (request : Request) (route : Route) : Expectation where
  frameAuth := s.frameAuth request.command
  rejectUnauthenticated := s.config.rejectUnauthenticated
  depth := route.depth
  command := request.command
  sequence := s.requestSequence

/-- The standing after an exchange that took part in the session's numbering. -/
def advanced (s : Standing) : Standing :=
  { s with
    outboundSequence := nextSequence s.outboundSequence
    requestSequence := (s.requestSequence + 1) &&& 0x3F }

/-- The standing after an answer in a frame with sequence number `n`. -/
def answered (s : Standing) (n : UInt32) (advances : Bool) : Standing :=
  let s := if s.phase = .active then { s with inboundSequence := n } else s
  if advances then s.advanced else s

end Standing

namespace Session

/-- How an exchange is carried out. -/
structure Manner where
  tries : Nat
  /-- Whether the caller can cancel it. -/
  cancellable : Bool
  /-- Whether it takes part in the session's numbering. -/
  advances : Bool
  deriving DecidableEq, Repr

/-- Sends a request along a route and waits for its answer. The counters move only
when there is one. -/
def exchange (request : Request) (route : Route) (manner : Manner) : Op Response := do
  let s ← get
  let packet ← ofResult (s.packet request route)
  expectLink
  let cancel := if manner.cancellable then some s.token else none
  let (response, number) ← usingLink (.request request route)
    (Link.exchange (s.expectation request route).accept cancel packet.encode s.config.timeout
      manner.tries)
  revise fun s => s.answered number manner.advances
  return response

/-- An exchange that manages the session. It always goes to the controller of the
session itself. -/
def manage (request : Request) : Op Response := do
  let s ← get
  exchange request (Route.direct s.config.controller) ⟨s.config.maxTries, true, true⟩

end Session
end Baseboard
