import Baseboard.Bridge
import Baseboard.Packet

/-! Which datagrams answer an outstanding request. Everything malformed or
unrelated is passed over, so that the wait for the answer goes on. -/
namespace Baseboard

/-- What the sender of a request waits for. -/
structure Expectation where
  /-- The authentication type of the request's frame. -/
  frameAuth : AuthType
  /-- Whether an answer without authentication to an authenticated frame is an error. -/
  rejectUnauthenticated : Bool
  /-- The number of envelopes that the request was put into. -/
  depth : Nat
  command : UInt8
  sequence : UInt8
  deriving DecidableEq, Repr

namespace Expectation

/-- Whether a response from inside the envelopes answers the request. A controller
on the way refuses under the command to send on. -/
def answeredBy (e : Expectation) (r : Response) : Bool :=
  r.sequence == e.sequence &&
    (r.command == e.command || (0 < e.depth && r.command == AppCommand.sendMessage.code))

/-- The answer in the message of a packet, with the packet's sequence number. -/
def matchPacket (e : Expectation) (p : Packet) : Except Error (Option (Response × UInt32)) := do
  if e.frameAuth ≠ .none ∧ !p.header.isAuthenticated ∧ e.rejectUnauthenticated then
    throw .unauthenticatedReply
  match ← (← Response.parse p.payload).disclose e.depth with
  | .answer r => return if e.answeredBy r then some (r, p.header.sequence) else none
  | .acknowledgement | .unrelated => return none

def matchDatagram (e : Expectation) (b : Bytes) : Except Error (Option (Response × UInt32)) :=
  match Packet.decode b with
  | .ok p => e.matchPacket p
  | .error (.unexpectedClass _) => .ok none
  | .error error => .error error

/-- The answer in a datagram. Malformed datagrams are passed over. -/
def accept (e : Expectation) (b : Bytes) : Except Error (Option (Response × UInt32)) :=
  match e.matchDatagram b with
  | .ok answer => .ok answer
  | .error .unauthenticatedReply => .error .unauthenticatedReply
  | .error .overrun => .error .overrun
  | .error _ => .ok none

end Expectation
end Baseboard
