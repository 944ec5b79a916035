import Baseboard.Bytes
import Baseboard.IoFailure

/-! The world outside a session as a value: what the peer will do, the clock, and
a record of what was done. Whatever happens over the network is a function of this
value, so a run can be repeated and compared with another. -/
namespace Baseboard

/-- How the wait for an arrival ends. -/
inductive Arrival where
  | datagram (bytes : Bytes)
  | failure (cause : IoFailure)
  | nothing
  deriving DecidableEq, Repr

/-- Something that happens at the receiving end, `delay` nanoseconds after the
receiver starts to wait for it. It may also be the moment at which the caller
cancels. -/
structure Event where
  delay : Nat
  cancels : Bool
  arrival : Arrival
  deriving DecidableEq, Repr

/-- What becomes of a frame that is sent: the peer brings about some events, or
the frame cannot be sent. -/
inductive Delivery where
  | accepted (events : List Event)
  | failed (cause : IoFailure)
  deriving DecidableEq, Repr

/-- One use of the network. -/
inductive Action where
  | sent (frame : Bytes)
  | sendFailed (frame : Bytes) (cause : IoFailure)
  | received (wait : Nat) (outcome : Except IoFailure Bytes)

/-- The network as seen from one end. -/
structure Network where
  /-- What becomes of the frames to come. Frames beyond the end are accepted and
  bring about nothing. -/
  script : List Delivery
  /-- The events that have been brought about and not yet received. -/
  pending : List Event := []
  /-- The time in nanoseconds. -/
  now : Nat := 0
  /-- Whether the caller has cancelled the token in hand. -/
  cancelRequested : Bool := false
  /-- Why no socket can be opened, if none can. -/
  bindFailure : Option IoFailure := none
  /-- Why no peer can be connected to, if none can. -/
  connectFailure : Option IoFailure := none
  /-- What was done so far, oldest first. -/
  trace : List Action := []

/-- Cancels whatever is under way when the caller asks for it, or at a deadline. -/
structure CancelToken where
  deadline : Option Nat := none
  deriving DecidableEq, Repr

namespace Network

/-- The longest datagram that is received whole. -/
def bufferLength : Nat := 1024

/-- The network after some time has passed. -/
def elapse (n : Network) (time : Nat) : Network := { n with now := n.now + time }

def cancel (n : Network) : Network := { n with cancelRequested := true }

def enqueue (n : Network) (events : List Event) : Network :=
  { n with pending := n.pending ++ events }

def record (n : Network) (a : Action) : Network := { n with trace := n.trace ++ [a] }

def isCancelled (n : Network) (token : CancelToken) : Bool :=
  n.cancelRequested ||
    match token.deadline with
    | some deadline => deadline ≤ n.now
    | none => false

/-- A token that is cancelled when some time has passed from now. -/
def tokenAfter (n : Network) (time : Nat) : CancelToken := ⟨some (n.now + time)⟩

/-- Hands a frame over. This takes no time, and the caller does not cancel meanwhile:
the clock moves, and cancellations fall, only while the receiver waits or between uses
of the network. -/
def send (n : Network) (frame : Bytes) : Except IoFailure Unit × Network :=
  match n.script with
  | [] => (.ok (), n.record (.sent frame))
  | .accepted events :: rest =>
    (.ok (), ({ n with script := rest }.enqueue events).record (.sent frame))
  | .failed e :: rest => (.error e, { n with script := rest }.record (.sendFailed frame e))

def Arrival.outcome : Arrival → Except IoFailure Bytes
  | .datagram bytes => .ok (bytes.take bufferLength)
  | .failure e => .error e
  | .nothing => .error .noArrival

/-- Waits for the next event. When it does not happen in time it stays pending,
nearer by the time waited. -/
def await (n : Network) (wait : Nat) : Except IoFailure Bytes × Network :=
  match n.pending with
  | [] => (.error .noArrival, n.elapse wait)
  | e :: rest =>
    if wait < e.delay then
      (.error .noArrival,
        { n with pending := { e with delay := e.delay - wait } :: rest }.elapse wait)
    else
      let n := { n with pending := rest }.elapse e.delay
      (Arrival.outcome e.arrival, if e.cancels then n.cancel else n)

def receive (n : Network) (wait : Nat) : Except IoFailure Bytes × Network :=
  let result := n.await wait
  (result.1, result.2.record (.received wait result.1))

def sentFrames (n : Network) : List Bytes :=
  n.trace.filterMap fun
    | .sent frame => some frame
    | _ => none

def waits (n : Network) : List Nat :=
  n.trace.filterMap fun
    | .received wait _ => some wait
    | _ => none

def receivedDatagrams (n : Network) : List Bytes :=
  n.trace.filterMap fun
    | .received _ (.ok datagram) => some datagram
    | _ => none

/-- What bounds the rest of a wait until `deadline`: the events to come and the
time left. -/
def patience (n : Network) (deadline : Nat) : Nat := n.pending.length + (deadline - n.now)

@[simp] theorem patience_record (n : Network) (a : Action) (deadline : Nat) :
    (n.record a).patience deadline = n.patience deadline := rfl

/-- Every wait that is not empty, and begins before the deadline, uses up an event or
some of the time left. -/
theorem patience_await_lt (n : Network) {wait deadline : Nat} (hpos : 0 < wait)
    (htime : n.now < deadline) : (n.await wait).2.patience deadline < n.patience deadline := by
  unfold await
  split
  · simp only [elapse, patience]
    omega
  · rename_i e rest hp
    split
    · simp only [elapse, patience, hp, List.length_cons]
      omega
    · cases e.cancels <;>
      · simp only [elapse, cancel, patience, hp, List.length_cons, if_true, if_false,
          Bool.false_eq_true]
        omega

theorem patience_receive_lt (n : Network) {wait deadline : Nat} (hpos : 0 < wait)
    (htime : n.now < deadline) :
    (n.receive wait).2.patience deadline < n.patience deadline := by
  simpa [receive] using n.patience_await_lt hpos htime

end Network
end Baseboard
