import Baseboard.Error
import Baseboard.Network
import Baseboard.Time

/-! The link: sends a frame until it is answered. Every send starts a try of
limited length; within a try, datagrams that do not answer the frame are passed over
and the wait goes on. A wait is made of short slices, so that cancellation is noticed. -/
namespace Baseboard

/-- What carries the frames of a link. A socket waits for a millisecond at least, since a
wait of zero would have no end there, and its failures are worded by the system. -/
inductive Carrier where
  | plain
  | socket
  deriving DecidableEq, Repr

namespace Carrier

/-- The wait that is asked of the network for a given one. -/
def wait : Carrier → Nat → Nat
  | plain, w => w
  | socket, w => max w millisecond

theorem le_wait (c : Carrier) (w : Nat) : w ≤ c.wait w := by
  cases c with
  | plain => exact Nat.le_refl w
  | socket => exact Nat.le_max_left w millisecond

/-- The system's words for a failed operation on a socket. -/
def systemText (e : IoFailure) : String :=
  match e.kind with
  | .connectionRefused => "Connection refused (os error 111)"
  | .connectionReset => "Connection reset by peer (os error 104)"
  | .connectionAborted => "Software caused connection abort (os error 103)"
  | .permissionDenied => "Permission denied (os error 13)"
  | .interrupted => "Interrupted system call (os error 4)"
  | .timedOut | .wouldBlock => "Resource temporarily unavailable (os error 11)"
  | .other => e.text

def report (c : Carrier) (e : IoFailure) : IoFailure :=
  match c with
  | plain => e
  | socket => ⟨e.kind, systemText e⟩

end Carrier

/-- How often a link sent, how often a receive failed for no fault of the frame in
hand, and how many tries ran out. -/
structure Stats where
  sends : Nat := 0
  receiveRetries : Nat := 0
  timeouts : Nat := 0
  deriving DecidableEq, Repr

/-- One end of a connection. -/
structure Link where
  carrier : Carrier
  stats : Stats
  network : Network

namespace Link

def ofNetwork (carrier : Carrier) (network : Network) : Link := ⟨carrier, {}, network⟩

def countSend (l : Link) : Link := { l with stats.sends := l.stats.sends + 1 }

def countRetry (l : Link) : Link := { l with stats.receiveRetries := l.stats.receiveRetries + 1 }

def countTimeout (l : Link) : Link := { l with stats.timeouts := l.stats.timeouts + 1 }

/-- Whether a token, if there is one, has been cancelled. -/
def isCancelled (l : Link) : Option CancelToken → Bool
  | some token => l.network.isCancelled token
  | none => false

def send (l : Link) (frame : Bytes) : Except IoFailure Unit × Link :=
  let result := l.network.send frame
  (result.1.mapError l.carrier.report, { l with network := result.2 })

def receive (l : Link) (wait : Nat) : Except IoFailure Bytes × Link :=
  let result := l.network.receive (l.carrier.wait wait)
  (result.1.mapError l.carrier.report, { l with network := result.2 })

/-- A receive uses up what bounds the wait, also when the carrier draws it out. -/
theorem patience_receive_lt (l : Link) {wait deadline : Nat} (hpos : 0 < wait)
    (htime : l.network.now < deadline) :
    (l.receive wait).2.network.patience deadline < l.network.patience deadline :=
  l.network.patience_receive_lt (Nat.lt_of_lt_of_le hpos (l.carrier.le_wait wait)) htime

/-- What an exchange does with a datagram: takes it for the answer, passes it
over, or gives up. -/
abbrev Acceptor (α : Type) := Bytes → Except Error (Option α)

/-- How long a receive is to wait at most when some time is left of a try. -/
structure Pace where
  wait : Nat → Nat
  pos {left : Nat} : 0 < left → 0 < wait left

/-- The length of the slices that waits are made of. -/
structure Slice where
  length : Nat
  pos : 0 < length := by decide

/-- A receive waits for a slice, or for all that is left if that is less. -/
def Slice.pace (slice : Slice) : Pace where
  wait left := min left slice.length
  pos h := Nat.lt_min.mpr ⟨h, slice.pos⟩

instance : Coe Slice Pace := ⟨Slice.pace⟩

/-- Waits are cut into slices of a tenth of a second. -/
def pollSlice : Slice := { length := 100 * millisecond }

/-- The rest of a try that ends at `deadline`: the answer, or `none` when time runs
out. -/
def awaitAnswer (pace : Pace) (accept : Acceptor α) (cancel : Option CancelToken)
    (deadline : Nat) (l : Link) : EStateM.Result Error Link (Option α) :=
  if l.isCancelled cancel then .error .cancelled l
  else if hd : deadline ≤ l.network.now then .ok none l.countTimeout
  else
    let wait := pace.wait (deadline - l.network.now)
    have hlt : (l.receive wait).2.network.patience deadline < l.network.patience deadline :=
      l.patience_receive_lt (pace.pos (by omega)) (by omega)
    match hr : l.receive wait with
    | (.ok datagram, next) =>
      match accept datagram with
      | .ok (some answer) => .ok (some answer) next
      | .ok none => awaitAnswer pace accept cancel deadline next
      | .error e => .error e next
    | (.error e, next) =>
      if e.isSpurious then awaitAnswer pace accept cancel deadline next.countRetry
      else if e.isTimeout then awaitAnswer pace accept cancel deadline next
      else .error (.receiveFailed e) next
termination_by l.network.patience deadline
decreasing_by all_goals simpa [hr, countRetry] using hlt

/-- The tries that are left. `failure` is the last failed send, and `delivered`
tells whether any send went through. -/
def attempts (pace : Pace) (accept : Acceptor α) (cancel : Option CancelToken) (frame : Bytes)
    (timeout maxTries : Nat) :
    Nat → Option IoFailure → Bool → Link → EStateM.Result Error Link α
  | 0, failure, delivered, l =>
    match failure, delivered with
    | some e, false => .error (.sendFailed e) l
    | _, _ => .error (.noResponse maxTries) l
  | left + 1, failure, delivered, l =>
    if l.isCancelled cancel then .error .cancelled l
    else
      match l.countSend.send frame with
      | (.error e, next) =>
        attempts pace accept cancel frame timeout maxTries left (some e) delivered next
      | (.ok (), next) =>
        match awaitAnswer pace accept cancel (next.network.now + timeout) next with
        | .ok (some answer) after => .ok answer after
        | .ok none after =>
          attempts pace accept cancel frame timeout maxTries left failure true after
        | .error e after => .error e after

/-- Sends `frame` until `accept` takes a datagram for its answer, and waits at a given
pace. -/
def exchangePaced (pace : Pace) (accept : Acceptor α) (cancel : Option CancelToken)
    (frame : Bytes) (timeout tries : Nat) : EStateM Error Link α :=
  attempts pace accept cancel frame timeout (max tries 1) (max tries 1) none false

/-- Sends `frame` until `accept` takes a datagram for its answer: at least once, and
at most `tries` times, with `timeout` nanoseconds for each try. -/
def exchange (accept : Acceptor α) (cancel : Option CancelToken) (frame : Bytes)
    (timeout tries : Nat) : EStateM Error Link α :=
  exchangePaced pollSlice accept cancel frame timeout tries

def sendAndWait (cancel : Option CancelToken) (frame : Bytes) (timeout tries : Nat) :
    EStateM Error Link Bytes :=
  exchange (fun datagram => .ok (some datagram)) cancel frame timeout tries

end Link
end Baseboard
