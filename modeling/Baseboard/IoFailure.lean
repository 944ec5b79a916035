/-! Failures of the system below the session: of sockets, sends and receives. -/
namespace Baseboard

/-- The kinds of failure that the link tells apart or passes on. -/
inductive IoKind where
  | connectionRefused
  | connectionReset
  | connectionAborted
  | permissionDenied
  | interrupted
  | timedOut
  | wouldBlock
  | other
  deriving DecidableEq, Repr

/-- A failure with the system's own words for it. -/
structure IoFailure where
  kind : IoKind
  text : String
  deriving DecidableEq, Repr

namespace IoFailure

def noArrival : IoFailure := ⟨.timedOut, "timed out"⟩

/-- A port-unreachable notice that belongs to an earlier datagram surfaces as one
of these two. -/
def isSpurious (e : IoFailure) : Bool :=
  e.kind = .connectionReset ∨ e.kind = .connectionRefused

/-- Whether the failure only says that nothing has arrived yet. -/
def isTimeout (e : IoFailure) : Bool :=
  e.kind = .timedOut ∨ e.kind = .wouldBlock

end IoFailure
end Baseboard
