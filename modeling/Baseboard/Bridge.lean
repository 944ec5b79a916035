import Baseboard.Response

/-! Bridging: a request for a controller that the session cannot reach travels
inside requests to send it on, and its answer comes back inside their answers. -/
namespace Baseboard

/-- Where a request goes: from the controller of the session to a target on one of
its channels, perhaps by way of another controller. -/
structure Route where
  controller : UInt8
  target : UInt8
  channel : UInt8
  transit : Option (UInt8 × UInt8)
  deriving DecidableEq, Repr

/-- One request to send on. -/
structure Envelope where
  responder : UInt8
  requester : UInt8
  channel : UInt8
  deriving DecidableEq, Repr

namespace Route

def direct (controller : UInt8) : Route := ⟨controller, controller, 0, none⟩

/-- How many envelopes a route needs. A transit by way of the controller of the
session itself is none. -/
def depth (r : Route) : Nat :=
  if r.target = r.controller then 0
  else
    match r.transit with
    | some (address, _) => if address = r.controller then 1 else 2
    | none => 1

/-- The envelopes around a request, innermost first. -/
def envelopes (r : Route) : List Envelope :=
  match r.depth, r.transit with
  | 0, _ => []
  | 2, some (address, channel) =>
    [⟨address, r.controller, r.channel⟩, ⟨r.controller, remoteSoftware, channel⟩]
  | _, _ => [⟨r.controller, remoteSoftware, r.channel⟩]

@[simp] theorem length_envelopes (r : Route) : r.envelopes.length = r.depth := by
  obtain ⟨controller, target, channel, transit⟩ := r
  by_cases ht : target = controller
  · simp [envelopes, depth, ht]
  · cases transit with
    | none => simp [envelopes, depth, ht]
    | some via => by_cases hv : via.1 = controller <;> simp [envelopes, depth, ht, hv]

/-- The request to send a message on, which bears the number of the request inside. -/
def sealed (sequence : UInt8) (message : Bytes) (e : Envelope) : Request :=
  (((Request.sendMessage e.channel message).addressedTo e.responder).askedBy e.requester).numbered
    sequence

/-- The request as it reaches the target: one that is sent on comes from the
controller. -/
def addressed (r : Route) (request : Request) : Request :=
  let request := request.addressedTo r.target
  if r.depth = 0 then request else request.askedBy r.controller

def enclose (r : Route) (request : Request) : Bytes :=
  r.envelopes.foldl (fun message e => (sealed request.sequence message e).encode)
    (r.addressed request).encode

end Route

/-- The request inside a number of envelopes, of which `r` is the outermost. -/
def Request.within (r : Request) : Nat → Except Error Request
  | 0 => .ok r
  | depth + 1 => do
    if !r.isSendMessage || r.payload.isEmpty then throw .badLength
    within (← parse (← Reading.suffix r.payload 1)) depth

/-- The request that a message holds inside a number of envelopes. -/
def Request.disclose (message : Bytes) (depth : Nat) : Except Error Request := do
  within (← parse message) depth

/-- What a response to a bridged request is. -/
inductive Disclosure where
  /-- The answer of the target, or the refusal of a controller on the way. -/
  | answer (r : Response)
  /-- The request was sent on, and its answer is still to come. -/
  | acknowledgement
  /-- The response answers no bridged request. -/
  | unrelated
  deriving DecidableEq, Repr

def Response.disclose (r : Response) : Nat → Except Error Disclosure
  | 0 => .ok (.answer r)
  | depth + 1 => do
    if r.netFn ≠ NetworkFunction.app.response ∨ r.command ≠ AppCommand.sendMessage.code then
      return .unrelated
    if r.code ≠ .completed then return .answer r
    if r.payload.isEmpty then return .acknowledgement
    disclose (← parse r.payload) depth

/-- The answer of a bridging controller to `request`, around the response that
came back from the target. -/
def Response.enclose (inner : Response) (request : Request) : Response :=
  reply request .completed (some inner.encode)

end Baseboard
