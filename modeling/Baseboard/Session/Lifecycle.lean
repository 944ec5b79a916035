import Baseboard.Presence
import Baseboard.Session.Management

/-! From the first connection of a session to its end. -/
namespace Baseboard

namespace Standing

def withCapabilities (s : Standing) (c : Capabilities) (authType : AuthType) : Standing :=
  { s with
    authType := authType
    policy := .ofCapabilities c
    transform := .forCapabilities c s.config.xorVendors
    capabilities := some c }

def challenged (s : Standing) (c : Challenge) : Standing :=
  { s with sessionId := c.sessionId, phase := .challengeIssued }

/-- The standing of an active session. The controller says which authentication
type it goes on with, and from which number it counts the frames that it receives. -/
def activated (s : Standing) (a : Activation) : Standing :=
  { s with
    authType := a.authType?.getD s.authType
    sessionId := a.sessionId
    outboundSequence := nonzero a.inboundSequence
    privilege := .user
    phase := .active }

/-- The standing of a session that could not be activated. -/
def rebound (s : Standing) : Standing := { s with sessionId := 0, phase := .bound }

/-- The standing of a session that has ended. Its id is forgotten. -/
def ended (s : Standing) : Standing := { s with sessionId := 0, phase := .closed }

end Standing

namespace Session

def connect : Op Unit := do
  expect .unconnected
  let s ← get
  match s.link.network.bindFailure with
  | some e => throw (.bindFailed e)
  | none => enter .socketOpen
  match s.link.network.connectFailure with
  | some e => throw (.connectFailed s.config.peer e)
  | none => revise fun s => { s with connected := true, phase := .bound }

/-- The pong with a given tag in a datagram, if it is one. -/
def acceptPong (tag : UInt8) : Link.Acceptor Presence.Pong := fun datagram =>
  match Presence.Pong.parse datagram with
  | .ok (some pong) => .ok (if pong.tag = tag then some pong else none)
  | .ok none => .ok none
  | .error .overrun => .error .overrun
  | .error _ => .ok none

/-- Looks for the controller. A session that found it is not bound any more; one
that did not can look again. -/
def ping : Op Presence.Pong := do
  expect .bound
  let s ← get
  enter .pingSent
  expectLink
  let outcome ← attempt (usingLink (.presence s.pingTag)
    (Link.exchange (acceptPong s.pingTag) (some s.token) (Presence.ping s.pingTag)
      s.config.pingTimeout s.config.maxTries))
  match outcome with
  | .ok pong => do
    enter .pongReceived
    return pong
  | .error e => do
    enter .bound
    throw e

/-- Ends the session without waiting for more than one answer and whether or not
the caller has cancelled. It never fails: a controller that does not answer is left
to itself. -/
def abort : Op Unit := do
  let s ← get
  if s.phase = .active then
    let _ ← attempt do
      let response ← exchange (.closeSession s.sessionId) (Route.direct s.config.controller)
        ⟨1, false, true⟩
      ofResult response.accepted
  revise Standing.ended

/-- Asks for the configured privilege level. A failure is kept in the session, which
stays active. -/
def raisePrivilege : Op Unit := do
  match ← attempt (setPrivilege (← get).config.privilege) with
  | .ok level => revise fun s => { s with privilege := level }
  | .error .cancelled => throw .cancelled
  | .error e => revise fun s => { s with privilegeError := some e }

/-- Finds out what the controller supports, and activates a session that suits. -/
def handshake : Op Unit := do
  let capabilities ← authCapabilities
  let authType ← ofResult (capabilities.negotiate (← get).config.authType)
  revise fun s => s.withCapabilities capabilities authType
  let challenge ← sessionChallenge authType
  revise fun s => s.challenged challenge
  let s ← get
  let activation ← activateSession (s.transform.apply challenge.bytes s.password) s.outboundSequence
  revise fun s => s.activated activation
  raisePrivilege

/-- The search for the controller that the configuration asks for. -/
def pingByPolicy : Op Unit := do
  match (← get).config.ping with
  | .skip => pure ()
  | .tolerate =>
    match ← attempt ping with
    | .error .cancelled => throw .cancelled
    | _ => pure ()
  | .require => let _ ← ping

/-- Makes a bound session active. A session that could not be activated is bound
again; one whose activation was cancelled is closed. -/
def establish : Op Unit := do
  expect .bound
  pingByPolicy
  match ← attempt handshake with
  | .ok () => pure ()
  | .error .cancelled => do
    abort
    throw .cancelled
  | .error e => do
    revise Standing.rebound
    throw e

/-- Ends an active session. Its id is forgotten even when the controller does not
answer. Closing a closed session does nothing. -/
def close : Op Unit := do
  let s ← get
  if s.phase = .closed then return
  expect .active
  let outcome ← attempt (closeSession s.sessionId)
  revise Standing.ended
  ofResult outcome

/-- The session when its owner lets go of it: an active one is ended first. -/
def discard (s : Session) : Session :=
  if s.phase = .active then
    match abort s with
    | .ok _ next => next
    | .error _ next => next
  else s

end Session
end Baseboard
