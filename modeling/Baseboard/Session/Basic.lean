import Baseboard.AuthCode
import Baseboard.Challenge
import Baseboard.Config
import Baseboard.Link
import Baseboard.Packet

/-! Sessions: their state, and the small steps that operations are made of. -/
namespace Baseboard

/-- The random values that a session draws. -/
structure Seeds where
  /-- Where the outbound sequence numbers start. -/
  sequence : UInt32
  /-- The tag of the session's pings: all of them carry the same one. -/
  pingTag : UInt8
  deriving DecidableEq, Repr

/-- How a session stands: everything about it but its link. -/
structure Standing where
  config : Config
  phase : Phase
  /-- Whether the link has been connected. Until then it cannot be used. -/
  connected : Bool
  token : CancelToken
  username : Field
  password : Field
  pingTag : UInt8
  authType : AuthType
  policy : SigningPolicy
  transform : ChallengeTransform
  privilege : Privilege
  /-- Why the working privilege level could not be set, if it could not. -/
  privilegeError : Option Error
  capabilities : Option Capabilities
  sessionId : UInt32
  outboundSequence : UInt32
  inboundSequence : UInt32
  requestSequence : UInt8
  deriving DecidableEq, Repr

/-- What a session uses its link for: to look for the controller, or to have a
request carried out. -/
inductive Purpose where
  | presence (tag : UInt8)
  | request (request : Request) (route : Route)
  deriving DecidableEq, Repr

/-- One use of the link: how the session stood, what it wanted, what was done over
the network, and why nothing came of it, if nothing did. -/
structure Use where
  standing : Standing
  purpose : Purpose
  actions : List Action
  failure : Option Error

/-- A session with one controller. Sequence numbers and authentication codes chain
one exchange to the next, so a session serves one caller at a time. -/
structure Session extends Standing where
  link : Link
  /-- What the link was used for so far, oldest first. -/
  uses : List Use := []

/-- A sequence number, or one in place of zero, which is no sequence number. -/
def nonzero (n : UInt32) : UInt32 := if n = 0 then 1 else n

def nextSequence (n : UInt32) : UInt32 := nonzero (n + 1)

namespace Session

/-- A session before its first exchange. -/
def start (config : Config) (seeds : Seeds) (link : Link) (connected : Bool) (phase : Phase) :
    Except Error Session := do
  config.validate
  return {
    config := config
    phase := phase
    link := link
    connected := connected
    token := {}
    username := Field.fit (Config.textBytes config.username)
    password := Field.fit (Config.textBytes config.password)
    pingTag := seeds.pingTag
    authType := .none
    policy := .perMessage
    transform := .standard
    privilege := .user
    privilegeError := none
    capabilities := none
    sessionId := 0
    outboundSequence := nonzero seeds.sequence
    inboundSequence := 0
    requestSequence := 0 }

/-- A session that has yet to open a socket and connect it. -/
def unconnected (config : Config) (seeds : Seeds) (network : Network) : Except Error Session :=
  start config seeds (Link.ofNetwork .socket network) false .unconnected

def overLink (config : Config) (seeds : Seeds) (link : Link) : Except Error Session :=
  start config seeds link true .bound

/-- An operation on a session. A failed one leaves the session as it had become by
then. -/
abbrev Op := EStateM Error Session

/-- The outcome of an operation as a value. It never fails. -/
def attempt (op : Op α) : Op (Except Error α) := fun s =>
  match op s with
  | .ok a next => .ok (.ok a) next
  | .error e next => .ok (.error e) next

def ofResult (r : Except Error α) : Op α := fun s =>
  match r with
  | .ok a => .ok a s
  | .error e => .error e s

/-- Goes on only in a given phase. -/
def expect (expected : Phase) : Op Unit := fun s =>
  if s.phase = expected then .ok () s else .error (.wrongPhase expected s.phase) s

/-- Goes on only when there is a link to use. -/
def expectLink : Op Unit := fun s =>
  if s.connected then .ok () s else .error (.wrongPhase .bound s.phase) s

def revise (f : Standing → Standing) : Op Unit :=
  modify fun s => { s with toStanding := f s.toStanding }

def enter (phase : Phase) : Op Unit := revise fun s => { s with phase := phase }

/-- The session after a use of its link, which goes on record. -/
def used (s : Session) (purpose : Purpose) (failure : Option Error) (link : Link) : Session :=
  { s with
    link := link
    uses := s.uses ++ [{
      standing := s.toStanding
      purpose := purpose
      actions := link.network.trace.drop s.link.network.trace.length
      failure := failure }] }

def usingLink (purpose : Purpose) (run : EStateM Error Link α) : Op α := fun s =>
  match run s.link with
  | .ok a link => .ok a (s.used purpose none link)
  | .error e link => .error e (s.used purpose (some e) link)

def isCancelled (s : Session) : Bool := s.link.network.isCancelled s.token

def mapNetwork (s : Session) (f : Network → Network) : Session :=
  { s with link.network := f s.link.network }

/-- The session under another token, which may have been cancelled already. What was asked of the
token before it does not matter any more. -/
def withToken (s : Session) (token : CancelToken) (cancelled : Bool) : Session :=
  { s with token := token }.mapNetwork fun n => { n with cancelRequested := cancelled }

end Session
end Baseboard
