import Baseboard.Session.Commands

/-! Whole sessions in one call: opened, used once and closed. -/
namespace Baseboard

/-- A failure, and the network as it was left. -/
structure Failed where
  error : Error
  network : Network

/-- The network after the owner of a session has let go of it. -/
def Session.released (s : Session) : Network := s.discard.link.network

/-- Connects and activates a session. One that cannot be activated is let go of. -/
def openSession (config : Config) (seeds : Seeds) (network : Network) : Except Failed Session :=
  match Session.unconnected config seeds network with
  | .error e => .error ⟨e, network⟩
  | .ok s =>
    match (do Session.connect; Session.establish : Session.Op Unit) s with
    | .ok () s => .ok s
    | .error e s => .error ⟨e, s.released⟩

/-- Opens a session, uses it, and closes it if the use succeeded: what the use gave
unless anything failed. -/
def withSession (config : Config) (seeds : Seeds) (network : Network) (use : Session.Op α) :
    Except Error α × Network :=
  match openSession config seeds network with
  | .error failed => (.error failed.error, failed.network)
  | .ok s =>
    match (do let a ← use; Session.close; return a : Session.Op α) s with
    | .ok a s => (.ok a, s.released)
    | .error e s => (.error e, s.released)

/-- Whether a chassis status says that the power is on. -/
def powerOn (status : Response) : Bool :=
  match status.payload with
  | b :: _ => b &&& 0x01 != 0
  | [] => false

def chassisPower (config : Config) (seeds : Seeds) (network : Network) :
    Except Error Bool × Network :=
  withSession config seeds network do
    let status ← Session.chassisStatus
    return powerOn status

def controlChassis (config : Config) (action : PowerAction) (seeds : Seeds) (network : Network) :
    Except Error Unit × Network :=
  withSession config seeds network do
    let _ ← Session.chassisControl action

end Baseboard
