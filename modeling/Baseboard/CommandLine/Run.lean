import Baseboard.CommandLine.Invocation
import Baseboard.OneShot

/-! What the program does: the lines it prints and how it ends. -/
namespace Baseboard.CommandLine

/-- Why the program failed: a name that means nothing, or a failed session. -/
inductive Failure where
  | unknownName (text : String)
  | session (error : Error)
  deriving DecidableEq, Repr

def Failure.message : Failure → String
  | unknownName text => text
  | session error => error.message

/-- What a run of the program comes to. -/
structure Report where
  lines : List String
  result : Except Failure Unit
  network : Network

/-- A name looked up, or the name itself when it means nothing. -/
def named (lookup : String → Option α) (text : String) : Except Failure α :=
  match lookup text with
  | some value => .ok value
  | none => .error (.unknownName text)

def Settings.config (s : Settings) : Except Failure Config := do
  let base : Config := { host := s.host }
  let authType ← s.auth.mapM (named AuthType.ofName?)
  let privilege ← s.privilege.mapM (named Privilege.ofName?)
  return { base with
    username := s.username
    password := s.password
    port := s.port.getD base.port
    authType := authType
    privilege := privilege.getD base.privilege
    target := s.target.map (·, s.channel)
    transit := s.transit.map (·, s.transitChannel)
    timeout := (s.timeout.map (· * second)).getD base.timeout
    retries := s.retries.getD base.retries
    ping := if s.ping then .require else base.ping
    xorVendors := s.vendors }

def powerLine (on : Bool) : String := if on then "power on." else "power off."

/-- The lines about a device. A shorter answer has no lines. -/
def deviceLines (data : Bytes) : List String :=
  match data with
  | id :: revision :: major :: minor :: version :: _ :: _ => [
    "Device ID          : " ++ toString id.toNat,
    "Device Revision    : " ++ toString (revision &&& 0x0F).toNat,
    "Firmware Revision  : " ++ toString (major &&& 0x7F).toNat ++ "." ++ Text.hexByte minor,
    "IPMI Version       : " ++ toString (version &&& 0x0F).toNat ++ "." ++
      toString (version >>> 4).toNat]
  | _ => []

def rawLines (r : Response) : List String :=
  ["completion code: " ++ r.code.message, " ".intercalate (r.payload.map Text.hexByte)]

def pongLine (p : Presence.Pong) : String :=
  "pong: iana " ++ toString p.enterprise.toNat ++ ", ipmi " ++
    (if p.supportsSessions then "supported" else "not supported")

/-- The report of a session in which `use` gives the lines. They are printed only
if the session closes. -/
def Report.ofSession (config : Config) (seeds : Seeds) (network : Network)
    (use : Session.Op (List String)) : Report :=
  match withSession config seeds network use with
  | (.ok lines, after) => ⟨lines, .ok (), after⟩
  | (.error e, after) => ⟨[], .error (.session e), after⟩

/-- The report about a device. Its lines are printed before the session closes. -/
def deviceReport (config : Config) (seeds : Seeds) (network : Network) : Report :=
  match openSession config seeds network with
  | .error failed => ⟨[], .error (.session failed.error), failed.network⟩
  | .ok s =>
    match Session.deviceId s with
    | .error e s => ⟨[], .error (.session e), s.released⟩
    | .ok response s =>
      match Session.close s with
      | .error e s => ⟨deviceLines response.payload, .error (.session e), s.released⟩
      | .ok () s => ⟨deviceLines response.payload, .ok (), s.released⟩

def pingReport (config : Config) (seeds : Seeds) (network : Network) : Report :=
  match Session.unconnected config seeds network with
  | .error e => ⟨[], .error (.session e), network⟩
  | .ok s =>
    match (do Session.connect; Session.ping : Session.Op Presence.Pong) s with
    | .error e s => ⟨[], .error (.session e), s.released⟩
    | .ok pong s => ⟨[pongLine pong], .ok (), s.released⟩

/-- What an invocation needs besides the network: the session to open, and the power
action to take if it takes one. -/
def Invocation.run (i : Invocation) (seeds : Seeds) (network : Network) : Report :=
  let planned : Except Failure Report := do
    match i with
    | .chassisStatus settings =>
      return .ofSession (← settings.config) seeds network do
        return [powerLine (powerOn (← Session.chassisStatus))]
    | .chassisControl settings action => do
      let action ← named PowerAction.ofName? action
      return .ofSession (← settings.config) seeds network do
        let _ ← Session.chassisControl action
        return []
    | .deviceInfo settings => return deviceReport (← settings.config) seeds network
    | .raw settings netFn unit command data => do
      let config ← settings.config
      return .ofSession config seeds network do
        let response ← Session.raw netFn unit config.targetAddress config.targetChannel command data
        return rawLines response
    | .ping host port =>
      let config : Config := { host := host }
      return pingReport { config with port := port.getD config.port } seeds network
  match planned with
  | .ok report => report
  | .error failure => ⟨[], .error failure, network⟩

end Baseboard.CommandLine
