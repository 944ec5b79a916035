import Baseboard.Session.Lifecycle

/-! Commands of an active session. -/
namespace Baseboard.Session

/-- Sends a request along a route. A request to send on that is not put into an
envelope of its own is passed through as it is and does not count. A session whose
command is cancelled ends. -/
def dispatch (request : Request) (route : Route) : Op Response := do
  expect .active
  let s ← get
  let advances := !(route.depth = 0 && request.isSendMessage)
  match ← attempt (exchange request route ⟨s.config.maxTries, true, advances⟩) with
  | .ok response => return response
  | .error .cancelled => do
    abort
    throw .cancelled
  | .error e => throw e

def command (request : Request) : Op Response := do
  let config := (← get).config
  dispatch request (config.route config.targetAddress config.targetChannel)

/-- The longest data of a request. -/
def longestData : Nat := 255

/-- Sends any command to any target. The response is returned whatever its
completion code. -/
def raw (netFn unit target channel command : UInt8) (data : Bytes) : Op Response := do
  if longestData < data.length then throw (.requestTooLong data.length)
  let config := (← get).config
  dispatch (Request.raw netFn unit command (if data.isEmpty then none else some data))
    (config.route target channel)

/-- Sends a request to the configured target and expects it to be carried out. -/
def require (request : Request) : Op Response := do
  ofResult (← command request).accepted

def deviceId : Op Response := require .deviceId

def chassisStatus : Op Response := require .chassisStatus

def chassisControl (action : PowerAction) : Op Response := require (.chassisControl action)

end Baseboard.Session
