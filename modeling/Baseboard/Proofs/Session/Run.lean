import Baseboard.Proofs.Codec.Packet
import Baseboard.Proofs.Session.Exchange
import Mathlib.Logic.Relation

/-! Runs of a session: what its owner may do with it, in any order, and the moves
that these calls are made of. A move turns the session from one standing to another or
uses its link once, and a use of the link is tied to the call that wanted it. -/
namespace Baseboard

/-- What the owner of a session does with it. In between, time may pass, the owner may
cancel, and the peer may send something unasked. -/
inductive Call where
  | connect
  | ping
  | establish
  | command (request : Request)
  | raw (netFn unit target channel command : UInt8) (data : Bytes)
  | close
  | abort
  | discard
  | elapse (time : Nat)
  | cancel
  | enqueue (events : List Event)
  deriving DecidableEq, Repr

/-- The operation of a call, without what it gives. -/
def Call.op : Call → Session.Op Unit
  | .connect => Session.connect
  | .ping => (fun _ => ()) <$> Session.ping
  | .establish => Session.establish
  | .command request => (fun _ => ()) <$> Session.command request
  | .raw netFn unit target channel number data =>
    (fun _ => ()) <$> Session.raw netFn unit target channel number data
  | .close => Session.close
  | .abort => Session.abort
  | .discard => modify Session.discard
  | .elapse time => modify fun s => s.mapNetwork fun n => n.elapse time
  | .cancel => modify fun s => s.mapNetwork Network.cancel
  | .enqueue events => modify fun s => s.mapNetwork fun n => n.enqueue events

/-- The session after a number of calls, whatever their outcomes. -/
def Session.run (s : Session) (calls : List Call) : Session :=
  calls.foldl (fun s call => after call.op s) s

/-- A session that has just been made, under any token. -/
inductive Session.Begun (config : Config) : Session → Prop where
  | unconnected {seeds : Seeds} {network : Network} {s : Session} (token : CancelToken)
      (h : unconnected config seeds network = .ok s) : Begun config { s with token := token }
  | overLink {seeds : Seeds} {link : Link} {s : Session} (token : CancelToken)
      (h : overLink config seeds link = .ok s) : Begun config { s with token := token }

/-- What a request says, however it is addressed and numbered. No data and empty data
say the same. -/
structure Wording where
  netFn : UInt8
  unit : UInt8
  command : UInt8
  data : Bytes
  deriving DecidableEq, Repr

def Request.wording (r : Request) : Wording := ⟨r.netFn, r.unit, r.command, r.payload⟩

/-- Whether a request along a route takes part in the numbering of a session. One that
asks for another message to be sent on, and goes as it is, does not. -/
def Route.counts (route : Route) (r : Request) : Bool := !(route.depth = 0 && r.isSendMessage)

/-- The session has been connected and has not been given a session id. -/
def Phase.Preliminary (p : Phase) : Prop := p = .bound ∨ p = .pongReceived

/-- The requests by which a session is opened, each in its phase. -/
inductive Standing.Opens (s : Standing) : Request → Prop where
  | capabilities {channel : UInt8} (hphase : s.phase.Preliminary)
      (hchannel : channel = 0x8E ∨ channel = 0x0E) :
      Opens s (.authCapabilities channel s.config.privilege)
  | challenge (hphase : s.phase.Preliminary) : Opens s (.sessionChallenge s.authType s.username)
  | activation (challenge : Field) (hphase : s.phase = .challengeIssued) :
      Opens s (.activateSession s.authType s.config.privilege challenge s.outboundSequence)
  | privilege (hphase : s.phase = .active) : Opens s (.setPrivilege s.config.privilege)

/-- Whether a call may end the session of its own accord or because it was cancelled. -/
def Call.mayClose : Call → Bool
  | .establish | .command _ | .raw .. | .close | .abort | .discard => true
  | .connect | .ping | .elapse _ | .cancel | .enqueue _ => false

/-- What a call wants the link for, in a session that stands as `s`. -/
inductive Wanted (s : Standing) : Call → Purpose → Prop where
  | presence {call : Call} (hcall : call = .ping ∨ call = .establish) (hphase : s.phase = .pingSent) :
      Wanted s call (.presence s.pingTag)
  | opening {request : Request} (h : s.Opens request) :
      Wanted s .establish (.request request (.direct s.config.controller))
  | command (request : Request) (hphase : s.phase = .active) :
      Wanted s (.command request)
        (.request request (s.config.route s.config.targetAddress s.config.targetChannel))
  | raw {netFn unit command : UInt8} (target channel : UInt8) {data : Bytes} {request : Request}
      (hphase : s.phase = .active)
      (hwording : request.wording = ⟨netFn % 64, unit % 4, command, data⟩) :
      Wanted s (.raw netFn unit target channel command data)
        (.request request (s.config.route target channel))
  | closing {call : Call} (hcall : call.mayClose = true) (hphase : s.phase = .active) :
      Wanted s call (.request (.closeSession s.sessionId) (.direct s.config.controller))

theorem Wanted.phase_of_presence {s : Standing} {call : Call} {tag : UInt8}
    (h : Wanted s call (.presence tag)) : s.phase = .pingSent := by
  cases h with
  | presence _ hp => exact hp

/-- A closed session wants nothing any more. -/
theorem Wanted.phase_ne_closed {s : Standing} {call : Call} {purpose : Purpose}
    (h : Wanted s call purpose) : s.phase ≠ .closed := by
  cases h with
  | presence _ hp | command _ hp | raw _ _ hp | closing _ hp => rw [hp]; decide
  | opening h =>
    cases h with
    | capabilities hp | challenge hp => rcases hp with hp | hp <;> (rw [hp]; decide)
    | activation _ hp | privilege hp => rw [hp]; decide

/-- How a session comes from one standing to the next by itself. -/
inductive Turn (s : Standing) : Standing → Prop where
  | opened (hphase : s.phase = .unconnected) : Turn s { s with phase := .socketOpen }
  | bound (hphase : s.phase = .socketOpen) : Turn s { s with connected := true, phase := .bound }
  | seeking (hphase : s.phase = .bound) : Turn s { s with phase := .pingSent }
  | sought {phase : Phase} (hphase : s.phase = .pingSent) (hnext : phase.Preliminary) :
      Turn s { s with phase := phase }
  | supports {c : Capabilities} {authType : AuthType} (hphase : s.phase.Preliminary)
      (hauth : c.negotiate s.config.authType = .ok authType) : Turn s (s.withCapabilities c authType)
  | challenged (c : Challenge) (hphase : s.phase.Preliminary) : Turn s (s.challenged c)
  | activated (a : Activation) (hphase : s.phase = .challengeIssued) : Turn s (s.activated a)
  | unprivileged (e : Error) (hphase : s.phase = .active) :
      Turn s { s with privilegeError := some e }
  | rebound (hphase : s.phase.Preliminary ∨ s.phase = .challengeIssued) : Turn s s.rebound
  | ended : Turn s s.ended

/-- Whether a use of the link moves the counters of its session. -/
def Use.advances (u : Use) : Bool :=
  u.failure.isNone &&
    match u.purpose with
    | .presence _ => false
    | .request r route => route.counts r

/-- The counters have moved in the last use of the link. -/
def Session.JustAdvanced (s : Session) : Prop :=
  ∃ earlier use, s.uses = earlier ++ [use] ∧ use.advances = true

/-- One move of a session within a call. -/
inductive Move (call : Call) (s : Session) : Session → Prop where
  | passed {f : Network → Network} (htrace : ∀ n, (f n).trace = n.trace) : Move call s (s.mapNetwork f)
  | turned {t : Standing} (h : Turn s.toStanding t) : Move call s { s with toStanding := t }
  | privileged (level : Privilege) (hphase : s.phase = .active) (hadvanced : s.JustAdvanced) :
      Move call s { s with privilege := level }
  | looked {link : Link} {outcome : Except Error Presence.Pong} (failure : Option Error)
      (hwanted : Wanted s.toStanding call (.presence s.pingTag))
      (h : Link.Recorded (Session.acceptPong s.pingTag) (Presence.ping s.pingTag) s.link outcome link) :
      Move call s (s.used (.presence s.pingTag) failure link)
  | answered {request : Request} {route : Route} {response : Response} {n : UInt32} {link : Link}
      (hwanted : Wanted s.toStanding call (.request request route))
      (h : s.Carried request route (.ok (response, n)) link) :
      Move call s (s.answeredOver request route n (route.counts request) link)
  | failed {request : Request} {route : Route} {e : Error} {link : Link}
      (hwanted : Wanted s.toStanding call (.request request route))
      (h : s.Carried request route (.error e) link) : Move call s (s.failedOver request route e link)

/-- A number of moves within a call. -/
abbrev Path (call : Call) : Session → Session → Prop := Relation.ReflTransGen (Move call)

/-- Whether a session can only be in a phase after it has been connected. -/
def Phase.needsLink : Phase → Bool
  | .unconnected | .socketOpen | .closed => false
  | .bound | .pingSent | .pongReceived | .challengeIssued | .active => true

/-- The link of the session has been connected if the phase calls for it. -/
def Standing.Linked (s : Standing) : Prop := s.phase.needsLink = true → s.connected = true

theorem Phase.Preliminary.needsLink {p : Phase} (h : p.Preliminary) : p.needsLink = true := by
  rcases h with rfl | rfl <;> rfl

theorem Turn.linked {s t : Standing} (h : Turn s t) (hs : s.Linked) : t.Linked := by
  cases h with
  | opened | ended => exact fun h => by cases h
  | bound => exact fun _ => rfl
  | seeking hphase | sought hphase | activated _ hphase | unprivileged _ hphase =>
    exact fun _ => hs (by rw [hphase]; rfl)
  | supports hphase | challenged _ hphase => exact fun _ => hs hphase.needsLink
  | rebound hphase =>
    rcases hphase with hphase | hphase
    · exact fun _ => hs hphase.needsLink
    · exact fun _ => hs (by rw [hphase]; rfl)

namespace Session

variable {s t : Session}

/-- Nothing that a session does by itself or for its owner makes an end of `p`. -/
structure Preserved (p : Standing → Prop) : Prop where
  turn : ∀ {x y : Standing}, Turn x y → p x → p y
  answered : ∀ {x : Standing}, p x → ∀ n advances, p (x.answered n advances)
  privileged : ∀ {x : Standing}, p x → x.phase = .active → ∀ level, p { x with privilege := level }
  retokened : ∀ {x : Standing}, p x → ∀ token, p { x with token := token }

namespace Preserved

variable {p : Standing → Prop} {call : Call}

theorem move (h : Preserved p) (hmove : Move call s t) (hs : p s.toStanding) : p t.toStanding := by
  cases hmove with
  | turned hturn => exact h.turn hturn hs
  | privileged level hphase => exact h.privileged hs hphase level
  | answered => exact h.answered hs _ _
  | passed | looked | failed => exact hs

theorem path (h : Preserved p) (hpath : Path call s t) (hs : p s.toStanding) : p t.toStanding := by
  induction hpath with
  | refl => exact hs
  | tail _ hmove ih => exact h.move hmove ih

end Preserved

theorem linked_preserved : Preserved Standing.Linked where
  turn hturn hs := hturn.linked hs
  answered hs n advances := by
    unfold Standing.Linked
    rw [Standing.answered_eq]
    exact hs
  privileged hs _ _ := hs
  retokened hs _ := hs

/-- The settings of a session that sends every frame once. -/
def sampleConfig : Config := { host := "bmc", timeout := 100 * millisecond, retries := 1 }

/-- A frame that is accepted, and followed by a response at once. -/
def responding (response : Response) : Delivery :=
  .accepted [⟨0, false, .datagram (Packet.plain response.encode).encode⟩]

/-- A controller that lets a session be opened. -/
def opening : List Delivery :=
  let granting (r : Request) (n : UInt8) (data : Bytes) :=
    responding (.reply (r.numbered n) .completed (some data))
  [granting (.authCapabilities 0x8E .administrator) 0 [0x0E, 1, 0, 0, 0, 0, 0, 0],
    granting (.sessionChallenge .none (Field.fit [])) 1 (1 :: List.replicate 19 0),
    granting (.activateSession .none .administrator (Field.fit []) 1) 2
      [0, 1, 0, 0, 0, 1, 0, 0, 0, 4],
    granting (.setPrivilege .administrator) 3 [4]]

/-- Settings without a name and a password are valid. -/
theorem validate_of_anonymous {config : Config} (hname : config.username = "")
    (hpassword : config.password = "") : config.validate = .ok () := by
  rw [Config.validate, hname, hpassword, if_neg (by decide +kernel), if_neg (by decide +kernel)]

theorem sampleConfig_valid : sampleConfig.validate = .ok () := validate_of_anonymous rfl rfl

private theorem isSome_overLink {config : Config} (hvalid : config.validate = .ok ())
    (network : Network) :
    (overLink config ⟨1, 0⟩ (Link.ofNetwork .plain network)).toOption.isSome = true := by
  unfold overLink start
  rw [hvalid]
  rfl

private theorem overLink_sampleConfig (network : Network) :
    (overLink sampleConfig ⟨1, 0⟩ (Link.ofNetwork .plain network)).toOption.isSome = true :=
  isSome_overLink sampleConfig_valid network

private theorem eq_ok_of_isSome {x : Except Error Session} (h : x.toOption.isSome = true) :
    x = .ok (x.toOption.get h) := by
  cases x with
  | ok s => rfl
  | error e => cases h

/-- A session that has just been made, over a network that follows a script. -/
def scripted (config : Config) (hvalid : config.validate = .ok ()) (script : List Delivery) : Session :=
  { (overLink config ⟨1, 0⟩ (Link.ofNetwork .plain { script := script })).toOption.get
      (isSome_overLink hvalid _) with token := {} }

theorem scripted_begun {config : Config} (hvalid : config.validate = .ok ()) (script : List Delivery) :
    Begun config (scripted config hvalid script) :=
  .overLink {} (eq_ok_of_isSome (isSome_overLink hvalid _))

/-- A frame that is accepted, and followed by a packet at once. -/
def delivering (p : Packet) : Delivery := .accepted [⟨0, false, .datagram p.encode⟩]

/-- A controller that offers no authentication type but `Password`, activates the session under
the type with number `chosen`, and puts its messages in packets by `pack`. -/
def passwordOpening (chosen : UInt8) (pack : Bytes → Packet) : List Delivery :=
  let granting (r : Request) (n : UInt8) (data : Bytes) :=
    delivering (pack (Response.reply (r.numbered n) .completed (some data)).encode)
  [granting (.authCapabilities 0x8E .administrator) 0 [0x0E, 0x10, 0, 0, 0, 0, 0, 0],
    granting (.sessionChallenge .password (Field.fit [])) 1 (1 :: List.replicate 19 0),
    granting (.activateSession .password .administrator (Field.fit []) 1) 2
      [chosen, 1, 0, 0, 0, 1, 0, 0, 0, 4],
    granting (.setPrivilege .administrator) 3 [4]]

/-- A session with a controller that lets it be opened and then goes on as in `later`. -/
def sample (later : List Delivery) : Session :=
  { (overLink sampleConfig ⟨1, 0⟩ (Link.ofNetwork .plain { script := opening ++ later })).toOption.get
      (overLink_sampleConfig _) with token := {} }

theorem sample_begun (later : List Delivery) : Begun sampleConfig (sample later) :=
  .overLink {} (eq_ok_of_isSome (overLink_sampleConfig _))

end Session

end Baseboard
