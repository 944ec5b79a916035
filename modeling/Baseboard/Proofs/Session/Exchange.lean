import Baseboard.Proofs.Link.Arrival
import Baseboard.Session.Commands

/-! How one exchange of a session can end, and what of the session it changes. -/
namespace Baseboard

namespace Standing

variable (s : Standing) (n : UInt32) (advances : Bool)

/-- An answer moves the counters and nothing else. -/
theorem answered_eq :
    s.answered n advances = { s with
      inboundSequence := if s.phase = .active then n else s.inboundSequence
      outboundSequence :=
        if advances then nextSequence s.outboundSequence else s.outboundSequence
      requestSequence :=
        if advances then (s.requestSequence + 1) &&& 0x3F else s.requestSequence } := by
  unfold answered advanced
  by_cases h : s.phase = .active <;> cases advances <;> simp [h]

@[simp] theorem phase_answered : (s.answered n advances).phase = s.phase := by
  rw [answered_eq]

@[simp] theorem config_answered : (s.answered n advances).config = s.config := by
  rw [answered_eq]

@[simp] theorem password_answered : (s.answered n advances).password = s.password := by
  rw [answered_eq]

@[simp] theorem outboundSequence_answered :
    (s.answered n advances).outboundSequence =
      if advances then nextSequence s.outboundSequence else s.outboundSequence := by
  rw [answered_eq]

@[simp] theorem requestSequence_answered :
    (s.answered n advances).requestSequence =
      if advances then (s.requestSequence + 1) &&& 0x3F else s.requestSequence := by
  rw [answered_eq]

/-- The packet of a request, when there is one: its code can be computed and its message
is not too long. -/
theorem packet_eq_ok {s : Standing} {r : Request} {route : Route} {p : Packet}
    (h : s.packet r route = .ok p) :
    ∃ code, authCode (s.frameAuth r.command) s.password s.sessionId (s.message r route)
        s.frameSequence = .ok code ∧
      (s.message r route).length ≤ 255 ∧
      p = ⟨⟨(s.frameAuth r.command).code, s.frameSequence, s.sessionId, code,
        UInt8.ofNat (s.message r route).length⟩, s.message r route⟩ := by
  obtain ⟨code, hcode, h⟩ := Reading.bind_eq_ok_iff.mp h
  obtain ⟨header, hheader, h⟩ := Reading.bind_eq_ok_iff.mp h
  unfold SessionHeader.make at hheader
  by_cases hlength : (s.message r route).length ≤ 255
  · rw [if_pos hlength] at hheader
    cases hheader
    exact ⟨code, hcode, hlength, (Except.ok.inj h).symm⟩
  · rw [if_neg hlength] at hheader
    cases hheader

end Standing

namespace Session

/-- A request was carried out over the link with outcome `r`, in the packet that the
session makes of it. -/
structure Carried (s : Session) (request : Request) (route : Route)
    (r : Except Error (Response × UInt32)) (link : Link) : Prop where
  connected : s.connected = true
  recorded : ∃ packet, s.packet request route = .ok packet ∧
    Link.Recorded (s.expectation request route).accept packet.encode s.link r link

/-- The session after an answer in a frame with sequence number `n`. -/
def answeredOver (s : Session) (request : Request) (route : Route) (n : UInt32)
    (advances : Bool) (link : Link) : Session :=
  { s.used (.request request route) none link with
    toStanding := s.toStanding.answered n advances }

/-- The session after a request to which no answer was had. -/
def failedOver (s : Session) (request : Request) (route : Route) (e : Error) (link : Link) :
    Session :=
  s.used (.request request route) (some e) link

/-- An exchange is an exchange over the link, once there is a packet and a link to send
it over. -/
theorem exchange_eq (request : Request) (route : Route) (manner : Manner) (s : Session) :
    exchange request route manner s =
      match s.packet request route with
      | .error e => .error e s
      | .ok packet =>
        if s.connected then
          match Link.exchange (s.expectation request route).accept
            (if manner.cancellable then some s.token else none) packet.encode s.config.timeout
            manner.tries s.link with
          | .ok (response, n) link =>
            .ok response (s.answeredOver request route n manner.advances link)
          | .error e link => .error e (s.failedOver request route e link)
        else .error (.wrongPhase .bound s.phase) s := by
  unfold exchange
  change EStateM.bind (ofResult (s.packet request route)) _ s = _
  rw [EStateM.bind]
  cases s.packet request route with
  | error e => rfl
  | ok packet =>
  change EStateM.bind expectLink _ s = _
  rw [EStateM.bind, expectLink]
  dsimp only
  by_cases hconnected : s.connected = true
  · rw [if_pos hconnected, if_pos hconnected]
    change EStateM.bind (usingLink _ _) _ s = _
    rw [EStateM.bind, usingLink]
    cases Link.exchange (s.expectation request route).accept
      (if manner.cancellable then some s.token else none) packet.encode s.config.timeout
      manner.tries s.link with
    | ok result link => rfl
    | error e link => rfl
  · rw [if_neg hconnected, if_neg hconnected]

/-- An exchange ends before the link is used, or with an answer, or without one. Only
an answer changes how the session stands. -/
theorem ends_exchange {request : Request} {route : Route} {manner : Manner} {s : Session}
    {post : Except Error Response → Session → Prop}
    (hunmade : ∀ e, s.packet request route = .error e → post (.error e) s)
    (hunlinked : s.connected = false → post (.error (.wrongPhase .bound s.phase)) s)
    (hanswered : ∀ response n link, s.Carried request route (.ok (response, n)) link →
      post (.ok response) (s.answeredOver request route n manner.advances link))
    (hfailed : ∀ e link, s.Carried request route (.error e) link →
      post (.error e) (s.failedOver request route e link)) :
    Ends (exchange request route manner) s post := by
  unfold Ends
  rw [exchange_eq]
  cases hp : s.packet request route with
  | error e => exact hunmade e hp
  | ok packet =>
  by_cases hc : s.connected = true
  · dsimp only
    rw [if_pos hc]
    have hr := Link.exchange_recorded (s.expectation request route).accept
      (if manner.cancellable then some s.token else none) packet.encode s.config.timeout
      manner.tries s.link
    unfold Ends at hr
    cases hx : Link.exchange (s.expectation request route).accept
      (if manner.cancellable then some s.token else none) packet.encode s.config.timeout
      manner.tries s.link with
    | ok result link =>
      rw [hx] at hr
      exact hanswered result.1 result.2 link ⟨hc, packet, hp, hr⟩
    | error e link =>
      rw [hx] at hr
      exact hfailed e link ⟨hc, packet, hp, hr⟩
  · dsimp only
    rw [if_neg hc]
    exact hunlinked (Bool.of_not_eq_true hc)

/-- An exchange only adds to what was done over the network. -/
theorem exchange_did (r : Request) (route : Route) (manner : Manner) (s : Session) :
    Ends (exchange r route manner) s fun _ t => ∃ actions, Link.Did s.link actions t.link := by
  have hadded {outcome : Except Error (Response × UInt32)} {link : Link}
      (h : s.Carried r route outcome link) : ∃ actions, Link.Did s.link actions link := by
    obtain ⟨packet, -, actions, hdid, -⟩ := h.recorded
    exact ⟨actions, hdid⟩
  exact ends_exchange (fun _ _ => ⟨[], .refl s.link⟩) (fun _ => ⟨[], .refl s.link⟩)
    (fun _ _ _ h => hadded h) fun _ _ h => hadded h

/-- Nothing keeps `datagram` from being what the session receives first, once it has sent
a request along a route. -/
structure Delivers (s : Session) (request : Request) (route : Route) (datagram : Bytes) :
    Prop where
  connected : s.connected = true
  live : s.isCancelled = false
  patient : 0 < s.config.timeout
  brings : ∃ packet, s.packet request route = .ok packet ∧
    Link.Brings s.link.network packet.encode datagram
  whole : datagram.length ≤ Network.bufferLength

/-- The datagram that was received, if that was the last thing done over the network. -/
def justReceived (s : Session) : Option Bytes :=
  match s.link.network.trace.getLast? with
  | some (.received _ (.ok datagram)) => some datagram
  | _ => none

theorem justReceived_of_did {s : Session} {l : Link} {before : List Action} {wait : Nat}
    {datagram : Bytes} (h : Link.Did l (before ++ [.received wait (.ok datagram)]) s.link) :
    s.justReceived = some datagram := by
  rw [justReceived, h, ← List.append_assoc, List.getLast?_concat]

/-- A request that is answered in time, whatever is passed over before, gives the answer. Its
frame was sent once, and the datagram with the answer came last. -/
theorem exchange_of_incoming {request : Request} {route : Route} (manner : Manner) {s : Session}
    {packet : Packet} {next : Network} (i : Incoming) {response : Response} {n : UInt32}
    (hconnected : s.connected = true) (hpacket : s.packet request route = .ok packet)
    (hsend : s.link.network.send packet.encode = (.ok (), next)) (hpending : next.pending = i.events)
    (hpassed : ∀ x ∈ i.passed, x.2.length ≤ Network.bufferLength ∧
      (s.expectation request route).accept x.2 = .ok none)
    (hwhole : i.answer.length ≤ Network.bufferLength)
    (haccept : (s.expectation request route).accept i.answer = .ok (some (response, n)))
    (htime : i.time < s.config.timeout)
    (hlive : (s.link.network.elapse i.time).isCancelled s.token = false) :
    ∃ t before wait, exchange request route manner s = .ok response t ∧
      t.toStanding = s.answered n manner.advances ∧ t.link.stats = s.link.countSend.stats ∧
      Link.Did s.link (.sent packet.encode :: before ++ [.received wait (.ok i.answer)]) t.link ∧
      ∀ action ∈ before, action.frame? = none := by
  have hcancel : (s.link.elapse i.time).isCancelled
      (if manner.cancellable then some s.token else none) = false := by
    split
    · exact hlive
    · rfl
  obtain ⟨link, before, wait, hexchange, hstats, hdid, hbefore⟩ :=
    Link.exchange_of_incoming hsend hpending hpassed hwhole haccept htime hcancel
  refine ⟨s.answeredOver request route n manner.advances link, before, wait, ?_, rfl, hstats, hdid,
    hbefore⟩
  rw [exchange_eq, hpacket]
  dsimp only
  rw [if_pos hconnected, hexchange]

/-- A datagram that answers a request and is received first ends the exchange. -/
theorem exchange_of_delivers {request : Request} {route : Route} {manner : Manner} {s : Session}
    {datagram : Bytes} {response : Response} {n : UInt32}
    (h : s.Delivers request route datagram)
    (haccept : (s.expectation request route).accept datagram = .ok (some (response, n))) :
    ∃ t, exchange request route manner s = .ok response t ∧ t.justReceived = some datagram := by
  obtain ⟨packet, hpacket, next, events, hsend, hpending⟩ := h.brings
  obtain ⟨t, before, wait, hexchange, -, -, hdid, -⟩ :=
    exchange_of_incoming manner ⟨[], 0, datagram, events⟩ h.connected hpacket hsend hpending
      (fun x hx => absurd hx List.not_mem_nil) h.whole haccept h.patient h.live
  exact ⟨t, hexchange, justReceived_of_did hdid⟩

end Session
end Baseboard
