import Baseboard.Proofs.Session.LateReply
import Baseboard.Proofs.Session.Rest

/-! Commands that are answered. When every controller on the way does what it should and its
answer comes in time, a command of an active session gives what its target answered, whatever
the route and whatever the answer says. -/
namespace Baseboard

/-- The way back of a response through the `depth` controllers that sent its request on, as it
was in `message`: each puts what it gets into its own answer, the one next to the target first. -/
def Controller.carry (message : Bytes) : Nat → Response → Except Error Response
  | 0, r => .ok r
  | depth + 1, r => do carry message depth (r.enclose (← Request.disclose message depth))

/-- What comes back for a frame whose request is in `depth` envelopes, when the target answers
it with a completion code and data. -/
def Controller.respond (frame : Bytes) (depth : Nat) (code : CompletionCode)
    (data : Option Bytes) : Except Error Response := do
  let p ← Packet.decode frame
  let request ← Request.disclose p.payload depth
  carry p.payload depth (.reply request code data)

/-- Whether a response tells no more than that a request was sent on: under fewer envelopes
than the request was put into, there is an empty answer to a request to send on. -/
def Response.Acknowledges (outer : Response) (depth : Nat) : Prop :=
  ∃ k < depth, ∃ inner, outer.Holds k inner ∧ inner.isSendMessage = true ∧
    inner.code = .completed ∧ inner.payload = []

theorem Response.Acknowledges.disclose_eq {outer : Response} {depth : Nat}
    (h : outer.Acknowledges depth) : outer.disclose depth = .ok .acknowledgement := by
  obtain ⟨k, hk, inner, hholds, hsend, hcode, hempty⟩ := h
  induction hholds generalizing depth with
  | here r =>
    obtain ⟨left, rfl⟩ : ∃ left, depth = left + 1 := ⟨depth - 1, by omega⟩
    rw [disclose_succ, hsend, hcode, hempty]
    rfl
  | @under outer next inner k houter hcompleted hparse _ ih =>
    obtain ⟨left, rfl⟩ : ∃ left, depth = left + 1 := ⟨depth - 1, by omega⟩
    have hpayload : outer.payload.isEmpty = false := by
      rw [List.isEmpty_eq_false_iff]
      intro hnil
      rw [hnil] at hparse
      cases hparse
    rw [disclose_succ, houter, hcompleted, hpayload]
    exact Reading.bind_eq_ok_iff.mpr
      ⟨next, hparse, ih (Nat.lt_of_succ_lt_succ hk) hsend hcode hempty⟩

/-- An acknowledgement is no answer, so the wait goes on. -/
theorem Expectation.accept_of_acknowledges {e : Expectation} {b : Bytes} {p : Packet}
    {outer : Response} (hdecode : Packet.decode b = .ok p) (hrejects : e.rejects p = false)
    (hparse : Response.parse p.payload = .ok outer) (h : outer.Acknowledges e.depth) :
    e.accept b = .ok none := by
  have hmatch : e.matchPacket p = .ok none := by
    have hnot : ¬ (e.frameAuth ≠ .none ∧ (!p.header.isAuthenticated) = true ∧
        e.rejectUnauthenticated = true) := by
      intro hno
      have hyes : e.rejects p = true := by
        simpa only [rejects, Bool.and_eq_true, bne_iff_ne, and_assoc] using hno
      cases hrejects.symm.trans hyes
    rw [matchPacket]
    dsimp only
    rw [if_neg hnot, hparse]
    change (outer.disclose e.depth >>= _) = _
    rw [h.disclose_eq]
    rfl
  rw [accept, matchDatagram, hdecode]
  dsimp only
  rw [hmatch]

namespace Packet

theorem length_encode_le {p : Packet} (h : p.WellFormed) : p.encode.length ≤ Network.bufferLength := by
  have hheader := p.header.length_le
  have hpayload : p.payload.length < 256 := by
    rw [← h.length_eq]
    exact p.header.payloadLength.toNat_lt
  have hbytes : p.toBytes.length = p.header.length + p.payload.length := by simp [toBytes]
  have hdatagram (body : Bytes) : (Rmcp.datagram .ipmi body).length ≤ body.length + 5 := by
    unfold Rmcp.datagram Rmcp.pad
    dsimp only
    split <;> simp [Rmcp.Header.encode]
  have hlength := hdatagram p.toBytes
  unfold encode Network.bufferLength
  omega

end Packet

namespace Standing

variable {s : Standing} {r : Request} {route : Route} {code : CompletionCode}
  {data : Option Bytes} {p : Packet}

/-- What the controllers on the way make of the target's response does not depend on what they
were asked to send on. -/
theorem carry_foldl_sealed (sequence : UInt8) (es : List Envelope) (message : Bytes)
    (response : Response) :
    Controller.carry (es.foldl (fun message e => (Route.sealed sequence message e).encode) message)
      es.length response =
      .ok (es.foldl (fun response e => response.enclose (Route.sealed sequence [] e)) response) := by
  -- The first envelope is the innermost, and its controller is the first to answer.
  induction es generalizing message response with
  | nil => rfl
  | cons e es ih =>
    have hdisclose := Request.disclose_foldl_sealed sequence es
      (Route.sealed sequence message e).encode 0
    rw [Nat.add_zero, Request.disclose_encode] at hdisclose
    rw [List.foldl_cons, List.foldl_cons, List.length_cons, Controller.carry, hdisclose]
    exact ih _ _

/-- The controllers can read the frame of a request, and what comes back for it is the honest
reply. -/
theorem respond_packet (hpacket : s.packet r route = .ok p) :
    Controller.respond p.encode route.depth code data = .ok (s.honestReply r route code data) := by
  have hmessage : p.payload = s.message r route := by
    obtain ⟨_, -, -, rfl⟩ := packet_eq_ok hpacket
    rfl
  have hdisclose := Request.disclose_enclose route (r.numbered s.requestSequence)
  have hcarry := carry_foldl_sealed (r.numbered s.requestSequence).sequence route.envelopes
    (route.addressed (r.numbered s.requestSequence)).encode
    (.reply (route.addressed (r.numbered s.requestSequence)) code data)
  rw [Route.length_envelopes] at hcarry
  rw [Controller.respond, Packet.decode_encode (wellFormed_packet hpacket)]
  change (Request.disclose p.payload route.depth >>= _) = _
  rw [hmessage, message, hdisclose]
  exact hcarry

/-- A packet from the controller as a session that waits for the answer to `r` can take it:
whole, and authenticated if the frame of the request was. -/
structure Credits (s : Standing) (r : Request) (p : Packet) : Prop where
  wellFormed : p.WellFormed
  authenticated : s.authInForce r ≠ .none → p.header.isAuthenticated = true

theorem Credits.rejects_eq (h : s.Credits r p) (hactive : s.phase = .active) (route : Route) :
    (s.expectation r route).rejects p = false := by
  have hauth : (s.expectation r route).frameAuth = s.authInForce r :=
    (Wanted.command r hactive).frameAuth_eq
  rw [Expectation.rejects, hauth]
  by_cases hnone : s.authInForce r = .none
  · rw [hnone]
    rfl
  · rw [h.authenticated hnone, Bool.not_true, Bool.and_false, Bool.false_and]

/-- The reply to a request is taken for its answer. -/
theorem accept_own_reply (hsequence : s.requestSequence.toNat < 64) (hactive : s.phase = .active)
    (hp : s.Credits r p) (hpayload : p.payload = (s.honestReply r route code data).encode) :
    ∃ res, (s.expectation r route).accept p.encode = .ok (some (res, p.header.sequence)) ∧
      res.code = code ∧ res.payload = data.getD [] := by
  let inner := Response.reply (route.addressed (r.numbered s.requestSequence)) code data
  have hdisclose : (s.honestReply r route code data).asRead.disclose route.depth =
      .ok (.answer inner.asRead) := Response.disclose_returned route _ inner
  have hnumber : inner.asRead.sequence = s.requestSequence := by
    refine (Response.sequence_reply ..).trans ?_
    rw [Route.sequence_addressed, Request.sequence_numbered_of_lt r hsequence]
  have hanswered : (s.expectation r route).answeredBy inner.asRead = true :=
    Expectation.answeredBy_iff.mpr ⟨hnumber, .inl (Route.command_addressed route _)⟩
  have hparse : Response.parse p.payload = .ok (s.honestReply r route code data).asRead := by
    rw [hpayload, Response.parse_encode]
  refine ⟨inner.asRead, ?_, rfl, Response.asRead_payload inner⟩
  exact (Expectation.accept_eq_some_iff ..).mpr ⟨p, _, Packet.decode_encode hp.wellFormed,
    hp.rejects_eq hactive route, hparse, hdisclose, hanswered, rfl⟩

/-- What comes in for a request: any number of acknowledgements, each after some time, and
then `response`, in the packet `answer`. -/
structure Served (s : Standing) (r : Request) (route : Route) (response : Response)
    (acknowledgements : List (Nat × Packet)) (answer : Packet) : Prop where
  acknowledged : ∀ x ∈ acknowledgements, s.Credits r x.2 ∧
    ∃ outer, Response.parse x.2.payload = .ok outer ∧ outer.Acknowledges route.depth
  credits : s.Credits r answer
  payload_eq : answer.payload = response.encode

end Standing

/-- Packets that come in one after the other. -/
def Incoming.ofPackets (passed : List (Nat × Packet)) (delay : Nat) (answer : Packet)
    (later : List Event) : Incoming :=
  ⟨passed.map fun x => (x.1, x.2.encode), delay, answer.encode, later⟩

namespace Session

/-- The operations that carry out a request for the owner of a session. -/
inductive Issued (config : Config) : Op Response → Request → Route → Prop where
  | command (request : Request) :
      Issued config (command request) request
        (config.route config.targetAddress config.targetChannel)
  | raw (netFn unit target channel number : UInt8) (data : Bytes) :
      Issued config (raw netFn unit target channel number data)
        (.raw netFn unit number (if data.isEmpty then none else some data))
        (config.route target channel)

variable {config : Config} {s t : Session} {op : Op Response} {request : Request} {route : Route}
  {code : CompletionCode} {data : Option Bytes}

/-- A request whose message is short enough is dispatched. -/
theorem Issued.eq_dispatch (h : Issued config op request route) (hconfig : t.config = config)
    (hshort : (t.message request route).length ≤ 255) : op t = dispatch request route t := by
  subst hconfig
  cases h with
  | command => rfl
  | raw netFn unit target channel number data =>
    refine raw_of_short ?_
    rw [Standing.length_message, Request.payload_raw] at hshort
    unfold longestData
    omega

/-- A request is dispatched, or refused at once because its data are too long. -/
theorem Issued.dispatches_or (h : Issued config op request route) :
    (∀ t : Session, t.config = config → op t = dispatch request route t) ∨
      ∃ n, ∀ t, op t = .error (.requestTooLong n) t := by
  cases h with
  | command =>
    refine .inl ?_
    rintro t rfl
    rfl
  | raw netFn unit target channel number data =>
    rcases Nat.lt_or_ge longestData data.length with hlong | hshort
    · exact .inr ⟨data.length, fun t => raw_of_long hlong⟩
    · refine .inl ?_
      rintro t rfl
      exact raw_of_short hshort

/-- A dispatched request that is served in time is answered after one send. -/
theorem dispatch_of_served (hconnected : t.connected = true)
    (hsequence : t.requestSequence.toNat < 64) (hactive : t.phase = .active) {packet : Packet}
    (hpacket : t.packet request route = .ok packet) (hquiet : t.link.network.pending = [])
    {acknowledgements : List (Nat × Packet)} {delay : Nat} {answer : Packet} {later : List Event}
    {rest : List Delivery}
    (hserved : t.Served request route (t.honestReply request route code data) acknowledgements
      answer)
    (hscript : t.link.network.script =
      .accepted (Incoming.ofPackets acknowledgements delay answer later).events :: rest)
    (htime : (Incoming.ofPackets acknowledgements delay answer later).time < t.config.timeout)
    (hlive : (t.link.network.elapse
      (Incoming.ofPackets acknowledgements delay answer later).time).isCancelled t.token = false) :
    ∃ res u, dispatch request route t = .ok res u ∧ res.code = code ∧ res.payload = data.getD [] ∧
      t.handedOver u = [packet.encode] ∧ u.link.stats = t.link.countSend.stats ∧
      u.toStanding = t.answered answer.header.sequence (route.counts request) := by
  let i := Incoming.ofPackets acknowledgements delay answer later
  obtain ⟨res, haccept, hcode, hdata⟩ :=
    t.accept_own_reply hsequence hactive hserved.credits hserved.payload_eq
  have hpassed : ∀ x ∈ i.passed, x.2.length ≤ Network.bufferLength ∧
      (t.expectation request route).accept x.2 = .ok none := by
    intro x hx
    obtain ⟨y, hy, rfl⟩ := List.mem_map.mp hx
    obtain ⟨hcredits, outer, hparse, hacknowledges⟩ := hserved.acknowledged y hy
    exact ⟨Packet.length_encode_le hcredits.wellFormed,
      Expectation.accept_of_acknowledges (Packet.decode_encode hcredits.wellFormed)
        (hcredits.rejects_eq hactive route) hparse hacknowledges⟩
  obtain ⟨next, hsend, hpending⟩ := Link.send_of_quiet hquiet hscript packet.encode
  obtain ⟨u, before, wait, hexchange, hstanding, hstats, hdid, hbefore⟩ :=
    exchange_of_incoming (t.commandManner request route) i hconnected hpacket hsend hpending hpassed
      (Packet.length_encode_le hserved.credits.wellFormed) haccept htime hlive
  refine ⟨res, u, (dispatch_eq_ok_iff hactive res).mpr hexchange, hcode, hdata, ?_, hstats, hstanding⟩
  have hsent : (Action.sent packet.encode).frame? = some packet.encode := rfl
  have hnone : before.filterMap Action.frame? = [] := List.filterMap_eq_nil_iff.mpr hbefore
  rw [handedOver, hdid.drop_eq, List.cons_append, List.filterMap_cons_some hsent,
    List.filterMap_append, hnone]
  rfl

/-- When the controllers of a route do what they should, a command of an active session along it
gives exactly the code and the data that its target answered with. They can read the frame of the
command, it is sent once, and the counters take one step, unless the command asks for a message
to be sent on as it is. -/
theorem honest_answer_returned (h : Begun config s) (calls : List Call)
    (hissued : Issued config op request route) (hactive : (s.run calls).phase = .active)
    (hsignable : (s.run calls).authInForce request ≠ .oem)
    (hshort : ((s.run calls).message request route).length ≤ 255)
    (hquiet : (s.run calls).link.network.pending = []) (code : CompletionCode)
    (data : Option Bytes) :
    ∃ packet response, (s.run calls).packet request route = .ok packet ∧
      Controller.respond packet.encode route.depth code data = .ok response ∧
      ∀ (acknowledgements : List (Nat × Packet)) (delay : Nat) (answer : Packet)
        (later : List Event) (rest : List Delivery),
        let t := s.run calls
        let i := Incoming.ofPackets acknowledgements delay answer later
        t.Served request route response acknowledgements answer →
        t.link.network.script = .accepted i.events :: rest → i.time < config.timeout →
        (t.link.network.elapse i.time).isCancelled t.token = false →
        ∃ res u, op t = .ok res u ∧ res.code = code ∧ res.payload = data.getD [] ∧
          t.handedOver u = [packet.encode] ∧ u.link.stats = t.link.countSend.stats ∧
          u.toStanding = { t.toStanding with
            inboundSequence := answer.header.sequence
            outboundSequence :=
              if route.counts request then nextSequence t.outboundSequence else t.outboundSequence
            requestSequence :=
              if route.counts request then (t.requestSequence + 1) &&& 0x3F
              else t.requestSequence } := by
  have hsound : (s.run calls).Sound config := (run_accounted h calls).sound
  have hconnected := (run_atRest h calls).connected (.inr (.inr hactive))
  have hauth : (s.run calls).frameAuth request.command ≠ .oem := by
    rw [(Wanted.command request hactive).frameAuth_eq]
    exact hsignable
  obtain ⟨packet, hpacket⟩ := Standing.exists_packet_iff.mpr ⟨hauth, hshort⟩
  refine ⟨packet, _, hpacket, Standing.respond_packet hpacket, ?_⟩
  intro acknowledgements delay answer later rest t i hserved hscript htime hlive
  rw [← hsound.config_eq] at htime
  obtain ⟨res, u, hop, hcode, hdata, hframes, hstats, hstanding⟩ :=
    dispatch_of_served hconnected hsound.sequence_lt hactive hpacket hquiet hserved hscript htime
      hlive
  refine ⟨res, u, ?_, hcode, hdata, hframes, hstats, ?_⟩
  · rw [hissued.eq_dispatch hsound.config_eq hshort]
    exact hop
  · rw [hstanding, Standing.answered_eq, if_pos hactive]

/-- What a controller that is asked to send a command on to another answers at first. -/
def relayAcknowledgement : Packet :=
  .plain (Response.reply (Route.sealed 4 [] ⟨0x20, 0x81, 7⟩) .completed none).encode

/-- What it answers once the other controller has responded. -/
def relayAnswer : Packet :=
  let reading := ((Request.raw 0x04 0 0x2D none).addressedTo 0x82).askedBy 0x20
  .plain ((Response.reply (reading.numbered 4) .completed (some [1, 2, 3])).enclose
    (Route.sealed 4 [] ⟨0x20, 0x81, 7⟩)).encode

/-- A session whose controller acknowledges the first command after 20 milliseconds, and
answers it 30 milliseconds later. -/
def relayed : Session :=
  (sample [.accepted (Incoming.ofPackets [(20, relayAcknowledgement)] 30 relayAnswer []).events]).run
    [.establish]

theorem relayed_answer_returned :
    ∃ res u, raw 0x04 0 0x82 7 0x2D [0x30] relayed = .ok res u ∧ res.code = .completed ∧
      res.payload = [1, 2, 3] ∧ u.link.stats = relayed.link.countSend.stats := by
  let request := Request.raw 0x04 0 0x2D (some [0x30])
  let route := sampleConfig.route 0x82 7
  have hactive : relayed.phase = .active := by decide +kernel
  have hunsigned : relayed.authInForce request = .none := by decide +kernel
  obtain ⟨packet, response, hpacket, hrespond, hall⟩ :=
    honest_answer_returned (sample_begun _) [.establish] (.raw 0x04 0 0x82 7 0x2D [0x30]) hactive
      (by decide +kernel) (by decide +kernel) (by decide +kernel) .completed (some [1, 2, 3])
  have hcredits (message : Bytes) (hlong : 6 ≤ message.length) (hshort : message.length ≤ 255) :
      relayed.Credits request (.plain message) :=
    ⟨Packet.wellFormed_plain hlong hshort, fun h => absurd hunsigned h⟩
  have hserved : relayed.Served request route response [(20, relayAcknowledgement)] relayAnswer := by
    refine ⟨?_, hcredits _ (by decide +kernel) (by decide +kernel), ?_⟩
    · intro x hx
      rw [List.mem_singleton.mp hx]
      exact ⟨hcredits _ (by decide +kernel) (by decide +kernel), _, Response.parse_encode _,
        0, by decide, _, .here _, by decide +kernel, rfl, rfl⟩
    · have hresponse := hrespond.symm.trans (Standing.respond_packet hpacket)
      rw [Except.ok.inj hresponse]
      decide +kernel
  obtain ⟨res, u, hop, hcode, hdata, -, hstats, -⟩ :=
    hall _ 30 relayAnswer [] [] hserved (by decide +kernel) (by decide +kernel) (by decide +kernel)
  exact ⟨res, u, hop, hcode, hdata, hstats⟩

end Session
end Baseboard
