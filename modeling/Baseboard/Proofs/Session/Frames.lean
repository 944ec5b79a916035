import Baseboard.Proofs.Codec.Envelope
import Baseboard.Proofs.Codec.Packet
import Baseboard.Proofs.Session.Uses

/-! What a peer can read off the frames of a session. Every frame but a ping decodes,
proves what its session has to prove, and holds the request that was asked for. -/
namespace Baseboard

/-- Whether a request asks for a session to be activated, however it is addressed. -/
def Request.isActivation (r : Request) : Bool :=
  r.netFn == NetworkFunction.app.request && r.command == AppCommand.activateSession.code

namespace Standing

/-- Whether a request goes out under the authentication type of the session: to
activate it, and from then on as far as the policy signs. -/
def signs (s : Standing) (r : Request) : Bool :=
  (s.phase == .challengeIssued && r.isActivation) ||
    (s.phase == .active && s.policy.signs s.privilege)

/-- The authentication type that a request goes out under. -/
def authInForce (s : Standing) (r : Request) : AuthType := if s.signs r then s.authType else .none

/-- What the packet with a request tells the peer of a session that stands as `s`. -/
structure Attests (s : Standing) (r : Request) (route : Route) (p : Packet) : Prop where
  authType_eq : p.header.authType = (s.authInForce r).code
  sequence_eq : p.header.sequence = if s.phase = .active then s.outboundSequence else 0
  sessionId_eq : p.header.sessionId = s.sessionId
  code_eq : authCode (s.authInForce r) s.password p.header.sessionId p.payload p.header.sequence =
    .ok p.header.authCode
  code_eq_none : p.header.authCode = none ↔ s.authInForce r = .none
  discloses : ∃ q, Request.disclose p.payload route.depth = .ok q ∧ q.wording = r.wording ∧
    q.data = (if r.payload = [] then none else some r.payload) ∧ q.responder = route.target ∧
    q.sequence = s.requestSequence

end Standing

/-- Only the type that uses no code gives none. -/
theorem authCode_eq_none {t : AuthType} {password : Field} {sessionId sequence : UInt32}
    {message : Bytes} {code : Option Field}
    (h : authCode t password sessionId message sequence = .ok code) : code = none ↔ t = .none := by
  cases t <;> cases h <;> simp

/-- In the phase of a challenge a session wants nothing but to be activated. -/
theorem Wanted.isActivation {s : Standing} {call : Call} {r : Request} {route : Route}
    (h : Wanted s call (.request r route)) (hphase : s.phase = .challengeIssued) :
    r.isActivation = true := by
  cases h with
  | opening h =>
    cases h with
    | capabilities hp | challenge hp => rcases hp with hp | hp <;> cases hphase.symm.trans hp
    | activation challenge =>
      have hn : (Request.activateSession s.authType s.config.privilege challenge
          s.outboundSequence).netFn = NetworkFunction.app.request := Request.netFn_ofFunction ..
      rw [Request.isActivation, hn]
      rfl
    | privilege hp => cases hphase.symm.trans hp
  | command _ hp | raw _ _ hp | closing _ hp => cases hphase.symm.trans hp

/-- The type of a frame follows the command alone, since no other request is made in
the phase of a challenge. -/
theorem Wanted.frameAuth_eq {s : Standing} {call : Call} {r : Request} {route : Route}
    (h : Wanted s call (.request r route)) : s.frameAuth r.command = s.authInForce r := by
  unfold Standing.frameAuth Standing.authInForce Standing.signs
  cases hphase : s.phase with
  | challengeIssued =>
    have hr := h.isActivation hphase
    have hc : r.command = AppCommand.activateSession.code := by
      simp only [Request.isActivation, Bool.and_eq_true, beq_iff_eq] at hr
      exact hr.2
    simp [hc, hr]
  | active => simp
  | unconnected | socketOpen | bound | pingSent | pongReceived | closed => simp

namespace Standing

variable {s : Standing} {call : Call} {r : Request} {route : Route} {p : Packet}

/-- A message is as long as its data, seven bytes around these, and eight for every envelope. -/
theorem length_message (s : Standing) (r : Request) (route : Route) :
    (s.message r route).length = 7 + r.payload.length + 8 * route.depth := by
  rw [message, Route.length_enclose, Nat.add_comm 7]
  rfl

theorem wellFormed_packet (h : s.packet r route = .ok p) : p.WellFormed := by
  obtain ⟨code, hcode, hlength, rfl⟩ := packet_eq_ok h
  refine ⟨?_, ?_, ?_⟩
  · rw [SessionHeader.CodeFits, ← Option.ne_none_iff_isSome, Ne, authCode_eq_none hcode]
    exact not_congr (AuthType.code_eq_zero_iff _).symm
  · exact UInt8.toNat_ofNat_of_lt (by change _ < 256; omega)
  · change 6 ≤ (s.message r route).length
    rw [length_message]
    omega

/-- The frame of a request decodes to a message of the length that it declares. -/
theorem decode_packet (h : s.packet r route = .ok p) :
    Packet.decode p.encode = .ok p ∧ p.payload.length = 7 + r.payload.length + 8 * route.depth ∧
      p.header.payloadLength.toNat = 7 + r.payload.length + 8 * route.depth := by
  have hformed := wellFormed_packet h
  have hlength : p.payload.length = 7 + r.payload.length + 8 * route.depth := by
    obtain ⟨_, -, -, rfl⟩ := packet_eq_ok h
    exact length_message ..
  exact ⟨Packet.decode_encode hformed, hlength, hformed.length_eq.trans hlength⟩

/-- The target reads the request that was asked for, under the number of the session. -/
theorem disclose_message (r : Request) (route : Route) (hsequence : s.requestSequence.toNat < 64) :
    ∃ q, Request.disclose (s.message r route) route.depth = .ok q ∧ q.wording = r.wording ∧
      q.data = (if r.payload = [] then none else some r.payload) ∧ q.responder = route.target ∧
      q.sequence = s.requestSequence := by
  have hpayload : (route.addressed (r.numbered s.requestSequence)).payload = r.payload :=
    Route.payload_addressed route _
  refine ⟨_, Request.disclose_enclose route (r.numbered s.requestSequence), ?_, ?_, ?_, ?_⟩
  · simp only [Request.wording, Request.asRead_payload, hpayload, Wording.mk.injEq, and_true]
    exact ⟨Route.netFn_addressed route _, Route.unit_addressed route _,
      Route.command_addressed route _⟩
  · rw [← hpayload]
    rfl
  · exact Route.responder_addressed route _
  · exact (Route.sequence_addressed route _).trans (Request.sequence_numbered_of_lt r hsequence)

theorem attests_packet (hwanted : Wanted s call (.request r route))
    (hsequence : s.requestSequence.toNat < 64) (h : s.packet r route = .ok p) :
    s.Attests r route p := by
  obtain ⟨code, hcode, -, rfl⟩ := packet_eq_ok h
  rw [hwanted.frameAuth_eq] at hcode
  exact {
    authType_eq := congrArg AuthType.code hwanted.frameAuth_eq
    sequence_eq := rfl
    sessionId_eq := rfl
    code_eq := hcode
    code_eq_none := authCode_eq_none hcode
    discloses := disclose_message r route hsequence }

end Standing

namespace Session

/-- The frames that were handed over for sending from one state of a session to another. -/
def handedOver (s t : Session) : List Bytes :=
  (t.link.network.trace.drop s.link.network.trace.length).filterMap Action.frame?

@[simp] theorem handedOver_self (s : Session) : s.handedOver s = [] := by
  rw [handedOver, List.drop_length, List.filterMap_nil]

/-- In every run of a session, every frame that is handed over for sending but a ping
decodes, and attests to the peer how the session stood and what was asked for. -/
theorem frames_attested {config : Config} {s : Session} (h : Begun config s) (calls : List Call)
    {frame : Bytes} (hframe : frame ∈ s.handedOver (s.run calls)) :
    ∃ use ∈ (s.run calls).uses, frame ∈ use.frames ∧ use.standing.Sound config ∧
      ∃ call ∈ calls, Wanted use.standing call use.purpose ∧
        match use.purpose with
        | .presence tag => frame = Presence.ping tag
        | .request r route => ∃ p, Packet.decode frame = .ok p ∧ use.standing.Attests r route p := by
  have hrun := run_accounted h calls
  have hflat : frame ∈ (s.run calls).uses.flatMap Use.frames := by
    unfold handedOver at hframe
    rw [hrun.trace_eq, List.drop_left, List.filterMap_flatMap] at hframe
    exact hframe
  obtain ⟨use, huse, hin⟩ := List.mem_flatMap.mp hflat
  have hacc := hrun.uses use huse
  obtain ⟨call, hcall, hwanted⟩ := hacc.wanted
  refine ⟨use, huse, hin, hacc.sound, call, hcall, hwanted, ?_⟩
  have hmakes := hacc.frames frame hin
  obtain ⟨standing, purpose, actions, failure⟩ := use
  cases purpose with
  | presence tag => exact hmakes
  | request r route =>
    obtain ⟨p, hp, rfl⟩ := hmakes
    exact ⟨p, Packet.decode_encode (Standing.wellFormed_packet hp),
      Standing.attests_packet hwanted hacc.sound.sequence_lt hp⟩

/-- The frame in which a session asks for its privilege level, once it has been activated. -/
theorem setPrivilege_frame_attested :
    let frame : Bytes := [6, 0, 255, 7, 0, 1, 0, 0, 0, 1, 0, 0, 0, 8, 32, 24, 200, 129, 12, 59, 4, 52]
    let t := (sample []).run [.establish]
    frame ∈ (sample []).handedOver t ∧
      ∃ use ∈ t.uses, frame ∈ use.frames ∧ use.standing.Sound sampleConfig ∧
        ∃ call ∈ [Call.establish], Wanted use.standing call use.purpose ∧
          match use.purpose with
          | .presence tag => frame = Presence.ping tag
          | .request r route =>
            ∃ p, Packet.decode frame = .ok p ∧ use.standing.Attests r route p := by
  intro frame t
  have hframe : frame ∈ (sample []).handedOver t := by decide +kernel
  exact ⟨hframe, frames_attested (sample_begun []) [.establish] hframe⟩

end Session
end Baseboard
