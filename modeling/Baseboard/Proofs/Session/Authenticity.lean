import Baseboard.Proofs.Codec.RoundTrip
import Baseboard.Proofs.Session.Completeness

/-! What is known of the sender of an answer when unauthenticated replies are turned down: the
answer came with an authentication code. Whether it is the right one is never looked at, nor are
the type and the session that it is said to be for. -/
namespace Baseboard

/-- A session that should only take authenticated answers: it is active, it signs its frames, and
it is told to turn down replies that are not authenticated. -/
structure Standing.Guarded (s : Standing) : Prop where
  active : s.phase = .active
  rejects : s.config.rejectUnauthenticated = true
  signs : s.policy.signs s.privilege = true
  authType_ne : s.authType ≠ .none

namespace Expectation

variable {e : Expectation} {p forged : Packet} {res : Response}

/-- An answer to an authenticated frame is authenticated, if others are turned down. -/
theorem isAuthenticated_of_not_rejects (h : e.rejects p = false) (hauth : e.frameAuth ≠ .none)
    (hreject : e.rejectUnauthenticated = true) : p.header.isAuthenticated = true := by
  rw [rejects, hreject, Bool.and_true, bne_iff_ne.mpr hauth, Bool.true_and] at h
  rwa [Bool.not_eq_false'] at h

/-- Of the header of an authenticated packet only the sequence number is looked at. -/
theorem accept_forged {datagram : Bytes} {n : UInt32} (hdecode : Packet.decode datagram = .ok p)
    (h : e.accept datagram = .ok (some (res, n))) (hforged : forged.WellFormed)
    (hauthenticated : forged.header.isAuthenticated = true) (hpayload : forged.payload = p.payload) :
    e.accept forged.encode = .ok (some (res, forged.header.sequence)) := by
  obtain ⟨q, outer, hq, -, hparse, hdisclose, hanswered, -⟩ := (accept_eq_some_iff ..).mp h
  obtain rfl := Except.ok.inj (hdecode.symm.trans hq)
  have hrejects : e.rejects forged = false := by
    rw [rejects, hauthenticated, Bool.not_true, Bool.and_false, Bool.false_and]
  rw [← hpayload] at hparse
  exact (accept_eq_some_iff ..).mpr ⟨forged, outer, Packet.decode_encode hforged, hrejects, hparse,
    hdisclose, hanswered, rfl⟩

end Expectation

namespace Session

variable {s t : Session} {op : Op Response} {request : Request} {route : Route} {res : Response}

/-- A guarded session gives no answer that came without an authentication code. That is all that
is known of its sender: any other authenticated packet with the same message is taken for the
answer too, whatever the type, the session id, the sequence number and the code in its header. -/
theorem answer_authenticated (hguarded : s.Guarded) (hissued : Issued s.config op request route)
    (h : op s = .ok res t) :
    ∃ datagram p, t.justReceived = some datagram ∧ Packet.decode datagram = .ok p ∧
      (s.expectation request route).accept datagram = .ok (some (res, p.header.sequence)) ∧
      p.header.isAuthenticated = true ∧ p.header.authCode.isSome = true ∧
      ∀ (forged : Packet) (link : Link), forged.WellFormed →
        forged.header.isAuthenticated = true → forged.payload = p.payload →
        Delivers { s with link := link } request route forged.encode →
        ∃ u, op { s with link := link } = .ok res u := by
  have hdispatch : ∀ v : Session, v.config = s.config → op v = dispatch request route v := by
    rcases hissued.dispatches_or with hop | ⟨n, hop⟩
    · exact hop
    · cases h.symm.trans (hop s)
  have hexchange := (dispatch_eq_ok_iff hguarded.active res).mp ((hdispatch s rfl).symm.trans h)
  obtain ⟨datagram, n, hreceived, haccept⟩ := exchange_accepted hexchange
  obtain ⟨p, outer, hp, hrejects, -, -, -, rfl⟩ := (Expectation.accept_eq_some_iff ..).mp haccept
  have hauth : (s.expectation request route).frameAuth ≠ .none := by
    change s.frameAuth request.command ≠ .none
    rw [Standing.frameAuth, hguarded.active]
    dsimp only
    rw [if_pos hguarded.signs]
    exact hguarded.authType_ne
  have hauthenticated := Expectation.isAuthenticated_of_not_rejects hrejects hauth hguarded.rejects
  have hcode : p.header.authCode.isSome = true :=
    (Packet.codeFits_of_decode hp).mpr (bne_iff_ne.mp hauthenticated)
  refine ⟨datagram, p, hreceived, hp, haccept, hauthenticated, hcode, ?_⟩
  intro forged link hforged hclaims hpayload hdelivers
  let v : Session := { s with link := link }
  have htaken : (v.expectation request route).accept forged.encode =
      .ok (some (res, forged.header.sequence)) :=
    Expectation.accept_forged hp haccept hforged hclaims hpayload
  obtain ⟨u, hu, -⟩ : ∃ u, exchange request route (v.commandManner request route) v = .ok res u ∧
      u.justReceived = some forged.encode := exchange_of_delivers hdelivers htaken
  exact ⟨u, (hdispatch v rfl).trans ((dispatch_eq_ok_iff (s := v) hguarded.active res).mpr hu)⟩

/-- A packet that claims to be authenticated. -/
def claiming (authType : UInt8) (sessionId : UInt32) (code : Field) (message : Bytes) : Packet :=
  ⟨⟨authType, 1, sessionId, some code, UInt8.ofNat message.length⟩, message⟩

/-- The device id that the controller reports to the first command of a session. -/
def reportedId : Bytes := (Response.reply (Request.deviceId.numbered 4) .completed (some [0x20])).encode

/-- The report of a controller that knows the empty password. -/
def genuineReport : Packet := claiming AuthType.password.code 1 (Field.fit []) reportedId

/-- The same report, for another session and under another type, by one who does not. -/
def forgedReport : Packet := claiming AuthType.md5.code 7 (Field.fit [0xFF]) reportedId

/-- A session under the type `Password`, with an empty password, which turns down replies that are
not authenticated. What it receives after its first command is `reply`. -/
def guarded (reply : Packet) : Session :=
  (scripted { sampleConfig with rejectUnauthenticated := true } (validate_of_anonymous rfl rfl)
    (passwordOpening AuthType.password.code (claiming AuthType.password.code 1 (Field.fit [])) ++
      [delivering reply])).run [.establish]

/-- The genuine report is returned, and so would the forged one be in its place. -/
theorem genuineReport_returned :
    let s := guarded genuineReport
    let route := s.config.route s.config.targetAddress s.config.targetChannel
    s.Guarded ∧ ∃ res t, command .deviceId s = .ok res t ∧
      (∃ datagram p, t.justReceived = some datagram ∧ Packet.decode datagram = .ok p ∧
        (s.expectation .deviceId route).accept datagram = .ok (some (res, p.header.sequence)) ∧
        p.header.isAuthenticated = true ∧ p.header.authCode.isSome = true) ∧
      ∃ u, command .deviceId { s with link := (guarded forgedReport).link } = .ok res u := by
  intro s route
  have hguarded : s.Guarded :=
    ⟨by decide +kernel, by decide +kernel, by decide +kernel, by decide +kernel⟩
  obtain ⟨res, t, h, hgenuine⟩ : ∃ res t, command .deviceId s = .ok res t ∧
      decide (t.justReceived = some genuineReport.encode) = true := exists_of_gives (by decide +kernel)
  have hdelivers : Delivers { s with link := (guarded forgedReport).link } .deviceId route
      forgedReport.encode := by
    obtain ⟨packet, hpacket⟩ : ∃ packet, s.packet .deviceId route = .ok packet :=
      Standing.exists_packet_iff.mpr ⟨by decide +kernel, by decide +kernel⟩
    have hscript : (guarded forgedReport).link.network.script = [delivering forgedReport] := by
      decide +kernel
    have hpending : (guarded forgedReport).link.network.pending = [] := by decide +kernel
    refine ⟨by decide +kernel, by decide +kernel, by decide +kernel, ⟨packet, hpacket, ?_⟩,
      by decide +kernel⟩
    refine ⟨_, [], by rw [Network.send, hscript]; rfl, ?_⟩
    change (guarded forgedReport).link.network.pending ++ _ = _
    rw [hpending]
    rfl
  obtain ⟨datagram, p, hreceived, hp, haccept, hauthenticated, hcode, hforgeable⟩ :=
    answer_authenticated hguarded (.command .deviceId) h
  have hpayload : forgedReport.payload = p.payload := by
    obtain rfl := Option.some.inj (hreceived.symm.trans (of_decide_eq_true hgenuine))
    have hdecode : Packet.decode genuineReport.encode = .ok genuineReport := by decide +kernel
    rw [← Except.ok.inj (hdecode.symm.trans hp)]
    rfl
  have hforged : forgedReport.WellFormed :=
    ⟨iff_of_true rfl (by decide), by decide +kernel, by decide +kernel⟩
  refine ⟨hguarded, res, t, h, ⟨datagram, p, hreceived, hp, haccept, hauthenticated, hcode⟩, ?_⟩
  exact hforgeable forgedReport _ hforged rfl hpayload hdelivers

/-- The forged report is returned, though its session id, its type and its code are all wrong. -/
theorem forgedReport_returned :
    let s := guarded forgedReport
    s.Guarded ∧ (∃ res t, command .deviceId s = .ok res t ∧
      t.justReceived = some forgedReport.encode) ∧
    Packet.decode forgedReport.encode = .ok forgedReport ∧
    forgedReport.header.sessionId ≠ s.sessionId ∧ forgedReport.header.authType ≠ s.authType.code ∧
    ∀ sessionId, authCode s.authType s.password sessionId forgedReport.payload
      forgedReport.header.sequence ≠ .ok forgedReport.header.authCode := by
  intro s
  have hguarded : s.Guarded :=
    ⟨by decide +kernel, by decide +kernel, by decide +kernel, by decide +kernel⟩
  obtain ⟨res, t, h, hreceived⟩ : ∃ res t, command .deviceId s = .ok res t ∧
      decide (t.justReceived = some forgedReport.encode) = true := exists_of_gives (by decide +kernel)
  have hpassword : s.authType = .password := by decide +kernel
  have hwrong : s.password ≠ Field.fit [0xFF] := by decide +kernel
  refine ⟨hguarded, ⟨res, t, h, of_decide_eq_true hreceived⟩, by decide +kernel, by decide +kernel,
    by decide +kernel, fun sessionId hcode => ?_⟩
  rw [hpassword] at hcode
  exact hwrong (Option.some.inj (Except.ok.inj hcode))

end Session
end Baseboard
