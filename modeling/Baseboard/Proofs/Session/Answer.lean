import Baseboard.Proofs.Codec.Disclosure
import Baseboard.Proofs.Codec.Malformed
import Baseboard.Proofs.Session.Run

/-! Which datagrams are taken for the answer to a request, and what is known of the answer
that an exchange gives. -/
namespace Baseboard

namespace Expectation

/-- Whether a packet is turned down because it proves nothing about its sender. -/
def rejects (e : Expectation) (p : Packet) : Bool :=
  e.frameAuth != .none && !p.header.isAuthenticated && e.rejectUnauthenticated

/-- What the message of a packet is, seen from outside the envelopes of the request. -/
def disclosed (e : Expectation) (p : Packet) : Except Error Disclosure := do
  (← Response.parse p.payload).disclose e.depth

theorem safe_disclosed (e : Expectation) (p : Packet) : Reading.Safe (e.disclosed p) :=
  (Response.safe_parse _).bind fun outer _ => outer.safe_disclose e.depth

theorem rejects_iff {e : Expectation} {p : Packet} : e.rejects p = true ↔
    e.frameAuth ≠ .none ∧ p.header.isAuthenticated = false ∧ e.rejectUnauthenticated = true := by
  rw [rejects, Bool.and_eq_true, Bool.and_eq_true, bne_iff_ne, Bool.not_eq_true', and_assoc]

private theorem matchPacket_eq (e : Expectation) (p : Packet) :
    e.matchPacket p =
      if e.rejects p then .error .unauthenticatedReply
      else e.disclosed p >>= fun
        | .answer r => .ok (if e.answeredBy r then some (r, p.header.sequence) else none)
        | .acknowledgement | .unrelated => .ok none := by
  have hrejects : (e.frameAuth ≠ .none ∧ (!p.header.isAuthenticated) = true ∧
      e.rejectUnauthenticated = true) ↔ e.rejects p = true := by
    rw [rejects_iff, Bool.not_eq_true']
  unfold matchPacket
  dsimp only
  simp only [hrejects]
  split
  · rfl
  · rw [disclosed]
    cases Response.parse p.payload with
    | error error => rfl
    | ok outer =>
      simp only [Reading.ok_bind]
      cases outer.disclose e.depth with
      | error error => rfl
      | ok disclosure => cases disclosure <;> rfl

/-- Everything there is to say of a datagram: it is turned down, or it holds an answer to the
request, or it is passed over. -/
theorem accept_eq (e : Expectation) (b : Bytes) :
    e.accept b =
      match Packet.decode b with
      | .error _ => .ok none
      | .ok p =>
        if e.rejects p then .error .unauthenticatedReply
        else
          match e.disclosed p with
          | .ok (.answer r) => .ok (if e.answeredBy r then some (r, p.header.sequence) else none)
          | _ => .ok none := by
  unfold accept matchDatagram
  cases hp : Packet.decode b with
  | error error => cases Packet.safe_decode b error hp <;> rfl
  | ok p =>
    dsimp only
    rw [matchPacket_eq]
    cases e.rejects p with
    | true => rfl
    | false =>
      cases hd : e.disclosed p with
      | error error => cases e.safe_disclosed p error hd <;> rfl
      | ok disclosure => cases disclosure <;> rfl

/-- A datagram is taken for the answer when a response is disclosed in it that bears the
sequence number and the command of the request, or that number and the command to send
on. -/
theorem accept_eq_some_iff (e : Expectation) (b : Bytes) (res : Response) (n : UInt32) :
    e.accept b = .ok (some (res, n)) ↔
      ∃ p outer, Packet.decode b = .ok p ∧ e.rejects p = false ∧
        Response.parse p.payload = .ok outer ∧ outer.disclose e.depth = .ok (.answer res) ∧
        e.answeredBy res = true ∧ n = p.header.sequence := by
  constructor
  · intro h
    rw [accept_eq] at h
    cases hp : Packet.decode b with
    | error error =>
      rw [hp] at h
      cases h
    | ok p =>
      rw [hp] at h
      dsimp only at h
      split at h
      · cases h
      next hrejects =>
      split at h
      · rename_i r hdisclosed
        obtain ⟨outer, hparse, hdisclose⟩ := Reading.bind_eq_ok_iff.mp hdisclosed
        by_cases ha : e.answeredBy r = true
        · rw [if_pos ha] at h
          cases h
          exact ⟨p, outer, rfl, Bool.of_not_eq_true hrejects, hparse, hdisclose, ha, rfl⟩
        · rw [if_neg ha] at h
          cases h
      · cases h
  · rintro ⟨p, outer, hp, hrejects, hparse, hdisclose, ha, rfl⟩
    have hdisclosed : e.disclosed p = .ok (.answer res) :=
      Reading.bind_eq_ok_iff.mpr ⟨outer, hparse, hdisclose⟩
    rw [accept_eq, hp]
    dsimp only
    rw [hrejects, if_neg Bool.false_ne_true, hdisclosed]
    dsimp only
    rw [if_pos ha]

/-- Nothing but want of authentication ends the wait for an answer with an error. -/
theorem accept_eq_error_iff {e : Expectation} {b : Bytes} {error : Error} :
    e.accept b = .error error ↔
      error = .unauthenticatedReply ∧ ∃ p, Packet.decode b = .ok p ∧ e.rejects p = true := by
  rw [accept_eq]
  cases Packet.decode b with
  | error found =>
    refine iff_of_false nofun ?_
    rintro ⟨-, p, hp, -⟩
    cases hp
  | ok p =>
    dsimp only
    by_cases hrejects : e.rejects p = true
    · rw [if_pos hrejects]
      constructor
      · intro h
        cases h
        exact ⟨rfl, p, rfl, hrejects⟩
      · rintro ⟨rfl, -⟩
        rfl
    · rw [if_neg hrejects]
      refine iff_of_false (by split <;> nofun) ?_
      rintro ⟨-, q, hq, hturned⟩
      obtain rfl := Except.ok.inj hq
      exact hrejects hturned

end Expectation

/-- Whether a response answers a request that was put into `depth` envelopes: with the
command of the request and the response's own network function, or as the refusal of a
controller on the way. -/
def Response.Answers (res : Response) (r : Request) (depth : Nat) : Prop :=
  (res.command = r.command ∧ res.netFn = r.netFn ||| 0x01) ∨ (0 < depth ∧ res.isRefusal = true)

instance (res : Response) (r : Request) (depth : Nat) : Decidable (res.Answers r depth) :=
  inferInstanceAs (Decidable (_ ∨ _))

/-- A datagram that is mistaken for the answer to `r`: under all the envelopes there is a
response with the right number, but it belongs to another network function, or it answers
a request to send on that was not made, without being a refusal. -/
def Expectation.Misleads (e : Expectation) (r : Request) (datagram : Bytes) : Prop :=
  ∃ p outer res, Packet.decode datagram = .ok p ∧ e.rejects p = false ∧
    Response.parse p.payload = .ok outer ∧ outer.Holds e.depth res ∧ res.sequence = e.sequence ∧
    ((res.command = r.command ∧ res.netFn ≠ r.netFn ||| 0x01) ∨
      (0 < e.depth ∧ res.command = AppCommand.sendMessage.code ∧ res.command ≠ r.command)) ∧
    ¬ (0 < e.depth ∧ res.isRefusal = true)

namespace Expectation

variable {e : Expectation} {r : Request} {datagram : Bytes} {res : Response} {n : UInt32}

theorem answeredBy_iff :
    e.answeredBy res = true ↔ res.sequence = e.sequence ∧
      (res.command = e.command ∨ (0 < e.depth ∧ res.command = AppCommand.sendMessage.code)) := by
  simp [answeredBy]

/-- The datagrams that mislead are exactly those that are taken for the answer although
what they disclose is none. -/
theorem misleads_iff (hcommand : e.command = r.command) :
    e.Misleads r datagram ↔
      ∃ res n, e.accept datagram = .ok (some (res, n)) ∧ ¬ res.Answers r e.depth := by
  constructor
  · rintro ⟨p, outer, res, hp, hrejects, hparse, hholds, hsequence, hcommands, hrefusal⟩
    have hdisclose : outer.disclose e.depth = .ok (.answer res) :=
      (Response.disclose_eq_answer_iff outer res e.depth).mpr
        ⟨e.depth, Nat.le_refl _, hholds, fun h => absurd h (Nat.lt_irrefl _)⟩
    have hanswered : e.answeredBy res = true := by
      refine answeredBy_iff.mpr ⟨hsequence, ?_⟩
      rcases hcommands with ⟨hc, -⟩ | ⟨hd, hc, -⟩
      · exact .inl (hc.trans hcommand.symm)
      · exact .inr ⟨hd, hc⟩
    refine ⟨res, p.header.sequence, (accept_eq_some_iff ..).mpr
      ⟨p, outer, hp, hrejects, hparse, hdisclose, hanswered, rfl⟩, ?_⟩
    rintro (⟨hc, hn⟩ | h)
    · rcases hcommands with ⟨-, hne⟩ | ⟨-, -, hne⟩
      · exact hne hn
      · exact hne hc
    · exact hrefusal h
  · rintro ⟨res, n, haccept, hno⟩
    obtain ⟨p, outer, hp, hrejects, hparse, hdisclose, hanswered, -⟩ :=
      (accept_eq_some_iff ..).mp haccept
    obtain ⟨k, hk, hholds, hrefusal⟩ :=
      (Response.disclose_eq_answer_iff outer res e.depth).mp hdisclose
    have hnorefusal : ¬ (0 < e.depth ∧ res.isRefusal = true) := fun h => hno (.inr h)
    have hkd : k = e.depth := by
      rcases Nat.lt_or_eq_of_le hk with hlt | heq
      · exact absurd ⟨Nat.zero_lt_of_lt hlt, hrefusal hlt⟩ hnorefusal
      · exact heq
    obtain ⟨hsequence, hcommands⟩ := answeredBy_iff.mp hanswered
    refine ⟨p, outer, res, hp, hrejects, hparse, hkd ▸ hholds, hsequence, ?_, hnorefusal⟩
    by_cases hc : res.command = r.command
    · exact .inl ⟨hc, fun hn => hno (.inl ⟨hc, hn⟩)⟩
    · rcases hcommands with h | ⟨hd, h⟩
      · exact absurd (h.trans hcommand) hc
      · exact .inr ⟨hd, h, hc⟩

end Expectation

namespace Session

/-- The answer that an exchange gives was found in the datagram that came last. -/
theorem exchange_accepted {s t : Session} {request : Request} {route : Route} {manner : Manner}
    {res : Response} (h : exchange request route manner s = .ok res t) :
    ∃ datagram n, t.justReceived = some datagram ∧
      (s.expectation request route).accept datagram = .ok (some (res, n)) := by
  have hends : Ends (exchange request route manner) s fun r t => ∀ res, r = .ok res →
      ∃ datagram n, t.justReceived = some datagram ∧
        (s.expectation request route).accept datagram = .ok (some (res, n)) := by
    refine ends_exchange (fun _ _ _ h => by cases h) (fun _ _ h => by cases h) ?_
      fun _ _ _ _ h => by cases h
    intro response n link hcarried res hres
    cases hres
    obtain ⟨packet, -, actions, hdid, -, hend⟩ := hcarried.recorded
    obtain ⟨before, wait, datagram, rfl, haccept⟩ := hend (response, n) rfl
    exact ⟨datagram, n, justReceived_of_did hdid, haccept⟩
  exact hends.of_ok h res rfl

/-- What is known of the answer that an exchange gives. It comes from the datagram that was
received last, which is a session packet; it bears the number of the request; and it
answers the request unless that datagram misleads. -/
theorem exchange_answer {s t : Session} {request : Request} {route : Route} {manner : Manner}
    {res : Response} (h : exchange request route manner s = .ok res t) :
    res.sequence = s.requestSequence ∧ ∃ datagram, t.justReceived = some datagram ∧
      (∃ p, Packet.decode datagram = .ok p) ∧
      (res.Answers request route.depth ↔
        ¬ (s.expectation request route).Misleads request datagram) := by
  obtain ⟨datagram, n, hreceived, haccept⟩ := exchange_accepted h
  obtain ⟨p, outer, hp, hrejects, hparse, hdisclose, hanswered, -⟩ :=
    (Expectation.accept_eq_some_iff ..).mp haccept
  refine ⟨(Expectation.answeredBy_iff.mp hanswered).1, datagram, hreceived, ⟨p, hp⟩, ?_⟩
  rw [Expectation.misleads_iff rfl]
  constructor
  · rintro hyes ⟨other, m, hother, hno⟩
    rw [haccept] at hother
    cases hother
    exact hno hyes
  · exact fun hno => Decidable.byContradiction fun hne => hno ⟨res, n, haccept, hne⟩

/-- A completed response to a request to send on, where the device id of the target should
be, is given for the device id. -/
theorem completed_sendMessage_given :
    let sending := (Request.sendMessage 7 []).numbered 4
    let inner := Response.reply sending .completed none
    let s := (sample [responding (inner.enclose sending)]).run [.establish]
    let route := sampleConfig.route 0x82 7
    ∃ res t, exchange .deviceId route ⟨1, true, true⟩ s = .ok res t ∧
      ¬ res.Answers .deviceId route.depth := by
  intro sending inner s route
  obtain ⟨res, t, h, hno⟩ : ∃ res t, exchange .deviceId route ⟨1, true, true⟩ s = .ok res t ∧
      decide (¬ res.Answers .deviceId route.depth) = true :=
    exists_of_gives (by decide +kernel)
  exact ⟨res, t, h, of_decide_eq_true hno⟩

theorem exchange_answer_deviceId :
    let s := (sample [responding (.reply (Request.deviceId.numbered 4) .completed (some [0x20, 1]))]).run
      [.establish]
    let route := Route.direct 0x20
    ∃ res t, exchange .deviceId route ⟨1, true, true⟩ s = .ok res t ∧
      res.Answers .deviceId route.depth ∧ res.sequence = s.requestSequence ∧
      ∃ datagram, t.justReceived = some datagram ∧ (∃ p, Packet.decode datagram = .ok p) ∧
        (res.Answers .deviceId route.depth ↔
          ¬ (s.expectation .deviceId route).Misleads .deviceId datagram) := by
  intro s route
  obtain ⟨res, t, h, hanswers⟩ : ∃ res t, exchange .deviceId route ⟨1, true, true⟩ s = .ok res t ∧
      decide (res.Answers .deviceId route.depth) = true :=
    exists_of_gives (by decide +kernel)
  exact ⟨res, t, h, of_decide_eq_true hanswers, exchange_answer h⟩

end Session
end Baseboard
