import Baseboard.Proofs.Session.Authenticity

/-! Datagrams that do not answer the request in hand. Most are passed over, and the wait goes on
within the same try. Not so those that are turned down for want of authentication, which is looked
at before what they answer, and those that are mistaken for a refusal. -/
namespace Baseboard

namespace Expectation

variable {e earlier : Expectation} {b : Bytes} {p : Packet} {r : Response}

/-- A datagram that does not answer the request: it cannot be read, or it tells that the answer is
still to come, or it answers something else. A refusal to send on answers a request in envelopes. -/
inductive Stray (e : Expectation) (b : Bytes) : Prop where
  | undecodable {error : Error} (hdecode : Packet.decode b = .error error)
  | malformed {p : Packet} {error : Error} (hdecode : Packet.decode b = .ok p)
      (hdisclosed : e.disclosed p = .error error)
  | acknowledgement {p : Packet} (hdecode : Packet.decode b = .ok p)
      (hdisclosed : e.disclosed p = .ok .acknowledgement)
  | unrelated {p : Packet} (hdecode : Packet.decode b = .ok p)
      (hdisclosed : e.disclosed p = .ok .unrelated)
  | other {p : Packet} {r : Response} (hdecode : Packet.decode b = .ok p)
      (hdisclosed : e.disclosed p = .ok (.answer r))
      (hother : r.sequence ≠ e.sequence ∨
        (r.command ≠ e.command ∧ ¬ (0 < e.depth ∧ r.isRefusal = true)))

/-- A datagram without authentication where one with it is asked for. -/
def TurnsDown (e : Expectation) (b : Bytes) : Prop :=
  ∃ p, Packet.decode b = .ok p ∧ e.rejects p = true

/-- Where a refusal to send on could be, there is another response to a request to send on, with
the number of the request. -/
def Mistakes (e : Expectation) (b : Bytes) : Prop :=
  ∃ p r, Packet.decode b = .ok p ∧ e.disclosed p = .ok (.answer r) ∧ r.sequence = e.sequence ∧
    r.command ≠ e.command ∧ 0 < e.depth ∧ r.command = AppCommand.sendMessage.code ∧
    r.isRefusal = false

theorem disclosed_of_accept {n : UInt32} (h : e.accept b = .ok (some (r, n))) :
    ∃ p, Packet.decode b = .ok p ∧ e.disclosed p = .ok (.answer r) ∧ e.answeredBy r = true := by
  obtain ⟨p, outer, hdecode, -, hparse, hdisclose, hanswered, -⟩ := (accept_eq_some_iff ..).mp h
  refine ⟨p, hdecode, ?_, hanswered⟩
  rw [disclosed, hparse]
  exact hdisclose

/-- What is mistaken is taken for the answer, unless it is turned down. -/
theorem Mistakes.exists_accept (h : e.Mistakes b) (hturned : ¬ e.TurnsDown b) :
    ∃ answer, e.accept b = .ok (some answer) := by
  obtain ⟨p, r, hdecode, hdisclosed, hsequence, -, hdepth, hcommand, -⟩ := h
  have hrejects : ¬ e.rejects p = true := fun hrejects => hturned ⟨p, hdecode, hrejects⟩
  have hanswered : e.answeredBy r = true := answeredBy_iff.mpr ⟨hsequence, .inr ⟨hdepth, hcommand⟩⟩
  refine ⟨(r, p.header.sequence), ?_⟩
  rw [accept_eq, hdecode]
  dsimp only
  rw [if_neg hrejects, hdisclosed]
  dsimp only
  rw [if_pos hanswered]

/-- A stray datagram that is taken for the answer is mistaken. -/
theorem Stray.mistakes {answer : Response × UInt32} (h : e.Stray b)
    (haccept : e.accept b = .ok (some answer)) : e.Mistakes b := by
  obtain ⟨r, n⟩ := answer
  obtain ⟨p, hdecode, hdisclosed, hanswered⟩ := disclosed_of_accept haccept
  cases h with
  | undecodable hother => cases hdecode.symm.trans hother
  | malformed hother hnone | acknowledgement hother hnone | unrelated hother hnone =>
    obtain rfl := Except.ok.inj (hdecode.symm.trans hother)
    cases hdisclosed.symm.trans hnone
  | other hother hfound hdiffers =>
    obtain rfl := Except.ok.inj (hdecode.symm.trans hother)
    obtain rfl := Disclosure.answer.inj (Except.ok.inj (hdisclosed.symm.trans hfound))
    obtain ⟨hsequence, hcommand⟩ := answeredBy_iff.mp hanswered
    obtain ⟨hne, hrefusal⟩ := hdiffers.resolve_left (not_not_intro hsequence)
    obtain ⟨hdepth, hsend⟩ := hcommand.resolve_left hne
    exact ⟨p, r, hdecode, hdisclosed, hsequence, hne, hdepth, hsend,
      Bool.eq_false_iff.mpr fun h => hrefusal ⟨hdepth, h⟩⟩

/-- Which stray datagrams are passed over. -/
theorem Stray.accept_eq_none_iff (h : e.Stray b) :
    e.accept b = .ok none ↔ ¬ e.TurnsDown b ∧ ¬ e.Mistakes b := by
  constructor
  · intro hnone
    have hturned : ¬ e.TurnsDown b := by
      intro hturned
      cases hnone.symm.trans (accept_eq_error_iff.mpr ⟨rfl, hturned⟩)
    refine ⟨hturned, fun hmistakes => ?_⟩
    obtain ⟨answer, hanswer⟩ := hmistakes.exists_accept hturned
    cases hnone.symm.trans hanswer
  · rintro ⟨hturned, hmistakes⟩
    cases haccept : e.accept b with
    | error error => exact absurd (accept_eq_error_iff.mp haccept).2 hturned
    | ok found =>
      cases found with
      | none => rfl
      | some answer => exact absurd (h.mistakes haccept) hmistakes

/-- A response under another number, or to another command where there is no refusal. -/
private theorem stray_of_other (hdecode : Packet.decode b = .ok p)
    (hdisclosed : e.disclosed p = .ok (.answer r))
    (hother : r.sequence ≠ e.sequence ∨ (r.command ≠ e.command ∧ ¬ 0 < e.depth)) :
    e.Stray b ∧ ¬ e.Mistakes b := by
  refine ⟨.other hdecode hdisclosed (hother.imp_right fun h => ⟨h.1, fun hr => h.2 hr.1⟩), ?_⟩
  rintro ⟨q, x, hq, hx, hsequence, -, hdepth, -⟩
  obtain rfl := Except.ok.inj (hdecode.symm.trans hq)
  obtain rfl := Disclosure.answer.inj (Except.ok.inj (hdisclosed.symm.trans hx))
  exact hother.elim (fun hne => hne hsequence) fun h => h.2 hdepth

private theorem stray_of_unrelated (hdecode : Packet.decode b = .ok p)
    (hdisclosed : e.disclosed p = .ok .unrelated) : e.Stray b ∧ ¬ e.Mistakes b := by
  refine ⟨.unrelated hdecode hdisclosed, ?_⟩
  rintro ⟨q, x, hq, hx, -⟩
  obtain rfl := Except.ok.inj (hdecode.symm.trans hq)
  cases hdisclosed.symm.trans hx

/-- What answered a request does not answer a later one with another number, nor is it mistaken for
a refusal. -/
theorem Stray.of_duplicate {answer : Response × UInt32}
    (hearlier : earlier.accept b = .ok (some answer)) (hsequence : earlier.sequence ≠ e.sequence)
    (hdepth : earlier.depth = e.depth ∨
      (earlier.depth = 0 ∧ earlier.command ≠ AppCommand.sendMessage.code) ∨
      (e.depth = 0 ∧ e.command ≠ AppCommand.sendMessage.code)) :
    e.Stray b ∧ ¬ e.Mistakes b := by
  obtain ⟨res, n⟩ := answer
  obtain ⟨p, outer, hdecode, -, hparse, hdisclose, hanswered, -⟩ := (accept_eq_some_iff ..).mp hearlier
  obtain ⟨hnumber, hcommand⟩ := answeredBy_iff.mp hanswered
  have hdisclosed : e.disclosed p = outer.disclose e.depth := by
    rw [disclosed, hparse]
    rfl
  by_cases hsame : earlier.depth = e.depth
  · rw [hsame] at hdisclose
    refine stray_of_other hdecode (hdisclosed.trans hdisclose) (.inl ?_)
    rw [hnumber]
    exact hsequence
  rcases hdepth with hdepth | ⟨hzero, hother⟩ | ⟨hzero, hother⟩
  · exact absurd hdepth hsame
  · -- What stood in no envelopes is no response to a request to send on.
    obtain ⟨depth, hdepth⟩ : ∃ depth, e.depth = depth + 1 := ⟨e.depth - 1, by omega⟩
    rw [hzero, Response.disclose] at hdisclose
    obtain rfl := Disclosure.answer.inj (Except.ok.inj hdisclose)
    have hsame : outer.command = earlier.command :=
      hcommand.resolve_right fun h => absurd h.1 (by omega)
    have hsend : outer.isSendMessage = false := by
      rw [Response.isSendMessage, hsame, beq_false_of_ne hother, Bool.and_false]
    refine stray_of_unrelated hdecode ?_
    rw [hdisclosed, hdepth, Response.disclose_succ, if_pos hsend]
  · -- What stands in envelopes is itself a response to a request to send on.
    obtain ⟨depth, hdepth⟩ : ∃ depth, earlier.depth = depth + 1 := ⟨earlier.depth - 1, by omega⟩
    rw [hdepth] at hdisclose
    have hsend := ((Response.disclose_succ_eq_answer_iff outer res depth).mp hdisclose).1
    rw [Response.isSendMessage, Bool.and_eq_true, beq_iff_eq, beq_iff_eq] at hsend
    have houter : e.disclosed p = .ok (.answer outer) := by
      rw [hdisclosed, hzero]
      rfl
    refine stray_of_other hdecode houter (.inr ⟨?_, by omega⟩)
    rw [hsend.2]
    exact hother.symm

/-- However many stray datagrams come in before the answer, the frame is sent once, and the answer is
had in the first try. -/
theorem exchange_of_strays {l : Link} {n : Network} {cancel : Option CancelToken} {frame : Bytes}
    {timeout tries : Nat} {i : Incoming} {answer : Response × UInt32}
    (hsend : l.network.send frame = (.ok (), n)) (hpending : n.pending = i.events)
    (hstrays : ∀ x ∈ i.passed, x.2.length ≤ Network.bufferLength ∧ e.Stray x.2 ∧
      ¬ e.TurnsDown x.2 ∧ ¬ e.Mistakes x.2)
    (hwhole : i.answer.length ≤ Network.bufferLength)
    (haccept : e.accept i.answer = .ok (some answer)) (htime : i.time < timeout)
    (hlive : (l.elapse i.time).isCancelled cancel = false) :
    ∃ t, Link.exchange e.accept cancel frame timeout tries l = .ok answer t ∧
      t.stats = l.countSend.stats := by
  have hpassed : ∀ x ∈ i.passed, x.2.length ≤ Network.bufferLength ∧ e.accept x.2 = .ok none := by
    intro x hx
    obtain ⟨hlength, hstray, hpasses⟩ := hstrays x hx
    exact ⟨hlength, hstray.accept_eq_none_iff.mpr hpasses⟩
  obtain ⟨t, -, -, hexchange, hstats, -⟩ :=
    Link.exchange_of_incoming hsend hpending hpassed hwhole haccept htime hlive
  exact ⟨t, hexchange, hstats⟩

/-- A stray datagram is passed over, and the wait goes on within the same try, unless it is turned
down, which ends the exchange, or mistaken. A duplicate of the answer to an earlier request with
another number is stray, and never mistaken. -/
theorem stray_passed_over_iff (e : Expectation) (b : Bytes) :
    (e.Stray b →
      (e.accept b = .ok none ↔ ¬ e.TurnsDown b ∧ ¬ e.Mistakes b) ∧
      ∀ (slice : Link.Slice) (cancel : Option CancelToken) (deadline : Nat) (l m : Link),
        l.isCancelled cancel = false → l.network.now < deadline →
        l.receive (min (deadline - l.network.now) slice.length) = (.ok b, m) →
        (¬ e.TurnsDown b → ¬ e.Mistakes b → Link.awaitAnswer slice e.accept cancel deadline l =
          Link.awaitAnswer slice e.accept cancel deadline m) ∧
        (e.TurnsDown b → Link.awaitAnswer slice e.accept cancel deadline l =
          .error .unauthenticatedReply m)) ∧
    ∀ (earlier : Expectation) (answer : Response × UInt32), earlier.accept b = .ok (some answer) →
      earlier.sequence ≠ e.sequence →
      (earlier.depth = e.depth ∨
        (earlier.depth = 0 ∧ earlier.command ≠ AppCommand.sendMessage.code) ∨
        (e.depth = 0 ∧ e.command ≠ AppCommand.sendMessage.code)) →
      e.Stray b ∧ ¬ e.Mistakes b := by
  refine ⟨fun h => ⟨h.accept_eq_none_iff, ?_⟩, fun _ _ => Stray.of_duplicate⟩
  intro slice cancel deadline l m hlive htime hreceive
  have hawait : Link.awaitAnswer slice e.accept cancel deadline l = _ :=
    Link.awaitAnswer_of_datagram hlive htime hreceive
  refine ⟨fun hturned hmistakes => ?_, fun hturned => ?_⟩
  · rw [hawait, h.accept_eq_none_iff.mpr ⟨hturned, hmistakes⟩]
  · rw [hawait, accept_eq_error_iff.mpr ⟨rfl, hturned⟩]

end Expectation

namespace Session

/-- The answer to the request for a challenge. -/
def challengeAnswer : Response :=
  .reply ((Request.sessionChallenge .password (Field.fit [])).numbered 1) .completed
    (some (1 :: List.replicate 19 0))

def challengeReply : Packet := .plain challengeAnswer.encode

/-- What follows a frame comes in after `datagram`. -/
def preceded (datagram : Bytes) : Delivery → Delivery
  | .accepted events => .accepted (⟨0, false, .datagram datagram⟩ :: events)
  | .failed cause => .failed cause

/-- A session under the type `Password`, with a controller that authenticates its replies from the
activation on. The answer to the request for a challenge comes again before each of them. -/
def echoing (reject : Bool) : Session :=
  scripted { sampleConfig with rejectUnauthenticated := reject } (validate_of_anonymous rfl rfl)
    ((passwordOpening AuthType.password.code Packet.plain).take 2 ++
      ((passwordOpening AuthType.password.code (claiming AuthType.password.code 1 (Field.fit []))).drop
        2).map (preceded challengeReply.encode))

/-- What a session that asked for a challenge waits for. -/
def challenging (reject : Bool) : Expectation :=
  ⟨.none, reject, 0, AppCommand.sessionChallenge.code, 1⟩

/-- What a session that asked for its activation waits for. -/
def activating (reject : Bool) : Expectation :=
  ⟨.password, reject, 0, AppCommand.activateSession.code, 2⟩

private theorem challengeReply_accepted (reject : Bool) :
    (challenging reject).accept challengeReply.encode = .ok (some (challengeAnswer, 0)) := by
  cases reject <;> decide +kernel

/-- Where replies without authentication are turned down, the answer to the request for a challenge
ends the activation of the session when it comes again. -/
theorem challengeReply_turned_down :
    (challenging true).accept challengeReply.encode = .ok (some (challengeAnswer, 0)) ∧
      (activating true).Stray challengeReply.encode ∧
      (activating true).accept challengeReply.encode = .error .unauthenticatedReply ∧
      ∃ t, establish (echoing true) = .error .unauthenticatedReply t ∧
        t.justReceived = some challengeReply.encode := by
  have hsequence : (challenging true).sequence ≠ (activating true).sequence := by decide
  obtain ⟨hstray, -⟩ :=
    Expectation.Stray.of_duplicate (challengeReply_accepted true) hsequence (.inl rfl)
  have hended : establish (echoing true) =
      .error .unauthenticatedReply (after establish (echoing true)) :=
    eq_error_of_failsWith (by decide +kernel)
  exact ⟨challengeReply_accepted true, hstray, by decide +kernel, _, hended, by decide +kernel⟩

/-- Where they are not, the activation goes on. -/
theorem challengeReply_passed_over :
    (activating false).Stray challengeReply.encode ∧
      (activating false).accept challengeReply.encode = .ok none ∧
      ∃ t, establish (echoing false) = .ok () t ∧ t.phase = .active := by
  obtain ⟨hstrays, hduplicates⟩ :=
    Expectation.stray_passed_over_iff (activating false) challengeReply.encode
  obtain ⟨hstray, hmistakes⟩ :=
    hduplicates (challenging false) _ (challengeReply_accepted false) (by decide) (.inl rfl)
  have hturned : ¬ (activating false).TurnsDown challengeReply.encode := by
    rintro ⟨p, -, hrejects⟩
    cases (Expectation.rejects_iff.mp hrejects).2.2
  obtain ⟨⟨⟩, t, hopened, hactive⟩ : ∃ r t, establish (echoing false) = .ok r t ∧
      decide (t.phase = .active) = true := exists_of_gives (by decide +kernel)
  exact ⟨hstray, (hstrays hstray).1.mpr ⟨hturned, hmistakes⟩, t, hopened, of_decide_eq_true hactive⟩

end Session
end Baseboard
