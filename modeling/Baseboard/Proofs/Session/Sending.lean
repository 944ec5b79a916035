import Baseboard.Proofs.Codec.Envelope
import Baseboard.Proofs.Link.Handing
import Baseboard.Proofs.Session.Dispatch
import Baseboard.Proofs.Session.Uses

/-! One exchange in full: when there is a packet to send, what goes on record, and how the
session stands afterwards. What an operation made of exchanges does follows from this. -/
namespace Baseboard

/-- Only the manufacturer's own type has codes that cannot be computed. -/
theorem authCode_eq_error_iff {t : AuthType} {password : Field} {sessionId sequence : UInt32}
    {message : Bytes} {e : Error} :
    authCode t password sessionId message sequence = .error e ↔
      t = .oem ∧ e = .unsupportedAuthType .oem := by
  cases t <;> simp [authCode, eq_comm]

theorem SessionHeader.make_eq_error_iff {t : AuthType} {sequence sessionId : UInt32}
    {length : Nat} {e : Error} :
    make t sequence sessionId length = .error e ↔ 255 < length ∧ e = .messageTooLong length := by
  unfold make
  by_cases h : length ≤ 255
  · rw [if_pos h]
    exact ⟨nofun, fun he => absurd he.1 (Nat.not_lt.mpr h)⟩
  · rw [if_neg h]
    exact ⟨fun he => ⟨Nat.lt_of_not_le h, (Except.error.inj he).symm⟩, fun he => by rw [he.2]⟩

/-- The errors that are found before anything is sent: the data or the message are too long, or
there is no code to sign the frame with. -/
inductive Error.Early : Error → Prop where
  | requestTooLong (length : Nat) : Early (.requestTooLong length)
  | messageTooLong (length : Nat) : Early (.messageTooLong length)
  | unsupportedAuthType (authType : AuthType) : Early (.unsupportedAuthType authType)

/-- The errors of a request that was given to the link. -/
inductive Error.Late : Error → Prop where
  | cancelled : Late .cancelled
  | sendFailed (cause : IoFailure) : Late (.sendFailed cause)
  | receiveFailed (cause : IoFailure) : Late (.receiveFailed cause)
  | noResponse (tries : Nat) : Late (.noResponse tries)
  | unauthenticatedReply : Late .unauthenticatedReply

namespace Standing

variable {s : Standing} {r : Request} {route : Route}

/-- When no packet can be made of a request: its frame would have to be signed with a code
that cannot be computed, or its message is too long. -/
theorem packet_eq_error_iff {e : Error} :
    s.packet r route = .error e ↔
      (s.frameAuth r.command = .oem ∧ e = .unsupportedAuthType .oem) ∨
      (s.frameAuth r.command ≠ .oem ∧ 255 < (s.message r route).length ∧
        e = .messageTooLong (s.message r route).length) := by
  unfold packet
  dsimp only
  cases hcode : authCode (s.frameAuth r.command) s.password s.sessionId (s.message r route)
      s.frameSequence with
  | error found =>
    obtain ⟨hoem, rfl⟩ := authCode_eq_error_iff.mp hcode
    change Except.error _ = Except.error e ↔ _
    simp [hoem, eq_comm]
  | ok code =>
    have hoem : s.frameAuth r.command ≠ .oem := by
      intro h
      rw [h] at hcode
      cases hcode
    change (SessionHeader.make _ _ _ _ >>= _) = Except.error e ↔ _
    cases hheader : SessionHeader.make (s.frameAuth r.command) s.frameSequence s.sessionId
        (s.message r route).length with
    | error found =>
      obtain ⟨hlong, rfl⟩ := SessionHeader.make_eq_error_iff.mp hheader
      change Except.error _ = Except.error e ↔ _
      simp [hoem, hlong, eq_comm]
    | ok header =>
      have hshort : ¬ 255 < (s.message r route).length := by
        intro hlong
        cases hheader.symm.trans (SessionHeader.make_eq_error_iff.mpr ⟨hlong, rfl⟩)
      change Except.ok _ = Except.error e ↔ _
      simp [hoem, hshort]

theorem early_of_packet {e : Error} (h : s.packet r route = .error e) : e.Early := by
  rcases packet_eq_error_iff.mp h with ⟨-, rfl⟩ | ⟨-, -, rfl⟩
  · exact .unsupportedAuthType _
  · exact .messageTooLong _

/-- It is not for the caller or for the phase that no packet can be made. -/
theorem packet_error_ne {e : Error} (h : s.packet r route = .error e) :
    e ≠ .cancelled ∧ ∀ expected actual, e ≠ .wrongPhase expected actual := by
  cases early_of_packet h <;> exact ⟨nofun, nofun⟩

theorem exists_packet_iff :
    (∃ p, s.packet r route = .ok p) ↔
      s.frameAuth r.command ≠ .oem ∧ (s.message r route).length ≤ 255 := by
  constructor
  · rintro ⟨p, hp⟩
    refine ⟨fun hoem => ?_, Nat.not_lt.mp fun hlong => ?_⟩
    · cases hp.symm.trans (packet_eq_error_iff.mpr (.inl ⟨hoem, rfl⟩))
    · by_cases hoem : s.frameAuth r.command = .oem
      · cases hp.symm.trans (packet_eq_error_iff.mpr (.inl ⟨hoem, rfl⟩))
      · cases hp.symm.trans (packet_eq_error_iff.mpr (.inr ⟨hoem, hlong, rfl⟩))
  · rintro ⟨hoem, hshort⟩
    cases hp : s.packet r route with
    | ok p => exact ⟨p, rfl⟩
    | error e =>
      rcases packet_eq_error_iff.mp hp with ⟨h, -⟩ | ⟨-, hlong, -⟩
      · exact absurd h hoem
      · exact absurd hlong (Nat.not_lt.mpr hshort)

/-- Nothing but the counters differs between two standings. -/
def Recounted (s t : Standing) : Prop :=
  ∃ inbound outbound number, t = { s with
    inboundSequence := inbound
    outboundSequence := outbound
    requestSequence := number }

namespace Recounted

variable {t u : Standing}

theorem refl (s : Standing) : s.Recounted s := ⟨_, _, _, rfl⟩

theorem answered (s : Standing) (n : UInt32) (advances : Bool) :
    s.Recounted (s.answered n advances) := ⟨_, _, _, s.answered_eq n advances⟩

theorem trans (h : s.Recounted t) (h' : t.Recounted u) : s.Recounted u := by
  obtain ⟨_, _, _, rfl⟩ := h
  obtain ⟨_, _, _, rfl⟩ := h'
  exact ⟨_, _, _, rfl⟩

/-- Whatever does not look at the counters is the same. -/
theorem read_eq {f : Standing → α} (h : s.Recounted t)
    (hf : ∀ (x : Standing) inbound outbound number, f { x with
      inboundSequence := inbound
      outboundSequence := outbound
      requestSequence := number } = f x) : f t = f s := by
  obtain ⟨inbound, outbound, number, rfl⟩ := h
  exact hf s inbound outbound number

theorem phase_eq (h : s.Recounted t) : t.phase = s.phase := h.read_eq fun _ _ _ _ => rfl

theorem config_eq (h : s.Recounted t) : t.config = s.config := h.read_eq fun _ _ _ _ => rfl

theorem connected_eq (h : s.Recounted t) : t.connected = s.connected := h.read_eq fun _ _ _ _ => rfl

theorem sessionId_eq (h : s.Recounted t) : t.sessionId = s.sessionId := h.read_eq fun _ _ _ _ => rfl

theorem authType_eq (h : s.Recounted t) : t.authType = s.authType := h.read_eq fun _ _ _ _ => rfl

theorem policy_eq (h : s.Recounted t) : t.policy = s.policy := h.read_eq fun _ _ _ _ => rfl

theorem privilege_eq (h : s.Recounted t) : t.privilege = s.privilege := h.read_eq fun _ _ _ _ => rfl

theorem capabilities_eq (h : s.Recounted t) : t.capabilities = s.capabilities :=
  h.read_eq fun _ _ _ _ => rfl

end Recounted

end Standing

/-- The response that ended a use of the link. -/
def Use.answer? (u : Use) : Option Response :=
  match u.purpose, u.failure, u.actions.getLast? with
  | .request r route, none, some (.received _ (.ok datagram)) =>
    match (u.standing.expectation r route).accept datagram with
    | .ok (some (response, _)) => some response
    | _ => none
  | _, _, _ => none

theorem Use.answer?_of_failure {u : Use} {e : Error} (h : u.failure = some e) :
    u.answer? = none := by
  unfold Use.answer?
  rw [h]
  split <;> simp_all

namespace Session

variable {s t : Session} {request : Request} {route : Route} {manner : Manner}

/-- A request went out over the link, with outcome `r`, and `u` is what is on record of it.
Nothing was done if the request was cancelled before it went out. -/
structure Sends (s : Session) (request : Request) (route : Route) (manner : Manner)
    (r : Except Error Response) (t : Session) (u : Use) : Prop where
  standing_eq : u.standing = s.toStanding
  purpose_eq : u.purpose = .request request route
  uses_eq : t.uses = s.uses ++ [u]
  did : Link.Did s.link u.actions t.link
  made : ∃ packet, s.packet request route = .ok packet ∧ ∀ frame ∈ u.frames, frame = packet.encode
  frames_eq_nil_iff : u.frames = [] ↔ manner.cancellable = true ∧ s.isCancelled = true
  failure_eq_some_iff : ∀ e, u.failure = some e ↔ r = .error e
  answer_eq : u.answer? = r.toOption
  cancelled : manner.cancellable = true ∧ s.isCancelled = true → r = .error .cancelled
  fault : ∀ e, r = .error e → Link.Fault (s.expectation request route).accept e
  standing_of_ok : ∀ response, r = .ok response →
    ∃ n, t.toStanding = s.answered n manner.advances
  standing_of_error : ∀ e, r = .error e → t.toStanding = s.toStanding

theorem Sends.recounted {r : Except Error Response} {u : Use}
    (h : s.Sends request route manner r t u) : s.Recounted t.toStanding := by
  cases r with
  | ok response =>
    obtain ⟨n, hn⟩ := h.standing_of_ok response rfl
    rw [hn]
    exact .answered ..
  | error e =>
    rw [h.standing_of_error e rfl]
    exact .refl _

theorem Sends.sound {r : Except Error Response} {u : Use} {config : Config}
    (h : s.Sends request route manner r t u) (hs : s.Sound config) : t.Sound config := by
  cases r with
  | ok response =>
    obtain ⟨n, hn⟩ := h.standing_of_ok response rfl
    rw [hn]
    exact hs.answered ..
  | error e =>
    rw [h.standing_of_error e rfl]
    exact hs

theorem Sends.late {r : Except Error Response} {u : Use} {e : Error}
    (h : s.Sends request route manner r t u) (he : r = .error e) : e.Late := by
  cases h.fault e he with
  | cancelled => exact .cancelled
  | sendFailed cause => exact .sendFailed cause
  | receiveFailed cause => exact .receiveFailed cause
  | noResponse tries => exact .noResponse tries
  | refused h =>
    obtain ⟨rfl, -⟩ := Expectation.accept_eq_error_iff.mp h
    exact .unauthenticatedReply

/-- Whether an exchange is cancelled before it begins. -/
theorem isCancelled_token (s : Session) (manner : Manner) :
    s.link.isCancelled (if manner.cancellable then some s.token else none) = true ↔
      manner.cancellable = true ∧ s.isCancelled = true := by
  cases manner.cancellable
  · simp [Link.isCancelled]
  · simp [Link.isCancelled, isCancelled]

/-- What is on record of an exchange, from what is known of the exchange over the link. -/
private theorem sends_used {packet : Packet} {link : Link} {x : Standing}
    {outcome : Except Error (Response × UInt32)} {failure : Option Error}
    (hpacket : s.packet request route = .ok packet)
    (hrecorded : Link.Recorded (s.expectation request route).accept packet.encode s.link outcome
      link)
    (hhands : ¬ (manner.cancellable = true ∧ s.isCancelled = true) →
      Link.Hands packet.encode s.link link)
    (hcancelled : manner.cancellable = true ∧ s.isCancelled = true →
      outcome = .error .cancelled ∧ link = s.link)
    (hfault : ∀ e, outcome = .error e → Link.Fault (s.expectation request route).accept e)
    (hfailure : ∀ e, failure = some e ↔ outcome = .error e)
    (hok : ∀ answer, outcome = .ok answer → x = s.answered answer.2 manner.advances)
    (herror : ∀ e, outcome = .error e → x = s.toStanding) :
    ∃ u, s.Sends request route manner (outcome.map Prod.fst)
      { s.used (.request request route) failure link with toStanding := x } u := by
  obtain ⟨actions, hdid, hframes, hend⟩ := hrecorded
  let u : Use := ⟨s.toStanding, .request request route, actions, failure⟩
  have hin : ∀ frame ∈ u.frames, frame = packet.encode := by
    intro frame hframe
    obtain ⟨action, haction, hsent⟩ := List.mem_filterMap.mp hframe
    exact hframes action haction frame hsent
  refine ⟨u, ?_⟩
  constructor
  · rfl
  · rfl
  · rw [used, hdid.drop_eq]
  · exact hdid
  · exact ⟨packet, hpacket, hin⟩
  · constructor
    · intro hnil
      by_contra hno
      obtain ⟨others, hothers, action, haction, hsent⟩ := hhands hno
      obtain rfl : others = actions := hothers.unique hdid
      have hmem : packet.encode ∈ u.frames := List.mem_filterMap.mpr ⟨action, haction, hsent⟩
      rw [hnil] at hmem
      cases hmem
    · intro hyes
      have hnone : actions = [] := by
        rw [← hdid.drop_eq, (hcancelled hyes).2, List.drop_length]
      change actions.filterMap Action.frame? = []
      rw [hnone, List.filterMap_nil]
  · intro e
    rw [hfailure e]
    cases outcome <;> simp [Except.map]
  · cases outcome with
    | error e => exact Use.answer?_of_failure ((hfailure e).mpr rfl)
    | ok answer =>
      obtain ⟨before, wait, datagram, rfl, haccept⟩ := hend answer rfl
      have hnone : failure = none := by
        refine Option.eq_none_iff_forall_ne_some.mpr fun e he => ?_
        cases (hfailure e).mp he
      unfold Use.answer?
      simp [u, hnone, haccept, Except.map, Except.toOption]
  · intro hyes
    rw [(hcancelled hyes).1]
    rfl
  · intro e he
    cases outcome with
    | error found => exact hfault e (congrArg Except.error (Except.error.inj he))
    | ok answer => cases he
  · intro response hr
    cases outcome with
    | error found => cases hr
    | ok answer => exact ⟨answer.2, hok answer rfl⟩
  · intro e he
    cases outcome with
    | error found => exact herror found rfl
    | ok answer => cases he

/-- An exchange over a link that is there: no packet can be made, and nothing is done, or the
request goes out. -/
theorem exchange_sends (hconnected : s.connected = true) (request : Request) (route : Route)
    (manner : Manner) :
    Ends (exchange request route manner) s fun r t =>
      (∃ e, s.packet request route = .error e ∧ r = .error e ∧ t = s) ∨
        ∃ u, s.Sends request route manner r t u := by
  unfold Ends
  rw [exchange_eq]
  cases hpacket : s.packet request route with
  | error e => exact .inl ⟨e, rfl, rfl, rfl⟩
  | ok packet =>
  dsimp only
  rw [if_pos hconnected]
  let cancel := if manner.cancellable then some s.token else none
  have hrecorded := Link.exchange_recorded (s.expectation request route).accept cancel
    packet.encode s.config.timeout manner.tries s.link
  have hfault := Link.exchange_fault (s.expectation request route).accept cancel
    packet.encode s.config.timeout manner.tries s.link
  have hcancelled (h : manner.cancellable = true ∧ s.isCancelled = true) :
      Link.exchange (s.expectation request route).accept cancel packet.encode s.config.timeout
        manner.tries s.link = .error .cancelled s.link :=
    Link.exchange_of_cancelled ((isCancelled_token s manner).mpr h)
  have hhands (h : ¬ (manner.cancellable = true ∧ s.isCancelled = true)) :
      Ends (Link.exchange (s.expectation request route).accept cancel packet.encode
        s.config.timeout manner.tries) s.link fun _ link => Link.Hands packet.encode s.link link :=
    Link.exchange_hands (Bool.of_not_eq_true (mt (isCancelled_token s manner).mp h))
  cases hx : Link.exchange (s.expectation request route).accept cancel packet.encode
      s.config.timeout manner.tries s.link with
  | ok result link =>
    refine .inr (sends_used hpacket (hrecorded.of_ok hx) (fun h => (hhands h).of_ok hx) ?_
      (fun e he => by cases he) (fun e => by simp) ?_ fun e he => by cases he)
    · intro h
      cases hx.symm.trans (hcancelled h)
    · intro answer hanswer
      rw [← Except.ok.inj hanswer]
  | error e link =>
    refine .inr (sends_used hpacket (hrecorded.of_error hx) (fun h => (hhands h).of_error hx) ?_
      (hfault.of_error hx) (fun other => by simp) (fun answer h => by cases h) fun _ _ => rfl)
    intro h
    cases hx.symm.trans (hcancelled h)
    exact ⟨rfl, rfl⟩

/-- An exchange ends with nothing done, because no packet can be made or there is no link, or
the request goes out. -/
theorem exchange_cases (request : Request) (route : Route) (manner : Manner) (s : Session) :
    Ends (exchange request route manner) s fun r t =>
      (∃ e, (s.packet request route = .error e ∨ e = .wrongPhase .bound s.phase) ∧ r = .error e ∧
        t = s) ∨ ∃ u, s.Sends request route manner r t u := by
  by_cases hconnected : s.connected = true
  · refine (exchange_sends hconnected request route manner).imp fun r t ht => ?_
    exact ht.imp_left fun ⟨e, hpacket, hr⟩ => ⟨e, .inl hpacket, hr⟩
  · refine ends_exchange (fun e he => .inl ⟨e, .inl he, rfl, rfl⟩)
      (fun _ => .inl ⟨_, .inr rfl, rfl, rfl⟩) ?_ ?_
    · exact fun _ _ _ hcarried => absurd hcarried.connected hconnected
    · exact fun _ _ hcarried => absurd hcarried.connected hconnected

end Session
end Baseboard
