import Baseboard.Proofs.Session.Rest

/-! The end of an active session. Whichever way it ends, the controller is asked to close it,
unless the caller had cancelled before closing it or no frame of it can be made. -/
namespace Baseboard

/-- The frames of the active session would have to be signed with a code that cannot be
computed, so that none can be made. -/
def Standing.Mute (s : Standing) : Prop := s.policy.signs s.privilege = true ∧ s.authType = .oem

theorem Standing.mute_iff {s : Standing} (hphase : s.phase = .active) (command : UInt8) :
    s.Mute ↔ s.frameAuth command = .oem := by
  unfold Mute frameAuth
  rw [hphase]
  dsimp only
  cases s.policy.signs s.privilege <;> simp

theorem Standing.Recounted.mute_iff {s t : Standing} (h : s.Recounted t) : t.Mute ↔ s.Mute := by
  unfold Standing.Mute
  rw [h.policy_eq, h.privilege_eq, h.authType_eq]

/-- A packet can be made of a request to close an active session unless the session is mute. -/
theorem Standing.exists_closing_packet_iff {s : Standing} (hphase : s.phase = .active)
    (sessionId : UInt32) (controller : UInt8) :
    (∃ p, s.packet (.closeSession sessionId) (.direct controller) = .ok p) ↔ ¬ s.Mute := by
  have hshort : (Request.closeSession sessionId).payload.length ≤ 248 := by
    rw [Request.length_payload_closeSession]
    decide
  rw [exists_direct_packet_iff hshort, mute_iff hphase]

/-- A frame asks the controller to close a session, and is a frame of that session. -/
def ClosesSession (sessionId : UInt32) (frame : Bytes) : Prop :=
  ∃ p q, Packet.decode frame = .ok p ∧ p.header.sessionId = sessionId ∧
    Request.disclose p.payload 0 = .ok q ∧ q.wording = (Request.closeSession sessionId).wording

namespace Session

variable {config : Config} {s t : Session} {r : Request} {route : Route}

/-- By the time the network is as it is in `n`, a frame that asks to close the session has been
handed over. -/
def ClosedBy (s : Session) (n : Network) : Prop :=
  ∃ frame ∈ (n.trace.drop s.link.network.trace.length).filterMap Action.frame?,
    ClosesSession s.sessionId frame

theorem closedBy_iff {actions : List Action} {link : Link} (h : Link.Did s.link actions link) :
    s.ClosedBy link.network ↔ ∃ frame ∈ actions.filterMap Action.frame?,
      ClosesSession s.sessionId frame := by
  unfold ClosedBy
  rw [h.drop_eq]

/-- What was handed over later was handed over. -/
theorem ClosedBy.of_later {n : Network} (hid : t.sessionId = s.sessionId)
    (hlater : s.link.network.trace.length ≤ t.link.network.trace.length) (h : t.ClosedBy n) :
    s.ClosedBy n := by
  obtain ⟨frame, hframe, hcloses⟩ := h
  rw [hid] at hcloses
  obtain ⟨action, haction, hsent⟩ := List.mem_filterMap.mp hframe
  have hmem := List.drop_subset_drop_left n.trace hlater haction
  exact ⟨frame, List.mem_filterMap.mpr ⟨action, hmem, hsent⟩, hcloses⟩

/-- The request to close the session, however it is exchanged. -/
theorem closing_sent_iff (hs : s.Sound config) (hconnected : s.connected = true)
    (hphase : s.phase = .active) (manner : Manner) :
    Ends (exchange (.closeSession s.sessionId) (.direct s.config.controller) manner) s fun _ t =>
      s.ClosedBy t.link.network ↔
        ¬ s.Mute ∧ ¬ (manner.cancellable = true ∧ s.isCancelled = true) := by
  refine (exchange_sends hconnected _ _ manner).imp fun outcome t ht => ?_
  rw [← Standing.exists_closing_packet_iff hphase s.sessionId s.config.controller]
  rcases ht with ⟨e, hpacket, -, rfl⟩ | ⟨use, huse⟩
  · constructor
    · intro h
      rw [closedBy_iff (.refl t.link)] at h
      obtain ⟨frame, hframe, -⟩ := h
      cases hframe
    · rintro ⟨⟨p, hp⟩, -⟩
      cases hp.symm.trans hpacket
  · have hasked := huse.asked hs (.closing (show Call.abort.mayClose = true from rfl) hphase)
    have hcloses : ∀ frame ∈ use.frames, ClosesSession s.sessionId frame := by
      intro frame hframe
      obtain ⟨p, hp, -, -, hid, q, hq, hwording⟩ := hasked.asks.frames frame hframe
      exact ⟨p, q, hp, hid, hq, hwording⟩
    rw [← huse.frames_eq_nil_iff, closedBy_iff huse.did]
    constructor
    · rintro ⟨frame, hframe, -⟩
      obtain ⟨p, hp, -⟩ := huse.made
      refine ⟨⟨p, hp⟩, fun hnil => ?_⟩
      change frame ∈ use.frames at hframe
      rw [hnil] at hframe
      cases hframe
    · rintro ⟨-, hnil⟩
      obtain ⟨frame, hframe⟩ := List.exists_mem_of_ne_nil _ hnil
      exact ⟨frame, hframe, hcloses frame hframe⟩

/-- Giving up an active session asks for it to be closed, unless it is mute. -/
theorem abort_closedBy_iff (hs : s.Sound config) (hconnected : s.connected = true)
    (hphase : s.phase = .active) :
    Ends abort s fun _ t => s.ClosedBy t.link.network ↔ ¬ s.Mute := by
  refine ends_abort (fun h => absurd hphase h) fun _ => ?_
  refine (closing_sent_iff hs hconnected hphase ⟨1, false, true⟩).imp fun _ t ht => ?_
  change s.ClosedBy t.link.network ↔ ¬ s.Mute
  rw [ht]
  simp

theorem discard_closedBy_iff (hs : s.Sound config) (hconnected : s.connected = true)
    (hphase : s.phase = .active) : s.ClosedBy s.discard.link.network ↔ ¬ s.Mute := by
  rw [discard_of_active hphase]
  exact (abort_closedBy_iff hs hconnected hphase).after

/-- Closing an active session asks for that, unless it is mute or already cancelled. -/
theorem close_closedBy_iff (hs : s.Sound config) (hconnected : s.connected = true)
    (hphase : s.phase = .active) :
    Ends close s fun _ t => s.ClosedBy t.link.network ↔ ¬ s.Mute ∧ ¬ s.isCancelled = true := by
  refine ends_close (fun h => ?_) (fun h => absurd hphase h) fun _ => ?_
  · cases hphase.symm.trans h
  · refine (ends_closeSession ..).mpr ((ends_manage ..).mpr ?_)
    refine (closing_sent_iff hs hconnected hphase ⟨s.config.maxTries, true, true⟩).imp fun _ t ht => ?_
    change s.ClosedBy t.link.network ↔ ¬ s.Mute ∧ ¬ s.isCancelled = true
    rw [ht]
    simp

/-- What reads as a request to close a session is no other request, in whatever envelopes. -/
theorem not_closesSession {p : Packet} (hsequence : s.requestSequence.toNat < 64)
    (hpacket : s.packet r route = .ok p) (hcommand : r.command ≠ AppCommand.closeSession.code)
    (sessionId : UInt32) : ¬ ClosesSession sessionId p.encode := by
  rintro ⟨found, q, hfound, -, hq, hwording⟩
  obtain rfl : p = found :=
    Except.ok.inj ((Packet.decode_encode (Standing.wellFormed_packet hpacket)).symm.trans hfound)
  obtain ⟨code, -, -, rfl⟩ := Standing.packet_eq_ok hpacket
  change Request.disclose (s.message r route) 0 = .ok q at hq
  have hcloses : q.command = AppCommand.closeSession.code := congrArg Wording.command hwording
  -- What is read first is the request itself or an outermost envelope, which asks to send on.
  rcases List.eq_nil_or_concat route.envelopes with hnil | ⟨es, e, hes⟩
  · have hdepth : route.depth = 0 := by rw [← Route.length_envelopes, hnil, List.length_nil]
    obtain ⟨x, hx, hsame, -⟩ := Standing.disclose_message r route hsequence
    rw [hdepth, hq] at hx
    cases hx
    exact hcommand ((congrArg Wording.command hsame).symm.trans hcloses)
  · unfold Standing.message Route.enclose at hq
    rw [hes, List.concat_eq_append, List.foldl_append, List.foldl_cons, List.foldl_nil,
      Request.disclose_encode] at hq
    cases Except.ok.inj hq
    have hsend : AppCommand.sendMessage.code = AppCommand.closeSession.code := hcloses
    exact absurd hsend (by decide)

/-- A command that leaves its session active has moved the counters at most. -/
structure Kept (s : Session) (r : Request) (outcome : Except Error Response) (t : Session) : Prop where
  recounted : s.Recounted t.toStanding
  sound : ∀ config, s.Sound config → t.Sound config
  later : s.link.network.trace.length ≤ t.link.network.trace.length
  mute : s.Mute → t = s ∧ ∃ e, outcome = .error e
  quiet : r.command ≠ AppCommand.closeSession.code → ¬ s.ClosedBy t.link.network

/-- A command that was cancelled ends its session, and has asked for it to be closed. -/
structure GivenUp (s : Session) (outcome : Except Error Response) (t : Session) : Prop where
  inactive : t.phase ≠ .active
  closed : s.ClosedBy t.link.network
  audible : ¬ s.Mute
  cancelled : outcome = .error .cancelled

theorem Kept.refl (s : Session) (r : Request) (e : Error) : Kept s r (.error e) s := by
  refine ⟨.refl _, fun _ h => h, Nat.le_refl _, fun _ => ⟨rfl, e, rfl⟩, fun _ h => ?_⟩
  rw [closedBy_iff (.refl s.link)] at h
  obtain ⟨frame, hframe, -⟩ := h
  cases hframe

theorem Sends.audible {manner : Manner} {outcome : Except Error Response} {use : Use}
    (hphase : s.phase = .active) (h : s.Sends r route manner outcome t use) : ¬ s.Mute := by
  obtain ⟨p, hp, -⟩ := h.made
  rw [Standing.mute_iff hphase r.command]
  exact (Standing.exists_packet_iff.mp ⟨p, hp⟩).1

theorem Sends.kept {manner : Manner} {outcome : Except Error Response} {use : Use}
    (hs : s.Sound config) (hphase : s.phase = .active)
    (h : s.Sends r route manner outcome t use) : Kept s r outcome t := by
  constructor
  · exact h.recounted
  · exact fun _ => h.sound
  · have hdid : t.link.network.trace = s.link.network.trace ++ use.actions := h.did
    rw [hdid, List.length_append]
    exact Nat.le_add_right ..
  · exact fun hmute => absurd hmute (h.audible hphase)
  · intro hcommand
    rw [closedBy_iff h.did]
    rintro ⟨frame, hframe, hcloses⟩
    obtain ⟨p, hp, hframes⟩ := h.made
    rw [hframes frame hframe] at hcloses
    exact not_closesSession hs.sequence_lt hp hcommand _ hcloses

/-- A command keeps its session or gives it up. -/
theorem dispatch_keeps (hs : s.Sound config) (hconnected : s.connected = true)
    (hphase : s.phase = .active) :
    Ends (dispatch r route) s fun outcome t => Kept s r outcome t ∨ GivenUp s outcome t := by
  refine ends_dispatch (fun h => absurd hphase h) fun _ => ?_
  refine (exchange_sends hconnected r route _).imp fun outcome t ht => ?_
  rcases ht with ⟨e, hpacket, rfl, rfl⟩ | ⟨use, huse⟩
  · refine ⟨fun h => ?_, fun _ => .inl (.refl t r e)⟩
    exact absurd (Except.error.inj h) (Standing.packet_error_ne hpacket).1
  · have hkept := huse.kept hs hphase
    refine ⟨fun _ => ?_, fun _ => .inl hkept⟩
    have haudible := huse.audible hphase
    have habort := abort_closedBy_iff (huse.sound hs)
      (huse.recounted.connected_eq.trans hconnected) (huse.recounted.phase_eq.trans hphase)
    refine (habort.and (abort_closes t)).imp fun _ u hu => .inr ⟨?_, ?_, haudible, rfl⟩
    · rw [hu.2.2]
      decide
    · exact .of_later huse.recounted.sessionId_eq hkept.later
        (hu.1.mpr (mt huse.recounted.mute_iff.mp haudible))

/-- A command that ends its session has asked for it to be closed. -/
theorem dispatch_closedBy (hs : s.Sound config) (hconnected : s.connected = true)
    (hphase : s.phase = .active) :
    Ends (dispatch r route) s fun _ t => t.phase ≠ .active →
      s.ClosedBy t.link.network ∧ ¬ s.Mute := by
  refine (dispatch_keeps hs hconnected hphase).imp fun outcome t ht hne => ?_
  rcases ht with ht | ht
  · exact absurd (ht.recounted.phase_eq.trans hphase) hne
  · exact ⟨ht.closed, ht.audible⟩

/-- Whichever call ends an active session. -/
theorem op_closedBy_iff (call : Call) (hs : s.Sound config) (hconnected : s.connected = true)
    (hphase : s.phase = .active) :
    Ends call.op s fun _ t => t.phase ≠ .active →
      (s.ClosedBy t.link.network ↔ ¬ s.Mute ∧ ¬ (call = .close ∧ s.isCancelled = true)) := by
  have hcommand {t : Session} (hcall : call ≠ .close)
      (h : t.phase ≠ .active → s.ClosedBy t.link.network ∧ ¬ s.Mute) (hne : t.phase ≠ .active) :
      s.ClosedBy t.link.network ↔ ¬ s.Mute ∧ ¬ (call = .close ∧ s.isCancelled = true) :=
    iff_of_true (h hne).1 ⟨(h hne).2, fun hc => hcall hc.1⟩
  have hgiven {n : Network} (hcall : call ≠ .close) (h : s.ClosedBy n ↔ ¬ s.Mute) :
      s.ClosedBy n ↔ ¬ s.Mute ∧ ¬ (call = .close ∧ s.isCancelled = true) := by
    rw [h]
    exact ⟨fun hmute => ⟨hmute, fun hc => hcall hc.1⟩, And.left⟩
  have hother {phase : Phase} (h : phase ≠ .active) : s.phase ≠ phase := by
    rw [hphase]
    exact h.symm
  cases call with
  | connect =>
    exact (ends_expect_bind_of_ne (hother (by decide : Phase.unconnected ≠ _))).mpr
      fun hne => absurd hphase hne
  | ping =>
    exact (ends_map ..).mpr ((ends_expect_bind_of_ne (hother (by decide : Phase.bound ≠ _))).mpr
      fun hne => absurd hphase hne)
  | establish =>
    exact (ends_expect_bind_of_ne (hother (by decide : Phase.bound ≠ _))).mpr
      fun hne => absurd hphase hne
  | command request =>
    refine (ends_map ..).mpr ((ends_command ..).mpr ?_)
    exact (dispatch_closedBy hs hconnected hphase).imp fun _ _ ht => hcommand nofun ht
  | raw netFn unit target channel number data =>
    refine (ends_map ..).mpr (ends_raw (fun _ hne => absurd hphase hne) ?_)
    exact (dispatch_closedBy hs hconnected hphase).imp fun _ _ ht => hcommand nofun ht
  | close =>
    refine (close_closedBy_iff hs hconnected hphase).imp fun _ t ht _ => ?_
    rw [ht]
    simp
  | abort => exact (abort_closedBy_iff hs hconnected hphase).imp fun _ _ ht _ => hgiven nofun ht
  | discard => exact fun _ => hgiven nofun (discard_closedBy_iff hs hconnected hphase)
  | elapse | cancel | enqueue => exact fun hne => absurd hphase hne

/-- A bound session after its search and the requests of its opening, before anything is made
of their outcome. -/
def handshaken (s : Session) : Session := after (do pingByPolicy; handshake) s

/-- An opening that is cancelled when the session is active has made a frame of it before. -/
theorem Handshaken.audible {steps : List (Stage × Use)}
    (h : Handshaken config s (.error .cancelled) t steps) (hactive : t.phase = .active) :
    ¬ t.Mute := by
  obtain ⟨before, use, v, -, -, hv, hasked⟩ := h.cancelled rfl hactive
  have hmade := hasked.made
  rw [hv] at hmade
  rw [Standing.mute_iff hactive]
  exact (Standing.exists_packet_iff.mp hmade).1

/-- An opening that gives up a session it had activated has asked for it to be closed. -/
theorem establish_closedBy (hs : s.Sound config) (hrest : s.AtRest) (hphase : s.phase = .bound) :
    Ends establish s fun _ t => s.handshaken.phase = .active → t.phase ≠ .active →
      s.handshaken.ClosedBy t.link.network := by
  refine ends_establish_of_rest hs hrest hphase ?_ ?_
  · intro e t sought ht hsought hactive
    have hstopped : s.handshaken = t := after_bind_of_error ht
    have hnext := (hsought.rests hrest hphase).2
    rw [← hstopped, hactive] at hnext
    cases hnext
  · intro r t u found sought steps ht hu _ h
    have hshaken : s.handshaken = u := (after_bind_of_ok ht).trans hu
    rw [hshaken]
    refine ⟨fun _ hactive hne => absurd hactive hne, ?_, ?_⟩
    · rintro rfl
      by_cases hactive : u.phase = .active
      · exact (abort_closedBy_iff h.sound h.connected hactive).imp
          fun _ _ hv _ _ => hv.mpr (h.audible hactive)
      · exact (abort_closes u).imp fun _ _ _ h => absurd h hactive
    · exact fun e hr hne hactive => absurd hactive (h.failed e hr hne)

/-- An opening succeeds exactly when it leaves a bound session active. -/
theorem establish_active_iff (hs : s.Sound config) (hrest : s.AtRest) (hphase : s.phase = .bound) :
    Ends establish s fun r t => r = .ok () ↔ t.phase = .active := by
  refine ends_establish_of_rest hs hrest hphase ?_ ?_
  · intro e t sought _ hsought
    rw [(hsought.rests hrest hphase).2]
    exact ⟨nofun, nofun⟩
  · intro r t u found sought steps _ _ _ h
    refine ⟨fun hr => iff_of_true hr (h.done hr), ?_, ?_⟩
    · rintro rfl
      refine (abort_closes u).imp fun _ v hv => ?_
      rw [hv.2]
      exact ⟨nofun, nofun⟩
    · rintro e rfl -
      exact ⟨nofun, nofun⟩

/-- The record of what was done only grows. -/
theorem Path.did {call : Call} (h : Path call s t) : ∃ actions, Link.Did s.link actions t.link := by
  induction h with
  | refl => exact ⟨[], .refl s.link⟩
  | tail _ hmove ih =>
    obtain ⟨actions, hdid⟩ := ih
    have hadd {u v : Link} {more : List Action} (h : Link.Did u more v)
        (hdid : Link.Did s.link actions u) : ∃ actions, Link.Did s.link actions v :=
      ⟨_, hdid.trans h⟩
    cases hmove with
    | passed htrace => exact ⟨actions, (htrace _).trans hdid⟩
    | turned | privileged => exact ⟨actions, hdid⟩
    | looked failure hwanted h =>
      obtain ⟨more, hmore, -⟩ := h
      exact hadd hmore hdid
    | answered hwanted h =>
      obtain ⟨packet, -, more, hmore, -⟩ := h.recorded
      exact hadd hmore hdid
    | failed hwanted h =>
      obtain ⟨packet, -, more, hmore, -⟩ := h.recorded
      exact hadd hmore hdid

/-- What was handed over was handed over before some point or after it. -/
theorem ClosedBy.split {link : Link} {actions : List Action} (hid : t.sessionId = s.sessionId)
    (hlater : s.link.network.trace.length ≤ t.link.network.trace.length)
    (hdid : Link.Did t.link actions link) (h : s.ClosedBy link.network) :
    s.ClosedBy t.link.network ∨ t.ClosedBy link.network := by
  obtain ⟨frame, hframe, hcloses⟩ := h
  rw [hdid, List.drop_append_of_le_length hlater, List.filterMap_append] at hframe
  rcases List.mem_append.mp hframe with hframe | hframe
  · exact .inl ⟨frame, hframe, hcloses⟩
  · refine .inr ((closedBy_iff hdid).mpr ⟨frame, hframe, ?_⟩)
    rw [hid]
    exact hcloses

/-- A request that has to be carried out keeps its session or gives it up, like the bare one. -/
theorem require_keeps (hs : s.Sound config) (hconnected : s.connected = true)
    (hphase : s.phase = .active) :
    Ends (require r) s fun outcome t =>
      (∃ response, Kept s r response t ∧ ∀ res, outcome = .ok res → response = .ok res) ∨
        (GivenUp s (.error .cancelled) t ∧ outcome = .error .cancelled) := by
  refine (ends_require ..).mpr ((ends_command ..).mpr ?_)
  refine (dispatch_keeps hs hconnected hphase).imp fun outcome t ht => ?_
  rcases ht with ht | ht
  · refine .inl ⟨_, ht, fun res hres => ?_⟩
    obtain ⟨response, rfl, haccepted⟩ := Reading.bind_eq_ok_iff.mp hres
    rw [(Response.accepted_eq_ok_iff.mp haccepted).2]
  · obtain rfl := ht.cancelled
    exact .inr ⟨ht, rfl⟩

/-- A request that was carried out keeps its session, which can be heard. -/
theorem require_of_ok {res : Response} (hs : s.Sound config) (hconnected : s.connected = true)
    (hphase : s.phase = .active) (hr : require r s = .ok res t) :
    Kept s r (.ok res) t ∧ ¬ s.Mute := by
  rcases (require_keeps hs hconnected hphase).of_ok hr with ⟨response, hkept, hres⟩ | ⟨-, h⟩
  · obtain rfl : response = .ok res := hres res rfl
    refine ⟨hkept, fun hmute => ?_⟩
    obtain ⟨-, e, he⟩ := hkept.mute hmute
    cases he
  · cases h

end Session
end Baseboard
