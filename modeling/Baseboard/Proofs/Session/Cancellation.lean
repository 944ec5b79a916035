import Baseboard.Proofs.Link.Accounting
import Baseboard.Proofs.Session.Closing
import Baseboard.Proofs.Session.Completeness
import Baseboard.Proofs.Session.Footing
import Baseboard.Proofs.Session.Reach

/-! What is left of a session whose caller has cancelled. A session that was active asks its
controller once to close it, cancelled or not, and one that was not yet active asks nothing. -/
namespace Baseboard

/-- What stands outermost in a frame is a request to close a session, whichever it is. -/
def AsksToClose (frame : Bytes) : Prop :=
  ∃ p q, Packet.decode frame = .ok p ∧ Request.disclose p.payload 0 = .ok q ∧
    q.command = AppCommand.closeSession.code

theorem not_asksToClose_ping (tag : UInt8) : ¬ AsksToClose (Presence.ping tag) := by
  rintro ⟨p, q, hp, -⟩
  have hdecode : Packet.decode (Presence.ping tag) =
      .error (.unexpectedClass Rmcp.MessageClass.asf.code) := rfl
  cases hp.symm.trans hdecode

theorem Use.Asks.not_asksToClose {u : Use} {controller : UInt8} {r : Request} {authType : AuthType}
    {sequence sessionId : UInt32} (h : u.Asks controller r authType sequence sessionId)
    (hcommand : r.command ≠ AppCommand.closeSession.code) :
    ∀ frame ∈ u.frames, ¬ AsksToClose frame := by
  rintro frame hframe ⟨p, q, hp, hq, hcloses⟩
  obtain ⟨found, hfound, -, -, -, asked, hasked, hwording⟩ := h.frames frame hframe
  obtain rfl := Except.ok.inj (hp.symm.trans hfound)
  obtain rfl := Except.ok.inj (hq.symm.trans hasked)
  exact hcommand ((congrArg Wording.command hwording).symm.trans hcloses)

namespace Follows

variable {config : Config} {x y : Stage × Use} {steps : List (Stage × Use)}

/-- Only the last request of an opening asks for the session to be closed. -/
theorem not_asksToClose (h : Follows config x y) (hy : y.1 ≠ .closing) :
    ∀ frame ∈ y.2.frames, ¬ AsksToClose frame := by
  cases h with
  | fallback _ _ hasks =>
    exact hasks.not_asksToClose (by change AppCommand.authCapabilities.code ≠ _; decide)
  | challenge _ _ _ _ _ _ hasks =>
    exact hasks.not_asksToClose (by change AppCommand.sessionChallenge.code ≠ _; decide)
  | activation _ _ _ _ _ hasks =>
    exact hasks.not_asksToClose (by change AppCommand.activateSession.code ≠ _; decide)
  | privilege _ _ _ hasks =>
    exact hasks.not_asksToClose (by change AppCommand.setPrivilege.code ≠ _; decide)
  | closing => exact absurd rfl hy

/-- In a chain everything but the first follows something. -/
theorem exists_prev (h : (x :: steps).IsChain (Follows config)) :
    ∀ y ∈ steps, ∃ z, Follows config z y := by
  induction steps generalizing x with
  | nil => exact fun y hy => absurd hy List.not_mem_nil
  | cons next rest ih =>
    obtain ⟨hnext, hrest⟩ := List.isChain_cons_cons.mp h
    intro y hy
    rcases List.mem_cons.mp hy with rfl | hy
    · exact ⟨x, hnext⟩
    · exact ih hrest y hy

end Follows

namespace Session

variable {config : Config} {s t u : Session} {r : Request} {route : Route} {manner : Manner}

/-- An operation that was cancelled was cancelled by the owner of the session. -/
def Noticed {α : Type} (r : Except Error α) (t : Session) : Prop :=
  Fares (fun _ => True) (fun e t => e = .cancelled → t.isCancelled = true) r t

theorem Noticed.of_error {e : Error} {α : Type}
    (h : e = .cancelled → t.isCancelled = true) : Noticed (.error e : Except Error α) t :=
  .error trivial h

theorem exchange_noticed (r : Request) (route : Route) (manner : Manner) (s : Session) :
    Ends (exchange r route manner) s Noticed := by
  unfold Ends
  rw [exchange_eq]
  cases hpacket : s.packet r route with
  | error e => exact .of_error fun h => absurd h (Standing.packet_error_ne hpacket).1
  | ok packet =>
  by_cases hconnected : s.connected = true
  · dsimp only
    rw [if_pos hconnected]
    have haccept (datagram : Bytes) : (s.expectation r route).accept datagram ≠ .error .cancelled := by
      intro h
      cases (Expectation.accept_eq_error_iff.mp h).1
    have hnoticed := Link.exchange_noticed haccept (if manner.cancellable then some s.token else none)
      packet.encode s.config.timeout manner.tries s.link
    cases hx : Link.exchange (s.expectation r route).accept
        (if manner.cancellable then some s.token else none) packet.encode s.config.timeout
        manner.tries s.link with
    | ok result link => exact ⟨trivial, nofun⟩
    | error e link =>
      refine .of_error fun he => ?_
      subst he
      have hlink := hnoticed.of_error hx rfl
      cases hmanner : manner.cancellable with
      | false =>
        rw [hmanner] at hlink
        cases hlink
      | true =>
        rw [hmanner] at hlink
        exact hlink
  · dsimp only
    rw [if_neg hconnected]
    exact .of_error nofun

theorem footing_noticed :
    Footing (fun _ => True) (fun e t => e = .cancelled → t.isCancelled = true) where
  manage request s _ := (ends_manage ..).mpr (exchange_noticed request _ _ s)
  faults e _ h he := by
    subst he
    cases h

theorem handshake_noticed (s : Session) : Ends handshake s Noticed := by
  refine footing_noticed.handshake (fun _ _ _ => id) ?_ trivial
  rintro c pinned e t h rfl
  rcases Capabilities.negotiate_eq_error h with h | h <;> cases h

theorem ping_noticed (hphase : s.phase = .bound) (hconnected : s.connected = true) :
    Ends ping s Noticed := by
  refine ends_ping (fun h => absurd hphase h) (fun _ h => nomatch hconnected.symm.trans h)
    fun _ => ?_
  refine (Link.exchange_noticed (fun _ => acceptPong_ne_error) (some s.token) (Presence.ping s.pingTag) _ _ _).imp
    fun r link hr => ?_
  cases r with
  | ok pong => exact ⟨trivial, nofun⟩
  | error e => exact .of_error fun he => hr (congrArg Except.error he)

theorem pingByPolicy_noticed (hphase : s.phase = .bound) (hconnected : s.connected = true) :
    Ends pingByPolicy s Noticed := by
  refine ends_pingByPolicy ⟨trivial, nofun⟩ ((ping_noticed hphase hconnected).imp fun r t ht => ?_)
  refine ⟨?_, fun _ => ⟨trivial, nofun⟩⟩
  rintro e rfl
  exact .of_error (ht.2 e rfl)

/-- An opening that was cancelled was cancelled when the last of its requests ended. -/
theorem establish_noticed (hphase : s.phase = .bound) (hconnected : s.connected = true) :
    Ends establish s fun r _ => r = .error .cancelled → s.handshaken.isCancelled = true := by
  have hsearch := pingByPolicy_noticed hphase hconnected
  refine ends_establish (fun h => absurd hphase h) ?_ (fun _ _ _ _ _ => nofun) ?_ ?_
  · intro _ e t ht he
    have hstopped : s.handshaken = t := after_bind_of_error ht
    rw [hstopped]
    exact (hsearch.of_error ht).2 e rfl (Except.error.inj he)
  · intro _ t u ht hu
    have hstopped : s.handshaken = u := (after_bind_of_ok ht).trans (after_of_error hu)
    rw [hstopped]
    have hnoticed := ((handshake_noticed t).of_error hu).2 .cancelled rfl rfl
    exact (abort_closes u).imp fun _ _ _ _ => hnoticed
  · exact fun _ e t u _ _ hne he => absurd (Except.error.inj he) hne

/-- A request of one try that is not cancelled before it goes out is handed over once. -/
theorem exchange_handsOnce {packet : Packet} (hconnected : s.connected = true)
    (hpacket : s.packet r route = .ok packet) (htries : manner.tries ≤ 1)
    (hlive : ¬ (manner.cancellable = true ∧ s.isCancelled = true)) :
    Ends (exchange r route manner) s fun _ t => s.handedOver t = [packet.encode] := by
  have honce : Ends (Link.exchange (s.expectation r route).accept
      (if manner.cancellable then some s.token else none) packet.encode s.config.timeout manner.tries)
      s.link fun _ link => ∃ actions, Link.Did s.link actions link ∧
        actions.filterMap Action.frame? = [packet.encode] :=
    Link.exchange_handsOnce (Bool.of_not_eq_true (mt (isCancelled_token s manner).mp hlive)) htries
  unfold Ends
  rw [exchange_eq, hpacket]
  dsimp only
  rw [if_pos hconnected]
  have hhanded {link : Link} (h : ∃ actions, Link.Did s.link actions link ∧
      actions.filterMap Action.frame? = [packet.encode]) :
      (link.network.trace.drop s.link.network.trace.length).filterMap Action.frame? =
        [packet.encode] := by
    obtain ⟨actions, hdid, hframes⟩ := h
    rw [hdid.drop_eq, hframes]
  cases hx : Link.exchange (s.expectation r route).accept
      (if manner.cancellable then some s.token else none) packet.encode s.config.timeout
      manner.tries s.link with
  | ok result link => exact hhanded (honce.of_ok hx)
  | error e link => exact hhanded (honce.of_error hx)

/-- An active session that is given up asks once to be closed, and nothing else. -/
theorem abort_lastRequest (hs : s.Sound config) (hconnected : s.connected = true)
    (hphase : s.phase = .active) (haudible : ¬ s.Mute) :
    Ends abort s fun _ t => t.phase = .closed ∧
      ∃ frame, s.handedOver t = [frame] ∧ ClosesSession s.sessionId frame := by
  obtain ⟨packet, hpacket⟩ := (Standing.exists_closing_packet_iff hphase s.sessionId
    s.config.controller).mpr haudible
  have honce : Ends abort s fun _ t => s.handedOver t = [packet.encode] :=
    ends_abort (fun h => absurd hphase h) fun _ =>
      exchange_handsOnce hconnected hpacket (Nat.le_refl 1) fun h => nomatch h.1
  refine ((abort_closedBy_iff hs hconnected hphase).and (honce.and (abort_closes s))).imp ?_
  rintro _ t ⟨hcloses, hframes, -, hclosed⟩
  obtain ⟨frame, hframe, hasks⟩ := hcloses.mpr haudible
  change frame ∈ s.handedOver t at hframe
  rw [hframes] at hframe
  rw [List.mem_singleton.mp hframe] at hasks
  exact ⟨hclosed, _, hframes, hasks⟩

/-- What is left in the end of a session that was `s` when an operation on it began, and `n` when
it was noticed that the caller had cancelled. -/
structure Relinquished (s n t : Session) : Prop where
  noticed : n.isCancelled = true
  inactive : t.phase ≠ .active
  forgotten : t.sessionId = 0
  closed : n.phase = .active → t.phase = .closed ∧
    ∃ frame, n.handedOver t = [frame] ∧ ClosesSession n.sessionId frame
  quiet : n.phase ≠ .active → ∀ frame ∈ s.handedOver t, ¬ AsksToClose frame

/-- A command that was cancelled. -/
theorem dispatch_relinquished (hs : s.Sound config) (hrest : s.AtRest)
    (h : dispatch r route s = .error .cancelled t) :
    ∃ n, exchange r route (s.commandManner r route) s = .error .cancelled n ∧ n.phase = .active ∧
      n.sessionId = s.sessionId ∧ Relinquished s n t := by
  by_cases hactive : s.phase = .active
  · rw [dispatch_eq hactive] at h
    cases hx : exchange r route (s.commandManner r route) s with
    | ok res n =>
      rw [hx] at h
      cases h
    | error e n =>
      rw [hx] at h
      obtain ⟨rfl, rfl⟩ := EStateM.Result.error.inj h
      have hconnected := hrest.connected (.inr (.inr hactive))
      rcases (exchange_sends hconnected r route (s.commandManner r route)).of_error hx with
        ⟨e, hpacket, he, -⟩ | ⟨use, huse⟩
      · exact absurd (Except.error.inj he).symm (Standing.packet_error_ne hpacket).1
      have hrecounted := huse.recounted
      have hphase : n.phase = .active := hrecounted.phase_eq.trans hactive
      have haudible : ¬ n.Mute := mt hrecounted.mute_iff.mp (huse.audible hactive)
      have hlast := (abort_lastRequest (huse.sound hs) (hrecounted.connected_eq.trans hconnected)
        hphase haudible).after
      obtain ⟨x, hended⟩ := (abort_ended n).after
      refine ⟨n, rfl, hphase, hrecounted.sessionId_eq, ?_, ?_, ?_, ?_, ?_⟩
      · exact ((exchange_noticed ..).of_error hx).2 .cancelled rfl rfl
      · rw [if_pos rfl, hended]
        exact nofun
      · rw [if_pos rfl, hended]
        rfl
      · rw [if_pos rfl]
        exact fun _ => hlast
      · exact fun h => absurd hphase h
  · have hother : Ends (dispatch r route) s fun r _ => r = .error (.wrongPhase .active s.phase) :=
      ends_dispatch (fun _ => rfl) fun h => absurd h hactive
    cases hother.of_error h

/-- An opening that is cancelled before the session is active asks for nothing to be closed. -/
theorem Handshaken.not_asksToClose {outcome : Except Error Unit} {found : Bool} {sought : List Use}
    {steps : List (Stage × Use)} (hsought : Sought s found t sought)
    (h : Handshaken config t outcome u steps) : ∀ frame ∈ s.handedOver u, ¬ AsksToClose frame := by
  have hadds := hsought.adds.trans h.talk.adds
  intro frame hframe
  rw [hadds.handedOver_eq] at hframe
  obtain ⟨use, huse, hin⟩ := List.mem_flatMap.mp hframe
  rcases List.mem_append.mp huse with huse | huse
  · rw [(hsought.presence use huse).2 frame hin]
    exact not_asksToClose_ping _
  · obtain ⟨step, hstep, rfl⟩ := List.mem_map.mp huse
    have hunclosed := h.unclosed step hstep
    cases steps with
    | nil => cases hstep
    | cons first rest =>
      rcases List.mem_cons.mp hstep with rfl | hstep
      · refine (h.talk.head _ rfl).2.not_asksToClose ?_ frame hin
        change AppCommand.authCapabilities.code ≠ _
        decide
      · obtain ⟨before, hfollows⟩ := Follows.exists_prev h.talk.chain step hstep
        exact hfollows.not_asksToClose hunclosed frame hin

/-- An opening that was cancelled. -/
theorem establish_relinquished (hs : s.Sound config) (hrest : s.AtRest) :
    Ends establish s fun r u => r = .error .cancelled → Relinquished s s.handshaken u := by
  by_cases hphase : s.phase = .bound
  · have hconnected := hrest.connected (.inl hphase)
    suffices h : Ends establish s fun r u => r = .error .cancelled →
        s.handshaken.isCancelled = true → Relinquished s s.handshaken u from
      ((establish_noticed hphase hconnected).and h).imp fun r u hu hr => hu.2 hr (hu.1 hr)
    refine ends_establish_of_rest hs hrest hphase ?_ ?_
    · intro e t sought ht hsought _ hnoticed
      have hstopped : s.handshaken = t := after_bind_of_error ht
      rw [hstopped] at hnoticed ⊢
      obtain ⟨hquiet, hbound⟩ := hsought.rests hrest hphase
      have hinactive : t.phase ≠ .active := by
        rw [hbound]
        exact nofun
      refine ⟨hnoticed, hinactive, hquiet.sessionId_eq_zero hinactive, fun h => absurd h hinactive,
        fun _ frame hframe => ?_⟩
      rw [hsought.adds.handedOver_eq] at hframe
      obtain ⟨use, huse, hin⟩ := List.mem_flatMap.mp hframe
      rw [(hsought.presence use huse).2 frame hin]
      exact not_asksToClose_ping _
    · intro r t u found sought steps ht hu hsought h
      have hstopped : s.handshaken = u := (after_bind_of_ok ht).trans hu
      rw [hstopped]
      refine ⟨?_, ?_, fun e hr hne hcancelled => ?_⟩
      · rintro rfl
        exact nofun
      · rintro rfl
        by_cases hactive : u.phase = .active
        · have hlast := abort_lastRequest h.sound h.connected hactive (h.audible hactive)
          refine (hlast.and (abort_ended u)).imp fun _ v hv _ hnoticed => ?_
          obtain ⟨hcloses, x, hx⟩ := hv
          refine ⟨hnoticed, ?_, ?_, fun _ => hcloses, fun h => absurd hactive h⟩
          · rw [hx]
            exact nofun
          · rw [hx]
            rfl
        · have hquiet := h.not_asksToClose hsought
          refine ends_abort (fun _ _ hnoticed => ?_) fun h => absurd h hactive
          exact ⟨hnoticed, nofun, rfl, fun h => absurd h hactive, fun _ => hquiet⟩
      · rw [hr] at hcancelled
        exact absurd (Except.error.inj hcancelled) hne
  · refine (ends_expect_bind_of_ne hphase).mpr nofun

/-- A cancelled operation cleans up after itself. When a command or an opening of a session ends
because the caller has cancelled, the session is not active and has no id. If it was active when
that was noticed, it is closed, and what was handed over from then on is a single frame, in which
the controller is asked to close it. If it was not, nothing was handed over that asks for a
session to be closed. -/
theorem cancelled_relinquished (h : Reachable config s) :
    (∀ (op : Op Response) (request : Request) (route : Route), Issued config op request route →
      ∀ t, op s = .error .cancelled t →
        ∃ n, exchange request route (s.commandManner request route) s = .error .cancelled n ∧
          n.phase = .active ∧ n.sessionId = s.sessionId ∧ Relinquished s n t) ∧
    ∀ t, establish s = .error .cancelled t → Relinquished s s.handshaken t := by
  obtain ⟨hsound, hrest⟩ := h.rests
  refine ⟨fun op request route hissued t ht => ?_, fun t ht => ?_⟩
  · rcases hissued.dispatches_or with hop | ⟨n, hop⟩
    · exact dispatch_relinquished hsound hrest ((hop s hsound.config_eq).symm.trans ht)
    · cases ht.symm.trans (hop s)
  · exact (establish_relinquished hsound hrest).of_error ht rfl

/-- The owner cancels between opening the session and asking for the device id. -/
theorem cancelled_deviceId_relinquished :
    let s := (sample []).run [.establish, .cancel]
    let t := after (command .deviceId) s
    let route := sampleConfig.route sampleConfig.targetAddress sampleConfig.targetChannel
    command .deviceId s = .error .cancelled t ∧
      ∃ n, exchange .deviceId route (s.commandManner .deviceId route) s = .error .cancelled n ∧
        n.phase = .active ∧ n.sessionId = s.sessionId ∧ Relinquished s n t := by
  intro s t route
  have hcancelled : command .deviceId s = .error .cancelled t :=
    eq_error_of_failsWith (by decide +kernel)
  have hreachable : Reachable sampleConfig s := (sample_begun []).reachable_run _
  exact ⟨hcancelled, (cancelled_relinquished hreachable).1 _ _ _ (.command .deviceId) t hcancelled⟩

end Session
end Baseboard
