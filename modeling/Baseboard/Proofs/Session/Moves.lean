import Baseboard.Proofs.Codec.Message
import Baseboard.Proofs.Session.Operations
import Baseboard.Proofs.Session.Run

/-! Every call is made of moves. This is worked out once, operation by operation, so that
what a move preserves holds of every run. -/
namespace Baseboard

namespace Request

private theorem isSendMessage_ofFunction (f : NetworkFunction) {command : UInt8}
    (data : Option Bytes) (h : command ≠ AppCommand.sendMessage.code) :
    (ofFunction f command data).isSendMessage = false := by
  have hc : (ofFunction f command data).command = command := rfl
  rw [isSendMessage, hc, beq_eq_false_iff_ne.mpr h, Bool.and_false]

theorem isSendMessage_closeSession (sessionId : UInt32) :
    (closeSession sessionId).isSendMessage = false :=
  isSendMessage_ofFunction .app _ (by decide)

theorem isSendMessage_setPrivilege (level : Privilege) :
    (setPrivilege level).isSendMessage = false :=
  isSendMessage_ofFunction .app _ (by decide)

theorem isSendMessage_of_opens {s : Standing} {r : Request} (h : s.Opens r) :
    r.isSendMessage = false := by
  cases h <;> exact isSendMessage_ofFunction .app _ (by decide)

theorem wording_raw (netFn unit command : UInt8) (data : Bytes) :
    (raw netFn unit command (if data.isEmpty then none else some data)).wording =
      ⟨netFn % 64, unit % 4, command, data⟩ := by
  rw [wording, netFn_raw, unit_raw, payload_raw]
  rfl

end Request

theorem Route.counts_of_not_isSendMessage (route : Route) {r : Request}
    (h : r.isSendMessage = false) : route.counts r = true := by
  rw [counts, h, Bool.and_false, Bool.not_false]

namespace Session

variable {call : Call} {s t u : Session}

/-- The session came from `s` to `t` by moves of a call that left its phase and its
settings alone. -/
structure Steady (call : Call) (s t : Session) : Prop where
  path : Path call s t
  phase_eq : t.phase = s.phase
  config_eq : t.config = s.config

theorem Steady.refl (call : Call) (s : Session) : Steady call s s := ⟨.refl, rfl, rfl⟩

theorem Steady.trans (h : Steady call s t) (h' : Steady call t u) : Steady call s u :=
  ⟨h.path.trans h'.path, h'.phase_eq.trans h.phase_eq, h'.config_eq.trans h.config_eq⟩

theorem exchange_steady {request : Request} {route : Route} {manner : Manner}
    (hwanted : Wanted s.toStanding call (.request request route))
    (hadvances : manner.advances = route.counts request) :
    Ends (exchange request route manner) s fun _ t => Steady call s t := by
  refine ends_exchange (fun _ _ => .refl call s) (fun _ => .refl call s) ?_ ?_
  · intro response n link h
    rw [hadvances]
    exact ⟨.single (.answered hwanted h), Standing.phase_answered .., Standing.config_answered ..⟩
  · intro e link h
    exact ⟨.single (.failed hwanted h), rfl, rfl⟩

/-- An exchange that counts and succeeds is the last that was done. -/
theorem exchange_advanced {request : Request} {route : Route} {manner : Manner}
    (hcounts : route.counts request = true) :
    Ends (exchange request route manner) s fun r t => ∀ response, r = .ok response →
      t.JustAdvanced := by
  refine ends_exchange (fun _ _ _ h => by cases h) (fun _ _ h => by cases h) ?_
    fun _ _ _ _ h => by cases h
  intro response n link h _ _
  exact ⟨s.uses, _, rfl, hcounts⟩

theorem manage_steady {request : Request}
    (hwanted : Wanted s.toStanding call (.request request (.direct s.config.controller)))
    (hrequest : request.isSendMessage = false) :
    Ends (manage request) s fun _ t => Steady call s t :=
  (ends_manage ..).mpr
    (exchange_steady hwanted (Route.counts_of_not_isSendMessage _ hrequest).symm)

theorem opening_steady {request : Request} (h : s.Opens request) :
    Ends (manage request) s fun _ t => Steady .establish s t :=
  manage_steady (.opening h) (Request.isSendMessage_of_opens h)

theorem authCapabilities_steady (hphase : s.phase.Preliminary) :
    Ends authCapabilities s fun _ t => Steady .establish s t := by
  refine ends_authCapabilities ((opening_steady (.capabilities hphase (.inl rfl))).imp
    fun r t ht => ⟨fun _ _ => ht, fun _ _ _ => ht, fun _ _ _ => ?_⟩)
  have hagain : t.Opens (.authCapabilities 0x0E s.config.privilege) := by
    rw [← ht.config_eq]
    exact .capabilities (ht.phase_eq ▸ hphase) (.inr rfl)
  exact (opening_steady hagain).imp fun _ u hu => ht.trans hu

theorem sessionChallenge_steady (hphase : s.phase.Preliminary) :
    Ends (sessionChallenge s.authType) s fun _ t => Steady .establish s t :=
  (ends_sessionChallenge ..).mpr (opening_steady (.challenge hphase))

theorem activateSession_steady (challenge : Field) (hphase : s.phase = .challengeIssued) :
    Ends (activateSession challenge s.outboundSequence) s fun _ t => Steady .establish s t :=
  (ends_activateSession ..).mpr (opening_steady (.activation challenge hphase))

theorem setPrivilege_steady (hphase : s.phase = .active) :
    Ends (setPrivilege s.config.privilege) s fun _ t => Steady .establish s t :=
  (ends_setPrivilege ..).mpr (opening_steady (.privilege hphase))

theorem setPrivilege_advanced (level : Privilege) :
    Ends (setPrivilege level) s fun r t => ∀ granted, r = .ok granted → t.JustAdvanced := by
  have hcounts : (Route.direct s.config.controller).counts (.setPrivilege level) = true :=
    Route.counts_of_not_isSendMessage _ (Request.isSendMessage_setPrivilege level)
  refine (ends_setPrivilege ..).mpr ((ends_manage ..).mpr ?_)
  refine (exchange_advanced hcounts).imp fun r t ht granted hr => ?_
  obtain ⟨response, hresponse, -⟩ := Reading.bind_eq_ok_iff.mp hr
  exact ht response hresponse

theorem closeSession_steady (hcall : call.mayClose = true) (hphase : s.phase = .active) :
    Ends (closeSession s.sessionId) s fun _ t => Steady call s t :=
  (ends_closeSession ..).mpr
    (manage_steady (.closing hcall hphase) (Request.isSendMessage_closeSession _))

theorem turn_path {x : Standing} (h : Turn s.toStanding x) :
    Path call s { s with toStanding := x } := .single (.turned h)

theorem connect_path : Ends connect s fun _ t => Path .connect s t := by
  have hopened (h : s.phase = .unconnected) : Path .connect s { s with phase := .socketOpen } :=
    turn_path (.opened h)
  refine ends_connect (fun _ => .refl) (fun _ _ => .refl) (fun h _ => hopened h) fun h => ?_
  exact (hopened h).trans (turn_path (.bound rfl))

/-- A search for the controller ends in one of the two phases that a session can be
opened from. -/
theorem ping_path (hcall : call = .ping ∨ call = .establish) (hlinked : s.Linked) :
    Ends ping s fun _ t => Path call s t ∧ (s.phase = .bound → t.phase.Preliminary) := by
  refine ends_ping (fun h => ⟨.refl, fun hb => absurd hb h⟩)
    (fun hphase h => nomatch (hlinked (by rw [hphase]; rfl)).symm.trans h) fun hphase => ?_
  have hseeking : Path call s { s with phase := .pingSent } := turn_path (.seeking hphase)
  refine (Link.exchange_recorded (acceptPong s.pingTag) _ (Presence.ping s.pingTag) _ _ _).imp
    fun r link hr => ?_
  cases r with
  | ok pong =>
    have hlooked : Path call { s with phase := .pingSent } _ :=
      .single (.looked none (.presence hcall rfl) hr)
    exact ⟨(hseeking.trans hlooked).trans (turn_path (.sought rfl (.inr rfl))),
      fun _ => .inr rfl⟩
  | error e =>
    have hlooked : Path call { s with phase := .pingSent } _ :=
      .single (.looked (some e) (.presence hcall rfl) hr)
    exact ⟨(hseeking.trans hlooked).trans (turn_path (.sought rfl (.inl rfl))),
      fun _ => .inl rfl⟩

theorem abort_path (hcall : call.mayClose = true) : Ends abort s fun _ t => Path call s t := by
  refine ends_abort (fun _ => turn_path .ended) fun hphase => ?_
  have hcounts : (Route.direct s.config.controller).counts (.closeSession s.sessionId) = true :=
    Route.counts_of_not_isSendMessage _ (Request.isSendMessage_closeSession _)
  exact (exchange_steady (.closing hcall hphase) hcounts.symm).imp
    fun _ t ht => ht.path.trans (turn_path .ended)

theorem raisePrivilege_path (hphase : s.phase = .active) :
    Ends raisePrivilege s fun r t => Path .establish s t ∧ ∀ e, r = .error e → e = .cancelled := by
  refine ends_raisePrivilege (((setPrivilege_steady hphase).and (setPrivilege_advanced _)).imp
    fun r t h => ?_)
  obtain ⟨ht, hadvanced⟩ := h
  have hactive : t.phase = .active := ht.phase_eq.trans hphase
  refine ⟨fun level hr => ⟨?_, nofun⟩, fun _ => ⟨ht.path, ?_⟩, fun e _ _ => ⟨?_, nofun⟩⟩
  · exact ht.path.tail (.privileged level hactive (hadvanced level hr))
  · exact fun e he => (Except.error.inj he).symm
  · exact ht.path.trans (turn_path (.unprivileged _ hactive))

/-- An opening that fails for another reason than being cancelled fails before the
session is active. -/
theorem handshake_path (hphase : s.phase.Preliminary) :
    Ends handshake s fun r t => Path .establish s t ∧ ∀ e, r = .error e → e ≠ .cancelled →
      t.phase.Preliminary ∨ t.phase = .challengeIssued := by
  unfold handshake
  rw [ends_bind]
  refine (authCapabilities_steady hphase).imp fun r t ht => ?_
  have htphase : t.phase.Preliminary := by rw [ht.phase_eq]; exact hphase
  cases r with
  | error e => exact ⟨ht.path, fun _ _ _ => .inl htphase⟩
  | ok capabilities =>
  dsimp only
  rw [ends_bind, ends_get]
  dsimp only
  rw [ends_bind, ends_ofResult]
  cases hauth : capabilities.negotiate t.config.authType with
  | error e => exact ⟨ht.path, fun _ _ _ => .inl htphase⟩
  | ok authType =>
  dsimp only
  rw [ends_bind, ends_revise]
  dsimp only
  have hsupports := ht.path.trans (turn_path (.supports htphase hauth))
  rw [ends_bind]
  have hchallenge := sessionChallenge_steady
    (s := { t with toStanding := t.withCapabilities capabilities authType }) htphase
  refine hchallenge.imp fun r u hu => ?_
  have huphase : u.phase.Preliminary := by rw [hu.phase_eq]; exact htphase
  cases r with
  | error e => exact ⟨hsupports.trans hu.path, fun _ _ _ => .inl huphase⟩
  | ok challenge =>
  dsimp only
  rw [ends_bind, ends_revise]
  dsimp only
  have hchallenged := (hsupports.trans hu.path).trans (turn_path (.challenged challenge huphase))
  rw [ends_bind, ends_get]
  dsimp only
  rw [ends_bind]
  have hactivate := activateSession_steady (s := { u with toStanding := u.challenged challenge })
    (u.transform.apply challenge.bytes u.password) rfl
  refine hactivate.imp fun r v hv => ?_
  cases r with
  | error e => exact ⟨hchallenged.trans hv.path, fun _ _ _ => .inr hv.phase_eq⟩
  | ok activation =>
  dsimp only
  rw [ends_bind, ends_revise]
  dsimp only
  have hactivated := (hchallenged.trans hv.path).trans
    (turn_path (.activated activation hv.phase_eq))
  refine (raisePrivilege_path rfl).imp fun r w hw => ⟨hactivated.trans hw.1, fun e he hne => ?_⟩
  exact absurd (hw.2 e he) hne

theorem pingByPolicy_path (hlinked : s.Linked) (hphase : s.phase = .bound) :
    Ends pingByPolicy s fun r t => Path .establish s t ∧ (r = .ok () → t.phase.Preliminary) := by
  refine ends_pingByPolicy ⟨.refl, fun _ => .inl hphase⟩ ((ping_path (.inr rfl) hlinked).imp ?_)
  exact fun r t ht => ⟨fun e _ => ⟨ht.1, nofun⟩, fun _ => ⟨ht.1, fun _ => ht.2 hphase⟩⟩

theorem establish_path (hlinked : s.Linked) :
    Ends establish s fun _ t => Path .establish s t := by
  have hsought (hphase : s.phase = .bound) := pingByPolicy_path hlinked hphase
  have hopening {t : Session} (hphase : s.phase = .bound) (ht : pingByPolicy s = .ok () t) :=
    handshake_path (((hsought hphase).of_ok ht).2 rfl)
  refine ends_establish (fun _ => .refl) ?_ ?_ ?_ ?_
  · intro hphase e t ht
    exact ((hsought hphase).of_error ht).1
  · intro hphase t u ht hu
    exact ((hsought hphase).of_ok ht).1.trans ((hopening hphase ht).of_ok hu).1
  · intro hphase t u ht hu
    have hpath := ((hsought hphase).of_ok ht).1.trans ((hopening hphase ht).of_error hu).1
    exact (abort_path rfl).imp fun _ v hv => hpath.trans hv
  · intro hphase e t u ht hu hne
    obtain ⟨hpath, hfailed⟩ := (hopening hphase ht).of_error hu
    exact (((hsought hphase).of_ok ht).1.trans hpath).trans (turn_path (.rebound (hfailed e rfl hne)))

theorem close_path : Ends close s fun _ t => Path .close s t := by
  refine ends_close (fun _ => .refl) (fun _ => .refl) fun hphase => ?_
  exact (closeSession_steady rfl hphase).imp fun _ t ht => ht.path.trans (turn_path .ended)

theorem discard_path : Path .discard s s.discard := by
  by_cases hphase : s.phase = .active
  · rw [discard_of_active hphase]
    exact (abort_path rfl).after
  · rw [discard_of_inactive hphase]

theorem dispatch_path {request : Request} {route : Route} (hcall : call.mayClose = true)
    (hwanted : s.phase = .active → Wanted s.toStanding call (.request request route)) :
    Ends (dispatch request route) s fun _ t => Path call s t := by
  refine ends_dispatch (fun _ => .refl) fun hphase => ?_
  refine (exchange_steady (hwanted hphase) rfl).imp fun r t ht => ⟨fun _ => ?_, fun _ => ht.path⟩
  exact (abort_path hcall).imp fun _ u hu => ht.path.trans hu

theorem command_path (request : Request) :
    Ends (command request) s fun _ t => Path (.command request) s t :=
  (ends_command ..).mpr (dispatch_path rfl (.command request))

theorem raw_path (netFn unit target channel number : UInt8) (data : Bytes) :
    Ends (raw netFn unit target channel number data) s fun _ t =>
      Path (.raw netFn unit target channel number data) s t :=
  ends_raw (fun _ => .refl) <| dispatch_path rfl fun hphase =>
    .raw target channel hphase (Request.wording_raw netFn unit number data)

/-- A call is a number of moves, however it ends. -/
theorem op_path (call : Call) (hlinked : s.Linked) :
    Ends call.op s fun _ t => Path call s t := by
  cases call with
  | connect => exact connect_path
  | ping =>
    refine (ends_map ..).mpr ((ping_path (.inl rfl) hlinked).imp fun _ _ ht => ht.1)
  | establish => exact establish_path hlinked
  | command request => exact (ends_map ..).mpr (command_path request)
  | raw netFn unit target channel number data =>
    exact (ends_map ..).mpr (raw_path netFn unit target channel number data)
  | close => exact close_path
  | abort => exact abort_path rfl
  | discard => exact discard_path
  | elapse time => exact .single (.passed fun _ => rfl)
  | cancel => exact .single (.passed fun _ => rfl)
  | enqueue events => exact .single (.passed fun _ => rfl)

/-- What every move preserves holds after every run. -/
theorem run_induction {p : Session → Prop} (calls : List Call) (hlinked : s.Linked) (hs : p s)
    (hmove : ∀ call ∈ calls, ∀ s t, Move call s t → p s → p t) : p (s.run calls) := by
  have hcalls : ∀ calls' : List Call, (∀ call ∈ calls', call ∈ calls) → ∀ s : Session, s.Linked → p s →
      p (s.run calls') := by
    intro calls'
    induction calls' with
    | nil => exact fun _ _ _ hs => hs
    | cons call rest ih =>
      intro hmem s hlinked hs
      have hpath : Path call s (after call.op s) := (op_path call hlinked).after
      have hsteps : ∀ t, Path call s t → p t := by
        intro t ht
        induction ht with
        | refl => exact hs
        | tail _ hm hp => exact hmove call (hmem call List.mem_cons_self) _ _ hm hp
      have hafter := hsteps _ hpath
      exact ih (fun c hc => hmem c (List.mem_cons_of_mem _ hc)) _
        (linked_preserved.path hpath hlinked) hafter
  exact hcalls calls (fun _ h => h) s hlinked hs

end Session
end Baseboard
