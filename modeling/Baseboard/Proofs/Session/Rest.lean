import Baseboard.Proofs.Session.Handshake

/-! Between calls a session is at rest: it is never half way through a search or an opening,
and only the calls in the table below take it from one phase to another. -/
namespace Baseboard

/-- How a call can change the phase of a session. -/
inductive Call.Leads : Call → Phase → Phase → Prop where
  | stays {call : Call} {phase : Phase} (hcall : call ≠ .abort)
      (hactive : phase = .active → call ≠ .close ∧ call ≠ .discard) : Leads call phase phase
  | opened : Leads .connect .unconnected .socketOpen
  | bound : Leads .connect .unconnected .bound
  | found : Leads .ping .bound .pongReceived
  | activated : Leads .establish .bound .active
  | givenUp : Leads .establish .bound .closed
  | ended {call : Call} (hcall : call.mayClose = true ∧ call ≠ .establish) :
      Leads call .active .closed
  | aborted (phase : Phase) : Leads .abort phase .closed

/-- A session becomes active only by being opened. -/
theorem Call.Leads.opened_of_active {call : Call} {phase next : Phase}
    (h : call.Leads phase next) (hactive : next = .active) :
    phase = .active ∨ (call = .establish ∧ phase = .bound) := by
  cases h with
  | stays => exact .inl hactive
  | activated => exact .inr ⟨rfl, rfl⟩
  | opened | bound | found | givenUp | ended | aborted => cases hactive

theorem Call.Leads.closed_of_ends {call : Call} {phase next : Phase} (h : call.Leads phase next)
    (hends : (call = .close ∧ phase = .active) ∨ call = .abort) : next = .closed := by
  rcases hends with ⟨rfl, rfl⟩ | rfl
  · cases h with
    | stays _ h => exact absurd rfl (h rfl).1
    | ended => rfl
  · cases h with
    | stays h => exact absurd rfl h
    | aborted | ended => rfl

/-- How a session can stand between two calls. -/
structure Standing.AtRest (s : Standing) : Prop where
  ne_pingSent : s.phase ≠ .pingSent
  ne_challengeIssued : s.phase ≠ .challengeIssued
  sessionId_eq_zero : s.phase ≠ .active → s.sessionId = 0
  connected : s.phase = .bound ∨ s.phase = .pongReceived ∨ s.phase = .active → s.connected = true
  capabilities : s.phase = .active → s.capabilities.isSome = true

theorem Standing.AtRest.recounted {s t : Standing} (hs : s.AtRest) (h : s.Recounted t) :
    t.AtRest := by
  constructor
  · rw [h.phase_eq]
    exact hs.ne_pingSent
  · rw [h.phase_eq]
    exact hs.ne_challengeIssued
  · rw [h.phase_eq, h.sessionId_eq]
    exact hs.sessionId_eq_zero
  · rw [h.phase_eq, h.connected_eq]
    exact hs.connected
  · rw [h.phase_eq, h.capabilities_eq]
    exact hs.capabilities

/-- A session without an id and outside of any phase that needs one. -/
theorem Standing.AtRest.of_inactive {s : Standing} (hid : s.sessionId = 0)
    (hphase : s.phase = .unconnected ∨ s.phase = .socketOpen ∨ s.phase = .closed ∨
      (s.phase = .bound ∨ s.phase = .pongReceived) ∧ s.connected = true) : s.AtRest := by
  constructor
  · rcases hphase with h | h | h | ⟨h | h, -⟩ <;> rw [h] <;> decide
  · rcases hphase with h | h | h | ⟨h | h, -⟩ <;> rw [h] <;> decide
  · exact fun _ => hid
  · intro hneeds
    rcases hphase with h | h | h | ⟨-, hconnected⟩
    · rw [h] at hneeds
      rcases hneeds with h | h | h <;> cases h
    · rw [h] at hneeds
      rcases hneeds with h | h | h <;> cases h
    · rw [h] at hneeds
      rcases hneeds with h | h | h <;> cases h
    · exact hconnected
  · rcases hphase with h | h | h | ⟨h | h, -⟩ <;> rw [h] <;> exact nofun

theorem Standing.AtRest.ended (s : Standing) : s.ended.AtRest :=
  .of_inactive rfl (.inr (.inr (.inl rfl)))

namespace Session

variable {config : Config} {s t : Session}

/-- What a call makes of the phase of a session at rest. -/
def Rests (call : Call) (s t : Session) : Prop := t.AtRest ∧ call.Leads s.phase t.phase

theorem Rests.of_eq {call : Call} (hs : s.AtRest) (h : t.toStanding = s.toStanding)
    (hcall : call ≠ .abort) (hactive : s.phase = .active → call ≠ .close ∧ call ≠ .discard) :
    Rests call s t := by
  unfold Rests
  rw [h]
  exact ⟨hs, .stays hcall hactive⟩

theorem Rests.recounted {call : Call} (hs : s.AtRest) (h : s.Recounted t.toStanding)
    (hcall : call ≠ .abort) (hactive : s.phase = .active → call ≠ .close ∧ call ≠ .discard) :
    Rests call s t := by
  refine ⟨hs.recounted h, ?_⟩
  rw [h.phase_eq]
  exact .stays hcall hactive

theorem connect_rests (hs : s.AtRest) : Ends connect s fun _ t => Rests .connect s t := by
  have hsame : Rests .connect s s := .of_eq hs rfl nofun fun _ => ⟨nofun, nofun⟩
  have hid (h : s.phase = .unconnected) : s.sessionId = 0 :=
    hs.sessionId_eq_zero (by rw [h]; decide)
  refine ends_connect (fun _ => hsame) (fun _ _ => hsame) (fun h _ => ?_) fun h => ?_
  · refine ⟨.of_inactive (hid h) (.inr (.inl rfl)), ?_⟩
    rw [h]
    exact .opened
  · refine ⟨.of_inactive (hid h) (.inr (.inr (.inr ⟨.inl rfl, rfl⟩))), ?_⟩
    rw [h]
    exact .bound

theorem Sought.rests {found : Bool} {uses : List Use} (hs : s.AtRest) (hphase : s.phase = .bound)
    (h : Sought s found t uses) : t.AtRest ∧ t.phase = if found then .pongReceived else .bound := by
  have hid : s.sessionId = 0 := hs.sessionId_eq_zero (by rw [hphase]; decide)
  rw [h.standing_eq]
  cases found with
  | false => exact ⟨hs, hphase⟩
  | true => exact ⟨.of_inactive hid (.inr (.inr (.inr ⟨.inr rfl, hs.connected (.inl hphase)⟩))), rfl⟩

theorem ping_rests (hs : s.AtRest) : Ends ping s fun _ t => Rests .ping s t := by
  by_cases hphase : s.phase = .bound
  · refine (ping_sought hphase (hs.connected (.inl hphase))).imp fun r t ht => ?_
    obtain ⟨use, huse⟩ := ht
    obtain ⟨hrest, hnext⟩ := huse.rests hs hphase
    refine ⟨hrest, ?_⟩
    rw [hphase, hnext]
    cases r with
    | ok pong => exact .found
    | error e => exact .stays nofun nofun
  · exact (ends_expect_bind_of_ne hphase).mpr (.of_eq hs rfl nofun fun _ => ⟨nofun, nofun⟩)

/-- A session that a search has left behind can be opened. -/
theorem Sought.ready {found : Bool} {uses : List Use} (hs : s.Sound config) (hrest : s.AtRest)
    (hphase : s.phase = .bound) (h : Sought s found t uses) :
    t.Sound config ∧ t.connected = true ∧ t.phase.Preliminary ∧ t.sessionId = 0 := by
  have hid : s.sessionId = 0 := hrest.sessionId_eq_zero (by rw [hphase]; decide)
  have hconnected := hrest.connected (.inl hphase)
  rw [h.standing_eq]
  cases found with
  | false => exact ⟨hs, hconnected, .inl hphase, hid⟩
  | true => exact ⟨⟨hs.1, hs.2, hs.3, hs.4⟩, hconnected, .inr rfl, hid⟩

theorem Sought.handshaken {found : Bool} {uses : List Use} (hs : s.Sound config) (hrest : s.AtRest)
    (hphase : s.phase = .bound) (h : Sought s found t uses) :
    Ends handshake t fun r u => ∃ steps, Handshaken config t r u steps := by
  obtain ⟨hsound, hconnected, hpreliminary, hid⟩ := h.ready hs hrest hphase
  exact handshake_handshaken hsound hconnected hpreliminary hid

/-- Whatever becomes of the request to close it, the session ends. -/
theorem abort_ended (s : Session) :
    Ends abort s fun _ t => ∃ x : Standing, t.toStanding = x.ended :=
  ends_abort (fun _ => ⟨_, rfl⟩) fun _ => .intro (fun _ _ _ => ⟨_, rfl⟩) fun _ _ _ => ⟨_, rfl⟩

theorem Rests.of_ended {call : Call} {x : Standing} (ht : t.toStanding = x.ended)
    (hleads : call.Leads s.phase .closed) : Rests call s t := by
  unfold Rests
  rw [ht]
  exact ⟨.ended x, hleads⟩

theorem abort_rests (s : Session) : Ends abort s fun _ t => Rests .abort s t := by
  refine (abort_ended s).imp fun _ t ht => ?_
  obtain ⟨x, hx⟩ := ht
  exact .of_ended hx (.aborted _)

theorem Handshaken.rests {steps : List (Stage × Use)} {r : Except Error Unit}
    (h : Handshaken config s r t steps) (hphase : t.phase = .active) : t.AtRest := by
  constructor
  · rw [hphase]; decide
  · rw [hphase]; decide
  · exact fun hne => absurd hphase hne
  · exact fun _ => h.connected
  · exact h.capabilities

/-- Opening a bound session at rest: the search may fail, and what becomes of the session after
the requests of the handshake depends on how they end. -/
theorem ends_establish_of_rest {post : Except Error Unit → Session → Prop}
    (hs : s.Sound config) (hrest : s.AtRest) (hphase : s.phase = .bound)
    (hlost : ∀ e t sought, pingByPolicy s = .error e t → Sought s false t sought →
      post (.error e) t)
    (htried : ∀ r t u found sought steps, pingByPolicy s = .ok () t → after handshake t = u →
      Sought s found t sought → Handshaken config t r u steps →
        (r = .ok () → post r u) ∧
        (r = .error .cancelled → Ends abort u fun _ v => post r v) ∧
        ∀ e, r = .error e → e ≠ .cancelled → post r { u with toStanding := u.rebound }) :
    Ends establish s post := by
  have hsearch := pingByPolicy_sought hphase (hrest.connected (.inl hphase))
  have hopening {t : Session} (ht : pingByPolicy s = .ok () t) : ∃ sought found,
      Sought s found t sought ∧ Ends handshake t fun r u => ∃ steps, Handshaken config t r u steps := by
    obtain ⟨sought, found, hsought, -⟩ := hsearch.of_ok ht
    exact ⟨sought, found, hsought, hsought.handshaken hs hrest hphase⟩
  refine ends_establish (fun h => absurd hphase h) ?_ ?_ ?_ ?_ <;> intro _
  · intro e t ht
    obtain ⟨sought, found, hsought, hfound⟩ := hsearch.of_error ht
    rw [hfound e rfl] at hsought
    exact hlost e t sought ht hsought
  · intro t u ht hu
    obtain ⟨sought, found, hsought, hends⟩ := hopening ht
    obtain ⟨steps, h⟩ := hends.of_ok hu
    exact (htried _ _ _ _ _ _ ht (after_of_ok hu) hsought h).1 rfl
  · intro t u ht hu
    obtain ⟨sought, found, hsought, hends⟩ := hopening ht
    obtain ⟨steps, h⟩ := hends.of_error hu
    exact (htried _ _ _ _ _ _ ht (after_of_error hu) hsought h).2.1 rfl
  · intro e t u ht hu hne
    obtain ⟨sought, found, hsought, hends⟩ := hopening ht
    obtain ⟨steps, h⟩ := hends.of_error hu
    exact (htried _ _ _ _ _ _ ht (after_of_error hu) hsought h).2.2 e rfl hne

theorem establish_rests (hs : s.Sound config) (hrest : s.AtRest) :
    Ends establish s fun _ t => Rests .establish s t := by
  by_cases hphase : s.phase = .bound
  · unfold Rests
    rw [hphase]
    refine ends_establish_of_rest hs hrest hphase ?_ ?_
    · intro e t sought _ hsought
      obtain ⟨hrest, hnext⟩ := hsought.rests hrest hphase
      rw [hnext]
      exact ⟨hrest, .stays nofun nofun⟩
    · intro r t u found sought steps _ _ _ h
      refine ⟨fun hr => ?_, fun _ => (abort_ended u).imp fun _ v hv => ?_, fun e _ _ => ?_⟩
      · have hactive := h.done hr
        rw [hactive]
        exact ⟨h.rests hactive, .activated⟩
      · obtain ⟨x, hx⟩ := hv
        rw [hx]
        exact ⟨.ended x, .givenUp⟩
      · exact ⟨.of_inactive rfl (.inr (.inr (.inr ⟨.inl rfl, h.connected⟩))), .stays nofun nofun⟩
  · exact (ends_expect_bind_of_ne hphase).mpr (.of_eq hrest rfl nofun fun _ => ⟨nofun, nofun⟩)

theorem close_rests (hs : s.AtRest) : Ends close s fun _ t => Rests .close s t := by
  have hsame (h : s.phase ≠ .active) : Rests .close s s := .of_eq hs rfl nofun fun hp => absurd hp h
  refine ends_close (fun h => hsame (by rw [h]; decide)) (fun h => hsame h) fun hphase => ?_
  have hleads : Call.Leads .close s.phase .closed := by
    rw [hphase]
    exact .ended ⟨rfl, nofun⟩
  exact .intro (fun _ _ _ => .of_ended rfl hleads) fun _ _ _ => .of_ended rfl hleads

theorem discard_rests (hs : s.AtRest) : Rests .discard s s.discard := by
  by_cases hphase : s.phase = .active
  · rw [discard_of_active hphase]
    obtain ⟨x, hx⟩ := (abort_ended s).after
    refine .of_ended hx ?_
    rw [hphase]
    exact .ended ⟨rfl, nofun⟩
  · rw [discard_of_inactive hphase]
    exact .of_eq hs rfl nofun fun h => absurd h hphase

/-- An exchange moves the counters at most. -/
theorem exchange_recounted (r : Request) (route : Route) (manner : Manner) (s : Session) :
    Ends (exchange r route manner) s fun _ t => s.Recounted t.toStanding := by
  refine (exchange_standing r route manner s).imp fun outcome t ht => ?_
  cases outcome with
  | ok response =>
    obtain ⟨n, hn⟩ := ht
    rw [hn]
    exact .answered ..
  | error e =>
    dsimp only at ht
    rw [ht]
    exact .refl _

theorem dispatch_rests {call : Call} {r : Request} {route : Route} (hs : s.AtRest)
    (hmay : call.mayClose = true ∧ call ≠ .establish)
    (hcall : call ≠ .abort ∧ call ≠ .close ∧ call ≠ .discard) :
    Ends (dispatch r route) s fun _ t => Rests call s t := by
  refine ends_dispatch (fun _ => .of_eq hs rfl hcall.1 fun _ => hcall.2) fun hphase => ?_
  refine (exchange_recounted r route _ s).imp fun outcome t ht => ⟨fun _ => ?_, fun _ => ?_⟩
  · refine (abort_ended t).imp fun _ u hu => ?_
    obtain ⟨x, hx⟩ := hu
    refine .of_ended hx ?_
    rw [hphase]
    exact .ended hmay
  · exact .recounted hs ht hcall.1 fun _ => hcall.2

/-- Every call leaves a session at rest that it found at rest. -/
theorem op_rests (call : Call) (hs : s.Sound config) (hrest : s.AtRest) :
    Ends call.op s fun _ t => Rests call s t := by
  have hsame {t : Session} (ht : t.toStanding = s.toStanding) (h : call ≠ .abort)
      (h' : call ≠ .close ∧ call ≠ .discard) : Rests call s t := .of_eq hrest ht h fun _ => h'
  cases call with
  | connect => exact connect_rests hrest
  | ping => exact (ends_map ..).mpr (ping_rests hrest)
  | establish => exact establish_rests hs hrest
  | command request =>
    refine (ends_map ..).mpr ((ends_command ..).mpr ?_)
    exact dispatch_rests hrest ⟨rfl, nofun⟩ ⟨nofun, nofun, nofun⟩
  | raw netFn unit target channel number data =>
    refine (ends_map ..).mpr (ends_raw (fun _ => hsame rfl nofun ⟨nofun, nofun⟩) ?_)
    exact dispatch_rests hrest ⟨rfl, nofun⟩ ⟨nofun, nofun, nofun⟩
  | close => exact close_rests hrest
  | abort => exact abort_rests s
  | discard => exact discard_rests hrest
  | elapse | cancel | enqueue => exact hsame rfl nofun ⟨nofun, nofun⟩

theorem run_concat (s : Session) (calls : List Call) (call : Call) :
    s.run (calls ++ [call]) = after call.op (s.run calls) := by
  rw [run, List.foldl_append]
  rfl

theorem Fresh.atRest (h : Fresh config s) (hid : s.sessionId = 0) : s.AtRest := by
  refine .of_inactive hid ?_
  rcases h.phase_eq with hphase | hphase
  · exact .inl hphase
  · exact .inr (.inr (.inr ⟨.inl hphase, h.linked (by rw [hphase]; rfl)⟩))

theorem Begun.sessionId_eq (h : Begun config s) : s.sessionId = 0 := by
  have hstart {seeds : Seeds} {link : Link} {connected : Bool} {phase : Phase} {s : Session}
      (h : start config seeds link connected phase = .ok s) : s.sessionId = 0 := by
    unfold start at h
    obtain ⟨-, -, h⟩ := Reading.bind_eq_ok_iff.mp h
    cases h
    rfl
  cases h with
  | unconnected token h =>
    have hid := hstart h
    exact hid
  | overLink token h =>
    have hid := hstart h
    exact hid

/-- Between calls a session is at rest. -/
theorem run_atRest (h : Begun config s) (calls : List Call) : (s.run calls).AtRest := by
  -- The last call is split off, since it starts where the calls before it left the session.
  induction calls using List.reverseRecOn with
  | nil => exact h.fresh.atRest h.sessionId_eq
  | append_singleton calls call ih =>
    rw [run_concat]
    have hcall := op_rests call (run_accounted h calls).sound ih
    exact (hcall.imp fun _ _ ht => ht.1).after

end Session
end Baseboard
