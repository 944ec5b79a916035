import Baseboard.Proofs.Session.Footing
import Baseboard.Proofs.Session.Rest

/-! The life of a session, as its owner sees it: which calls take it from one phase to
another, which of them are refused, and that a session that has ended stays as it is. -/
namespace Baseboard

/-- Whether a call is an operation of the session itself. The others go on around it. -/
def Call.operates : Call → Bool
  | .connect | .ping | .establish | .command _ | .raw .. | .close | .abort | .discard => true
  | .elapse _ | .cancel | .enqueue _ => false

namespace Session

variable {config : Config} {s t : Session}

theorem ended_of_closed {x : Standing} (hphase : x.phase = .closed) (hid : x.sessionId = 0) :
    x.ended = x := by
  cases x
  cases hphase
  cases hid
  rfl

/-- Nothing about a session and its link is different. -/
def Untouched (s t : Session) : Prop := t.toStanding = s.toStanding ∧ t.link = s.link

theorem Untouched.refl (s : Session) : Untouched s s := ⟨rfl, rfl⟩

theorem untouched_of_ne {α : Type} {phase : Phase} {f : Unit → Op α} (h : s.phase ≠ phase) :
    Ends (expect phase >>= f) s fun _ t => Untouched s t :=
  (ends_expect_bind_of_ne h).mpr (.refl s)

/-- A session that has ended does nothing any more when it is called. -/
theorem op_untouched (call : Call) (hoperates : call.operates = true) (hphase : s.phase = .closed)
    (hid : s.sessionId = 0) : Ends call.op s fun _ t => Untouched s t := by
  have hunopened : s.phase ≠ .unconnected := by rw [hphase]; decide
  have hunbound : s.phase ≠ .bound := by rw [hphase]; decide
  have hinactive : s.phase ≠ .active := by rw [hphase]; decide
  cases call with
  | connect => exact untouched_of_ne hunopened
  | ping => exact (ends_map ..).mpr (untouched_of_ne hunbound)
  | establish => exact untouched_of_ne hunbound
  | command request => exact (ends_map ..).mpr ((ends_command ..).mpr (untouched_of_ne hinactive))
  | raw netFn unit target channel number data =>
    exact (ends_map ..).mpr (ends_raw (fun _ => .refl s) (untouched_of_ne hinactive))
  | close =>
    exact ends_close (fun _ => .refl s) (fun _ => .refl s) fun h => absurd h hinactive
  | abort =>
    exact ends_abort (fun _ => ⟨ended_of_closed hphase hid, rfl⟩) fun h => absurd h hinactive
  | discard =>
    change Untouched s s.discard
    rw [discard_of_inactive hinactive]
    exact .refl s
  | elapse | cancel | enqueue => cases hoperates

/-- Nothing has changed about a session, and nothing was done over its link. -/
def Idle (s t : Session) : Prop :=
  t.toStanding = s.toStanding ∧ t.link.network.trace = s.link.network.trace

theorem Untouched.idle (h : Untouched s t) : Idle s t := ⟨h.1, by rw [h.2]⟩

/-- Whatever happens to a session that has ended, it does nothing any more. -/
theorem op_idle (call : Call) (hphase : s.phase = .closed) (hid : s.sessionId = 0) :
    Ends call.op s fun _ t => Idle s t := by
  cases hoperates : call.operates with
  | true => exact (op_untouched call hoperates hphase hid).imp fun _ _ ht => ht.idle
  | false =>
    cases call with
    | elapse | cancel | enqueue => exact ⟨rfl, rfl⟩
    | connect | ping | establish | command | raw | close | abort | discard => cases hoperates

theorem run_idle (calls : List Call) (hphase : s.phase = .closed) (hid : s.sessionId = 0) :
    Idle s (s.run calls) := by
  induction calls generalizing s with
  | nil => exact (Untouched.refl s).idle
  | cons call rest ih =>
    have hfirst : Idle s (after call.op s) := (op_idle call hphase hid).after
    have hrest := ih (s := after call.op s) (by rw [hfirst.1]; exact hphase)
      (by rw [hfirst.1]; exact hid)
    exact ⟨hrest.1.trans hfirst.1, hrest.2.trans hfirst.2⟩

/-- The phase was right for all that was done, and there was a link for it. -/
def InPhase {α : Type} (r : Except Error α) (t : Session) : Prop :=
  Fares (fun t => t.connected = true) (fun e _ => ∀ expected actual, e ≠ .wrongPhase expected actual)
    r t

section InPhase

variable {α β : Type}

theorem InPhase.ne {r : Except Error α} (h : InPhase r t) (expected actual : Phase) :
    r ≠ .error (.wrongPhase expected actual) := fun hr => h.2 _ hr expected actual rfl

theorem exchange_inPhase (request : Request) (route : Route) (manner : Manner)
    (hconnected : s.connected = true) : Ends (exchange request route manner) s InPhase := by
  refine (exchange_sends hconnected request route manner).imp fun r t ht => ?_
  rcases ht with ⟨e, hpacket, rfl, rfl⟩ | ⟨use, huse⟩
  · exact .error hconnected (Standing.packet_error_ne hpacket).2
  · refine ⟨huse.recounted.connected_eq.trans hconnected, fun e he expected actual h => ?_⟩
    subst h
    cases huse.late he

/-- Requests do not need another phase than the session is in. -/
theorem footing_inPhase : Footing (fun t => t.connected = true)
    (fun e _ => ∀ expected actual, e ≠ .wrongPhase expected actual) where
  manage _ _ hconnected := (ends_manage ..).mpr (exchange_inPhase _ _ _ hconnected)
  faults e _ h expected actual he := by
    subst he
    cases h

theorem handshake_inPhase (hconnected : s.connected = true) : Ends handshake s InPhase := by
  refine footing_inPhase.handshake (fun _ _ hx hs => hx.trans hs) ?_ hconnected
  rintro c pinned e t h expected actual rfl
  rcases Capabilities.negotiate_eq_error h with h | h <;> cases h

theorem ping_inPhase (hphase : s.phase = .bound) (hconnected : s.connected = true) :
    Ends ping s InPhase := by
  refine ends_ping (fun h => absurd hphase h) (fun _ h => nomatch hconnected.symm.trans h)
    fun _ => ?_
  refine (Link.exchange_fault (acceptPong s.pingTag) _ (Presence.ping s.pingTag) _ _ _).imp
    fun r link hr => ?_
  cases r with
  | ok pong => exact ⟨hconnected, nofun⟩
  | error e =>
    refine ⟨hconnected, fun found hfound expected actual h => ?_⟩
    cases hfound
    subst h
    cases hr _ rfl with
    | refused h => exact absurd h acceptPong_ne_error

theorem pingByPolicy_inPhase (hphase : s.phase = .bound) (hconnected : s.connected = true) :
    Ends pingByPolicy s InPhase := by
  refine ends_pingByPolicy ⟨hconnected, nofun⟩ ((ping_inPhase hphase hconnected).imp ?_)
  refine fun r t ht => ⟨?_, fun _ => ⟨ht.1, nofun⟩⟩
  rintro e rfl
  exact .error ht.1 (ht.2 e rfl)

theorem establish_inPhase (hphase : s.phase = .bound) (hconnected : s.connected = true) :
    Ends establish s fun r _ => ∀ expected actual, r ≠ .error (.wrongPhase expected actual) := by
  have hsearch := pingByPolicy_inPhase hphase hconnected
  refine ends_establish (fun h => absurd hphase h) ?_ ?_ ?_ ?_
  · exact fun _ e t ht => (hsearch.of_error ht).ne
  · exact fun _ _ _ _ _ => nofun
  · exact fun _ _ u _ _ => (abort_closes u).imp fun _ _ _ => nofun
  · exact fun _ e t u ht hu _ => ((handshake_inPhase (hsearch.of_ok ht).1).of_error hu).ne

/-- No outcome says that a bound session, or one with a link, was called for. -/
def Unbound (r : Except Error α) : Prop := ∀ actual, r ≠ .error (.wrongPhase .bound actual)

theorem Unbound.bind {r : Except Error α} {f : α → Except Error β} (h : Unbound r)
    (hf : ∀ a, Unbound (f a)) : Unbound (r.bind f) := by
  intro actual hr
  cases r with
  | ok a => exact hf a actual hr
  | error e => exact h actual (congrArg Except.error (Except.error.inj hr))

theorem Unbound.map {r : Except Error α} (h : Unbound r) (f : α → β) : Unbound (r.map f) := by
  intro actual hr
  cases r with
  | ok a => cases hr
  | error e => exact h actual (congrArg Except.error (Except.error.inj hr))

theorem connect_unbound : Ends connect s fun r _ => Unbound r :=
  ends_connect (fun _ => nofun) (fun _ _ => nofun) (fun _ _ => nofun) fun _ => nofun

theorem close_unbound (hs : s.AtRest) : Ends close s fun r _ => Unbound r := by
  refine ends_close (fun _ => nofun) (fun _ => nofun) fun hphase => ?_
  have hends : Ends (closeSession s.sessionId) s InPhase :=
    footing_inPhase.closeSession s.sessionId (hs.connected (.inr (.inr hphase)))
  exact hends.imp fun _ _ ht => ht.ne .bound

theorem dispatch_unbound (request : Request) (route : Route) (hs : s.AtRest) :
    Ends (dispatch request route) s fun r _ => Unbound r := by
  refine ends_dispatch (fun _ => nofun) fun hphase => ?_
  refine (exchange_inPhase request route _ (hs.connected (.inr (.inr hphase)))).imp
    fun r t ht => ⟨fun _ => ?_, fun _ => ht.ne .bound⟩
  exact (abort_closes t).imp fun _ _ _ => nofun

theorem command_unbound (request : Request) (hs : s.AtRest) :
    Ends (command request) s fun r _ => Unbound r :=
  (ends_command ..).mpr (dispatch_unbound request _ hs)

theorem raw_unbound (netFn unit target channel number : UInt8) (data : Bytes) (hs : s.AtRest) :
    Ends (raw netFn unit target channel number data) s fun r _ => Unbound r :=
  ends_raw (fun _ => nofun) (dispatch_unbound _ _ hs)

theorem after_require (request : Request) (s : Session) :
    after (require request) s = after (command request) s := by
  have hsame : Ends (require request) s fun _ t => t = after (command request) s :=
    (ends_require ..).mpr
      (.intro (fun _ _ h => (after_of_ok h).symm) fun _ _ h => (after_of_error h).symm)
  exact hsame.after

theorem require_unbound (request : Request) (hs : s.AtRest) :
    Ends (require request) s fun r _ => Unbound r := by
  refine (ends_require ..).mpr ((command_unbound request hs).imp fun r t ht => ht.bind ?_)
  intro response actual h
  cases Response.accepted_faults h

/-- Only a search and an opening are refused for want of a bound session, and only outside of
that phase. -/
theorem op_unbound (call : Call) (hs : s.AtRest) : Ends call.op s fun r _ => ∀ actual,
    r = .error (.wrongPhase .bound actual) →
      (call = .ping ∨ call = .establish) ∧ actual = s.phase ∧ actual ≠ .bound := by
  have hunbound {op : Op Unit} (h : Ends op s fun r _ => Unbound r) : Ends op s fun r _ => ∀ actual,
      r = .error (.wrongPhase .bound actual) →
        (call = .ping ∨ call = .establish) ∧ actual = s.phase ∧ actual ≠ .bound :=
    h.imp fun r _ hr actual he => absurd he (hr actual)
  cases call with
  | connect => exact hunbound connect_unbound
  | ping =>
    refine (ends_map ..).mpr ?_
    by_cases hphase : s.phase = .bound
    · refine (ping_inPhase hphase (hs.connected (.inl hphase))).imp fun r t ht actual h => ?_
      exact absurd h (Unbound.map (ht.ne .bound) _ actual)
    · refine (ends_expect_bind_of_ne hphase).mpr fun actual h => ?_
      cases h
      exact ⟨.inl rfl, rfl, hphase⟩
  | establish =>
    by_cases hphase : s.phase = .bound
    · refine (establish_inPhase hphase (hs.connected (.inl hphase))).imp fun r t ht actual h => ?_
      exact absurd h (ht .bound actual)
    · refine (ends_expect_bind_of_ne hphase).mpr fun actual h => ?_
      cases h
      exact ⟨.inr rfl, rfl, hphase⟩
  | command request =>
    exact hunbound ((ends_map ..).mpr ((command_unbound request hs).imp fun _ _ h => h.map _))
  | raw netFn unit target channel number data =>
    exact hunbound ((ends_map ..).mpr
      ((raw_unbound netFn unit target channel number data hs).imp fun _ _ h => h.map _))
  | close => exact hunbound (close_unbound hs)
  | abort =>
    refine hunbound ((abort_closes s).imp fun r _ hr => ?_)
    rw [hr.1]
    exact nofun
  | discard | elapse | cancel | enqueue => exact hunbound nofun

end InPhase

/-- The life of a session. After any calls it is at rest: not half way through a search or an
opening, with an id only while it is active, with a link whenever one may be used, and with its
counters in range. The phases change as in the table; in particular a session becomes active
only by being opened when it is bound, and closing an active session or giving any session up
ends it without an id. No call fails for want of a link: where a call blames the phase, it was
called in that phase. Commands that have to be carried out leave the session as the bare command
does. Once the session has ended nothing about it changes and nothing is sent. -/
theorem run_lifecycle (h : Begun config s) (calls : List Call) :
    let t := s.run calls
    t.AtRest ∧ t.Sound config ∧
    (∀ call : Call, call.Leads t.phase (after call.op t).phase) ∧
    (∀ call : Call, (after call.op t).phase = .active →
      t.phase = .active ∨ (call = .establish ∧ t.phase = .bound)) ∧
    (∀ call : Call, (call = .close ∧ t.phase = .active) ∨ call = .abort →
      (after call.op t).phase = .closed ∧ (after call.op t).sessionId = 0) ∧
    (∀ (call : Call) (actual : Phase) (u : Session),
      call.op t = .error (.wrongPhase .bound actual) u →
        (call = .ping ∨ call = .establish) ∧ actual = t.phase ∧ actual ≠ .bound) ∧
    (∀ request : Request, after (require request) t = after (command request) t ∧
      ∀ (actual : Phase) (u : Session), require request t ≠ .error (.wrongPhase .bound actual) u) ∧
    (t.phase = .closed → ∀ later : List Call,
      (t.run later).toStanding = t.toStanding ∧ t.handedOver (t.run later) = []) := by
  intro t
  have hrest : t.AtRest := run_atRest h calls
  have hsound : t.Sound config := (run_accounted h calls).sound
  have hleads (call : Call) : Rests call t (after call.op t) := (op_rests call hsound hrest).after
  refine ⟨hrest, hsound, fun call => (hleads call).2, ?_, ?_, ?_, ?_, ?_⟩
  · exact fun call hactive => (hleads call).2.opened_of_active hactive
  · intro call hends
    have hclosed := (hleads call).2.closed_of_ends hends
    exact ⟨hclosed, (hleads call).1.sessionId_eq_zero (by rw [hclosed]; decide)⟩
  · intro call actual u hr
    exact (op_unbound call hrest).of_error hr actual rfl
  · intro request
    exact ⟨after_require .., fun actual u hr =>
      (require_unbound request hrest).of_error hr actual rfl⟩
  · intro hclosed later
    have hid : t.sessionId = 0 := hrest.sessionId_eq_zero (by rw [hclosed]; decide)
    obtain ⟨hstanding, htrace⟩ := run_idle later hclosed hid
    refine ⟨hstanding, ?_⟩
    rw [handedOver, htrace, List.drop_length, List.filterMap_nil]

/-- A session that was opened and closed stays closed, whatever its owner does with it. -/
theorem run_lifecycle_of_closed :
    let t := (sample []).run [.establish, .close]
    t.phase = .closed ∧ ∀ later : List Call,
      (t.run later).toStanding = t.toStanding ∧ t.handedOver (t.run later) = [] := by
  intro t
  have hclosed : t.phase = .closed := by decide +kernel
  obtain ⟨-, -, -, -, -, -, -, hstays⟩ := run_lifecycle (sample_begun []) [.establish, .close]
  exact ⟨hclosed, hstays hclosed⟩

end Session
end Baseboard
