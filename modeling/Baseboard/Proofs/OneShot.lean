import Baseboard.OneShot
import Baseboard.Proofs.Pairing
import Baseboard.Proofs.Session.Closing

/-! Sessions that are opened in one call, and sessions that are opened for one request. However
such a session ends, its controller is asked to close it as it would be call by call. -/
namespace Baseboard.Session

variable {config : Config} {s t : Session} {r : Request}

theorem connect_bound : Ends connect s fun r t => r = .ok () → t.phase = .bound :=
  ends_connect (fun _ => nofun) (fun _ _ => nofun) (fun _ _ => nofun) fun _ _ => rfl

/-- An active session whose one request was carried out, and which is then closed. -/
theorem closedBy_close_iff {res : Response} (hs : s.Sound config) (hrest : s.AtRest)
    (hphase : s.phase = .active) (hcommand : r.command ≠ AppCommand.closeSession.code)
    (hr : require r s = .ok res t) :
    s.ClosedBy (after close t).released ↔ ¬ s.Mute ∧ ¬ t.isCancelled = true := by
  have hconnected := hrest.connected (.inr (.inr hphase))
  obtain ⟨hkept, haudible⟩ := require_of_ok hs hconnected hphase hr
  have hactive := hkept.recounted.phase_eq.trans hphase
  have hclose := (close_closedBy_iff (hkept.sound _ hs)
    (hkept.recounted.connected_eq.trans hconnected) hactive).after
  have hends : Rests .close t (after close t) := (close_rests (hrest.recounted hkept.recounted)).after
  have hclosed : (after close t).phase ≠ .active := by
    rw [hends.2.closed_of_ends (.inl ⟨rfl, hactive⟩)]
    decide
  obtain ⟨actions, hdid⟩ := Path.did (close_path (s := t)).after
  rw [released, discard_of_inactive hclosed]
  -- What asks to close the session was handed over by the request, which asks for something
  -- else, or by the closing.
  constructor
  · intro h
    refine ⟨haudible, fun hcancelled => ?_⟩
    rcases h.split hkept.recounted.sessionId_eq hkept.later hdid with h | h
    · exact hkept.quiet hcommand h
    · exact (hclose.mp h).2 hcancelled
  · rintro ⟨-, hlive⟩
    refine .of_later hkept.recounted.sessionId_eq hkept.later (hclose.mpr ⟨?_, hlive⟩)
    exact mt hkept.recounted.mute_iff.mp haudible

/-- An active session whose one request failed, and which is then let go of. -/
theorem closedBy_released_iff {e : Error} (hs : s.Sound config) (hrest : s.AtRest)
    (hphase : s.phase = .active) (hr : require r s = .error e t) :
    s.ClosedBy t.released ↔ ¬ s.Mute := by
  have hconnected := hrest.connected (.inr (.inr hphase))
  rcases (require_keeps hs hconnected hphase).of_error hr with ⟨response, hkept, -⟩ | ⟨hgiven, -⟩
  · have hactive := hkept.recounted.phase_eq.trans hphase
    have hdiscard := discard_closedBy_iff (hkept.sound _ hs)
      (hkept.recounted.connected_eq.trans hconnected) hactive
    constructor
    · intro h hmute
      obtain ⟨rfl, -⟩ := hkept.mute hmute
      exact hdiscard.mp h hmute
    · intro haudible
      exact .of_later hkept.recounted.sessionId_eq hkept.later
        (hdiscard.mpr (mt hkept.recounted.mute_iff.mp haudible))
  · rw [released, discard_of_inactive hgiven.inactive]
    exact iff_of_true hgiven.closed hgiven.audible

/-- What becomes of an active session that is used for one request, by the time the network is
as it is in `n`: it is asked to be closed, unless it is mute, or the request was carried out and
the caller had cancelled by then. -/
structure ClosedAfter (s : Session) (r : Request) (n : Network) : Prop where
  carriedOut : ∀ res t, require r s = .ok res t →
    (s.ClosedBy n ↔ ¬ s.Mute ∧ ¬ t.isCancelled = true)
  failed : ∀ e t, require r s = .error e t → (s.ClosedBy n ↔ ¬ s.Mute)

section OneShot

variable {seeds : Seeds} {network : Network}

/-- What opening a session in one call comes to, once it is connected. -/
theorem openSession_eq {c : Session} (hs : unconnected config seeds network = .ok s)
    (hc : connect s = .ok () c) :
    openSession config seeds network = match establish c with
      | .ok () t => .ok t
      | .error e t => .error ⟨e, t.released⟩ := by
  have hbind : (do connect; establish : Op Unit) s = EStateM.bind connect (fun _ => establish) s := rfl
  have hopen : (do connect; establish : Op Unit) s = establish c := by
    rw [hbind, EStateM.bind, hc]
  rw [openSession, hs]
  exact hopen ▸ rfl

/-- The session that is opened in one call, once it is connected. -/
structure Connected (config : Config) (s c : Session) : Prop where
  begun : Begun config s
  run_eq : s.run [.connect] = c
  sound : c.Sound config
  atRest : c.AtRest
  bound : c.phase = .bound

theorem openSession_connected {c : Session} (hs : unconnected config seeds network = .ok s)
    (hc : connect s = .ok () c) : Connected config s c := by
  have hbegun : Begun config s := .unconnected s.token hs
  have hrun : s.run [.connect] = c := after_of_ok hc
  constructor
  · exact hbegun
  · exact hrun
  · rw [← hrun]
    exact (run_accounted hbegun _).sound
  · rw [← hrun]
    exact run_atRest hbegun _
  · exact connect_bound.of_ok hc rfl

/-- A session that was opened in one call has been begun, connected and opened. -/
theorem openSession_ok (h : openSession config seeds network = .ok t) :
    ∃ s, Begun config s ∧ t = s.run [.connect, .establish] ∧ t.phase = .active := by
  cases hs : unconnected config seeds network with
  | error e =>
    rw [openSession, hs] at h
    cases h
  | ok s =>
  cases hc : connect s with
  | error e u =>
    have hbind : (do connect; establish : Op Unit) s = EStateM.bind connect (fun _ => establish) s := rfl
    rw [openSession, hs] at h
    dsimp only at h
    rw [hbind, EStateM.bind, hc] at h
    cases h
  | ok _ c =>
  have hconnected := openSession_connected hs hc
  rw [openSession_eq hs hc] at h
  cases he : establish c with
  | error e v =>
    rw [he] at h
    cases h
  | ok _ v =>
    rw [he] at h
    cases h
    have hactive := establish_active_iff hconnected.sound hconnected.atRest hconnected.bound
    refine ⟨s, hconnected.begun, ?_, (hactive.of_ok he).mp rfl⟩
    rw [← after_of_ok he, ← hconnected.run_eq]
    rfl

theorem openSession_active (h : openSession config seeds network = .ok t) :
    t.Sound config ∧ t.AtRest ∧ t.phase = .active := by
  obtain ⟨s, hbegun, rfl, hphase⟩ := openSession_ok h
  exact ⟨(run_accounted hbegun _).sound, run_atRest hbegun _, hphase⟩

/-- A session that was activated in one call, and whose opening was given up then. -/
theorem openSession_closedBy {c : Session} {failed : Failed}
    (hs : unconnected config seeds network = .ok s) (hc : connect s = .ok () c)
    (hactive : c.handshaken.phase = .active)
    (h : openSession config seeds network = .error failed) :
    c.handshaken.ClosedBy failed.network := by
  obtain ⟨-, -, hsound, hrest, hbound⟩ := openSession_connected hs hc
  rw [openSession_eq hs hc] at h
  cases he : establish c with
  | ok _ v =>
    rw [he] at h
    cases h
  | error e v =>
    rw [he] at h
    cases h
    have hended : v.phase ≠ .active := by
      intro hv
      cases ((establish_active_iff hsound hrest hbound).of_error he).mpr hv
    change c.handshaken.ClosedBy v.released
    rw [released, discard_of_inactive hended]
    exact (establish_closedBy hsound hrest hbound).of_error he hactive hended

/-- A session that was opened in one call is closed after its use, or let go of if that failed. -/
theorem withSession_eq {α : Type} {use : Op α} (h : openSession config seeds network = .ok t) :
    withSession config seeds network use = match use t with
      | .ok a u => ((outcome close u).map fun _ => a, (after close u).released)
      | .error e u => (.error e, u.released) := by
  have hbind : (do let a ← use; close; return a : Op α) t =
      EStateM.bind use (fun a => EStateM.bind close fun _ => pure a) t := rfl
  unfold withSession outcome after
  rw [h]
  dsimp only
  rw [hbind, EStateM.bind]
  cases use t with
  | ok a u =>
    dsimp only
    rw [EStateM.bind]
    cases close u <;> rfl
  | error e u => rfl

/-- The use is a request, and what is made of its response. -/
theorem withSession_require_eq {α : Type} (h : openSession config seeds network = .ok t)
    (f : Response → α) :
    withSession config seeds network (require r >>= fun res => pure (f res)) = match require r t with
      | .ok res u => ((outcome close u).map fun _ => f res, (after close u).released)
      | .error e u => (.error e, u.released) := by
  have hbind : (require r >>= fun res => pure (f res) : Op α) t =
      EStateM.bind (require r) (fun res => pure (f res)) t := rfl
  rw [withSession_eq h, hbind, EStateM.bind]
  cases require r t <;> rfl

/-- A session that is opened, used for one request and closed. -/
theorem withSession_closedAfter {α : Type} (h : openSession config seeds network = .ok t)
    (hcommand : r.command ≠ AppCommand.closeSession.code) (f : Response → α) :
    t.ClosedAfter r
      (withSession config seeds network (require r >>= fun res => pure (f res))).2 := by
  obtain ⟨hs, hrest, hphase⟩ := openSession_active h
  rw [withSession_require_eq h]
  constructor
  · intro res u hr
    rw [hr]
    exact closedBy_close_iff hs hrest hphase hcommand hr
  · intro e u hr
    rw [hr]
    exact closedBy_released_iff hs hrest hphase hr

end OneShot

/-- Whether an active session is asked to be closed before its id is forgotten. Whichever call
ends it, it is, unless it is mute or it was closed by an owner who had already cancelled. An
opening that gives up a session it had activated asks for it to be closed, and so does opening
in one call. A session that is opened for one request is asked to be closed, unless it is mute,
or the request was carried out and the caller had cancelled by then. -/
theorem closedBy_of_ended {config : Config} :
    (∀ (s : Session) (calls : List Call) (call : Call), Begun config s →
      let t := s.run calls
      t.phase = .active → (after call.op t).phase ≠ .active →
        (t.ClosedBy (after call.op t).link.network ↔
          ¬ t.Mute ∧ ¬ (call = .close ∧ t.isCancelled = true))) ∧
    (∀ (s : Session) (calls : List Call), Begun config s →
      let t := s.run calls
      t.phase = .bound → t.handshaken.phase = .active → (after establish t).phase ≠ .active →
        t.handshaken.ClosedBy (after establish t).link.network) ∧
    (∀ (seeds : Seeds) (network : Network) (s c : Session) (failed : Failed),
      unconnected config seeds network = .ok s → connect s = .ok () c →
      c.handshaken.phase = .active → openSession config seeds network = .error failed →
        c.handshaken.ClosedBy failed.network) ∧
    (∀ (seeds : Seeds) (network : Network) (t : Session),
      openSession config seeds network = .ok t → t.phase = .active ∧
        t.ClosedAfter .chassisStatus (chassisPower config seeds network).2 ∧
        ∀ action : PowerAction,
          t.ClosedAfter (.chassisControl action) (controlChassis config action seeds network).2) := by
  refine ⟨?_, ?_, ?_, ?_⟩
  · intro s calls call h t hactive hends
    have hsound : t.Sound config := (run_accounted h calls).sound
    have hconnected := (run_atRest h calls).connected (.inr (.inr hactive))
    exact (op_closedBy_iff call hsound hconnected hactive).after hends
  · intro s calls h t hbound hactive hends
    have hsound : t.Sound config := (run_accounted h calls).sound
    exact (establish_closedBy hsound (run_atRest h calls) hbound).after hactive hends
  · exact fun _ _ _ _ _ hs hc hactive hfailed => openSession_closedBy hs hc hactive hfailed
  · intro seeds network t h
    obtain ⟨s, -, -, hphase⟩ := openSession_ok h
    refine ⟨hphase, ?_, fun action => ?_⟩
    · exact withSession_closedAfter h (by decide) powerOn
    · have hcommand : ChassisCommand.control.code ≠ AppCommand.closeSession.code := by decide
      exact withSession_closedAfter h hcommand fun _ => ()

/-- An owner who has not cancelled closes the session for good. -/
theorem closedBy_of_close :
    let t := (sample []).run [.establish]
    t.phase = .active ∧ (after close t).phase ≠ .active ∧ ¬ t.Mute ∧
      t.ClosedBy (after close t).link.network := by
  intro t
  have hactive : t.phase = .active := by decide +kernel
  have hends : (after close t).phase ≠ .active := by decide +kernel
  have haudible : ¬ t.Mute := by
    have hauth : t.authType = .none := by decide +kernel
    rintro ⟨-, h⟩
    cases hauth.symm.trans h
  have hlive : ¬ (Call.close = .close ∧ t.isCancelled = true) := by decide +kernel
  exact ⟨hactive, hends, haudible,
    (closedBy_of_ended.1 (sample []) [.establish] .close (sample_begun []) hactive hends).mpr
      ⟨haudible, hlive⟩⟩

/-- An owner who has cancelled before closing the session leaves the controller with it: its id
is forgotten, and nothing has been sent. -/
theorem not_closedBy_of_cancelled :
    let t := (sample []).run [.establish, .cancel]
    t.phase = .active ∧ t.sessionId ≠ 0 ∧ (after close t).phase = .closed ∧
      (after close t).sessionId = 0 ∧ t.handedOver (after close t) = [] ∧
      ¬ t.ClosedBy (after close t).link.network := by
  intro t
  have hnone : t.handedOver (after close t) = [] := by decide +kernel
  refine ⟨by decide +kernel, by decide +kernel, by decide +kernel, by decide +kernel, hnone, ?_⟩
  rintro ⟨frame, hframe, -⟩
  change frame ∈ t.handedOver (after close t) at hframe
  rw [hnone] at hframe
  cases hframe

end Baseboard.Session
