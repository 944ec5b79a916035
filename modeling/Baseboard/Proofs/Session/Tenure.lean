import Baseboard.Proofs.Session.Reach

/-! The time in which a session is active. Until it ends it signs its frames alike, and what it
uses its link for goes out in frames that it makes of its requests. -/
namespace Baseboard

/-- A use of the link handed over no frames but those that its session makes for its purpose. -/
def Use.Made (u : Use) : Prop := ∀ frame ∈ u.frames, u.standing.Makes u.purpose frame

/-- Two standings are in the same phase, and sign their frames alike. -/
structure Standing.Akin (s t : Standing) : Prop where
  phase_eq : t.phase = s.phase
  authType_eq : t.authType = s.authType
  policy_eq : t.policy = s.policy
  privilege_eq : t.privilege = s.privilege

namespace Standing

variable {s t u : Standing}

theorem Akin.refl (s : Standing) : s.Akin s := ⟨rfl, rfl, rfl, rfl⟩

theorem Akin.trans (h : s.Akin t) (h' : t.Akin u) : s.Akin u :=
  ⟨h'.phase_eq.trans h.phase_eq, h'.authType_eq.trans h.authType_eq, h'.policy_eq.trans h.policy_eq,
    h'.privilege_eq.trans h.privilege_eq⟩

theorem Recounted.akin (h : s.Recounted t) : s.Akin t :=
  ⟨h.phase_eq, h.authType_eq, h.policy_eq, h.privilege_eq⟩

end Standing

namespace Session

variable {s t u : Session}

/-- What the link was used for from one state of a session to another. -/
def since (s t : Session) : List Use := t.uses.drop s.uses.length

theorem since_eq {uses : List Use} (h : t.uses = s.uses ++ uses) : s.since t = uses := by
  rw [since, h, List.drop_left]

/-- What was done from one state to another was done before some state in between, or after it. -/
theorem mem_since_iff {use : Use} (h : s.uses <+: t.uses) (h' : t.uses <+: u.uses) :
    use ∈ s.since u ↔ use ∈ s.since t ∨ use ∈ t.since u := by
  obtain ⟨first, hfirst⟩ := h
  obtain ⟨second, hsecond⟩ := h'
  have hall : s.since u = first ++ second :=
    since_eq (by rw [← hsecond, ← hfirst, List.append_assoc])
  rw [hall, since_eq hfirst.symm, since_eq hsecond.symm, List.mem_append]

/-- From one state to another a session went on in its phase, and signed its frames alike, or it
ended. What it did as an active session it did as it stood. -/
structure Continues (s t : Session) : Prop where
  kept : s.Akin t.toStanding ∨ t.phase = .closed
  grown : s.uses <+: t.uses
  uses : ∀ use ∈ s.since t, use.standing.phase = .active → s.Akin use.standing ∧ use.Made

namespace Continues

theorem of_eq (hstanding : s.Akin t.toStanding ∨ t.phase = .closed) (huses : t.uses = s.uses) :
    Continues s t := by
  refine ⟨hstanding, huses ▸ List.prefix_rfl, fun use huse => ?_⟩
  rw [since, huses, List.drop_length] at huse
  cases huse

theorem refl (s : Session) : Continues s s := .of_eq (.inl (.refl _)) rfl

theorem restanding {x : Standing} (h : Continues s t) (hx : s.Akin x ∨ x.phase = .closed) :
    Continues s { t with toStanding := x } := ⟨hx, h.grown, h.uses⟩

/-- Once a session has ended there is nothing that it does as an active one. -/
theorem trans (h : Continues s t) (h' : Continues t u) : Continues s u := by
  refine ⟨?_, h.grown.trans h'.grown, fun use huse hactive => ?_⟩
  · rcases h.kept with hst | hclosed
    · exact h'.kept.imp hst.trans id
    · exact .inr (h'.kept.elim (fun htu => htu.phase_eq.trans hclosed) id)
  · rcases (mem_since_iff h.grown h'.grown).mp huse with huse | huse
    · exact h.uses use huse hactive
    · obtain ⟨hakin, hmade⟩ := h'.uses use huse hactive
      refine ⟨?_, hmade⟩
      rcases h.kept with hst | hclosed
      · exact hst.trans hakin
      · cases (hakin.phase_eq.trans hclosed).symm.trans hactive

/-- A session that is not active has not become so. -/
theorem inactive (h : Continues s t) (hphase : s.phase ≠ .active) :
    ∀ use ∈ s.since t, use.standing.phase ≠ .active := by
  intro use huse hactive
  exact hphase ((h.uses use huse hactive).1.phase_eq.symm.trans hactive)

end Continues

/-- One use of the link for a request, after which the session stands as `x`. -/
theorem Carried.continues {request : Request} {route : Route}
    {outcome : Except Error (Response × UInt32)} {link : Link}
    (h : s.Carried request route outcome link) (failure : Option Error) {x : Standing}
    (hx : s.Recounted x) :
    Continues s { s.used (.request request route) failure link with toStanding := x } := by
  obtain ⟨packet, hpacket, actions, hdid, hframes, -⟩ := h.recorded
  refine ⟨.inl hx.akin, List.prefix_append _ _, fun use huse _ => ?_⟩
  have hone : s.since { s.used (.request request route) failure link with toStanding := x } = _ :=
    since_eq rfl
  rw [hone, List.mem_singleton] at huse
  subst huse
  refine ⟨.refl _, fun frame hframe => ⟨packet, hpacket, ?_⟩⟩
  rw [Use.frames, hdid.drop_eq] at hframe
  obtain ⟨action, haction, hsent⟩ := List.mem_filterMap.mp hframe
  exact hframes action haction frame hsent

theorem exchange_continues (request : Request) (route : Route) (manner : Manner) (s : Session) :
    Ends (exchange request route manner) s fun _ t => Continues s t :=
  ends_exchange (fun _ _ => .refl s) (fun _ => .refl s)
    (fun _ _ _ h => h.continues none (.answered ..)) fun _ _ h => h.continues _ (.refl _)

theorem manage_continues (request : Request) (s : Session) :
    Ends (manage request) s fun _ t => Continues s t :=
  (ends_manage ..).mpr (exchange_continues ..)

theorem abort_continues (s : Session) : Ends abort s fun _ t => Continues s t :=
  ends_abort (fun _ => .of_eq (.inr rfl) rfl) fun _ =>
    (exchange_continues ..).imp fun _ _ ht => ht.restanding (.inr rfl)

theorem dispatch_continues (request : Request) (route : Route) (s : Session) :
    Ends (dispatch request route) s fun _ t => Continues s t :=
  ends_dispatch (fun _ => .refl s) fun _ => (exchange_continues ..).imp fun _ t ht =>
    ⟨fun _ => (abort_continues t).imp fun _ _ hu => ht.trans hu, fun _ => ht⟩

theorem close_continues (s : Session) : Ends close s fun _ t => Continues s t := by
  refine ends_close (fun _ => .refl s) (fun _ => .refl s) fun _ => (ends_closeSession ..).mpr ?_
  exact (manage_continues ..).imp fun _ _ ht => ht.restanding (.inr rfl)

theorem management_continues (m : Management) (s : Session) :
    Ends m.op s fun _ t => Continues s t :=
  ends_management m (fun request _ => manage_continues request s) fun request t ht =>
    (manage_continues request t).imp fun _ _ hu => ht.trans hu

/-- A session that is active or has ended cannot be opened, so each call lets it go on or ends
it. -/
theorem op_continues (call : Call) (hphase : s.phase = .active ∨ s.phase = .closed) :
    Ends call.op s fun _ t => Continues s t := by
  have hother {α : Type} {phase : Phase} {f : Unit → Op α} (hactive : phase ≠ .active)
      (hclosed : phase ≠ .closed) : Ends (expect phase >>= f) s fun _ t => Continues s t := by
    refine (ends_expect_bind_of_ne fun h => ?_).mpr (.refl s)
    rcases hphase with hphase | hphase
    · exact hactive (h.symm.trans hphase)
    · exact hclosed (h.symm.trans hphase)
  cases call with
  | connect | establish => exact hother (by decide) (by decide)
  | ping => exact (ends_map ..).mpr (hother (by decide) (by decide))
  | command request => exact (ends_map ..).mpr ((ends_command ..).mpr (dispatch_continues ..))
  | raw netFn unit target channel number data =>
    exact (ends_map ..).mpr (ends_raw (fun _ => .refl s) (dispatch_continues ..))
  | close => exact close_continues s
  | abort => exact abort_continues s
  | discard =>
    change Continues s s.discard
    by_cases hactive : s.phase = .active
    · rw [discard_of_active hactive]
      exact (abort_continues s).after
    · rw [discard_of_inactive hactive]
      exact .refl s
  | elapse | cancel | enqueue => exact .of_eq (.inl (.refl _)) rfl

theorem Step.continues (h : Step s t) (hphase : s.phase = .active ∨ s.phase = .closed) :
    Continues s t := by
  cases h with
  | called call => exact (op_continues call hphase).after
  | managed m => exact (management_continues m s).after
  | retokened token cancelled => exact .of_eq (.inl ⟨rfl, rfl, rfl, rfl⟩) rfl

/-- Whatever its owner does with an active session, it goes on as it stands or ends. -/
theorem Reaches.continues (h : s.Reaches t) (hphase : s.phase = .active) : Continues s t := by
  induction h with
  | refl => exact .refl s
  | tail _ hstep ih =>
    refine ih.trans (hstep.continues ?_)
    exact ih.kept.imp (fun h => h.phase_eq.trans hphase) id

end Session
end Baseboard
