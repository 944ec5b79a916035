import Baseboard.Proofs.Session.Answer
import Baseboard.Proofs.Session.Operations
import Baseboard.Proofs.Session.Run

/-! Commands of an active session. One that is answered moves the counters, one that fails
leaves the session standing as it did, and one that is cancelled ends it. -/
namespace Baseboard.Session

variable {s t : Session} {r : Request} {route : Route}

/-- How a command is exchanged. -/
def commandManner (s : Session) (r : Request) (route : Route) : Manner :=
  ⟨s.config.maxTries, true, route.counts r⟩

/-- Once the phase is right, a command is its exchange and what is made of the outcome. -/
private theorem dispatch_bind (hactive : s.phase = .active) :
    dispatch r route s =
      EStateM.bind (attempt (exchange r route (s.commandManner r route))) (fun outcome =>
        match outcome with
        | .ok response => pure response
        | .error .cancelled => do
          abort
          throw .cancelled
        | .error e => throw e : _ → Op Response) s := by
  have hexpect : expect .active s = .ok () s := by rw [expect, if_pos hactive]
  unfold dispatch
  change EStateM.bind (expect .active) _ s = _
  rw [EStateM.bind, hexpect]
  rfl

/-- A command ends as its exchange does, but a cancelled one ends the session too. -/
theorem dispatch_eq (hactive : s.phase = .active) :
    dispatch r route s = match exchange r route (s.commandManner r route) s with
      | .ok res t => .ok res t
      | .error e t => .error e (if e = .cancelled then after abort t else t) := by
  rw [dispatch_bind hactive, EStateM.bind, attempt]
  cases exchange r route (s.commandManner r route) s with
  | ok res t => rfl
  | error e t =>
    dsimp only
    by_cases he : e = .cancelled
    · subst he
      rw [if_pos rfl]
      change EStateM.bind abort (fun _ => throw .cancelled) t = _
      have hclosed := abort_closes t
      unfold Ends at hclosed
      rw [EStateM.bind, after]
      cases habort : abort t with
      | ok u v => rfl
      | error e u =>
        rw [habort] at hclosed
        cases hclosed.1
    · rw [if_neg he]
      cases e <;> first | rfl | exact absurd rfl he

theorem dispatch_eq_ok_iff (hactive : s.phase = .active) (res : Response) :
    dispatch r route s = .ok res t ↔ exchange r route (s.commandManner r route) s = .ok res t := by
  rw [dispatch_eq hactive]
  cases exchange r route (s.commandManner r route) s with
  | ok res t => exact Iff.rfl
  | error e t =>
    constructor <;>
    · intro h
      cases h

/-- How a session stands after an exchange. Only an answer makes a difference. -/
theorem exchange_standing (r : Request) (route : Route) (manner : Manner) (s : Session) :
    Ends (exchange r route manner) s fun outcome t =>
      match outcome with
      | .ok _ => ∃ n, t.toStanding = s.answered n manner.advances
      | .error _ => t.toStanding = s.toStanding :=
  ends_exchange (fun _ _ => rfl) (fun _ => rfl) (fun _ n _ _ => ⟨n, rfl⟩) fun _ _ _ => rfl

/-- How a session stands after a command, if it is still active. Only an answer makes a
difference. -/
theorem dispatch_standing (hactive : s.phase = .active)
    (hstill : (after (dispatch r route) s).phase = .active) :
    (∃ res t n, dispatch r route s = .ok res t ∧
      (after (dispatch r route) s).toStanding = s.answered n (route.counts r)) ∨
    (∃ e t, dispatch r route s = .error e t ∧
      (after (dispatch r route) s).toStanding = s.toStanding) := by
  have hends := exchange_standing r route (s.commandManner r route) s
  unfold Ends at hends
  rw [after, dispatch_eq hactive] at hstill
  rw [after, dispatch_eq hactive]
  cases hx : exchange r route (s.commandManner r route) s with
  | ok res t =>
    rw [hx] at hends
    obtain ⟨n, hn⟩ := hends
    exact .inl ⟨res, t, n, rfl, hn⟩
  | error e t =>
    rw [hx] at hends hstill
    refine .inr ⟨e, _, rfl, ?_⟩
    dsimp only at hstill ⊢
    by_cases he : e = .cancelled
    · rw [if_pos he] at hstill
      have hclosed := (abort_closes t).imp fun _ _ h => h.2
      cases hstill.symm.trans hclosed.after
    · rw [if_neg he]
      exact hends

end Baseboard.Session
