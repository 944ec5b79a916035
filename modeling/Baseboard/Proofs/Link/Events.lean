import Baseboard.Network

/-! What a wait on the network comes to. It ends with the first event that is pending, or before
that event, which is nearer then. Waiting in two parts comes to the same as waiting once. -/
namespace Baseboard

/-- The events that a frame brings about. -/
def Delivery.events : Delivery → List Event
  | accepted events => events
  | failed _ => []

namespace Network

variable {n : Network} {e : Event} {rest : List Event} {wait : Nat}

/-- The network once the first of its events has happened. -/
def happened (n : Network) (e : Event) (rest : List Event) : Network :=
  let n := { n with pending := rest }.elapse e.delay
  if e.cancels then n.cancel else n

theorem happened_eq (n : Network) (e : Event) (rest : List Event) :
    n.happened e rest = { n with
      pending := rest
      now := n.now + e.delay
      cancelRequested := n.cancelRequested || e.cancels } := by
  unfold happened
  cases e.cancels
  · rw [Bool.or_false]
    rfl
  · rw [Bool.or_true]
    rfl

theorem receive_eq (n : Network) (wait : Nat) :
    n.receive wait =
      ((n.await wait).1, (n.await wait).2.record (.received wait (n.await wait).1)) := rfl

theorem await_of_nil (h : n.pending = []) (wait : Nat) :
    n.await wait = (.error .noArrival, n.elapse wait) := by
  rw [await, h]

theorem await_of_early (h : n.pending = e :: rest) (hearly : wait < e.delay) :
    n.await wait = (.error .noArrival,
      { n with pending := { e with delay := e.delay - wait } :: rest }.elapse wait) := by
  rw [await, h]
  exact if_pos hearly

theorem await_of_due (h : n.pending = e :: rest) (hdue : e.delay ≤ wait) :
    n.await wait = (Arrival.outcome e.arrival, n.happened e rest) := by
  rw [await, h]
  exact if_neg (Nat.not_lt.mpr hdue)

/-- Nothing happens at the receiving end within `wait`. -/
def Calm (n : Network) (wait : Nat) : Prop := ∀ e ∈ n.pending.head?, wait < e.delay

theorem calm_of_nil (h : n.pending = []) (wait : Nat) : n.Calm wait := by
  rw [Calm, h]
  exact fun _ he => nomatch he

theorem calm_of_early (h : n.pending = e :: rest) (hearly : wait < e.delay) : n.Calm wait := by
  rw [Calm, h]
  exact fun found hfound => Option.some.inj hfound ▸ hearly

/-- Either nothing happens for long enough, or the first event happens in time. -/
theorem calm_or_due (n : Network) (wait : Nat) :
    n.Calm wait ∨ ∃ e rest, n.pending = e :: rest ∧ e.delay ≤ wait := by
  cases hpending : n.pending with
  | nil => exact .inl (calm_of_nil hpending wait)
  | cons e rest =>
    rcases Nat.lt_or_ge wait e.delay with hearly | hdue
    · exact .inl (calm_of_early hpending hearly)
    · exact .inr ⟨e, rest, rfl, hdue⟩

theorem await_of_calm (h : n.Calm wait) :
    (n.await wait).1 = .error .noArrival ∧ (n.await wait).2.now = n.now + wait := by
  cases hpending : n.pending with
  | nil =>
    rw [await_of_nil hpending]
    exact ⟨rfl, rfl⟩
  | cons e rest =>
    rw [await_of_early hpending (h e (by rw [hpending]; rfl))]
    exact ⟨rfl, rfl⟩

/-- A wait in which nothing happens may as well be longer, instead of being followed by another. -/
theorem await_await (h : n.Calm wait) (more : Nat) :
    (n.await wait).2.await more = n.await (wait + more) := by
  cases hpending : n.pending with
  | nil =>
    rw [await_of_nil hpending, await_of_nil hpending]
    refine (await_of_nil (n := n.elapse wait) hpending more).trans ?_
    simp only [elapse, Nat.add_assoc]
  | cons e rest =>
    have hearly : wait < e.delay := h e (by rw [hpending]; rfl)
    rw [await_of_early hpending hearly]
    rcases Nat.lt_or_ge (wait + more) e.delay with hlonger | hdue
    · rw [await_of_early hpending hlonger, await_of_early rfl (Nat.lt_sub_iff_add_lt'.mpr hlonger)]
      simp only [elapse, Nat.add_assoc, Nat.sub_sub]
    · rw [await_of_due hpending hdue, await_of_due rfl (Nat.sub_le_iff_le_add'.mpr hdue),
        happened_eq, happened_eq]
      have hnow : n.now + wait + (e.delay - wait) = n.now + e.delay := by omega
      simp only [elapse, hnow]

/-- What is on record makes no difference to a wait. -/
theorem await_record (n : Network) (action : Action) (wait : Nat) :
    (n.record action).await wait = ((n.await wait).1, (n.await wait).2.record action) := by
  cases hpending : n.pending with
  | nil =>
    rw [await_of_nil hpending, await_of_nil (n := n.record action) hpending]
    rfl
  | cons e rest =>
    rcases Nat.lt_or_ge wait e.delay with hearly | hdue
    · rw [await_of_early hpending hearly, await_of_early (n := n.record action) hpending hearly]
      rfl
    · rw [await_of_due hpending hdue, await_of_due (n := n.record action) hpending hdue,
        happened_eq, happened_eq]
      rfl

theorem now_le_await (n : Network) (wait : Nat) : n.now ≤ (n.await wait).2.now := by
  cases hpending : n.pending with
  | nil =>
    rw [await_of_nil hpending]
    exact Nat.le_add_right _ _
  | cons e rest =>
    rcases Nat.lt_or_ge wait e.delay with hearly | hdue
    · rw [await_of_early hpending hearly]
      exact Nat.le_add_right _ _
    · rw [await_of_due hpending hdue, happened_eq]
      exact Nat.le_add_right _ _

end Network
end Baseboard
