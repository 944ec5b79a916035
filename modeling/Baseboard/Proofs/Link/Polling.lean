import Mathlib.Algebra.Order.Floor.Div
import Baseboard.Proofs.Link.Events
import Baseboard.Proofs.Link.Promptness

/-! How often an exchange receives. No receive is in vain: it takes an event off the queue, or it
uses up a slice of the time that is left of its try. So there are at most as many of them as events
that are taken, and slices in the tries whose frames were sent. -/
namespace Baseboard

def Action.isReceived : Action → Bool
  | sent _ => false
  | sendFailed _ _ => false
  | received _ _ => true

/-- How many receives there are. -/
def receives (actions : List Action) : Nat := actions.countP Action.isReceived

@[simp] theorem receives_append (first later : List Action) :
    receives (first ++ later) = receives first + receives later := List.countP_append

@[simp] theorem receives_received (wait : Nat) (outcome : Except IoFailure Bytes)
    (later : List Action) : receives (.received wait outcome :: later) = receives later + 1 :=
  List.countP_cons_of_pos rfl

theorem receives_ofSend (frame : Bytes) (result : Except IoFailure Unit) :
    receives [.ofSend frame result] = 0 := by
  cases result <;> rfl

namespace Network

variable {n : Network} {wait : Nat} {outcome : Except IoFailure Bytes}

/-- Whether an action takes the first event off the queue: a receive that waits until it happens. -/
def takes (n : Network) : Action → Bool
  | .sent _ => false
  | .sendFailed _ _ => false
  | .received wait _ => n.pending.head?.any fun e => e.delay ≤ wait

/-- How many events are taken off the queue by `actions`, which are done one after the other. -/
def taken : Network → List Action → Nat
  | _, [] => 0
  | n, action :: later => (n.takes action).toNat + (n.act action).taken later

theorem taken_append (n : Network) (first later : List Action) :
    n.taken (first ++ later) = n.taken first + (n.replay first).taken later := by
  induction first generalizing n with
  | nil => exact (Nat.zero_add _).symm
  | cons action first ih =>
    rw [List.cons_append, taken, taken, ih, Nat.add_assoc]
    rfl

theorem takes_of_calm (h : n.Calm wait) : n.takes (.received wait outcome) = false := by
  rw [takes, Option.any_eq_false]
  exact fun e he => decide_eq_false (Nat.not_le_of_lt (h e he))

theorem takes_of_due {e : Event} {rest : List Event} (h : n.pending = e :: rest)
    (hdue : e.delay ≤ wait) : n.takes (.received wait outcome) = true := by
  rw [takes, h]
  exact decide_eq_true hdue

/-- How many events are still to happen: those in the queue, and those that the frames to come
bring about. -/
def stock (n : Network) : Nat :=
  n.pending.length + (n.script.map fun delivery => delivery.events.length).sum

/-- What a frame brings about was in stock before. -/
theorem stock_send (n : Network) (frame : Bytes) : (n.send frame).2.stock = n.stock := by
  unfold send
  split
  · rfl
  · rename_i events rest hscript
    simp [stock, record, enqueue, hscript, Delivery.events, Nat.add_assoc]
  · rename_i cause rest hscript
    simp [stock, record, hscript, Delivery.events]

/-- A receive uses up the event that it takes off the queue, and no other. -/
theorem stock_receive (n : Network) (wait : Nat) (outcome : Except IoFailure Bytes) :
    (n.takes (.received wait outcome)).toNat + (n.receive wait).2.stock = n.stock := by
  change _ + (n.await wait).2.stock = n.stock
  rcases n.calm_or_due wait with hcalm | ⟨e, rest, hpending, hdue⟩
  · rw [takes_of_calm hcalm]
    cases hpending : n.pending with
    | nil =>
      rw [await_of_nil hpending]
      exact Nat.zero_add _
    | cons e rest =>
      rw [await_of_early hpending (hcalm e (by rw [hpending]; rfl))]
      simp [stock, elapse, hpending]
  · rw [takes_of_due hpending hdue, await_of_due hpending hdue, happened_eq]
    simp only [stock, hpending, List.length_cons, Bool.toNat_true]
    omega

/-- The events that are taken off the queue are those that are in stock no more. -/
theorem taken_add_stock (n : Network) (actions : List Action) :
    n.taken actions + (n.replay actions).stock = n.stock := by
  induction actions generalizing n with
  | nil => exact Nat.zero_add _
  | cons action later ih =>
    have hstep : (n.takes action).toNat + (n.act action).stock = n.stock := by
      cases action with
      | sent frame => exact (Nat.zero_add _).trans (n.stock_send frame)
      | sendFailed frame cause => exact (Nat.zero_add _).trans (n.stock_send frame)
      | received wait outcome => exact n.stock_receive wait outcome
    calc
      n.taken (action :: later) + (n.replay (action :: later)).stock
          = (n.takes action).toNat +
              ((n.act action).taken later + ((n.act action).replay later).stock) :=
        Nat.add_assoc ..
      _ = n.stock := by rw [ih, hstep]

end Network

namespace Link

variable {accept : Acceptor α} {cancel : Option CancelToken} {frame : Bytes} {slice : Slice}
  {deadline timeout wait slices more : Nat} {l m next t : Link} {found : Except IoFailure Bytes}
  {actions first later : List Action}

/-- How many slices it takes to wait for some time. -/
def Slice.count (slice : Slice) (time : Nat) : Nat := time ⌈/⌉ slice.length

namespace Slice

theorem count_le_iff {time k : Nat} : slice.count time ≤ k ↔ time ≤ slice.length * k :=
  ceilDiv_le_iff_le_mul slice.pos

theorem count_mono {shorter time : Nat} (h : shorter ≤ time) :
    slice.count shorter ≤ slice.count time :=
  count_le_iff.mpr (Nat.le_trans h (count_le_iff.mp (Nat.le_refl _)))

theorem count_pollSlice (time : Nat) :
    pollSlice.count time = (time + 100 * millisecond - 1) / (100 * millisecond) :=
  Nat.ceilDiv_eq_add_pred_div ..

/-- A slice of some time, or more, leaves less to wait by a slice. -/
theorem count_sub_lt {time : Nat} (hpos : 0 < time) (hwait : min time slice.length ≤ wait) :
    slice.count (time - wait) < slice.count time := by
  -- If as many slices were enough for the whole, one less would be enough for what is left.
  rw [← Nat.not_le, count_le_iff]
  intro hcovered
  generalize hk : slice.count (time - wait) = k at hcovered
  cases k with
  | zero => omega
  | succ k =>
    rw [Nat.mul_succ] at hcovered
    have hless : slice.count (time - wait) ≤ k := count_le_iff.mpr (by omega)
    omega

end Slice

/-- A receive takes an event off the queue, or uses up a slice of the time that is left. -/
theorem Polls.progress (h : Polls slice cancel deadline l wait found next) :
    1 + slice.count (deadline - next.network.now) ≤
      (l.network.takes (.received wait found)).toNat +
        slice.count (deadline - l.network.now) := by
  have hnow : next.network.now = (l.network.await wait).2.now := by
    rw [h.next_eq]
    rfl
  rw [hnow]
  rcases l.network.calm_or_due wait with hcalm | ⟨e, rest, hpending, hdue⟩
  · have hleft : 0 < deadline - l.network.now := Nat.sub_pos_of_lt h.in_time
    have hwait : min (deadline - l.network.now) slice.length ≤ wait :=
      h.wait_eq ▸ l.carrier.le_wait _
    rw [Network.takes_of_calm hcalm, (Network.await_of_calm hcalm).2, ← Nat.sub_sub,
      Bool.toNat_false, Nat.zero_add, Nat.add_comm]
    exact Slice.count_sub_lt hleft hwait
  · rw [Network.takes_of_due hpending hdue, Bool.toNat_true]
    have hlater := l.network.now_le_await wait
    exact Nat.add_le_add_left (Slice.count_mono (Nat.sub_le_sub_left hlater _)) 1

/-- `actions` lead from `l` to `t`, and there are at most as many receives among them as events
that they take off the queue, and `slices` more. -/
structure Frugal (slices : Nat) (l : Link) (actions : List Action) (t : Link) : Prop where
  did : Did l actions t
  replay_eq : l.network.replay actions = t.network
  receives_le : receives actions ≤ l.network.taken actions + slices

namespace Frugal

theorem refl (slices : Nat) (l : Link) : Frugal slices l [] l := ⟨.refl l, rfl, Nat.zero_le _⟩

theorem trans (h : Frugal slices l first m) (h' : Frugal more m later t) :
    Frugal (slices + more) l (first ++ later) t := by
  refine ⟨h.did.trans h'.did, ?_, ?_⟩
  · rw [Network.replay_append, h.replay_eq, h'.replay_eq]
  · have hfirst := h.receives_le
    have hlater := h'.receives_le
    rw [receives_append, Network.taken_append, h.replay_eq]
    omega

/-- A send is no receive. -/
theorem of_transmits {result : Except IoFailure Unit} (h : Transmits cancel frame l result next) :
    Frugal 0 l [.ofSend frame result] next := by
  refine ⟨h.did, ?_, ?_⟩
  · rw [h.next_eq]
    cases result <;> rfl
  · rw [receives_ofSend]
    exact Nat.zero_le _

/-- A receive before the rest of the try. -/
theorem after_receive {again : Link} (hpolls : Polls slice cancel deadline l wait found next)
    (hagain : again = next ∨ again = next.countRetry)
    (h : Frugal (slice.count (deadline - again.network.now)) again actions t) :
    Frugal (slice.count (deadline - l.network.now)) l (.received wait found :: actions) t := by
  -- A failure that is counted changes nothing else.
  have hnetwork : again.network = next.network := by rcases hagain with rfl | rfl <;> rfl
  have hdid : Did l [.received wait found] again := by
    unfold Did
    rw [hnetwork]
    exact hpolls.did
  have hact : l.network.act (.received wait found) = again.network := by
    rw [hnetwork, hpolls.next_eq]
    rfl
  have hrest := h.receives_le
  have hprogress := hpolls.progress
  rw [← hnetwork] at hprogress
  refine ⟨hdid.trans h.did, ?_, ?_⟩
  · exact (congrArg (Network.replay · actions) hact).trans h.replay_eq
  · rw [receives_received, Network.taken, hact]
    omega

/-- A try whose frame is sent, before the tries after it. -/
theorem after_try {waited : List Action} (hsent : Transmits cancel frame l (.ok ()) next)
    (hwaited : Frugal (slice.count timeout) next waited m)
    (hwaits : ∀ action ∈ waited, action.frame? = none)
    (h : Frugal (delivered later * slice.count timeout) m later t) :
    Frugal (delivered (.sent frame :: (waited ++ later)) * slice.count timeout) l
      (.sent frame :: (waited ++ later)) t := by
  have hslices : delivered (.sent frame :: (waited ++ later)) * slice.count timeout =
      0 + (slice.count timeout + delivered later * slice.count timeout) := by
    rw [delivered_sent, delivered_append_of_waits hwaits, Nat.succ_mul, Nat.zero_add, Nat.add_comm]
  rw [hslices]
  exact (of_transmits hsent).trans (hwaited.trans h)

end Frugal

/-- A wait receives at most once for each slice of the time that is left, events apart. -/
theorem awaitAnswer_frugal (slice : Slice) (accept : Acceptor α) (cancel : Option CancelToken)
    (deadline : Nat) (l : Link) :
    Ends (awaitAnswer slice accept cancel deadline) l fun _ t =>
      ∃ actions, Frugal (slice.count (deadline - l.network.now)) l actions t := by
  refine ends_awaitAnswer
    (fun l _ t => ∃ actions, Frugal (slice.count (deadline - l.network.now)) l actions t)
    ?_ ?_ ?_ ?_ l
  · exact fun l _ => ⟨[], .refl _ l⟩
  · exact fun l _ _ => ⟨[], .refl l, rfl, Nat.zero_le _⟩
  · exact fun l wait found next r hpolls _ => ⟨_, .after_receive hpolls (.inl rfl) (.refl _ next)⟩
  · intro l wait found next again r t hpolls _ hagain ⟨actions, h⟩
    exact ⟨_, h.after_receive hpolls hagain⟩

/-- The tries that are left receive at most once for each slice of each try whose frame was sent,
events apart. -/
theorem attempts_frugal (slice : Slice) (accept : Acceptor α) (cancel : Option CancelToken)
    (frame : Bytes) (timeout maxTries left : Nat) (failure : Option IoFailure) (sent : Bool)
    (l : Link) :
    Ends (attempts slice accept cancel frame timeout maxTries left failure sent) l fun _ t =>
      ∃ actions, Frugal (delivered actions * slice.count timeout) l actions t := by
  induction left generalizing failure sent l with
  | zero => exact .error attempts_zero ⟨[], .refl _ l⟩
  | succ left ih =>
    refine ends_attempts_succ (fun _ => ⟨[], .refl _ l⟩) (fun cause next hsent => ?_)
      fun next hsent => ?_
    · refine (ih _ sent next).imp fun _ t ⟨actions, h⟩ => ⟨.sendFailed frame cause :: actions, ?_⟩
      have hall := (Frugal.of_transmits hsent).trans h
      rwa [Nat.zero_add] at hall
    · -- The frame is sent, and its try has the whole of its time before it.
      refine ((awaitAnswer_frugal slice accept cancel (next.network.now + timeout) next).and
        (awaitAnswer_recorded ..)).imp ?_
      rintro r t ⟨⟨waited, hwaited⟩, recorded, hrecorded, hwaits, -⟩
      obtain rfl : recorded = waited := hrecorded.unique hwaited.did
      rw [Nat.add_sub_cancel_left] at hwaited
      rcases r with e | _ | answer
      · exact ⟨_, .after_try hsent hwaited hwaits (.refl _ t)⟩
      · exact (ih failure true t).imp fun _ _ ⟨_, h⟩ => ⟨_, .after_try hsent hwaited hwaits h⟩
      · exact ⟨_, .after_try hsent hwaited hwaits (.refl _ t)⟩

/-- However an exchange ends, it makes at most one receive for each event that it takes off the
queue, and one for each tenth of a second, or part of one, of each try whose frame was sent. The
events that it takes are those that are not to happen any more when it ends, and frames are sent a
limited number of times, so a bound on the receives is known before the exchange begins. -/
theorem exchange_receives_le (accept : Acceptor α) (cancel : Option CancelToken) (frame : Bytes)
    (timeout tries : Nat) (l : Link) :
    Ends (exchange accept cancel frame timeout tries) l fun _ t => ∃ actions, Did l actions t ∧
      l.network.replay actions = t.network ∧
      receives actions ≤ l.network.taken actions +
        delivered actions * ((timeout + 100 * millisecond - 1) / (100 * millisecond)) ∧
      l.network.taken actions + t.network.stock = l.network.stock ∧
      delivered actions ≤ max 1 tries ∧
      receives actions ≤ l.network.stock +
        max 1 tries * ((timeout + 100 * millisecond - 1) / (100 * millisecond)) := by
  refine ((attempts_frugal pollSlice accept cancel frame timeout (max tries 1) (max tries 1) none
    false l).and (exchange_tried accept cancel frame timeout tries l)).imp ?_
  rintro r t ⟨⟨actions, h⟩, tried, htried⟩
  obtain rfl : tried = actions := htried.did.unique h.did
  have hreceives := h.receives_le
  rw [Slice.count_pollSlice] at hreceives
  have hstock : l.network.taken tried + t.network.stock = l.network.stock := by
    rw [← h.replay_eq]
    exact l.network.taken_add_stock tried
  have hdelivered : delivered tried ≤ max 1 tries := by
    have hattempts := htried.attempts_le
    rw [length_frames] at hattempts
    omega
  have hbound : l.network.taken tried +
        delivered tried * ((timeout + 100 * millisecond - 1) / (100 * millisecond)) ≤
      l.network.stock + max 1 tries * ((timeout + 100 * millisecond - 1) / (100 * millisecond)) :=
    Nat.add_le_add (hstock ▸ Nat.le_add_right _ _) (Nat.mul_le_mul_right _ hdelivered)
  exact ⟨tried, h.did, h.replay_eq, hreceives, hstock, hdelivered, Nat.le_trans hreceives hbound⟩

/-- Two tries of a quarter of a second take three slices each, and a failure that is passed over
takes one more receive. -/
example :
    let ignored : EStateM Error Link Bytes :=
      exchange (fun _ => .ok none) none [0] (250 * millisecond) 2
    let refusing : Link := .ofNetwork .plain
      { script := [.accepted [⟨0, false, .failure ⟨.connectionRefused, "refused"⟩⟩]] }
    receives (after ignored refusing).network.trace = 7 ∧
      refusing.network.stock +
        2 * ((250 * millisecond + 100 * millisecond - 1) / (100 * millisecond)) = 7 := by
  decide +kernel

end Link
end Baseboard
