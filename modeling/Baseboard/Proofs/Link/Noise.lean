import Baseboard.Proofs.Link.Arrival
import Baseboard.Proofs.Link.InStep
import Mathlib.Data.List.Forall2

/-! Noise on the line. What an exchange passes over, if it takes no time to come in, makes no
difference to how the exchange goes: there are only more receives. -/
namespace Baseboard

/-- The second list is the first one, with elements inserted that satisfy `p`. -/
inductive Inserted {β : Type} (p : β → Prop) : List β → List β → Prop where
  | nil : Inserted p [] []
  | keep {xs ys : List β} (x : β) (h : Inserted p xs ys) : Inserted p (x :: xs) (x :: ys)
  | insert {xs ys : List β} {y : β} (hy : p y) (h : Inserted p xs ys) : Inserted p xs (y :: ys)

namespace Inserted

variable {β γ : Type} {p : β → Prop} {xs ys xs' ys' : List β}

theorem refl (p : β → Prop) (xs : List β) : Inserted p xs xs := by
  induction xs with
  | nil => exact .nil
  | cons x xs ih => exact .keep x ih

theorem append (h : Inserted p xs ys) (h' : Inserted p xs' ys') :
    Inserted p (xs ++ xs') (ys ++ ys') := by
  induction h with
  | nil => exact h'
  | keep x _ ih => exact .keep x ih
  | insert hy _ ih => exact .insert hy ih

/-- A view in which the inserted elements are not seen. -/
theorem filterMap_eq {f : β → Option γ} (hf : ∀ y, p y → f y = none) (h : Inserted p xs ys) :
    ys.filterMap f = xs.filterMap f := by
  induction h with
  | nil => rfl
  | keep x _ ih => rw [List.filterMap_cons, List.filterMap_cons, ih]
  | insert hy _ ih => rw [List.filterMap_cons, hf _ hy, ih]

end Inserted

variable {α : Type} {accept : Link.Acceptor α}

/-- An event that happens at once, does not cancel, and brings what is passed over. -/
structure Noise (accept : Link.Acceptor α) (e : Event) : Prop where
  delay_eq : e.delay = 0
  cancels_eq : e.cancels = false
  ignored : Link.Ignored accept (Network.Arrival.outcome e.arrival)

/-- The same delivery, with noise among the events that it brings about. -/
inductive Delivery.Noisier (accept : Link.Acceptor α) : Delivery → Delivery → Prop where
  | accepted {events noisy : List Event} (h : Inserted (Noise accept) events noisy) :
      Noisier accept (.accepted events) (.accepted noisy)
  | failed (cause : IoFailure) : Noisier accept (.failed cause) (.failed cause)

/-- A receive that brought what is passed over. -/
inductive Action.PassesOver (accept : Link.Acceptor α) : Action → Prop where
  | received {outcome : Except IoFailure Bytes} (wait : Nat) (h : Link.Ignored accept outcome) :
      PassesOver accept (.received wait outcome)

/-- The same network, but for noise: among the events to come there may be more of it, and
there may have been more receives that it was passed over in. -/
structure Network.Noisier (accept : Link.Acceptor α) (n m : Network) : Prop where
  script : List.Forall₂ (Delivery.Noisier accept) n.script m.script
  pending : Inserted (Noise accept) n.pending m.pending
  now_eq : m.now = n.now
  cancelRequested_eq : m.cancelRequested = n.cancelRequested
  bindFailure_eq : m.bindFailure = n.bindFailure
  connectFailure_eq : m.connectFailure = n.connectFailure
  trace : Inserted (Action.PassesOver accept) n.trace m.trace

namespace Network.Noisier

variable {n m : Network} {wait : Nat}

theorem record (h : n.Noisier accept m) (action : Action) :
    (n.record action).Noisier accept (m.record action) :=
  { h with trace := h.trace.append (.keep action .nil) }

theorem rescript {script noisy : List Delivery} (h : n.Noisier accept m)
    (hscript : List.Forall₂ (Delivery.Noisier accept) script noisy) :
    Noisier accept { n with script := script } { m with script := noisy } :=
  { h with script := hscript }

theorem enqueue {events noisy : List Event} (h : n.Noisier accept m)
    (hevents : Inserted (Noise accept) events noisy) :
    (n.enqueue events).Noisier accept (m.enqueue noisy) :=
  { h with pending := h.pending.append hevents }

/-- A receive that only the noise called for. -/
theorem record_right {action : Action} (h : n.Noisier accept m)
    (haction : action.PassesOver accept) : n.Noisier accept (m.record action) := by
  refine { h with trace := ?_ }
  have htrace := h.trace.append (.insert haction .nil)
  rwa [List.append_nil] at htrace

/-- A wait ends with noise at once, or as it does without noise. -/
theorem await (h : n.Noisier accept m) (wait : Nat) :
    (Link.Ignored accept (m.await wait).1 ∧ n.Noisier accept (m.await wait).2) ∨
      ((m.await wait).1 = (n.await wait).1 ∧
        (n.await wait).2.Noisier accept (m.await wait).2) := by
  obtain ⟨hscript, hpending, hnow, hrequested, hbind, hconnect, htrace⟩ := h
  generalize hn : n.pending = events at hpending
  generalize hm : m.pending = noisy at hpending
  cases hpending with
  | nil =>
    rw [await_of_nil hn, await_of_nil hm]
    refine .inr ⟨rfl, hscript, ?_, congrArg (· + wait) hnow, hrequested, hbind, hconnect, htrace⟩
    rw [elapse, elapse, hn, hm]
    exact .nil
  | @keep events noisy e hrest =>
    rcases Nat.lt_or_ge wait e.delay with hearly | hdue
    · rw [await_of_early hn hearly, await_of_early hm hearly]
      exact .inr ⟨rfl, hscript, .keep _ hrest, congrArg (· + wait) hnow, hrequested, hbind,
        hconnect, htrace⟩
    · rw [await_of_due hn hdue, await_of_due hm hdue, happened_eq, happened_eq]
      exact .inr ⟨rfl, hscript, hrest, congrArg (· + e.delay) hnow,
        congrArg (· || e.cancels) hrequested, hbind, hconnect, htrace⟩
  | @insert _ noisy e hnoise hrest =>
    obtain ⟨hdelay, hcancels, hignored⟩ := hnoise
    rw [await_of_due hm (hdelay ▸ Nat.zero_le wait), happened_eq, hdelay, hcancels, Bool.or_false]
    exact .inl ⟨hignored, hscript, hn ▸ hrest, hnow, hrequested, hbind, hconnect, htrace⟩

/-- What becomes of a frame does not depend on noise. -/
theorem send (h : n.Noisier accept m) (frame : Bytes) :
    (m.send frame).1 = (n.send frame).1 ∧
      (n.send frame).2.Noisier accept (m.send frame).2 := by
  have hscript := h.script
  unfold Network.send
  generalize hn : n.script = script at hscript
  generalize hm : m.script = noisy at hscript
  cases hscript with
  | nil => exact ⟨rfl, h.record _⟩
  | cons hdelivery hrest =>
    cases hdelivery with
    | accepted hevents => exact ⟨rfl, ((h.rescript hrest).enqueue hevents).record _⟩
    | failed cause => exact ⟨rfl, (h.rescript hrest).record _⟩

end Network.Noisier

namespace Link

variable {pace : Pace} {cancel : Option CancelToken} {frame : Bytes}
  {deadline timeout wait : Nat} {l m : Link}

/-- The same link, but for noise, which it may have passed over more of. -/
structure Noisier (accept : Acceptor α) (l m : Link) : Prop where
  carrier_eq : m.carrier = l.carrier
  sends_eq : m.stats.sends = l.stats.sends
  timeouts_eq : m.stats.timeouts = l.stats.timeouts
  retries_le : l.stats.receiveRetries ≤ m.stats.receiveRetries
  network : l.network.Noisier accept m.network

namespace Noisier

theorem isCancelled_eq (h : l.Noisier accept m) (cancel : Option CancelToken) :
    m.isCancelled cancel = l.isCancelled cancel := by
  cases cancel with
  | none => rfl
  | some token =>
    rw [isCancelled, isCancelled, Network.isCancelled, Network.isCancelled, h.network.now_eq,
      h.network.cancelRequested_eq]

theorem countRetry (h : l.Noisier accept m) : l.countRetry.Noisier accept m.countRetry :=
  { h with retries_le := Nat.succ_le_succ h.retries_le }

theorem countRetry_right (h : l.Noisier accept m) : l.Noisier accept m.countRetry :=
  { h with retries_le := Nat.le_succ_of_le h.retries_le }

theorem send (h : l.Noisier accept m) (frame : Bytes) :
    (m.countSend.send frame).1 = (l.countSend.send frame).1 ∧
      (l.countSend.send frame).2.Noisier accept (m.countSend.send frame).2 := by
  obtain ⟨houtcome, hnetwork⟩ := h.network.send frame
  unfold Link.send
  refine ⟨?_, { h with sends_eq := congrArg (· + 1) h.sends_eq, network := hnetwork }⟩
  change (m.network.send frame).1.mapError m.carrier.report = _
  rw [houtcome, h.carrier_eq]
  rfl

theorem receive (h : l.Noisier accept m) (wait : Nat) :
    (Ignored accept (m.receive wait).1 ∧ l.Noisier accept (m.receive wait).2) ∨
      ((m.receive wait).1 = (l.receive wait).1 ∧
        (l.receive wait).2.Noisier accept (m.receive wait).2) := by
  rw [receive_eq, receive_eq, receiveWithin, receiveWithin, Network.receive_eq, Network.receive_eq,
    h.carrier_eq]
  obtain ⟨hignored, hnetwork⟩ | ⟨houtcome, hnetwork⟩ := h.network.await (l.carrier.wait wait)
  · exact .inl ⟨ignored_report_iff.mpr hignored, { h with
      carrier_eq := rfl, network := hnetwork.record_right (.received _ hignored) }⟩
  · rw [houtcome]
    exact .inr ⟨rfl, { h with carrier_eq := rfl, network := hnetwork.record _ }⟩

/-- Noise keeps a wait going, and otherwise it goes as it does without noise. -/
theorem awaitAnswer (h : l.Noisier accept m) :
    EndAlike (Link.awaitAnswer pace accept cancel deadline) l
      (Link.awaitAnswer pace accept cancel deadline) m fun _ => Noisier accept := by
  -- By induction on the noisier wait, which takes all the steps of the other one.
  induction m using wait_induction pace deadline generalizing l with
  | step m ih =>
  have hsame := h.isCancelled_eq cancel
  have hnow := h.network.now_eq
  cases hc : l.isCancelled cancel with
  | true =>
    exact .both_error (awaitAnswer_of_cancelled hc) (awaitAnswer_of_cancelled (hsame.trans hc)) h
  | false =>
  rw [hc] at hsame
  rcases Nat.lt_or_ge m.network.now deadline with htime | htime
  · have hwait : nextWait pace deadline m = nextWait pace deadline l := by
      rw [nextWait, nextWait, hnow]
    have hstep : Link.awaitAnswer pace accept cancel deadline m =
        settle accept (Link.awaitAnswer pace accept cancel deadline)
          (m.receive (nextWait pace deadline m)).1 (m.receive (nextWait pace deadline m)).2 :=
      awaitAnswer_of_receive hsame htime rfl
    obtain ⟨hnext, hretry⟩ := ih htime
    obtain ⟨hignored, hl⟩ | ⟨houtcome, hl⟩ := h.receive (nextWait pace deadline m)
    · rcases settle_of_ignored hignored with hagain | hagain
      · exact .congr rfl (hstep.trans (hagain _ _)) (hnext hl)
      · exact .congr rfl (hstep.trans (hagain _ _)) (hretry hl.countRetry_right)
    · rw [houtcome] at hstep
      refine .congr (awaitAnswer_of_receive hc (hnow ▸ htime) (by rw [← hwait])) hstep ?_
      exact settle_alike (fun _ => hnext hl) (fun _ => hretry hl.countRetry) fun _ => hl
  · refine .both_ok (awaitAnswer_of_late hc (hnow ▸ htime)) (awaitAnswer_of_late hsame htime) ?_
    exact { h with timeouts_eq := congrArg (· + 1) h.timeouts_eq }

theorem inStep (pace : Pace) (accept : Acceptor α) (cancel : Option CancelToken) (frame : Bytes)
    (timeout : Nat) :
    InStep pace pace accept cancel frame frame timeout (fun _ => True) (Noisier accept) where
  isCancelled_eq h := h.isCancelled_eq cancel
  send h := h.send frame
  live_of_ranOut _ := trivial
  wait h _ := by
    rw [h.network.now_eq]
    exact h.awaitAnswer

/-- The same frames were sent, with noise or without. -/
theorem sentFrames_eq (h : l.Noisier accept m) : m.network.sentFrames = l.network.sentFrames := by
  refine h.network.trace.filterMap_eq fun action haction => ?_
  cases haction
  rfl

end Noisier

/-- Noise makes no difference to an exchange, wherever it is among the events to come: the exchange
ends in the same way and at the same time, with the same frames sent and the same tries run out.
What tells the difference is how many receives there were in which noise was passed over, and the
noise that is still to come. -/
theorem exchange_noisier (accept : Acceptor α) (cancel : Option CancelToken) (frame : Bytes)
    (timeout tries : Nat) (l : Link) {script : List Delivery} {pending : List Event}
    (hscript : List.Forall₂ (Delivery.Noisier accept) l.network.script script)
    (hpending : Inserted (Noise accept) l.network.pending pending) :
    EndAlike (exchange accept cancel frame timeout tries) l
      (exchange accept cancel frame timeout tries)
      { l with network.script := script, network.pending := pending } fun _ t t' =>
        t'.network.sentFrames = t.network.sentFrames ∧ t'.stats.sends = t.stats.sends ∧
        t'.stats.timeouts = t.stats.timeouts ∧ t'.network.now = t.network.now ∧
        t.Noisier accept t' := by
  have hl : l.Noisier accept
      { l with network.script := script, network.pending := pending } :=
    ⟨rfl, rfl, rfl, Nat.le_refl _, hscript, hpending, rfl, rfl, rfl, rfl, .refl _ _⟩
  have h := Noisier.inStep pollSlice accept cancel frame timeout
  refine (h.exchangePaced tries hl trivial).imp fun _ t t' ht => ?_
  exact ⟨ht.sentFrames_eq, ht.sends_eq, ht.timeouts_eq, ht.network.now_eq, ht⟩

/-- A link where a datagram comes in when the first try is over, and the answer during the second
try. -/
def quiet : Link :=
  .ofNetwork .socket { script := [.accepted [.ofDatagram (250 * millisecond) [1]],
    .accepted [.ofDatagram (20 * millisecond) [7]]] }

/-- The first datagram comes in after a refusal and is followed by another datagram, so that this
one has to wait for the second try. -/
def disturbed : List Delivery :=
  [.accepted [⟨0, false, .failure ⟨.connectionRefused, "refused"⟩⟩,
      .ofDatagram (250 * millisecond) [1], .ofDatagram 0 [2]],
    .accepted [⟨0, false, .nothing⟩, .ofDatagram (20 * millisecond) [7], .ofDatagram 0 [3]]]

theorem exchange_noisier_disturbed :
    let accept : Acceptor Bytes := fun datagram =>
      .ok (if datagram = [7] then some datagram else none)
    ∃ t t', exchange accept none [0] (250 * millisecond) 2 quiet = .ok [7] t ∧
      exchange accept none [0] (250 * millisecond) 2
        { quiet with network.script := disturbed } = .ok [7] t' ∧
      t.stats = ⟨2, 0, 1⟩ ∧ t'.stats = ⟨2, 1, 1⟩ ∧ t'.network.now = t.network.now ∧
      t'.network.sentFrames = t.network.sentFrames ∧ t.network.pending = [] ∧
      t'.network.pending = [.ofDatagram 0 [3]] := by
  intro accept
  have hquiet : gives (exchange accept none [0] (250 * millisecond) 2) quiet (fun answer t =>
      answer = [7] ∧ t.stats = ⟨2, 0, 1⟩ ∧ t.network.pending = []) = true := by decide +kernel
  have hdisturbed : gives (exchange accept none [0] (250 * millisecond) 2)
      { quiet with network.script := disturbed } (fun _ t' =>
        t'.stats = ⟨2, 1, 1⟩ ∧ t'.network.pending = [.ofDatagram 0 [3]]) = true := by decide +kernel
  have hstray (d : Bytes) (hd : accept (d.take Network.bufferLength) = .ok none) :
      Noise accept (.ofDatagram 0 d) := ⟨rfl, rfl, .datagram hd⟩
  have hscript : List.Forall₂ (Delivery.Noisier accept) quiet.network.script disturbed := by
    refine .cons (.accepted ?_) (.cons (.accepted ?_) .nil)
    · exact .insert ⟨rfl, rfl, .spurious rfl⟩ (.keep _ (.insert (hstray _ rfl) .nil))
    · exact .insert ⟨rfl, rfl, .timeout rfl⟩ (.keep _ (.insert (hstray _ rfl) .nil))
  have h := exchange_noisier accept none [0] (250 * millisecond) 2 quiet hscript .nil
  obtain ⟨answer, t, hop, htest⟩ := exists_of_gives hquiet
  obtain ⟨rfl, hstats, hpending⟩ := of_decide_eq_true htest
  obtain ⟨answer', t', hop', htest'⟩ := exists_of_gives hdisturbed
  obtain ⟨hstats', hpending'⟩ := of_decide_eq_true htest'
  obtain ⟨hsame, hframes, -, -, hnow, -⟩ := (h.of_ok hop).of_ok hop'
  obtain rfl := Except.ok.inj hsame
  exact ⟨t, t', hop, hop', hstats, hstats', hnow, hframes, hpending, hpending'⟩

end Link
end Baseboard
