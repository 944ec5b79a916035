import Baseboard.Proofs.Link.Events
import Baseboard.Proofs.Link.Record
import Baseboard.Proofs.Link.Waiting
import Mathlib.Algebra.GroupWithZero.Nat

/-! Datagrams that come in while a link waits. Each is received when it comes, however many
slices the wait for it takes, and a wait goes on over those that are no answer. A frame that is
answered in time is sent once. -/
namespace Baseboard

/-- A datagram that comes in after some time. -/
def Event.ofDatagram (delay : Nat) (datagram : Bytes) : Event := ⟨delay, false, .datagram datagram⟩

/-- What comes in at a link: datagrams that are passed over, then the answer. Each comes some
time after the one before. -/
structure Incoming where
  passed : List (Nat × Bytes)
  delay : Nat
  answer : Bytes
  later : List Event

namespace Incoming

def events (i : Incoming) : List Event :=
  i.passed.map (fun x => .ofDatagram x.1 x.2) ++ .ofDatagram i.delay i.answer :: i.later

/-- How long it takes until the answer is there. -/
def time (i : Incoming) : Nat := (i.passed.map Prod.fst).sum + i.delay

end Incoming

namespace Link

variable {α : Type} {pace : Pace} {accept : Acceptor α} {cancel : Option CancelToken}
  {l m t : Link} {delay wait deadline : Nat} {datagram : Bytes} {events : List Event}

/-- The link after some time has passed. -/
def elapse (l : Link) (time : Nat) : Link := { l with network := l.network.elapse time }

/-- What has not been cancelled by some time was not cancelled before. -/
theorem isCancelled_eq_false_of_le (h : m.isCancelled cancel = false)
    (hnow : l.network.now ≤ m.network.now)
    (hrequested : l.network.cancelRequested = m.network.cancelRequested) :
    l.isCancelled cancel = false := by
  cases cancel with
  | none => rfl
  | some token =>
    obtain ⟨deadline⟩ := token
    unfold isCancelled Network.isCancelled at h ⊢
    rw [Bool.or_eq_false_iff] at h ⊢
    refine ⟨hrequested.trans h.1, ?_⟩
    cases deadline with
    | none => rfl
    | some deadline =>
      simp only [decide_eq_false_iff_not] at h ⊢
      omega

/-- `found` is what comes of the next thing that happens at a link, after `delay`, and `t` is the
link by then. -/
structure Receives (l : Link) (delay : Nat) (found : Except IoFailure Bytes) (events : List Event)
    (t : Link) : Prop where
  stats_eq : t.stats = l.stats
  pending_eq : t.network.pending = events
  now_eq : t.network.now = l.network.now + delay
  requested_eq : t.network.cancelRequested = l.network.cancelRequested
  did : ∃ before wait, Did l (before ++ [.received wait found]) t ∧
    ∀ action ∈ before, action.frame? = none

theorem receive_of_due {e : Event} (hpending : l.network.pending = e :: events)
    (hcancels : e.cancels = false) (hdue : e.delay ≤ l.carrier.wait wait) :
    ∃ next, l.receive wait = ((Network.Arrival.outcome e.arrival).mapError l.carrier.report, next) ∧
      l.Receives e.delay (Network.Arrival.outcome e.arrival) events next := by
  rw [receive_eq, receiveWithin, Network.receive_eq, Network.await_of_due hpending hdue,
    Network.happened_eq, hcancels]
  exact ⟨_, rfl, rfl, rfl, rfl, Bool.or_false _, [], l.carrier.wait wait, rfl,
    fun _ h => absurd h List.not_mem_nil⟩

/-- A wait that is too short brings what is going to happen nearer. -/
theorem receive_of_early {e : Event} (hpending : l.network.pending = e :: events)
    (hearly : l.carrier.wait wait < e.delay) :
    ∃ next, l.receive wait = (.error (l.carrier.report .noArrival), next) ∧
      next.stats = l.stats ∧ next.carrier = l.carrier ∧
      next.network.pending = { e with delay := e.delay - l.carrier.wait wait } :: events ∧
      next.network.now = l.network.now + l.carrier.wait wait ∧
      next.network.cancelRequested = l.network.cancelRequested ∧
      Did l [.received (l.carrier.wait wait) (.error .noArrival)] next := by
  rw [receive_eq, receiveWithin, Network.receive_eq, Network.await_of_early hpending hearly]
  exact ⟨_, rfl, rfl, rfl, rfl, rfl, rfl, rfl⟩

/-- Before its deadline, a wait that has not been cancelled looks at the next datagram. -/
theorem awaitAnswer_of_datagram (hcancel : l.isCancelled cancel = false)
    (htime : l.network.now < deadline)
    (hreceive : l.receive (pace.wait (deadline - l.network.now)) = (.ok datagram, m)) :
    awaitAnswer pace accept cancel deadline l =
      match accept datagram with
      | .ok (some answer) => .ok (some answer) m
      | .ok none => awaitAnswer pace accept cancel deadline m
      | .error e => .error e m :=
  awaitAnswer_of_receive hcancel htime hreceive

/-- What happens before the deadline is taken up when it happens. -/
theorem awaitAnswer_of_event (pace : Pace) (accept : Acceptor α) {e : Event}
    (hpending : l.network.pending = e :: events) (hcancels : e.cancels = false)
    (htime : l.network.now + e.delay < deadline)
    (hlive : (l.elapse e.delay).isCancelled cancel = false) :
    ∃ next, l.Receives e.delay (Network.Arrival.outcome e.arrival) events next ∧
      awaitAnswer pace accept cancel deadline l =
        settle accept (awaitAnswer pace accept cancel deadline)
          ((Network.Arrival.outcome e.arrival).mapError l.carrier.report) next := by
  -- By induction on the time that is left until the event: every receive shortens it.
  obtain ⟨delay, cancels, arrival⟩ := e
  induction delay using Nat.strongRecOn generalizing l with
  | ind delay ih =>
  obtain ⟨wait, hwait⟩ : ∃ wait, l.carrier.wait (nextWait pace deadline l) = wait := ⟨_, rfl⟩
  have hbefore : l.network.now < deadline := Nat.lt_of_le_of_lt (Nat.le_add_right _ _) htime
  have hpos : 0 < wait :=
    hwait ▸ Nat.lt_of_lt_of_le (nextWait_pos hbefore) (l.carrier.le_wait _)
  have hcancel : l.isCancelled cancel = false :=
    isCancelled_eq_false_of_le hlive (Nat.le_add_right _ _) rfl
  by_cases hdue : delay ≤ wait
  · obtain ⟨next, hreceive, hnext⟩ := receive_of_due hpending hcancels (hwait ▸ hdue)
    exact ⟨next, hnext, awaitAnswer_of_receive hcancel hbefore hreceive⟩
  · have hearly : wait < delay := Nat.lt_of_not_le hdue
    obtain ⟨m, hreceive, hstats, hcarrier, hpending, hnow, hrequested, hdid⟩ :=
      receive_of_early hpending (hwait ▸ hearly)
    rw [hwait] at hpending hnow hdid
    have hagain : awaitAnswer pace accept cancel deadline l =
        awaitAnswer pace accept cancel deadline m :=
      (awaitAnswer_of_receive hcancel hbefore hreceive).trans (settle_of_noArrival ..)
    have hsoon : m.network.now + (delay - wait) = l.network.now + delay := by omega
    have hlater : (m.elapse (delay - wait)).isCancelled cancel = false :=
      isCancelled_eq_false_of_le hlive (Nat.le_of_eq hsoon) hrequested
    obtain ⟨next, hnext, hawait⟩ :=
      ih (delay - wait) (by omega) hpending hcancels (hsoon ▸ htime) hlater
    refine ⟨next, ?_, ?_⟩
    · obtain ⟨before, last, hrest, hbefore⟩ := hnext.did
      refine ⟨hnext.stats_eq.trans hstats, hnext.pending_eq, hnext.now_eq.trans hsoon,
        hnext.requested_eq.trans hrequested, _ :: before, last, hdid.trans hrest, ?_⟩
      exact List.forall_mem_cons.mpr ⟨rfl, hbefore⟩
    · rw [hagain, hawait, hcarrier]

/-- A datagram that comes in before the deadline is looked at when it comes. -/
theorem awaitAnswer_of_next (pace : Pace) (accept : Acceptor α)
    (hpending : l.network.pending = .ofDatagram delay datagram :: events)
    (hwhole : datagram.length ≤ Network.bufferLength) (htime : l.network.now + delay < deadline)
    (hlive : (l.elapse delay).isCancelled cancel = false) :
    ∃ next, l.Receives delay (.ok datagram) events next ∧
      awaitAnswer pace accept cancel deadline l =
        match accept datagram with
        | .ok (some answer) => .ok (some answer) next
        | .ok none => awaitAnswer pace accept cancel deadline next
        | .error e => .error e next := by
  have houtcome :
      Network.Arrival.outcome (Event.ofDatagram delay datagram).arrival = .ok datagram :=
    congrArg Except.ok (List.take_of_length_le hwhole)
  obtain ⟨next, hnext, hawait⟩ := awaitAnswer_of_event pace accept hpending rfl htime hlive
  rw [houtcome] at hnext hawait
  exact ⟨next, hnext, hawait⟩

/-- Two things that happen one after the other, of which only the second matters. -/
theorem Receives.trans {first found : Except IoFailure Bytes} {next : List Event} {delay' : Nat}
    (h : l.Receives delay first next m) (h' : m.Receives delay' found events t) :
    l.Receives (delay + delay') found events t := by
  obtain ⟨before, wait, hdid, hbefore⟩ := h.did
  obtain ⟨before', wait', hdid', hbefore'⟩ := h'.did
  refine ⟨h'.stats_eq.trans h.stats_eq, h'.pending_eq, ?_, h'.requested_eq.trans h.requested_eq,
    before ++ [.received wait first] ++ before', wait', ?_, ?_⟩
  · rw [h'.now_eq, h.now_eq, Nat.add_assoc]
  · rw [List.append_assoc]
    exact hdid.trans hdid'
  · intro action haction
    rcases List.mem_append.mp haction with haction | haction
    · rcases List.mem_append.mp haction with haction | haction
      · exact hbefore action haction
      · rw [List.mem_singleton.mp haction]
        rfl
    · exact hbefore' action haction

/-- A wait goes on over everything that is no answer, and ends with the answer. -/
theorem awaitAnswer_of_incoming {i : Incoming} {answer : α} (pace : Pace)
    (hpending : l.network.pending = i.events)
    (hpassed : ∀ x ∈ i.passed, x.2.length ≤ Network.bufferLength ∧ accept x.2 = .ok none)
    (hwhole : i.answer.length ≤ Network.bufferLength) (haccept : accept i.answer = .ok (some answer))
    (htime : l.network.now + i.time < deadline)
    (hlive : (l.elapse i.time).isCancelled cancel = false) :
    ∃ next, l.Receives i.time (.ok i.answer) i.later next ∧
      awaitAnswer pace accept cancel deadline l = .ok (some answer) next := by
  obtain ⟨passed, delay, datagram, later⟩ := i
  induction passed generalizing l with
  | nil =>
    have hzero : Incoming.time ⟨[], delay, datagram, later⟩ = delay := Nat.zero_add delay
    rw [hzero] at htime hlive ⊢
    obtain ⟨next, hnext, hawait⟩ := awaitAnswer_of_next pace accept hpending hwhole htime hlive
    rw [haccept] at hawait
    exact ⟨next, hnext, hawait⟩
  | cons x rest ih =>
    have hsum : Incoming.time ⟨x :: rest, delay, datagram, later⟩ =
        x.1 + Incoming.time ⟨rest, delay, datagram, later⟩ := by
      simp only [Incoming.time, List.map_cons, List.sum_cons, Nat.add_assoc]
    rw [hsum] at htime hlive ⊢
    obtain ⟨hlength, hnone⟩ := hpassed x List.mem_cons_self
    have hfirst : (l.elapse x.1).isCancelled cancel = false := by
      refine isCancelled_eq_false_of_le hlive ?_ rfl
      change l.network.now + x.1 ≤ l.network.now + (x.1 + _)
      omega
    have hsoon : l.network.now + x.1 < deadline := by omega
    obtain ⟨m, hm, hawait⟩ := awaitAnswer_of_next pace accept hpending hlength hsoon hfirst
    rw [hnone] at hawait
    have hrest : (m.elapse (Incoming.time ⟨rest, delay, datagram, later⟩)).isCancelled cancel =
        false := by
      refine isCancelled_eq_false_of_le hlive (Nat.le_of_eq ?_) hm.requested_eq
      change m.network.now + _ = l.network.now + (x.1 + _)
      rw [hm.now_eq, Nat.add_assoc]
    have hbefore : m.network.now + Incoming.time ⟨rest, delay, datagram, later⟩ < deadline := by
      rw [hm.now_eq, Nat.add_assoc]
      exact htime
    obtain ⟨next, hnext, hanswer⟩ := ih hm.pending_eq
      (fun y hy => hpassed y (List.mem_cons_of_mem _ hy)) hwhole haccept hbefore hrest
    exact ⟨next, hm.trans hnext, hawait.trans hanswer⟩

/-- What follows an accepted frame is all that is pending, if nothing was before. -/
theorem send_of_quiet {n : Network} {events : List Event} {rest : List Delivery}
    (hquiet : n.pending = []) (hscript : n.script = .accepted events :: rest) (frame : Bytes) :
    ∃ next, n.send frame = (.ok (), next) ∧ next.pending = events := by
  refine ⟨({ n with script := rest }.enqueue events).record (.sent frame), ?_, ?_⟩
  · rw [Network.send, hscript]
  · change n.pending ++ events = events
    rw [hquiet, List.nil_append]

/-- A frame that is accepted goes on record, and takes no time. -/
private theorem send_ok {n next : Network} {frame : Bytes} (h : n.send frame = (.ok (), next)) :
    next.trace = n.trace ++ [.sent frame] ∧ next.now = n.now ∧
      next.cancelRequested = n.cancelRequested := by
  unfold Network.send at h
  split at h
  · cases h
    exact ⟨rfl, rfl, rfl⟩
  · cases h
    exact ⟨rfl, rfl, rfl⟩
  · cases h

/-- The first try of an exchange whose frame is accepted: `next` is the link once the frame has been
sent, and what comes of the wait decides about the tries that are left. -/
theorem exchange_of_sent {frame : Bytes} {n : Network} {time : Nat} (accept : Acceptor α)
    (timeout tries : Nat) (hsend : l.network.send frame = (.ok (), n))
    (hlive : (l.elapse time).isCancelled cancel = false) :
    ∃ next left, next.network = n ∧ next.carrier = l.carrier ∧ next.stats = l.countSend.stats ∧
      Did l [.sent frame] next ∧ (next.elapse time).isCancelled cancel = false ∧
      exchange accept cancel frame timeout tries l =
        tryOn pollSlice accept cancel frame timeout (max tries 1) left none
          (next.network.now + timeout) next := by
  obtain ⟨left, hleft⟩ : ∃ left, max tries 1 = left + 1 := ⟨max tries 1 - 1, by omega⟩
  obtain ⟨htrace, hnow, hrequested⟩ := send_ok hsend
  have hnext : l.countSend.send frame = (.ok (), { l.countSend with network := n }) := by
    rw [send, countSend, hsend]
    rfl
  have hcancel : l.isCancelled cancel = false :=
    isCancelled_eq_false_of_le hlive (Nat.le_add_right _ _) rfl
  refine ⟨{ l.countSend with network := n }, left, rfl, rfl, rfl, htrace, ?_, ?_⟩
  · refine isCancelled_eq_false_of_le hlive (Nat.le_of_eq ?_) hrequested
    change n.now + time = l.network.now + time
    rw [hnow]
  · rw [exchange, exchangePaced, hleft, attempts_of_sent hcancel hnext]

/-- A frame that is answered within its first try is sent once, and nothing else happens but
that datagrams come in, the answer last. -/
theorem exchange_of_incoming {frame : Bytes} {timeout tries : Nat} {n : Network} {i : Incoming}
    {answer : α} (hsend : l.network.send frame = (.ok (), n)) (hpending : n.pending = i.events)
    (hpassed : ∀ x ∈ i.passed, x.2.length ≤ Network.bufferLength ∧ accept x.2 = .ok none)
    (hwhole : i.answer.length ≤ Network.bufferLength) (haccept : accept i.answer = .ok (some answer))
    (htime : i.time < timeout) (hlive : (l.elapse i.time).isCancelled cancel = false) :
    ∃ t before wait, exchange accept cancel frame timeout tries l = .ok answer t ∧
      t.stats = l.countSend.stats ∧
      Did l (.sent frame :: before ++ [.received wait (.ok i.answer)]) t ∧
      ∀ action ∈ before, action.frame? = none := by
  obtain ⟨next, left, rfl, -, hstats, hsent, hlater, hexchange⟩ :=
    exchange_of_sent accept timeout tries hsend hlive
  obtain ⟨t, ht, hawait⟩ := awaitAnswer_of_incoming pollSlice hpending hpassed hwhole haccept
    (Nat.add_lt_add_left htime next.network.now) hlater
  obtain ⟨before, wait, hdid, hnone⟩ := ht.did
  refine ⟨t, before, wait, ?_, ht.stats_eq.trans hstats, hsent.trans hdid, hnone⟩
  rw [hexchange, tryOn_eq, hawait]

/-- The frame will be accepted, and `datagram` has arrived by then, before anything else. -/
def Brings (n : Network) (frame datagram : Bytes) : Prop :=
  ∃ next events, n.send frame = (.ok (), next) ∧ next.pending = ⟨0, false, .datagram datagram⟩ :: events

end Link
end Baseboard
