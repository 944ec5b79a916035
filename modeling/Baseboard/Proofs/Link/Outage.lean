import Baseboard.Proofs.Link.Arrival

/-! Frames that are not answered. When nothing happens any more, every try runs out; when the
network fails while a link waits, the wait ends with the failure. -/
namespace Baseboard.Link

variable {α : Type} {pace : Pace} {accept : Acceptor α} {cancel : Option CancelToken}
  {frame : Bytes} {deadline timeout tries maxTries left : Nat} {l t : Link}
  {failure : Option IoFailure} {sent : Bool}

/-- Nothing is going to happen at a link by itself, and it is never going to be cancelled. -/
structure Still (cancel : Option CancelToken) (l : Link) : Prop where
  pending_eq : l.network.pending = []
  live : ∀ time, (l.elapse time).isCancelled cancel = false

namespace Still

theorem isCancelled_eq (h : l.Still cancel) : l.isCancelled cancel = false := h.live 0

/-- A link is still as long as nothing was brought about and the caller did not cancel. -/
theorem of_later (h : l.Still cancel) (hpending : t.network.pending = [])
    (hrequested : t.network.cancelRequested = l.network.cancelRequested) : t.Still cancel :=
  ⟨hpending, fun time => isCancelled_eq_false_of_le (h.live (t.network.now + time))
    (Nat.le_add_left _ _) hrequested⟩

/-- A receive comes to nothing. -/
theorem receive (h : l.Still cancel) (wait : Nat) :
    ∃ next, l.receive wait = (.error (l.carrier.report .noArrival), next) ∧ next.Still cancel ∧
      next.network.script = l.network.script := by
  rw [receive_eq, receiveWithin, Network.receive_eq, Network.await_of_nil h.pending_eq]
  exact ⟨_, rfl, h.of_later h.pending_eq rfl, rfl⟩

/-- A wait ends when its time is over. -/
theorem awaitAnswer (h : l.Still cancel) (pace : Pace) (accept : Acceptor α) (deadline : Nat) :
    ∃ next, Link.awaitAnswer pace accept cancel deadline l = .ok none next ∧ next.Still cancel ∧
      next.network.script = l.network.script := by
  induction l using wait_induction pace deadline with
  | step l ih =>
  rcases Nat.lt_or_ge l.network.now deadline with htime | htime
  · obtain ⟨next, hreceive, hnext, hscript⟩ := h.receive (nextWait pace deadline l)
    have hrest := (ih htime).1
    rw [hreceive] at hrest
    obtain ⟨last, hawait, hlast, hsame⟩ := hrest hnext
    refine ⟨last, ?_, hlast, hsame.trans hscript⟩
    rw [awaitAnswer_of_receive h.isCancelled_eq htime hreceive, settle_of_noArrival, hawait]
  · exact ⟨_, awaitAnswer_of_late h.isCancelled_eq htime, h.of_later h.pending_eq rfl, rfl⟩

/-- A frame is accepted, and brings about nothing. -/
theorem send (h : l.Still cancel) (frame : Bytes)
    (hscript : ∀ delivery ∈ l.network.script.head?, delivery = .accepted []) :
    ∃ next, l.countSend.send frame = (.ok (), next) ∧ next.Still cancel ∧
      next.network.script = l.network.script.tail := by
  have hsent {n : Network} (hn : l.network.send frame = (.ok (), n)) :
      l.countSend.send frame = (.ok (), { l.countSend with network := n }) := by
    rw [Link.send, countSend, hn]
    rfl
  cases hs : l.network.script with
  | nil =>
    refine ⟨_, hsent (n := l.network.record (.sent frame)) ?_, h.of_later h.pending_eq rfl, hs⟩
    rw [Network.send, hs]
  | cons delivery rest =>
    obtain rfl : delivery = .accepted [] := hscript delivery (by rw [hs]; rfl)
    let n := ({ l.network with script := rest }.enqueue []).record (.sent frame)
    refine ⟨_, hsent (n := n) ?_, h.of_later ?_ rfl, rfl⟩
    · rw [Network.send, hs]
    · exact (List.append_nil _).trans h.pending_eq

/-- Tries run out one after the other if their frames bring about nothing. -/
theorem attempts (h : l.Still cancel) (pace : Pace) (accept : Acceptor α) (frame : Bytes)
    (timeout maxTries : Nat)
    (hscript : ∀ delivery ∈ l.network.script.take left, delivery = .accepted [])
    (htried : 0 < left ∨ sent = true) :
    ∃ t, Link.attempts pace accept cancel frame timeout maxTries left failure sent l =
      .error (.noResponse maxTries) t := by
  induction left generalizing l failure sent with
  | zero =>
    obtain rfl : sent = true := htried.resolve_left (Nat.lt_irrefl 0)
    exact ⟨l, attempts_zero.trans (by cases failure <;> rfl)⟩
  | succ left ih =>
    have hfirst : ∀ delivery ∈ l.network.script.head?, delivery = .accepted [] := by
      intro delivery hdelivery
      obtain ⟨rest, hs⟩ := List.head?_eq_some_iff.mp hdelivery
      exact hscript delivery (by rw [hs]; exact List.mem_cons_self)
    obtain ⟨next, hsend, hnext, hrest⟩ := h.send frame hfirst
    obtain ⟨last, hawait, hlast, hsame⟩ :=
      hnext.awaitAnswer pace accept (next.network.now + timeout)
    have hlater : ∀ delivery ∈ last.network.script.take left, delivery = .accepted [] := by
      intro delivery hdelivery
      rw [hsame, hrest] at hdelivery
      refine hscript delivery ?_
      cases hs : l.network.script with
      | nil =>
        rw [hs] at hdelivery
        cases left <;> cases hdelivery
      | cons first rest =>
        rw [hs] at hdelivery
        exact List.mem_cons_of_mem _ hdelivery
    have hagain : ∃ t,
        Link.attempts pace accept cancel frame timeout maxTries left failure true last =
          .error (.noResponse maxTries) t := ih hlast hlater (.inr rfl)
    obtain ⟨t, ht⟩ := hagain
    refine ⟨t, ?_⟩
    rw [attempts_of_sent h.isCancelled_eq hsend, tryOn_eq, hawait]
    exact ht

end Still

/-- A frame that brings about nothing, however often it is sent, is not answered. -/
theorem exchange_of_silence (h : l.Still cancel) (accept : Acceptor α) (frame : Bytes)
    (timeout tries : Nat)
    (hscript : ∀ delivery ∈ l.network.script.take (max tries 1), delivery = .accepted []) :
    ∃ t, exchange accept cancel frame timeout tries l = .error (.noResponse (max tries 1)) t :=
  h.attempts pollSlice accept frame timeout _ hscript (.inl (by omega))

/-- A failure that is no reason to go on, and comes in time, ends an exchange. -/
theorem exchange_of_failure {delay : Nat} {cause : IoFailure} {events : List Event} {n : Network}
    (accept : Acceptor α) (tries : Nat) (hsend : l.network.send frame = (.ok (), n))
    (hpending : n.pending = ⟨delay, false, .failure cause⟩ :: events)
    (hspurious : cause.isSpurious = false) (htimeout : cause.isTimeout = false)
    (htime : delay < timeout) (hlive : (l.elapse delay).isCancelled cancel = false) :
    ∃ t, exchange accept cancel frame timeout tries l =
      .error (.receiveFailed (l.carrier.report cause)) t := by
  obtain ⟨next, left, rfl, hcarrier, -, -, hlater, hexchange⟩ :=
    exchange_of_sent accept timeout tries hsend hlive
  obtain ⟨t, -, hawait⟩ := awaitAnswer_of_event pollSlice accept hpending rfl
    (Nat.add_lt_add_left htime next.network.now) hlater
  have hfailure : (Network.Arrival.outcome (.failure cause)).mapError next.carrier.report =
      .error (next.carrier.report cause) := rfl
  rw [hfailure, settle_of_failed hspurious htimeout, hcarrier] at hawait
  exact ⟨t, by rw [hexchange, tryOn_eq, hawait]⟩

end Baseboard.Link
