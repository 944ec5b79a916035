import Baseboard.Proofs.Link.Events
import Baseboard.Proofs.Link.Grain
import Baseboard.Proofs.Link.InStep
import Baseboard.Proofs.Link.Parallel
import Baseboard.Proofs.Link.Promptness

/-! Waiting in slices. A wait that is cut into slices comes to the same as a single one that takes
as long as the slices do together: what comes in does so at the same time, to the same effect. Only
the waits themselves tell the difference. The slices take just the time that is left, unless the
carrier draws out the last of them. -/
namespace Baseboard

/-- What an action comes to, however long it was waited for. A wait in which nothing came in comes
to nothing. -/
def Action.upshot? : Action → Option Action
  | sent frame => some (.sent frame)
  | sendFailed frame cause => some (.sendFailed frame cause)
  | received _ (.ok datagram) => some (.received 0 (.ok datagram))
  | received _ (.error cause) =>
    if cause = .noArrival then none else some (.received 0 (.error cause))

namespace Link

variable {α : Type} {pace : Pace} {accept : Acceptor α} {cancel : Option CancelToken}
  {carrier : Carrier} {frame : Bytes} {deadline timeout tries wait more grain : Nat} {l m : Link}

/-- The link but for its waits. -/
def waitless (l : Link) : Link :=
  { l with network.trace := l.network.trace.filterMap Action.upshot? }

theorem upshot?_received (wait more : Nat) (outcome : Except IoFailure Bytes) :
    (Action.received wait outcome).upshot? = (Action.received more outcome).upshot? := by
  cases outcome <;> rfl

/-- How long a receive may take makes no difference if the wait comes to the same. -/
theorem receiveWithin_of_await_eq (h : l.network.await wait = l.network.await more) :
    (l.receiveWithin wait).1 = (l.receiveWithin more).1 ∧
      (l.receiveWithin wait).2.waitless = (l.receiveWithin more).2.waitless := by
  rw [receiveWithin, receiveWithin, Network.receive_eq, Network.receive_eq, h]
  refine ⟨rfl, ?_⟩
  simp only [waitless, Network.record, List.filterMap_append, List.filterMap_cons,
    upshot?_received wait more]

/-- A receive in which nothing happens, with another one after it, comes to the same as one that
may take longer. -/
theorem receiveWithin_receiveWithin (h : l.network.Calm wait) (more : Nat) :
    ((l.receiveWithin wait).2.receiveWithin more).1 = (l.receiveWithin (wait + more)).1 ∧
      ((l.receiveWithin wait).2.receiveWithin more).2.waitless =
        (l.receiveWithin (wait + more)).2.waitless := by
  simp only [receiveWithin, Network.receive_eq]
  rw [(Network.await_of_calm h).1, Network.await_record, Network.await_await h]
  refine ⟨rfl, ?_⟩
  have hnothing : (Action.received wait (.error .noArrival)).upshot? = none := rfl
  simp only [waitless, Network.record, List.filterMap_append, List.filterMap_cons, hnothing,
    upshot?_received more (wait + more), List.filterMap_nil, List.append_nil]

section SameButWaits

variable (h : l.waitless = m.waitless)
include h

theorem isCancelled_of_waitless_eq (cancel : Option CancelToken) :
    m.isCancelled cancel = l.isCancelled cancel := by
  have hlook (l : Link) : l.isCancelled cancel = l.waitless.isCancelled cancel := by
    cases cancel <;> rfl
  rw [hlook l, hlook m, h]

theorem now_of_waitless_eq : m.network.now = l.network.now :=
  (congrArg (fun l : Link => l.network.now) h.symm :)

/-- What is done next comes after pasts that are the same but for their waits. -/
theorem told_of_waitless_eq (next : Link) :
    (told l frame next).waitless = (told m frame next).waitless := by
  have hstats : l.stats = m.stats := (congrArg Link.stats h :)
  have htrace : l.network.trace.filterMap Action.upshot? =
      m.network.trace.filterMap Action.upshot? :=
    (congrArg (fun l : Link => l.network.trace) h :)
  simp only [waitless, told, hstats, List.filterMap_append, htrace]

theorem receiveWithin_of_waitless_eq (wait : Nat) :
    (l.receiveWithin wait).1 = (m.receiveWithin wait).1 ∧
      (l.receiveWithin wait).2.waitless = (m.receiveWithin wait).2.waitless := by
  have hforgotten : l.forgotten = m.forgotten := (congrArg forgotten h :)
  have hl := receiveWithin_told l [] l.forgotten wait
  have hm := receiveWithin_told m [] l.forgotten wait
  rw [told_forgotten] at hl
  rw [hforgotten, told_forgotten] at hm
  rw [hl, hm, hforgotten]
  exact ⟨rfl, told_of_waitless_eq h _⟩

theorem send_of_waitless_eq (frame : Bytes) :
    (m.countSend.send frame).1 = (l.countSend.send frame).1 ∧
      (l.countSend.send frame).2.waitless = (m.countSend.send frame).2.waitless := by
  have hforgotten : l.forgotten = m.forgotten := (congrArg forgotten h :)
  have hl := send_told l frame frame l.forgotten
  have hm := send_told m frame frame l.forgotten
  rw [told_forgotten] at hl
  rw [hforgotten, told_forgotten] at hm
  rw [hl, hm, hforgotten]
  exact ⟨rfl, told_of_waitless_eq h _⟩

end SameButWaits

/-- A wait that leaves a link which was not cancelled began on such a link. -/
theorem isCancelled_of_after
    (hlive : (after (awaitAnswer pace accept cancel deadline) l).isCancelled cancel = false) :
    l.isCancelled cancel = false := by
  cases hc : l.isCancelled cancel with
  | false => rfl
  | true =>
    rw [after_of_error (awaitAnswer_of_cancelled hc), hc] at hlive
    cases hlive

/-- While more than a slice is left, a receive takes just a slice. -/
theorem receive_nextWait_of_long (hlong : pollSlice.length < deadline - l.network.now) :
    l.receive (nextWait pollSlice deadline l) = l.receiveWithin pollSlice.length := by
  have hwait : nextWait pollSlice deadline l = pollSlice.length :=
    Nat.min_eq_right (Nat.le_of_lt hlong)
  rw [receive_eq, hwait, l.carrier.wait_pollSlice]

/-- A slice in which nothing happens is passed over. -/
theorem awaitAnswer_of_calm (hc : l.isCancelled cancel = false)
    (hlong : pollSlice.length < deadline - l.network.now)
    (hcalm : l.network.Calm pollSlice.length) :
    awaitAnswer pollSlice accept cancel deadline l =
      awaitAnswer pollSlice accept cancel deadline (l.receiveWithin pollSlice.length).2 := by
  have hnothing : l.receive (nextWait pollSlice deadline l) =
      (.error (l.carrier.report .noArrival), (l.receiveWithin pollSlice.length).2) := by
    rw [receive_nextWait_of_long hlong, receiveWithin, Network.receive_eq,
      (Network.await_of_calm hcalm).1]
    rfl
  rw [awaitAnswer_of_receive hc (by omega) hnothing, settle_of_noArrival]

/-- A wait in slices goes on as after one receive that takes as long as the slices of the time that
is left. -/
theorem awaitAnswer_settles (htime : l.network.now < deadline)
    (hlive : (after (awaitAnswer pollSlice accept cancel deadline) l).isCancelled cancel = false) :
    ∃ next, next.waitless =
        (l.receiveWithin (l.carrier.inSlices (deadline - l.network.now))).2.waitless ∧
      awaitAnswer pollSlice accept cancel deadline l =
        settle accept (awaitAnswer pollSlice accept cancel deadline)
          (l.receiveWithin (l.carrier.inSlices (deadline - l.network.now))).1 next := by
  -- By induction on the slices in which nothing happens.
  induction l using wait_induction pollSlice deadline with
  | step l ih =>
  have hc := isCancelled_of_after hlive
  have hleft : 0 < deadline - l.network.now := Nat.sub_pos_of_lt htime
  rcases Nat.lt_or_ge pollSlice.length (deadline - l.network.now) with hlong | hshort
  · have hslice := receive_nextWait_of_long hlong
    obtain ⟨more, hmore⟩ := Nat.exists_eq_add_of_lt hlong
    rw [Nat.add_assoc] at hmore
    rw [hmore, l.carrier.inSlices_add (Nat.succ_pos more)]
    rcases l.network.calm_or_due pollSlice.length with hcalm | ⟨e, rest, hpending, hdue⟩
    · have hpassed : awaitAnswer pollSlice accept cancel deadline l = _ :=
        awaitAnswer_of_calm hc hlong hcalm
      have hnow : (l.receiveWithin pollSlice.length).2.network.now =
          l.network.now + pollSlice.length := (Network.await_of_calm hcalm).2
      have hrest : deadline - (l.receiveWithin pollSlice.length).2.network.now = more + 1 := by
        omega
      rw [after_congr hpassed] at hlive
      rw [hslice] at ih
      obtain ⟨next, hnext, hsettles⟩ := (ih htime).1 (by omega) hlive
      obtain ⟨houtcome, hsame⟩ :=
        receiveWithin_receiveWithin hcalm (l.carrier.inSlices (more + 1))
      have hcarrier : (l.receiveWithin pollSlice.length).2.carrier = l.carrier := rfl
      rw [hcarrier, hrest] at hnext hsettles
      rw [houtcome] at hsettles
      exact ⟨next, hnext.trans hsame, hpassed.trans hsettles⟩
    · have hsame : l.network.await pollSlice.length =
          l.network.await (pollSlice.length + l.carrier.inSlices (more + 1)) := by
        rw [Network.await_of_due hpending hdue,
          Network.await_of_due hpending (Nat.le_add_right_of_le hdue)]
      obtain ⟨houtcome, hnext⟩ := receiveWithin_of_await_eq hsame
      exact ⟨_, hnext, awaitAnswer_of_receive hc htime (hslice.trans (Prod.ext houtcome rfl))⟩
  · have hlast : l.receive (nextWait pollSlice deadline l) =
        l.receiveWithin (l.carrier.inSlices (deadline - l.network.now)) := by
      have hwait : nextWait pollSlice deadline l = deadline - l.network.now :=
        Nat.min_eq_left hshort
      rw [receive_eq, hwait, l.carrier.inSlices_of_le hleft hshort]
    exact ⟨_, rfl, awaitAnswer_of_receive hc htime hlast⟩

/-- A receive at a pace takes as long over a carrier as the slices of the time that is left do, if
this time is a multiple of `grain`, and so is what the receive takes. -/
def Spans (pace : Pace) (carrier : Carrier) (grain : Nat) : Prop :=
  ∀ left, 0 < left → grain ∣ left →
    carrier.wait (pace.wait left) = carrier.inSlices left ∧ grain ∣ carrier.inSlices left

/-- Two links that only waits tell apart, of which the second has a given carrier and grain. -/
structure Abreast (carrier : Carrier) (grain : Nat) (t t' : Link) : Prop where
  waitless_eq : t.waitless = t'.waitless
  carrier_eq : t'.carrier = carrier
  grained : t'.network.Grained grain

theorem awaitAnswer_abreast (hpace : Spans pace carrier grain) (h : Abreast carrier grain l m)
    (hleft : grain ∣ deadline - m.network.now)
    (hlive : (after (awaitAnswer pollSlice accept cancel deadline) l).isCancelled cancel = false) :
    EndAlike (awaitAnswer pollSlice accept cancel deadline) l
      (awaitAnswer pace accept cancel deadline) m fun _ => Abreast carrier grain := by
  induction m using wait_induction pace deadline generalizing l with
  | step m ih =>
  obtain ⟨hsame, hcarrier, hgrained⟩ := h
  have hc := isCancelled_of_after hlive
  have hc' : m.isCancelled cancel = false := (isCancelled_of_waitless_eq hsame cancel).trans hc
  have hnow := now_of_waitless_eq hsame
  rcases Nat.lt_or_ge m.network.now deadline with htime | htime
  · obtain ⟨hspan, heven⟩ := hpace _ (Nat.sub_pos_of_lt htime) hleft
    obtain ⟨span, hspans⟩ : ∃ span, carrier.inSlices (deadline - m.network.now) = span := ⟨_, rfl⟩
    rw [hspans] at hspan heven
    have hreceive : m.receive (nextWait pace deadline m) = m.receiveWithin span := by
      rw [receive_eq, hcarrier, nextWait, hspan]
    have hl : l.carrier = m.carrier := (congrArg Link.carrier hsame :)
    obtain ⟨next, hnext, hsettles⟩ := awaitAnswer_settles (hnow ▸ htime) hlive
    rw [hl, hcarrier, ← hnow, hspans] at hnext hsettles
    obtain ⟨houtcome, hthen⟩ := receiveWithin_of_waitless_eq hsame span
    rw [houtcome] at hsettles
    obtain ⟨hgrained, hleft⟩ := hgrained.receive heven hleft
    have hstill : Abreast carrier grain next (m.receiveWithin span).2 :=
      ⟨hnext.trans hthen, hcarrier, hgrained⟩
    rw [hreceive] at ih
    obtain ⟨hrest, hretry⟩ := ih htime
    -- The wait goes on only if it leaves a link that was not cancelled.
    refine .congr hsettles (awaitAnswer_of_receive hc' htime (by rw [hreceive])) ?_
    refine settle_alike (fun hagain => ?_) (fun hagain => ?_) fun _ => hstill
    · rw [after_congr (hsettles.trans hagain)] at hlive
      exact hrest hstill hleft hlive
    · rw [after_congr (hsettles.trans hagain)] at hlive
      exact hretry ⟨congrArg countRetry hstill.waitless_eq, hcarrier, hgrained⟩ hleft hlive
  · exact .both_ok (awaitAnswer_of_late hc (hnow ▸ htime)) (awaitAnswer_of_late hc' htime)
      ⟨congrArg countTimeout hsame, hcarrier, hgrained⟩

theorem inStep_abreast (hpace : Spans pace carrier grain) (htimeout : grain ∣ timeout)
    (accept : Acceptor α) (cancel : Option CancelToken) (frame : Bytes) :
    InStep pollSlice pace accept cancel frame frame timeout (fun t => t.isCancelled cancel = false)
      (Abreast carrier grain) where
  isCancelled_eq h := isCancelled_of_waitless_eq h.waitless_eq cancel
  send h := by
    obtain ⟨houtcome, hsame⟩ := send_of_waitless_eq h.waitless_eq frame
    exact ⟨houtcome, hsame, h.carrier_eq, h.grained.send frame⟩
  live_of_ranOut := isCancelled_of_ranOut
  wait h hlive := by
    rw [now_of_waitless_eq h.waitless_eq]
    refine awaitAnswer_abreast hpace h ?_ hlive
    rwa [now_of_waitless_eq h.waitless_eq, Nat.add_sub_cancel_left]

theorem sentFrames_waitless (l : Link) : l.waitless.network.sentFrames = l.network.sentFrames := by
  unfold waitless Network.sentFrames
  rw [List.filterMap_filterMap]
  congr 1
  funext action
  match action with
  | .sent _ | .sendFailed _ _ | .received _ (.ok _) => rfl
  | .received _ (.error cause) =>
    by_cases hcause : cause = .noArrival <;> simp [Action.upshot?, hcause]

/-- Nothing but waits tells two links apart. -/
structure SameButWaits (t t' : Link) : Prop where
  sentFrames_eq : t'.network.sentFrames = t.network.sentFrames
  stats_eq : t'.stats = t.stats
  now_eq : t'.network.now = t.network.now
  pending_eq : t'.network.pending = t.network.pending
  waitless_eq : t'.waitless = t.waitless

theorem SameButWaits.of_waitless_eq {t t' : Link} (h : t.waitless = t'.waitless) :
    SameButWaits t t' where
  sentFrames_eq := by rw [← sentFrames_waitless t, ← sentFrames_waitless t', h]
  stats_eq := (congrArg Link.stats h.symm :)
  now_eq := (congrArg (fun t : Link => t.network.now) h.symm :)
  pending_eq := (congrArg (fun t : Link => t.network.pending) h.symm :)
  waitless_eq := h.symm

/-- An exchange in slices comes to the same as one at a pace at which a receive takes as long as the
slices do. -/
theorem exchange_spanned (hpace : Spans pace l.carrier grain) (htimeout : grain ∣ timeout)
    (hgrained : l.network.Grained grain)
    (hlive : (after (exchange accept cancel frame timeout tries) l).isCancelled cancel = false) :
    EndAlike (exchange accept cancel frame timeout tries) l
      (exchangePaced pace accept cancel frame timeout tries) l fun _ => SameButWaits :=
  ((inStep_abreast hpace htimeout accept cancel frame).exchangePaced tries ⟨rfl, rfl, hgrained⟩
    hlive).imp fun _ _ _ h => .of_waitless_eq h.waitless_eq

/-- A receive waits for all the time that is left of the try. -/
def Pace.undivided : Pace := ⟨id, id⟩

/-- A receive waits for as long as the slices take that the time that is left of the try would be
cut into. -/
def Pace.lasting (carrier : Carrier) : Pace where
  wait := carrier.inSlices
  pos h := Nat.lt_of_lt_of_le h (carrier.le_inSlices h)

theorem spans_lasting (carrier : Carrier) : Spans (.lasting carrier) carrier 1 := fun left _ _ =>
  ⟨carrier.wait_inSlices left, Nat.one_dvd _⟩

/-- What is left of the time takes just that time in slices if the carrier draws out no multiple of
the grain. -/
theorem spans_undivided (hslice : grain ∣ pollSlice.length)
    (hwhole : ∀ wait, 0 < wait → grain ∣ wait → carrier.wait wait = wait) :
    Spans .undivided carrier grain := by
  intro left hpos hleft
  have hlast := hwhole _ (Nat.succ_pos _) (dvd_lastSlice hpos hslice hleft)
  rw [carrier.inSlices_eq_self hpos hlast]
  exact ⟨hwhole left hpos hleft, hleft⟩

/-- An exchange that is not cancelled comes to the same whether its waits are cut into slices or
not: it ends in the same way and at the same time, with the same frames sent, the same counts and
the same events still to come. Of all that it does, only the waits tell the difference. That is so
over a carrier that waits just as it is asked to, and over a socket when everything happens after
whole milliseconds. A socket may draw out the last slice of a wait otherwise: then the exchange
comes to the same as one whose receives wait for as long as the slices would take together. -/
theorem exchange_undivided (accept : Acceptor α) (cancel : Option CancelToken) (frame : Bytes)
    (timeout tries : Nat) (l : Link)
    (hlive : (after (exchange accept cancel frame timeout tries) l).isCancelled cancel = false) :
    (l.Punctual timeout →
      EndAlike (exchange accept cancel frame timeout tries) l
        (exchangePaced .undivided accept cancel frame timeout tries) l fun _ => SameButWaits) ∧
    EndAlike (exchange accept cancel frame timeout tries) l
      (exchangePaced (.lasting l.carrier) accept cancel frame timeout tries) l
      fun _ => SameButWaits := by
  constructor
  · intro hpunctual
    obtain ⟨grain, htimeout, hslice, hgrained, hwhole⟩ := hpunctual.exists_grain
    exact exchange_spanned (spans_undivided hslice hwhole) htimeout hgrained hlive
  · exact exchange_spanned (spans_lasting l.carrier) (Nat.one_dvd _) l.network.grained_one hlive

/-- A link where datagrams come in when two slices are over, when the first try is, and in the midst
of a slice of the second try. -/
def straddled : Link :=
  .ofNetwork .plain { script :=
    [.accepted [.ofDatagram (200 * millisecond) [1], .ofDatagram (50 * millisecond) [2]],
      .accepted [.ofDatagram (120 * millisecond) [3]]] }

theorem exchange_undivided_straddled :
    let accept : Acceptor Bytes := fun datagram =>
      .ok (if datagram = [3] then some datagram else none)
    let token : CancelToken := ⟨some (1000 * millisecond)⟩
    ∃ t t', exchange accept (some token) [0] (250 * millisecond) 2 straddled = .ok [3] t ∧
      t.isCancelled (some token) = false ∧
      exchangePaced .undivided accept (some token) [0] (250 * millisecond) 2 straddled =
        .ok [3] t' ∧
      t.network.waits = [100, 100, 50, 100, 100].map (· * millisecond) ∧
      t'.network.waits = [250, 50, 250].map (· * millisecond) ∧ t'.waitless = t.waitless := by
  intro accept token
  have hsliced : gives (exchange accept (some token) [0] (250 * millisecond) 2) straddled
      (fun answer t => answer = [3] ∧
        t.network.waits = [100, 100, 50, 100, 100].map (· * millisecond) ∧
        t.isCancelled (some token) = false) = true := by decide +kernel
  have hwhole : gives (exchangePaced .undivided accept (some token) [0] (250 * millisecond) 2)
      straddled (fun _ t' =>
        t'.network.waits = [250, 50, 250].map (· * millisecond)) = true := by decide +kernel
  obtain ⟨answer, t, hop, htest⟩ := exists_of_gives hsliced
  obtain ⟨rfl, hwaits, hlive⟩ := of_decide_eq_true htest
  obtain ⟨answer', t', hop', hwaits'⟩ := exists_of_gives hwhole
  have h := (exchange_undivided accept (some token) [0] (250 * millisecond) 2 straddled
    (by rw [after_of_ok hop]; exact hlive)).1 (.inl rfl)
  obtain ⟨hsame, hbut⟩ := (h.of_ok hop).of_ok hop'
  obtain rfl := Except.ok.inj hsame
  exact ⟨t, t', hop, hlive, hop', hwaits, of_decide_eq_true hwaits', hbut.waitless_eq⟩

/-- Over a socket, a datagram that comes in when half a millisecond is drawn out to a whole one is
missed by a receive that waits for all the time that is left. -/
example :
    let late : Link :=
      .ofNetwork .socket { script := [.accepted [.ofDatagram (100 * millisecond + 800000) [7]]] }
    let answered (pace : Pace) : Bool :=
      gives (exchangePaced pace (fun datagram => .ok (some datagram)) none [0]
        (100 * millisecond + 500000) 1) late fun answer _ => answer = [7]
    answered pollSlice = true ∧ answered .undivided = false ∧
      answered (.lasting .socket) = true := by
  decide +kernel

end Link
end Baseboard
