import Baseboard.Proofs.Ending

/-! The loops of an exchange, one step at a time. A wait goes on from one receive to the next until
what comes in ends it, or its time is over, and a try that was not answered leaves the rest to those
after it. What every step keeps is kept by the whole loop. -/
namespace Baseboard

namespace Carrier

@[simp] theorem isSpurious_report (c : Carrier) (e : IoFailure) :
    (c.report e).isSpurious = e.isSpurious := by
  cases c <;> rfl

@[simp] theorem isTimeout_report (c : Carrier) (e : IoFailure) :
    (c.report e).isTimeout = e.isTimeout := by
  cases c <;> rfl

end Carrier

namespace Link

variable {α : Type} {pace : Pace} {accept : Acceptor α} {cancel : Option CancelToken}
  {frame : Bytes} {deadline timeout maxTries wait : Nat} {carrier : Carrier} {l next : Link}
  {outcome found : Except IoFailure Bytes} {rest : Link → EStateM.Result Error Link (Option α)}

/-- What a receive can bring that an exchange passes over: a datagram that is not for it, a failure
that is not its own, or nothing. -/
inductive Ignored (accept : Acceptor α) : Except IoFailure Bytes → Prop where
  | datagram {datagram : Bytes} (h : accept datagram = .ok none) : Ignored accept (.ok datagram)
  | spurious {cause : IoFailure} (h : cause.isSpurious = true) : Ignored accept (.error cause)
  | timeout {cause : IoFailure} (h : cause.isTimeout = true) : Ignored accept (.error cause)

/-- What comes of an exchange when it ends with what a receive brought: an answer, the error of
whoever looks at the datagrams, or a failure that is no reason to go on. -/
inductive Concludes (accept : Acceptor α) : Except IoFailure Bytes → Except Error α → Prop where
  | answered {datagram : Bytes} {answer : α} (h : accept datagram = .ok (some answer)) :
      Concludes accept (.ok datagram) (.ok answer)
  | refused {datagram : Bytes} {e : Error} (h : accept datagram = .error e) :
      Concludes accept (.ok datagram) (.error e)
  | failed {cause : IoFailure} (hspurious : cause.isSpurious = false)
      (htimeout : cause.isTimeout = false) :
      Concludes accept (.error cause) (.error (.receiveFailed cause))

theorem ignored_or_concludes (accept : Acceptor α) (outcome : Except IoFailure Bytes) :
    Ignored accept outcome ∨ ∃ r, Concludes accept outcome r := by
  cases outcome with
  | ok datagram =>
    rcases haccept : accept datagram with e | _ | answer
    · exact .inr ⟨_, .refused haccept⟩
    · exact .inl (.datagram haccept)
    · exact .inr ⟨_, .answered haccept⟩
  | error cause =>
    cases hspurious : cause.isSpurious with
    | true => exact .inl (.spurious hspurious)
    | false =>
    cases htimeout : cause.isTimeout with
    | true => exact .inl (.timeout htimeout)
    | false => exact .inr ⟨_, .failed hspurious htimeout⟩

theorem Concludes.not_ignored {r : Except Error α} (h : Concludes accept outcome r) :
    ¬ Ignored accept outcome := by
  cases h with
  | answered h => exact fun | .datagram hnone => by cases h.symm.trans hnone
  | refused h => exact fun | .datagram hnone => by cases h.symm.trans hnone
  | failed hspurious htimeout =>
    exact fun
      | .spurious h => Bool.false_ne_true (hspurious.symm.trans h)
      | .timeout h => Bool.false_ne_true (htimeout.symm.trans h)

/-- What comes in ends an exchange with an error of whoever looks at it, or as a failure. -/
theorem Concludes.refused_or_failed {e : Error}
    (h : Concludes accept outcome (.error e : Except Error α)) :
    (∃ datagram, accept datagram = .error e) ∨ ∃ cause, e = .receiveFailed cause := by
  cases h with
  | refused h => exact .inl ⟨_, h⟩
  | failed _ _ => exact .inr ⟨_, rfl⟩

/-- The words of the system make no difference to what is passed over. -/
theorem ignored_report_iff :
    Ignored accept (outcome.mapError carrier.report) ↔ Ignored accept outcome := by
  cases outcome with
  | ok datagram => exact Iff.rfl
  | error cause =>
    constructor
    · exact fun
        | .spurious h => .spurious ((Carrier.isSpurious_report ..).symm.trans h)
        | .timeout h => .timeout ((Carrier.isTimeout_report ..).symm.trans h)
    · exact fun
        | .spurious h => .spurious ((Carrier.isSpurious_report ..).trans h)
        | .timeout h => .timeout ((Carrier.isTimeout_report ..).trans h)

/-- What is made of what a receive brought: the wait ends, or goes on as `rest`. -/
def settle (accept : Acceptor α) (rest : Link → EStateM.Result Error Link (Option α)) :
    Except IoFailure Bytes → Link → EStateM.Result Error Link (Option α)
  | .ok datagram, l =>
    match accept datagram with
    | .ok (some answer) => .ok (some answer) l
    | .ok none => rest l
    | .error e => .error e l
  | .error e, l =>
    if e.isSpurious then rest l.countRetry
    else if e.isTimeout then rest l
    else .error (.receiveFailed e) l

/-- After what is passed over the wait goes on. A spurious failure is counted. -/
theorem settle_of_ignored (h : Ignored accept outcome) :
    (∀ rest l, settle accept rest outcome l = rest l) ∨
      ∀ rest l, settle accept rest outcome l = rest l.countRetry := by
  cases h with
  | datagram h => exact .inl fun rest l => by rw [settle, h]
  | spurious h => exact .inr fun rest l => by rw [settle, if_pos h]
  | @timeout cause h =>
    cases hspurious : cause.isSpurious with
    | true => exact .inr fun rest l => by rw [settle, if_pos hspurious]
    | false =>
      refine .inl fun rest l => ?_
      rw [settle, hspurious, if_neg Bool.false_ne_true, if_pos h]

/-- When nothing came in, the wait goes on. -/
theorem settle_of_noArrival (accept : Acceptor α) (carrier : Carrier)
    (rest : Link → EStateM.Result Error Link (Option α)) (l : Link) :
    settle accept rest (.error (carrier.report .noArrival)) l = rest l := by
  cases carrier <;> rfl

/-- Any other failure ends the wait. -/
theorem settle_of_failed {cause : IoFailure} (hspurious : cause.isSpurious = false)
    (htimeout : cause.isTimeout = false) :
    settle accept rest (.error (carrier.report cause)) l =
      .error (.receiveFailed (carrier.report cause)) l := by
  rw [settle, Carrier.isSpurious_report, hspurious, Carrier.isTimeout_report, htimeout]
  rfl

theorem ends_settle {r : Except Error α} {post : Except Error (Option α) → Link → Prop}
    (h : Concludes accept outcome r) (hpost : post (r.map some) l) :
    Ends (settle accept rest outcome) l post := by
  unfold Ends
  cases h with
  | answered h =>
    rw [settle, h]
    exact hpost
  | refused h =>
    rw [settle, h]
    exact hpost
  | failed hspurious htimeout =>
    rw [settle, hspurious, htimeout]
    exact hpost

/-- How long the next receive is to wait at most. -/
def nextWait (pace : Pace) (deadline : Nat) (l : Link) : Nat :=
  pace.wait (deadline - l.network.now)

theorem nextWait_pos (h : l.network.now < deadline) : 0 < nextWait pace deadline l :=
  pace.pos (Nat.sub_pos_of_lt h)

/-- A receive over the network that waits just so long. -/
def receiveWithin (l : Link) (wait : Nat) : Except IoFailure Bytes × Link :=
  ((l.network.receive wait).1.mapError l.carrier.report,
    { l with network := (l.network.receive wait).2 })

/-- A receive waits for as long as the carrier does. -/
theorem receive_eq (l : Link) (wait : Nat) :
    l.receive wait = l.receiveWithin (l.carrier.wait wait) := rfl

theorem awaitAnswer_of_cancelled (h : l.isCancelled cancel = true) :
    awaitAnswer pace accept cancel deadline l = .error .cancelled l := by
  rw [awaitAnswer, if_pos h]

theorem awaitAnswer_of_late (h : l.isCancelled cancel = false) (htime : deadline ≤ l.network.now) :
    awaitAnswer pace accept cancel deadline l = .ok none l.countTimeout := by
  rw [awaitAnswer, if_neg (Bool.eq_false_iff.mp h), dif_pos htime]

/-- The wait goes on from one receive to the next. -/
theorem awaitAnswer_of_receive (h : l.isCancelled cancel = false) (htime : l.network.now < deadline)
    (hreceive : l.receive (nextWait pace deadline l) = (outcome, next)) :
    awaitAnswer pace accept cancel deadline l =
      settle accept (awaitAnswer pace accept cancel deadline) outcome next := by
  unfold nextWait at hreceive
  rw [awaitAnswer, if_neg (Bool.eq_false_iff.mp h), dif_neg (Nat.not_le.mpr htime)]
  dsimp only
  split
  · rename_i datagram found hr
    cases hreceive.symm.trans hr
    rfl
  · rename_i e found hr
    cases hreceive.symm.trans hr
    rfl

/-- What holds before a wait is over if it holds after its next receive holds before any wait. -/
theorem wait_induction (pace : Pace) (deadline : Nat) {motive : Link → Prop}
    (step : ∀ l : Link, (l.network.now < deadline →
      motive (l.receive (nextWait pace deadline l)).2 ∧
        motive (l.receive (nextWait pace deadline l)).2.countRetry) → motive l) (l : Link) :
    motive l := by
  -- A receive uses up an event or some of the time that is left.
  induction hpatience : l.network.patience deadline using Nat.strongRecOn generalizing l with
  | ind patience ih =>
  subst hpatience
  refine step l fun htime => ?_
  have hpos : 0 < nextWait pace deadline l := nextWait_pos htime
  have hlt := l.patience_receive_lt hpos htime
  exact ⟨ih _ hlt _ rfl, ih _ hlt _ rfl⟩

/-- A receive of a wait that was not cancelled and is not over: it waits for `wait` over the
network, which brings `found`, and it leaves `next`. -/
structure Polls (pace : Pace) (cancel : Option CancelToken) (deadline : Nat) (l : Link)
    (wait : Nat) (found : Except IoFailure Bytes) (next : Link) : Prop where
  live : l.isCancelled cancel = false
  in_time : l.network.now < deadline
  wait_eq : wait = l.carrier.wait (nextWait pace deadline l)
  found_eq : found = (l.network.receive wait).1
  next_eq : next = { l with network := (l.network.receive wait).2 }

theorem exists_polls (pace : Pace) (h : l.isCancelled cancel = false)
    (htime : l.network.now < deadline) :
    ∃ wait found,
      Polls pace cancel deadline l wait found (l.receive (nextWait pace deadline l)).2 ∧
      (l.receive (nextWait pace deadline l)).1 = found.mapError l.carrier.report :=
  ⟨_, _, ⟨h, htime, rfl, rfl, rfl⟩, rfl⟩

/-- How a wait ends, worked out along its receives: each of them either concludes the wait, or is
passed over and followed by the rest. -/
theorem ends_awaitAnswer (post : Link → Except Error (Option α) → Link → Prop)
    (cancelled : ∀ l, l.isCancelled cancel = true → post l (.error .cancelled) l)
    (late : ∀ l, l.isCancelled cancel = false → deadline ≤ l.network.now →
      post l (.ok none) l.countTimeout)
    (concluded : ∀ l wait found next r, Polls pace cancel deadline l wait found next →
      Concludes accept (found.mapError l.carrier.report) r → post l (r.map some) next)
    (passed : ∀ l wait found next again r t, Polls pace cancel deadline l wait found next →
      Ignored accept found → again = next ∨ again = next.countRetry → post again r t → post l r t)
    (l : Link) : Ends (awaitAnswer pace accept cancel deadline) l (post l) := by
  induction l using wait_induction pace deadline with
  | step l ih =>
  cases hc : l.isCancelled cancel with
  | true => exact .error (awaitAnswer_of_cancelled hc) (cancelled l hc)
  | false =>
  rcases Nat.lt_or_ge l.network.now deadline with htime | htime
  · obtain ⟨wait, found, hpolls, hfound⟩ := exists_polls pace hc htime
    obtain ⟨hnext, hretry⟩ := ih htime
    have hstep : awaitAnswer pace accept cancel deadline l = _ :=
      awaitAnswer_of_receive hc htime (Prod.ext hfound rfl)
    refine .congr hstep ?_
    rcases ignored_or_concludes accept (found.mapError l.carrier.report) with hignored | ⟨r, hr⟩
    · have hfound := ignored_report_iff.mp hignored
      rcases settle_of_ignored hignored with hagain | hagain
      · exact .congr (hagain _ _)
          (hnext.imp fun _ _ h => passed _ _ _ _ _ _ _ hpolls hfound (.inl rfl) h)
      · exact .congr (hagain _ _)
          (hretry.imp fun _ _ h => passed _ _ _ _ _ _ _ hpolls hfound (.inr rfl) h)
    · exact ends_settle hr (concluded _ _ _ _ _ hpolls hr)
  · exact .ok (awaitAnswer_of_late hc htime) (late l hc htime)

section Tries

variable {left : Nat} {failure : Option IoFailure} {sent : Bool}

/-- The error with which tries end that were not answered. -/
def verdict (maxTries : Nat) : Option IoFailure → Bool → Error
  | some e, false => .sendFailed e
  | _, _ => .noResponse maxTries

theorem attempts_zero :
    attempts pace accept cancel frame timeout maxTries 0 failure sent l =
      .error (verdict maxTries failure sent) l := by
  cases failure <;> cases sent <;> rfl

theorem attempts_of_cancelled (h : l.isCancelled cancel = true) :
    attempts pace accept cancel frame timeout maxTries (left + 1) failure sent l =
      .error .cancelled l := by
  rw [attempts, if_pos h]

theorem attempts_of_sendFailed {cause : IoFailure} (h : l.isCancelled cancel = false)
    (hsend : l.countSend.send frame = (.error cause, next)) :
    attempts pace accept cancel frame timeout maxTries (left + 1) failure sent l =
      attempts pace accept cancel frame timeout maxTries left (some cause) sent next := by
  rw [attempts, if_neg (Bool.eq_false_iff.mp h), hsend]

/-- What comes of a try whose frame was sent: an answer, or what comes of the tries after it. -/
def tryOn (pace : Pace) (accept : Acceptor α) (cancel : Option CancelToken) (frame : Bytes)
    (timeout maxTries left : Nat) (failure : Option IoFailure) (deadline : Nat) :
    EStateM Error Link α := do
  match ← awaitAnswer pace accept cancel deadline with
  | some answer => pure answer
  | none => attempts pace accept cancel frame timeout maxTries left failure true

theorem tryOn_eq :
    tryOn pace accept cancel frame timeout maxTries left failure deadline l =
      match awaitAnswer pace accept cancel deadline l with
      | .ok (some answer) t => .ok answer t
      | .ok none t => attempts pace accept cancel frame timeout maxTries left failure true t
      | .error e t => .error e t := by
  change EStateM.bind (awaitAnswer pace accept cancel deadline) _ l = _
  unfold EStateM.bind
  cases awaitAnswer pace accept cancel deadline l with
  | error e t => rfl
  | ok answer? t => cases answer? <;> rfl

theorem attempts_of_sent (h : l.isCancelled cancel = false)
    (hsend : l.countSend.send frame = (.ok (), next)) :
    attempts pace accept cancel frame timeout maxTries (left + 1) failure sent l =
      tryOn pace accept cancel frame timeout maxTries left failure (next.network.now + timeout)
        next := by
  rewrite [attempts, if_neg (Bool.eq_false_iff.mp h), hsend, tryOn_eq]
  rfl

/-- A send of an exchange that was not cancelled: `result` came of handing `frame` over to the
network, and `next` is left. -/
structure Transmits (cancel : Option CancelToken) (frame : Bytes) (l : Link)
    (result : Except IoFailure Unit) (next : Link) : Prop where
  live : l.isCancelled cancel = false
  result_eq : result = (l.network.send frame).1
  next_eq : next = { l.countSend with network := (l.network.send frame).2 }

theorem Transmits.countSend_eq {result : Except IoFailure Unit}
    (h : Transmits cancel frame l result next) :
    l.countSend.send frame = (result.mapError l.carrier.report, next) := by
  rw [h.result_eq, h.next_eq]
  rfl

/-- How tries end, worked out one try at a time: the frame cannot be sent, or the try is waited
for, and the tries that are left come after it unless it ends the exchange. -/
theorem ends_attempts_succ {post : Except Error α → Link → Prop}
    (cancelled : l.isCancelled cancel = true → post (.error .cancelled) l)
    (failed : ∀ cause next, Transmits cancel frame l (.error cause) next →
      Ends (attempts pace accept cancel frame timeout maxTries left
        (some (l.carrier.report cause)) sent) next post)
    (tried : ∀ next, Transmits cancel frame l (.ok ()) next →
      Ends (awaitAnswer pace accept cancel (next.network.now + timeout)) next fun r t =>
        match r with
        | .ok (some answer) => post (.ok answer) t
        | .ok none => Ends (attempts pace accept cancel frame timeout maxTries left failure true)
            t post
        | .error e => post (.error e) t) :
    Ends (attempts pace accept cancel frame timeout maxTries (left + 1) failure sent) l post := by
  cases hc : l.isCancelled cancel with
  | true => exact .error (attempts_of_cancelled hc) (cancelled hc)
  | false =>
    obtain ⟨result, next, h⟩ : ∃ result next, Transmits cancel frame l result next :=
      ⟨_, _, hc, rfl, rfl⟩
    cases result with
    | error cause => exact .congr (attempts_of_sendFailed hc h.countSend_eq) (failed _ _ h)
    | ok =>
      refine .congr (attempts_of_sent hc h.countSend_eq) ((ends_bind ..).mpr ?_)
      refine (tried _ h).imp fun r t ht => ?_
      rcases r with e | _ | answer <;> exact ht

end Tries

end Link
end Baseboard
