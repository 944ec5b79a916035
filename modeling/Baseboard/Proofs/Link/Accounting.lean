import Baseboard.Proofs.Link.Grain
import Baseboard.Proofs.Link.Handing
import Baseboard.Proofs.Link.Arrival

/-! What an exchange costs. A frame is sent a limited number of times, no wait is asked for that
goes beyond the end of its try, and when nothing that comes in ends the exchange, each frame that
was sent takes exactly the time of a try, unless the carrier draws out its last wait. -/
namespace Baseboard

namespace Action

def isSent : Action → Bool
  | sent _ => true
  | sendFailed _ _ => false
  | received _ _ => false

/-- Why a frame could not be sent, if it could not. -/
def failure? : Action → Option IoFailure
  | sent _ => none
  | sendFailed _ cause => some cause
  | received _ _ => none

/-- Whether a receive, if it failed, only failed in a way that an exchange goes on after. -/
def isHarmless : Action → Bool
  | sent _ => true
  | sendFailed _ _ => true
  | received _ (.ok _) => true
  | received _ (.error cause) => cause.isSpurious || cause.isTimeout

end Action

/-- How many frames were sent. -/
def delivered (actions : List Action) : Nat := actions.countP Action.isSent

@[simp] theorem delivered_sent (frame : Bytes) (later : List Action) :
    delivered (.sent frame :: later) = delivered later + 1 := List.countP_cons_of_pos rfl

@[simp] theorem delivered_sendFailed (frame : Bytes) (cause : IoFailure) (later : List Action) :
    delivered (.sendFailed frame cause :: later) = delivered later := List.countP_cons_of_neg nofun

@[simp] theorem delivered_received (wait : Nat) (outcome : Except IoFailure Bytes)
    (later : List Action) : delivered (.received wait outcome :: later) = delivered later :=
  List.countP_cons_of_neg nofun

/-- While a link waits, no frame is sent. -/
theorem delivered_append_of_waits {waited : List Action} (h : ∀ action ∈ waited, action.frame? = none)
    (later : List Action) : delivered (waited ++ later) = delivered later := by
  have hnone : waited.countP Action.isSent = 0 := by
    refine List.countP_eq_zero.mpr fun action haction => ?_
    have hframe := h action haction
    cases action with
    | sent => cases hframe
    | sendFailed => cases hframe
    | received => nofun
  rw [delivered, List.countP_append, hnone, Nat.zero_add, delivered]

/-- A frame that is handed over is sent, or fails to be. -/
theorem length_frames (actions : List Action) :
    (actions.filterMap Action.frame?).length =
      delivered actions + (actions.filterMap Action.failure?).length := by
  induction actions with
  | nil => rfl
  | cons action later ih =>
    cases action with
    | sent frame =>
      rw [delivered_sent]
      change (later.filterMap Action.frame?).length + 1 = _
      rw [ih]
      exact Nat.add_right_comm ..
    | sendFailed frame cause =>
      rw [delivered_sendFailed]
      exact congrArg (· + 1) ih
    | received wait outcome =>
      rw [delivered_received]
      exact ih

namespace Network

/-- From a network on which `actions` are done one after the other, with the try in hand ending at
`deadline`, they lead to the network `last`, and all waits are in time: each begins before the try
ends, and what the carrier is asked for is a `slice`, or what is left of the try if that is less. A
frame that is sent starts a new try. -/
def Paced (carrier : Carrier) (slice timeout : Nat) (last : Network) :
    Network → Nat → List Action → Prop
  | n, _, [] => n = last
  | n, _, .sent frame :: later =>
    Paced carrier slice timeout last (n.send frame).2 ((n.send frame).2.now + timeout) later
  | n, deadline, .sendFailed frame _ :: later =>
    Paced carrier slice timeout last (n.send frame).2 deadline later
  | n, deadline, .received wait _ :: later =>
    (n.now < deadline ∧ wait = carrier.wait (min (deadline - n.now) slice)) ∧
      Paced carrier slice timeout last (n.receive wait).2 deadline later

theorem now_send (n : Network) (frame : Bytes) : (n.send frame).2.now = n.now := by
  unfold send
  split <;> rfl

/-- A receive takes no longer than it may. -/
theorem now_receive_le (n : Network) (wait : Nat) : (n.receive wait).2.now ≤ n.now + wait := by
  change (n.await wait).2.now ≤ n.now + wait
  unfold await
  split
  · exact Nat.le_refl _
  · split
    · exact Nat.le_refl _
    · rename_i e _ _ hdue
      have hnow : n.now + e.delay ≤ n.now + wait := by omega
      cases e.cancels <;> exact hnow

/-- The time that passes is that of the frames that were sent, if no wait takes longer than what is
left of its try and `slack`. -/
theorem Paced.now_le {carrier : Carrier} {slice timeout deadline grain slack bound : Nat}
    {last n : Network} {actions : List Action}
    (h : Paced carrier slice timeout last n deadline actions)
    (hwait : ∀ left, 0 < left → grain ∣ left → grain ∣ carrier.wait (min left slice) ∧
      carrier.wait (min left slice) ≤ left + slack)
    (htimeout : grain ∣ timeout) (hgrained : n.Grained grain) (hleft : grain ∣ deadline - n.now)
    (hn : n.now ≤ bound) (hdeadline : n.now < deadline → deadline + slack ≤ bound) :
    last.now ≤ bound + (timeout + slack) * delivered actions := by
  induction actions generalizing n deadline bound with
  | nil =>
    cases h
    exact Nat.le_trans hn (Nat.le_add_right _ _)
  | cons action later ih =>
    cases action with
    | sent frame =>
      have hnow := n.now_send frame
      have hlater : last.now ≤ bound + (timeout + slack) + (timeout + slack) * delivered later :=
        ih h (hgrained.send frame) (by rwa [Nat.add_sub_cancel_left]) (by omega) (by omega)
      rw [delivered_sent, Nat.mul_succ]
      omega
    | sendFailed frame cause =>
      rw [delivered_sendFailed]
      rw [← n.now_send frame] at hleft hn hdeadline
      exact ih h (hgrained.send frame) hleft hn hdeadline
    | received wait outcome =>
      obtain ⟨⟨hbefore, rfl⟩, hlater⟩ := h
      obtain ⟨heven, hle⟩ := hwait _ (Nat.sub_pos_of_lt hbefore) hleft
      obtain ⟨hgrained, hleft⟩ := hgrained.receive heven hleft
      have hnow := n.now_receive_le (carrier.wait (min (deadline - n.now) slice))
      have hend := hdeadline hbefore
      rw [delivered_received]
      exact ih hlater hgrained hleft (by omega) fun _ => hend

end Network

namespace Link

variable {accept : Acceptor α} {cancel : Option CancelToken} {frame : Bytes} {slice : Slice}
  {deadline timeout wait : Nat} {l t next : Link}

/-- Nothing that came in ends an exchange: every datagram is passed over, and every failure of a
receive only means that the wait goes on. -/
structure Unanswered (accept : Acceptor α) (actions : List Action) : Prop where
  passed {wait : Nat} {datagram : Bytes} :
    .received wait (.ok datagram) ∈ actions → accept datagram = .ok none
  harmless {wait : Nat} {cause : IoFailure} :
    .received wait (.error cause) ∈ actions → cause.isSpurious = true ∨ cause.isTimeout = true

theorem Unanswered.of_append {first later : List Action} (h : Unanswered accept (first ++ later)) :
    Unanswered accept first ∧ Unanswered accept later :=
  ⟨⟨fun hmem => h.passed (List.mem_append_left _ hmem),
      fun hmem => h.harmless (List.mem_append_left _ hmem)⟩,
    ⟨fun hmem => h.passed (List.mem_append_right _ hmem),
      fun hmem => h.harmless (List.mem_append_right _ hmem)⟩⟩

theorem Unanswered.of_cons {action : Action} {later : List Action}
    (h : Unanswered accept (action :: later)) : Unanswered accept later := by
  have hsplit : Unanswered accept ([action] ++ later) := h
  exact hsplit.of_append.2

/-- How the rest of a try goes: the waits are in time, and if nothing ends it early, the time of
the try runs out. -/
structure Waited (slice : Slice) (deadline : Nat) (l : Link) (actions : List Action)
    (r : Except Error (Option α)) (t : Link) : Prop where
  did : Did l actions t
  carrier_eq : t.carrier = l.carrier
  waits : ∀ action ∈ actions, action.frame? = none
  paced {timeout : Nat} {last : Network} {later : List Action} :
    Network.Paced l.carrier slice.length timeout last t.network deadline later →
      Network.Paced l.carrier slice.length timeout last l.network deadline (actions ++ later)
  sends_eq : t.stats.sends = l.stats.sends
  ranOut : r = .ok none → deadline ≤ t.network.now ∧ t.stats.timeouts = l.stats.timeouts + 1

/-- The rest of a try ends early only when it is cancelled, or by something that comes in. -/
def WaitAccounted (slice : Slice) (accept : Acceptor α) (cancel : Option CancelToken)
    (deadline : Nat) (l : Link) (r : Except Error (Option α)) (t : Link) : Prop :=
  ∃ actions, Waited slice deadline l actions r t ∧
    (r = .ok none ∨ t.isCancelled cancel = true ∨ ¬ Unanswered accept actions)

theorem Unanswered.ignored {actions : List Action} {found : Except IoFailure Bytes}
    (h : Unanswered accept actions) (hmem : .received wait found ∈ actions) :
    Ignored accept found := by
  cases found with
  | ok datagram => exact .datagram (h.passed hmem)
  | error cause => exact (h.harmless hmem).elim .spurious .timeout

/-- What ends an exchange was not passed over. -/
theorem Concludes.not_unanswered {carrier : Carrier} {found : Except IoFailure Bytes}
    {r : Except Error α} (h : Concludes accept (found.mapError carrier.report) r) :
    ¬ Unanswered accept [.received wait found] := fun hquiet =>
  h.not_ignored (ignored_report_iff.mpr (hquiet.ignored List.mem_cons_self))

private theorem Waited.none_left {r : Except Error (Option α)} (hr : r ≠ .ok none) :
    Waited slice deadline l [] r l where
  did := .refl l
  carrier_eq := rfl
  waits := fun _ h => absurd h List.not_mem_nil
  paced hlater := hlater
  sends_eq := rfl
  ranOut h := absurd h hr

/-- A receive that is in time, before the rest of the try. -/
private theorem Waited.after_receive {found : Except IoFailure Bytes} {again : Link}
    {actions : List Action} {r : Except Error (Option α)}
    (hpolls : Polls slice cancel deadline l wait found next)
    (hagain : again = next ∨ again = next.countRetry)
    (h : Waited slice deadline again actions r t) :
    Waited slice deadline l (.received wait found :: actions) r t := by
  have hdid := hpolls.did
  have hwait : l.network.now < deadline ∧
      wait = l.carrier.wait (min (deadline - l.network.now) slice.length) :=
    ⟨hpolls.in_time, hpolls.wait_eq⟩
  have hwaits : ∀ action ∈ Action.received wait found :: actions, action.frame? = none :=
    List.forall_mem_cons.mpr ⟨rfl, h.waits⟩
  obtain rfl := hpolls.next_eq
  -- A failure that is counted changes nothing else.
  rcases hagain with rfl | rfl
  · exact ⟨hdid.trans h.did, h.carrier_eq, hwaits, fun hlater => ⟨hwait, h.paced hlater⟩,
      h.sends_eq, h.ranOut⟩
  · exact ⟨hdid.trans h.did, h.carrier_eq, hwaits, fun hlater => ⟨hwait, h.paced hlater⟩,
      h.sends_eq, h.ranOut⟩

theorem awaitAnswer_accounted (slice : Slice) (accept : Acceptor α) (cancel : Option CancelToken)
    (deadline : Nat) (l : Link) :
    Ends (awaitAnswer slice accept cancel deadline) l
      (WaitAccounted slice accept cancel deadline l) := by
  -- One receive is put before the rest of the try, or is the last one.
  refine ends_awaitAnswer (WaitAccounted slice accept cancel deadline) ?_ ?_ ?_ ?_ l
  · exact fun l hc => ⟨[], .none_left (by simp), .inr (.inl hc)⟩
  · intro l _ hd
    have hnothing :
        Waited slice deadline l [] (.ok none : Except Error (Option α)) l.countTimeout :=
      ⟨.refl l, rfl, fun _ h => absurd h List.not_mem_nil, id, rfl, fun _ => ⟨hd, rfl⟩⟩
    exact ⟨[], hnothing, .inl rfl⟩
  · intro l wait found next r hpolls hr
    have hnone : Waited slice deadline next [] (r.map some) next := .none_left <| by
      cases r <;> simp [Except.map]
    exact ⟨_, hnone.after_receive hpolls (.inl rfl), .inr (.inr hr.not_unanswered)⟩
  · intro l wait found next again r t hpolls _ hagain ⟨actions, h, hends⟩
    exact ⟨_, h.after_receive hpolls hagain, hends.imp_right (.imp_right (mt Unanswered.of_cons))⟩

theorem Waited.frames {actions : List Action} {r : Except Error (Option α)}
    (h : Waited slice deadline l actions r t) (frame : Bytes) (later : List Action) :
    ((Action.sent frame :: (actions ++ later)).filterMap Action.frame?).length =
      (later.filterMap Action.frame?).length + 1 := by
  have hfirst : (Action.sent frame).frame? = some frame := rfl
  rw [List.filterMap_cons_some hfirst, List.filterMap_append,
    List.filterMap_eq_nil_iff.mpr h.waits, List.nil_append, List.length_cons]

/-- Once a frame was sent, no failure to send another one is reported. -/
theorem verdict_sent (maxTries : Nat) (failure : Option IoFailure) :
    verdict maxTries failure true = .noResponse maxTries := by
  cases failure <;> rfl

/-- How the tries that are left go when nothing ends them early. -/
structure Exhausted (timeout maxTries left : Nat) (failure : Option IoFailure) (sent : Bool)
    (l : Link) (actions : List Action) (r : Except Error α) (t : Link) : Prop where
  attempts_eq : (actions.filterMap Action.frame?).length = left
  timeouts_eq : t.stats.timeouts = l.stats.timeouts + delivered actions
  le_now : l.network.now + timeout * delivered actions ≤ t.network.now
  outcome_eq : r = .error (verdict maxTries
    (((actions.filterMap Action.failure?).getLast?.map l.carrier.report).or failure)
    (sent || 0 < delivered actions))

/-- How the tries that are left are accounted for. -/
structure Tried (slice : Slice) (accept : Acceptor α) (cancel : Option CancelToken)
    (timeout maxTries left : Nat) (failure : Option IoFailure) (sent : Bool) (l : Link)
    (actions : List Action) (r : Except Error α) (t : Link) : Prop where
  did : Did l actions t
  paced (deadline : Nat) :
    Network.Paced l.carrier slice.length timeout t.network l.network deadline actions
  sends_eq : t.stats.sends = l.stats.sends + (actions.filterMap Action.frame?).length
  attempts_le : (actions.filterMap Action.frame?).length ≤ left
  exhausted : t.isCancelled cancel = false → Unanswered accept actions →
    Exhausted timeout maxTries left failure sent l actions r t

/-- The tries that are left are put on record, and are exhausted unless something ends them. -/
def TriesAccounted (slice : Slice) (accept : Acceptor α) (cancel : Option CancelToken)
    (timeout maxTries left : Nat) (failure : Option IoFailure) (sent : Bool) (l : Link)
    (r : Except Error α) (t : Link) : Prop :=
  ∃ actions, Tried slice accept cancel timeout maxTries left failure sent l actions r t

section Tries

variable {maxTries left : Nat} {failure : Option IoFailure} {sent : Bool} {waited : List Action}
  {r : Except Error α} {again : Link} {cause : IoFailure}

private theorem TriesAccounted.none_left (verdict_eq : r = .error (verdict maxTries failure sent)) :
    TriesAccounted slice accept cancel timeout maxTries 0 failure sent l r l := by
  refine ⟨[], .refl l, fun _ => rfl, rfl, Nat.le_refl 0,
    fun _ _ => ⟨rfl, rfl, Nat.le_refl _, ?_⟩⟩
  simpa [delivered] using verdict_eq

private theorem TriesAccounted.cancelled (h : l.isCancelled cancel = true) :
    TriesAccounted slice accept cancel timeout maxTries left failure sent l r l :=
  ⟨[], .refl l, fun _ => rfl, rfl, Nat.zero_le left,
    fun hlive => absurd (h.symm.trans hlive) nofun⟩

/-- A try whose frame cannot be sent, before the tries after it. -/
private theorem TriesAccounted.after_failure (hsent : Transmits cancel frame l (.error cause) next)
    (h : TriesAccounted slice accept cancel timeout maxTries left (some (l.carrier.report cause)) sent
      next r t) :
    TriesAccounted slice accept cancel timeout maxTries (left + 1) failure sent l r t := by
  obtain ⟨actions, h⟩ := h
  have hdid := hsent.did
  obtain rfl := hsent.next_eq
  refine ⟨.sendFailed frame cause :: actions, hdid.trans h.did, h.paced, ?_,
    Nat.succ_le_succ h.attempts_le, fun hlive hquiet => ?_⟩
  · have hsends := h.sends_eq
    change t.stats.sends = l.stats.sends + 1 + (actions.filterMap Action.frame?).length at hsends
    change t.stats.sends = l.stats.sends + ((actions.filterMap Action.frame?).length + 1)
    omega
  · obtain ⟨hattempts, htimeouts, hnow, hr⟩ := h.exhausted hlive hquiet.of_cons
    refine ⟨congrArg (· + 1) hattempts, ?_, ?_, ?_⟩
    · rw [delivered_sendFailed, htimeouts]
      rfl
    · have hsend : (l.network.send frame).2.now = l.network.now := l.network.now_send frame
      rw [delivered_sendFailed]
      rwa [hsend] at hnow
    · have hcauses : (Action.sendFailed frame cause :: actions).filterMap Action.failure? =
          cause :: actions.filterMap Action.failure? := List.filterMap_cons_some rfl
      rw [delivered_sendFailed, hr, hcauses, List.getLast?_cons]
      cases (actions.filterMap Action.failure?).getLast? <;> rfl

/-- A try that times out, before the tries after it. -/
private theorem TriesAccounted.after_timeout (hsent : Transmits cancel frame l (.ok ()) next)
    (hwaited : Waited slice (next.network.now + timeout) next waited
      (.ok none : Except Error (Option α)) again)
    (h : TriesAccounted slice accept cancel timeout maxTries left failure true again r t) :
    TriesAccounted slice accept cancel timeout maxTries (left + 1) failure sent l r t := by
  obtain ⟨actions, h⟩ := h
  have hframes := hwaited.frames frame actions
  have hdelivered : delivered (.sent frame :: (waited ++ actions)) = delivered actions + 1 := by
    rw [delivered_sent, delivered_append_of_waits hwaited.waits]
  obtain ⟨hlate, hcounted⟩ := hwaited.ranOut rfl
  have hdid := hsent.did
  obtain rfl := hsent.next_eq
  refine ⟨.sent frame :: (waited ++ actions), (hdid.trans hwaited.did).trans h.did,
    fun _ => hwaited.paced (hwaited.carrier_eq ▸ h.paced _), ?_,
    hframes ▸ Nat.succ_le_succ h.attempts_le, fun hlive hquiet => ?_⟩
  · have hsends : again.stats.sends = l.stats.sends + 1 := hwaited.sends_eq
    rw [h.sends_eq, hsends, hframes]
    omega
  · obtain ⟨hattempts, htimeouts, hnow, hr⟩ := h.exhausted hlive hquiet.of_cons.of_append.2
    refine ⟨?_, ?_, ?_, ?_⟩
    · rw [hframes, hattempts]
    · have hagain : again.stats.timeouts = l.stats.timeouts + 1 := hcounted
      rw [hdelivered, htimeouts, hagain]
      omega
    · have hsend : (l.network.send frame).2.now = l.network.now := l.network.now_send frame
      dsimp only at hlate
      rw [hdelivered, Nat.mul_succ]
      omega
    · -- From here on the verdict does not depend on the sends that fail.
      rw [hr, hdelivered, Bool.true_or, decide_eq_true (Nat.succ_pos _), Bool.or_true, verdict_sent,
        verdict_sent]

/-- The last try, when its wait ends early. -/
private theorem TriesAccounted.of_last {answer? : Except Error (Option α)}
    (hsent : Transmits cancel frame l (.ok ()) next)
    (hwaited : Waited slice (next.network.now + timeout) next waited answer? t)
    (hends : t.isCancelled cancel = true ∨ ¬ Unanswered accept waited) :
    TriesAccounted slice accept cancel timeout maxTries (left + 1) failure sent l r t := by
  have hframes := hwaited.frames frame []
  have hdid := hsent.did
  obtain rfl := hsent.next_eq
  have hall : Did l (.sent frame :: (waited ++ [])) t := by
    rw [List.append_nil]
    exact hdid.trans hwaited.did
  refine ⟨.sent frame :: (waited ++ []), hall, fun _ => hwaited.paced rfl, ?_,
    hframes ▸ Nat.succ_le_succ (Nat.zero_le left), fun hlive hquiet => ?_⟩
  · rw [hwaited.sends_eq, hframes]
    rfl
  · rcases hends with hcancelled | hends
    · exact absurd (hcancelled.symm.trans hlive) nofun
    · exact absurd hquiet.of_cons.of_append.1 hends

end Tries

theorem attempts_accounted (slice : Slice) (accept : Acceptor α) (cancel : Option CancelToken)
    (frame : Bytes) (timeout maxTries left : Nat) (failure : Option IoFailure) (sent : Bool)
    (l : Link) :
    Ends (attempts slice accept cancel frame timeout maxTries left failure sent) l
      (TriesAccounted slice accept cancel timeout maxTries left failure sent l) := by
  -- By induction on the tries that are left, whatever became of those before.
  induction left generalizing failure sent l with
  | zero => exact .error attempts_zero (.none_left rfl)
  | succ left ih =>
    refine ends_attempts_succ .cancelled (fun cause next hsent => ?_) fun next hsent => ?_
    · exact (ih _ _ next).imp fun _ _ h => h.after_failure hsent
    · refine (awaitAnswer_accounted ..).imp fun r t ⟨waited, hwaited, hends⟩ => ?_
      rcases r with e | _ | answer
      · exact .of_last hsent hwaited (hends.resolve_left (by simp))
      · exact (ih failure true t).imp fun _ _ h => h.after_timeout hsent hwaited
      · exact .of_last hsent hwaited (hends.resolve_left (by simp))

/-- The time that passes is that of the frames that were sent, but for what the carrier draws the
last waits of their tries out by. -/
theorem Tried.now_le {maxTries left : Nat} {failure : Option IoFailure} {sent : Bool}
    {actions : List Action} {r : Except Error α}
    (h : Tried pollSlice accept cancel timeout maxTries left failure sent l actions r t) :
    t.network.now ≤ l.network.now + (timeout + l.carrier.overrun) * delivered actions ∧
      (l.Punctual timeout → t.network.now ≤ l.network.now + timeout * delivered actions) := by
  have hpaced := h.paced l.network.now
  have hstart (grain : Nat) : grain ∣ l.network.now - l.network.now := by
    rw [Nat.sub_self]
    exact Nat.dvd_zero grain
  have hnone {slack : Nat} : l.network.now < l.network.now →
      l.network.now + slack ≤ l.network.now := fun h => absurd h (Nat.lt_irrefl _)
  constructor
  · refine hpaced.now_le (fun left hleft _ => ⟨Nat.one_dvd _, ?_⟩) (Nat.one_dvd _)
      l.network.grained_one (hstart 1) (Nat.le_refl _) hnone
    have hwait := l.carrier.wait_le (Nat.lt_min.mpr ⟨hleft, pollSlice.pos⟩)
    exact Nat.le_trans hwait (Nat.add_le_add_right (Nat.min_le_left ..) _)
  · intro hpunctual
    obtain ⟨grain, htimeout, hslice, hgrained, hwhole⟩ := hpunctual.exists_grain
    have hle : t.network.now ≤ l.network.now + (timeout + 0) * delivered actions := by
      refine hpaced.now_le (fun left hleft heven => ?_) htimeout hgrained (hstart grain)
        (Nat.le_refl _) hnone
      have hmin : grain ∣ min left pollSlice.length := by
        rcases Nat.le_total left pollSlice.length with hle | hle
        · rwa [Nat.min_eq_left hle]
        · rwa [Nat.min_eq_right hle]
      rw [hwhole _ (Nat.lt_min.mpr ⟨hleft, pollSlice.pos⟩) hmin]
      exact ⟨hmin, Nat.min_le_left ..⟩
    exact hle

theorem exchange_tried (accept : Acceptor α) (cancel : Option CancelToken) (frame : Bytes)
    (timeout tries : Nat) (l : Link) :
    Ends (exchange accept cancel frame timeout tries) l
      (TriesAccounted pollSlice accept cancel timeout (max tries 1) (max tries 1) none false l) :=
  attempts_accounted pollSlice accept cancel frame timeout (max tries 1) (max tries 1) none false l

/-- An exchange of one try that was not cancelled before it began hands its frame over once. -/
theorem exchange_handsOnce {tries : Nat} (h : l.isCancelled cancel = false) (htries : tries ≤ 1) :
    Ends (exchange accept cancel frame timeout tries) l fun _ t =>
      ∃ actions, Did l actions t ∧ actions.filterMap Action.frame? = [frame] := by
  have htried := exchange_tried accept cancel frame timeout tries l
  rw [Nat.max_eq_right htries] at htried
  refine ((exchange_hands h).and htried).imp fun _ t ht => ?_
  obtain ⟨⟨actions, hdid, action, haction, hframe⟩, others, hothers⟩ := ht
  obtain rfl : others = actions := hothers.did.unique hdid
  have hmem : frame ∈ others.filterMap Action.frame? :=
    List.mem_filterMap.mpr ⟨action, haction, hframe⟩
  refine ⟨others, hdid, ?_⟩
  obtain ⟨only, honly⟩ := List.length_eq_one_iff.mp
    (Nat.le_antisymm hothers.attempts_le (List.length_pos_of_mem hmem))
  rw [honly] at hmem ⊢
  rw [List.mem_singleton.mp hmem]

/-- However an exchange ends, its frame is sent a limited number of times, every wait is in time,
and no more time passes than that of the frames that were sent. An exchange that is not cancelled,
and that nothing ends which comes in, makes all its tries and takes exactly that time. Only over a
socket, and only if not everything happens after whole milliseconds, each frame that was sent may
take almost a millisecond longer. -/
theorem exchange_accounted (accept : Acceptor α) (cancel : Option CancelToken) (frame : Bytes)
    (timeout tries : Nat) (l : Link) :
    Ends (exchange accept cancel frame timeout tries) l fun r t => ∃ actions, Did l actions t ∧
      (∀ handed ∈ actions.filterMap Action.frame?, handed = frame) ∧
      (actions.filterMap Action.frame?).length ≤ max 1 tries ∧
      t.stats.sends = l.stats.sends + (actions.filterMap Action.frame?).length ∧
      Network.Paced l.carrier (100 * millisecond) timeout t.network l.network l.network.now
        actions ∧
      t.network.now ≤ l.network.now + (timeout + l.carrier.overrun) * delivered actions ∧
      (l.Punctual timeout → t.network.now ≤ l.network.now + timeout * delivered actions) ∧
      (t.isCancelled cancel = false → Unanswered accept actions →
        (actions.filterMap Action.frame?).length = max 1 tries ∧
        t.stats.timeouts = l.stats.timeouts + delivered actions ∧
        l.network.now + timeout * delivered actions ≤ t.network.now ∧
        (l.Punctual timeout → t.network.now = l.network.now + timeout * delivered actions) ∧
        (0 < delivered actions → r = .error (.noResponse (max 1 tries))) ∧
        (delivered actions = 0 → ∃ cause,
          (actions.filterMap Action.failure?).getLast? = some cause ∧
            r = .error (.sendFailed (l.carrier.report cause)))) := by
  have htried := exchange_tried accept cancel frame timeout tries l
  rw [Nat.max_comm tries 1] at htried
  refine (htried.and (exchange_recorded accept cancel frame timeout tries l)).imp ?_
  rintro r t ⟨⟨actions, h⟩, framed, hframed, hown, -⟩
  obtain rfl : framed = actions := hframed.drop_eq.symm.trans h.did.drop_eq
  obtain ⟨hnow, hpunctual⟩ := h.now_le
  refine ⟨framed, h.did, ?_, h.attempts_le, h.sends_eq, h.paced _, hnow, hpunctual,
    fun hlive hquiet => ?_⟩
  · intro handed hhanded
    obtain ⟨action, haction, hhands⟩ := List.mem_filterMap.mp hhanded
    exact hown action haction handed hhands
  · obtain ⟨hattempts, htimeouts, hle, hr⟩ := h.exhausted hlive hquiet
    refine ⟨hattempts, htimeouts, hle, fun h => Nat.le_antisymm (hpunctual h) hle, fun hpos => ?_,
      fun hnone => ?_⟩
    · rw [hr, Bool.false_or, decide_eq_true hpos, verdict_sent]
    · have hfailures : (framed.filterMap Action.failure?).length = max 1 tries := by
        rw [← hattempts, length_frames, hnone, Nat.zero_add]
      cases hlast : (framed.filterMap Action.failure?).getLast? with
      | none =>
        rw [List.getLast?_eq_none_iff.mp hlast] at hfailures
        exact absurd (Nat.le_max_left 1 tries) (hfailures ▸ Nat.not_succ_le_zero 0)
      | some cause =>
        rw [hlast, hnone] at hr
        exact ⟨cause, rfl, hr⟩

/-- A link whose first frame cannot be sent. The second brings a datagram after a slice and a
half, then a spurious failure, then a datagram that comes in only during the third try. -/
def unheeded : Link :=
  .ofNetwork .plain { script := [.failed ⟨.permissionDenied, "denied"⟩, .accepted
    [.ofDatagram (150 * millisecond) [1],
      ⟨0, false, .failure ⟨.connectionRefused, "refused"⟩⟩, .ofDatagram (130 * millisecond) [2]]] }

/-- Three tries of a quarter of a second, of which one fails at once, take half a second. -/
theorem exchange_accounted_unheeded : ∃ t actions,
    exchange (fun _ => .ok none : Acceptor Bytes) none [0] (250 * millisecond) 3 unheeded =
        .error (.noResponse 3) t ∧
      Did unheeded actions t ∧ Unanswered (fun _ => .ok none : Acceptor Bytes) actions ∧
      (actions.filterMap Action.frame?).length = 3 ∧ delivered actions = 2 ∧
      t.network.waits = [100, 100, 100, 100, 100, 100, 100, 20].map (· * millisecond) ∧
      t.stats.timeouts = 2 ∧ t.network.now = 500 * millisecond := by
  let ignored : EStateM Error Link Bytes :=
    exchange (fun _ => .ok none) none [0] (250 * millisecond) 3
  have hended : ignored unheeded = .error (.noResponse 3) (after ignored unheeded) :=
    eq_error_of_failsWith (by decide +kernel)
  obtain ⟨actions, hdid, -, -, -, -, -, -, hall⟩ :=
    (exchange_accounted (fun _ => .ok none) none [0] (250 * millisecond) 3 unheeded).of_error hended
  have hactions : (after ignored unheeded).network.trace = actions := hdid
  have hharmless : ∀ action ∈ actions, action.isHarmless = true := by
    rw [← hactions]
    exact List.all_eq_true.mp (by decide +kernel)
  have hquiet : Unanswered (fun _ => .ok none : Acceptor Bytes) actions :=
    ⟨fun _ => rfl, fun hmem => Bool.or_eq_true_iff.mp (hharmless _ hmem)⟩
  obtain ⟨hattempts, htimeouts, -, hexact, -, -⟩ := hall rfl hquiet
  have hdelivered : delivered actions = 2 := by
    rw [← hactions]
    decide +kernel
  have hnow := hexact (.inl rfl)
  rw [hdelivered] at htimeouts hnow
  exact ⟨_, actions, hended, hdid, hquiet, hattempts, hdelivered, by decide +kernel, htimeouts,
    hnow⟩

end Link
end Baseboard
