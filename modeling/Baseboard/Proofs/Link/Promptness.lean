import Baseboard.Proofs.Link.Accounting
import Baseboard.Proofs.Link.Waiting

/-! Cancellation of an exchange. Nothing more is started once the token is cancelled, and a deadline
is overrun by less than a slice. What comes in during the receive that the cancellation falls into
may still end the exchange. -/
namespace Baseboard

namespace Network

variable {token : CancelToken} {carrier : Carrier} {n last : Network}
  {slice timeout deadline : Nat} {actions first later : List Action}

/-- The network once an action is done that is started on it. -/
def act (n : Network) : Action → Network
  | .sent frame => (n.send frame).2
  | .sendFailed frame _ => (n.send frame).2
  | .received wait _ => (n.receive wait).2

/-- The network once `actions` are done one after the other. -/
def replay (n : Network) (actions : List Action) : Network := actions.foldl act n

@[simp] theorem replay_append (n : Network) (first later : List Action) :
    n.replay (first ++ later) = (n.replay first).replay later := List.foldl_append

/-- Each of `actions`, which are done one after the other, is started before `token` is
cancelled. -/
def StartsLive (token : CancelToken) : Network → List Action → Prop
  | _, [] => True
  | n, action :: later => n.isCancelled token = false ∧ StartsLive token (n.act action) later

theorem startsLive_append : StartsLive token n (first ++ later) ↔
    StartsLive token n first ∧ StartsLive token (n.replay first) later := by
  induction first generalizing n with
  | nil => exact (true_and _).to_iff.symm
  | cons action first ih =>
    rw [List.cons_append, StartsLive, StartsLive, ih, and_assoc]
    rfl

/-- Nothing comes after the cancellation. -/
theorem StartsLive.eq_nil (h : StartsLive token n (first ++ later))
    (hcancelled : (n.replay first).isCancelled token = true) : later = [] := by
  obtain ⟨-, h⟩ := startsLive_append.mp h
  cases later with
  | nil => rfl
  | cons action later => exact absurd (hcancelled.symm.trans h.1) nofun

theorem Paced.replay_eq (h : Paced carrier slice timeout last n deadline actions) :
    n.replay actions = last := by
  induction actions generalizing n deadline with
  | nil => exact h
  | cons action later ih =>
    cases action with
    | sent frame => exact ih h
    | sendFailed frame cause => exact ih h
    | received wait outcome => exact ih h.2

/-- Less than a slice passes after the deadline of a token, if the carrier draws out no slice: a
receive that goes beyond the deadline was started before. -/
theorem StartsLive.now_lt {limit : Nat} (h : StartsLive ⟨some limit⟩ n actions)
    (hpaced : Paced carrier slice timeout last n deadline actions)
    (hslice : carrier.wait slice = slice) (hn : n.now < limit + slice) :
    last.now < limit + slice := by
  induction actions generalizing n deadline with
  | nil =>
    cases hpaced
    exact hn
  | cons action later ih =>
    obtain ⟨hlive, hlater⟩ := h
    have hsend (frame : Bytes) : (n.send frame).2.now < limit + slice := by
      rw [n.now_send]
      exact hn
    cases action with
    | sent frame => exact ih hlater hpaced (hsend frame)
    | sendFailed frame _ => exact ih hlater hpaced (hsend frame)
    | received wait outcome =>
      obtain ⟨⟨-, hwait⟩, hpaced⟩ := hpaced
      have hwithin : carrier.wait (min (deadline - n.now) slice) ≤ carrier.wait slice :=
        carrier.wait_mono (Nat.min_le_right ..)
      have hbefore : n.now < limit := by
        rw [isCancelled, Bool.or_eq_false_iff] at hlive
        exact Nat.lt_of_not_le (of_decide_eq_false hlive.2)
      have hnow : (n.act (.received wait outcome)).now ≤ n.now + wait := n.now_receive_le wait
      exact ih hlater hpaced (by omega)

theorem isCancelled_send (n : Network) (frame : Bytes) (token : CancelToken) :
    (n.send frame).2.isCancelled token = n.isCancelled token := by
  unfold send
  split <;> rfl

end Network

namespace Link

variable {α : Type} {pace : Pace} {accept : Acceptor α} {carrier : Carrier} {token : CancelToken}
  {frame : Bytes} {deadline timeout maxTries wait : Nat} {l m t next : Link}
  {actions first later : List Action}

/-- `actions` lead from `l` to `t`, and each of them was started before `token` was cancelled. -/
structure Heeds (token : CancelToken) (l : Link) (actions : List Action) (t : Link) : Prop where
  did : Did l actions t
  carrier_eq : t.carrier = l.carrier
  replay_eq : l.network.replay actions = t.network
  startsLive : Network.StartsLive token l.network actions

namespace Heeds

theorem refl (token : CancelToken) (l : Link) : Heeds token l [] l := ⟨.refl l, rfl, rfl, trivial⟩

theorem trans (h : Heeds token l first m) (h' : Heeds token m later t) :
    Heeds token l (first ++ later) t := by
  refine ⟨h.did.trans h'.did, h'.carrier_eq.trans h.carrier_eq, ?_,
    Network.startsLive_append.mpr ⟨h.startsLive, ?_⟩⟩
  · rw [Network.replay_append, h.replay_eq, h'.replay_eq]
  · rw [h.replay_eq]
    exact h'.startsLive

theorem of_polls {found : Except IoFailure Bytes}
    (h : Polls pace (some token) deadline l wait found next) :
    Heeds token l [.received wait found] next := by
  have hdid := h.did
  obtain rfl := h.next_eq
  exact ⟨hdid, rfl, rfl, h.live, trivial⟩

theorem of_transmits {result : Except IoFailure Unit}
    (h : Transmits (some token) frame l result next) :
    Heeds token l [.ofSend frame result] next := by
  have hdid := h.did
  obtain rfl := h.next_eq
  refine ⟨hdid, rfl, ?_, h.live, trivial⟩
  cases result <;> rfl

end Heeds

/-- The last of `actions` received what the exchange ended with. -/
def EndsOn (accept : Acceptor α) (carrier : Carrier) (actions : List Action) (r : Except Error α) :
    Prop :=
  ∃ before wait outcome, actions = before ++ [.received wait outcome] ∧
    Concludes accept (outcome.mapError carrier.report) r

theorem EndsOn.append {r : Except Error α} (h : EndsOn accept carrier later r)
    (first : List Action) : EndsOn accept carrier (first ++ later) r := by
  obtain ⟨before, wait, outcome, rfl, h⟩ := h
  exact ⟨first ++ before, wait, outcome, (List.append_assoc ..).symm, h⟩

/-- How the rest of a try ends under a token: out of time, cancelled, or with what came in. -/
inductive WaitEnds (accept : Acceptor α) (carrier : Carrier) (token : CancelToken)
    (actions : List Action) (t : Link) : Except Error (Option α) → Prop where
  | ranOut (h : t.network.isCancelled token = false) :
      WaitEnds accept carrier token actions t (.ok none)
  | cancelled (h : t.network.isCancelled token = true) :
      WaitEnds accept carrier token actions t (.error .cancelled)
  | concluded {r : Except Error α} (h : EndsOn accept carrier actions r) :
      WaitEnds accept carrier token actions t (r.map some)

theorem WaitEnds.append {r : Except Error (Option α)}
    (h : WaitEnds accept carrier token later t r) (first : List Action) :
    WaitEnds accept carrier token (first ++ later) t r := by
  cases h with
  | ranOut h => exact .ranOut h
  | cancelled h => exact .cancelled h
  | concluded h => exact .concluded (h.append first)

/-- The rest of a try heeds the token. -/
def WaitHeeds (accept : Acceptor α) (token : CancelToken) (l : Link)
    (r : Except Error (Option α)) (t : Link) : Prop :=
  ∃ actions, Heeds token l actions t ∧ WaitEnds accept l.carrier token actions t r

theorem awaitAnswer_heeds (pace : Pace) (accept : Acceptor α) (token : CancelToken)
    (deadline : Nat) (l : Link) :
    Ends (awaitAnswer pace accept (some token) deadline) l (WaitHeeds accept token l) := by
  -- The token is looked at before each receive, and again when the time is up.
  refine ends_awaitAnswer (WaitHeeds accept token) ?_ ?_ ?_ ?_ l
  · exact fun l hc => ⟨[], .refl token l, .cancelled hc⟩
  · exact fun l hc _ => ⟨[], ⟨.refl l, rfl, rfl, trivial⟩, .ranOut hc⟩
  · exact fun l wait found next r hpolls hr =>
      ⟨_, .of_polls hpolls, .concluded ⟨[], wait, found, rfl, hr⟩⟩
  · intro l wait found next again r t hpolls _ hagain ⟨actions, h, hends⟩
    have hfirst : Heeds token l [.received wait found] next := .of_polls hpolls
    -- A failure that is counted changes nothing else.
    have hcounted : Heeds token l [.received wait found] again := by
      rcases hagain with rfl | rfl
      · exact hfirst
      · exact ⟨hfirst.did, hfirst.carrier_eq, hfirst.replay_eq, hfirst.startsLive⟩
    rw [hcounted.carrier_eq] at hends
    exact ⟨_, hcounted.trans h, hends.append _⟩

/-- A wait whose time runs out was not cancelled. -/
theorem isCancelled_of_ranOut {cancel : Option CancelToken}
    (h : awaitAnswer pace accept cancel deadline l = .ok none t) :
    t.isCancelled cancel = false := by
  cases cancel with
  | none => rfl
  | some token =>
  obtain ⟨actions, -, hends⟩ := (awaitAnswer_heeds pace accept token deadline l).of_ok h
  generalize hr : (.ok none : Except Error (Option α)) = r at hends
  cases hends with
  | ranOut hlive => exact hlive
  | cancelled _ => cases hr
  | @concluded r _ => cases r <;> cases hr

/-- How tries end under a token: all of them spent in vain, cancelled, or with what came in. -/
inductive TriesEnd (accept : Acceptor α) (carrier : Carrier) (token : CancelToken) (maxTries : Nat)
    (actions : List Action) (t : Link) : Except Error α → Prop where
  | spent {failure : Option IoFailure} {sent : Bool} (h : t.network.isCancelled token = false) :
      TriesEnd accept carrier token maxTries actions t (.error (verdict maxTries failure sent))
  | cancelled (h : t.network.isCancelled token = true) :
      TriesEnd accept carrier token maxTries actions t (.error .cancelled)
  | concluded {r : Except Error α} (h : EndsOn accept carrier actions r) :
      TriesEnd accept carrier token maxTries actions t r

theorem TriesEnd.append {r : Except Error α}
    (h : TriesEnd accept carrier token maxTries later t r) (first : List Action) :
    TriesEnd accept carrier token maxTries (first ++ later) t r := by
  cases h with
  | spent h => exact .spent h
  | cancelled h => exact .cancelled h
  | concluded h => exact .concluded (h.append first)

/-- The tries that are left heed the token. -/
def TriesHeed (accept : Acceptor α) (token : CancelToken) (maxTries : Nat) (l : Link)
    (r : Except Error α) (t : Link) : Prop :=
  ∃ actions, Heeds token l actions t ∧ TriesEnd accept l.carrier token maxTries actions t r

theorem attempts_heed (pace : Pace) (accept : Acceptor α) (token : CancelToken) (frame : Bytes)
    (timeout maxTries left : Nat) (failure : Option IoFailure) (sent : Bool) (l : Link)
    (hlive : left = 0 → l.network.isCancelled token = false) :
    Ends (attempts pace accept (some token) frame timeout maxTries left failure sent) l
      (TriesHeed accept token maxTries l) := by
  induction left generalizing failure sent l with
  | zero => exact .error attempts_zero ⟨[], .refl token l, .spent (hlive rfl)⟩
  | succ left ih =>
    have hsends {result : Except IoFailure Unit} {next : Link}
        (h : Transmits (some token) frame l result next) :
        Heeds token l [.ofSend frame result] next ∧ next.network.isCancelled token = false := by
      refine ⟨.of_transmits h, ?_⟩
      rw [h.next_eq]
      exact (l.network.isCancelled_send frame token).trans h.live
    refine ends_attempts_succ (fun hc => ⟨[], .refl token l, .cancelled hc⟩)
      (fun cause next hsent => ?_) fun next hsent => ?_
    · obtain ⟨hfirst, hnext⟩ := hsends hsent
      refine (ih _ sent next fun _ => hnext).imp ?_
      rintro r t ⟨actions, hactions, hends⟩
      rw [hfirst.carrier_eq] at hends
      exact ⟨_, hfirst.trans hactions, hends.append _⟩
    · obtain ⟨hfirst, -⟩ := hsends hsent
      refine (awaitAnswer_heeds pace accept token _ next).imp ?_
      rintro r t ⟨waited, hwaited, hends⟩
      have hwaited := hfirst.trans hwaited
      rw [hfirst.carrier_eq] at hends
      cases hends with
      | ranOut hlive =>
        refine (ih failure true t fun _ => hlive).imp ?_
        rintro r u ⟨actions, hactions, hends⟩
        rw [hwaited.carrier_eq] at hends
        exact ⟨_, hwaited.trans hactions, hends.append _⟩
      | cancelled h => exact ⟨_, hwaited, .cancelled h⟩
      | @concluded r h => cases r <;> exact ⟨_, hwaited, .concluded (h.append _)⟩

/-- A cancelled exchange ends as cancelled, unless the very receive during which the token was
cancelled brought what the exchange ended with. -/
theorem TriesEnd.of_cancelled {r : Except Error α}
    (h : TriesEnd accept carrier token maxTries actions t r)
    (hcancelled : t.network.isCancelled token = true) :
    r = .error .cancelled ∨ EndsOn accept carrier actions r := by
  cases h with
  | spent hlive => exact absurd (hcancelled.symm.trans hlive) nofun
  | cancelled _ => exact .inl rfl
  | concluded h => exact .inr h

/-- An exchange that ends as cancelled was cancelled, unless whoever looks at the datagrams says
so. -/
theorem TriesEnd.noticed
    (h : TriesEnd accept carrier token maxTries actions t (.error .cancelled : Except Error α)) :
    t.network.isCancelled token = true ∨ ∃ datagram, accept datagram = .error .cancelled := by
  generalize hr : (.error .cancelled : Except Error α) = r at h
  cases h with
  | @spent failure sent _ =>
    have hverdict := Except.error.inj hr
    cases failure <;> cases sent <;> cases hverdict
  | cancelled h => exact .inl h
  | concluded h =>
    subst hr
    obtain ⟨before, wait, outcome, -, hconcludes⟩ := h
    rcases hconcludes.refused_or_failed with hrefused | ⟨cause, hcause⟩
    · exact .inr hrefused
    · cases hcause

/-- Under a token, an exchange starts nothing once the token is cancelled. It then ends as
cancelled, unless the receive during which the token was cancelled brought an answer, a datagram
that was refused, or a fatal failure. So it does not end because its tries were spent. And it does
not end as cancelled, of its own accord, under a token that is not cancelled by then. An exchange
whose token is cancelled before it begins leaves the link as it is, and one whose token has a
deadline to come ends less than a slice after that deadline. -/
theorem exchange_prompt (accept : Acceptor α) (token : CancelToken) (frame : Bytes)
    (timeout tries : Nat) (l : Link) :
    Ends (exchange accept (some token) frame timeout tries) l fun r t => ∃ actions,
      Did l actions t ∧ l.network.replay actions = t.network ∧
      (∀ first later, actions = first ++ later →
        (l.network.replay first).isCancelled token = true → later = []) ∧
      (t.network.isCancelled token = true → r = .error .cancelled ∨
        ∃ before wait outcome, actions = before ++ [.received wait outcome] ∧
          (l.network.replay before).isCancelled token = false ∧
          Concludes accept (outcome.mapError l.carrier.report) r) ∧
      (t.network.isCancelled token = true → ∀ e, r = .error e →
        (∃ n, e = .noResponse n) ∨ (∃ cause, e = .sendFailed cause) →
        ∃ datagram, accept datagram = .error e) ∧
      (r = .error .cancelled →
        t.network.isCancelled token = true ∨ ∃ datagram, accept datagram = .error .cancelled) ∧
      (l.network.isCancelled token = true → r = .error .cancelled ∧ actions = [] ∧ t = l) ∧
      ∀ limit, token.deadline = some limit → l.network.now < limit →
        t.network.now < limit + 100 * millisecond := by
  have hheeds := attempts_heed pollSlice accept token frame timeout (max tries 1) (max tries 1) none
    false l (by omega)
  have hbefore : Ends (exchange accept (some token) frame timeout tries) l fun r t =>
      l.network.isCancelled token = true → r = .error .cancelled ∧ t = l := by
    by_cases hc : l.network.isCancelled token = true
    · exact .error (exchange_of_cancelled hc) fun _ => ⟨rfl, rfl⟩
    · exact .intro (fun _ _ _ h => absurd h hc) fun _ _ _ h => absurd h hc
  have htried := exchange_tried accept (some token) frame timeout tries l
  refine ((Ends.and hheeds htried).and hbefore).imp ?_
  rintro r t ⟨⟨⟨actions, h, hends⟩, tried, htried⟩, hentry⟩
  obtain rfl : tried = actions := htried.did.drop_eq.symm.trans h.did.drop_eq
  refine ⟨tried, h.did, h.replay_eq, ?_, fun hc => ?_, fun hc e he hspent => ?_, ?_, fun hc => ?_,
    fun limit hlimit hn => ?_⟩
  · rintro first later rfl
    exact h.startsLive.eq_nil
  · refine (hends.of_cancelled hc).imp_right fun ⟨before, wait, outcome, hlast, hconcludes⟩ => ?_
    have hlive := h.startsLive
    rw [hlast, Network.startsLive_append] at hlive
    exact ⟨before, wait, outcome, hlast, hlive.2.1, hconcludes⟩
  · rcases hends.of_cancelled hc with hcancelled | ⟨before, wait, outcome, -, hconcludes⟩
    · obtain rfl := Except.error.inj (he.symm.trans hcancelled)
      rcases hspent with ⟨n, hn⟩ | ⟨cause, hcause⟩
      · cases hn
      · cases hcause
    · subst he
      rcases hconcludes.refused_or_failed with hrefused | ⟨cause, rfl⟩
      · exact hrefused
      · rcases hspent with ⟨n, hn⟩ | ⟨cause, hcause⟩
        · cases hn
        · cases hcause
  · rintro rfl
    exact hends.noticed
  · obtain ⟨hr, ht⟩ := hentry hc
    have hall : Network.StartsLive token l.network ([] ++ tried) := h.startsLive
    exact ⟨hr, hall.eq_nil hc, ht⟩
  · obtain ⟨_⟩ := token
    obtain rfl : _ = some limit := hlimit
    exact h.startsLive.now_lt (htried.paced l.network.now) l.carrier.wait_pollSlice
      (Nat.lt_add_right _ hn)

/-- A deadline that passes right after a slice began is overrun by all but a millisecond of it. -/
example :
    let ignored : EStateM Error Link Bytes :=
      exchange (fun _ => .ok none) (some ⟨some (101 * millisecond)⟩) [0] (250 * millisecond) 1
    let silent : Link := .ofNetwork .plain { script := [] }
    failsWith ignored silent .cancelled = true ∧
      (after ignored silent).network.now = 200 * millisecond := by
  decide +kernel

end Link
end Baseboard
