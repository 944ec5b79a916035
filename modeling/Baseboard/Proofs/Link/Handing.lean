import Baseboard.Proofs.Link.Record

/-! Whether an exchange hands its frame over, and how it can fail. Unless it was cancelled
before it began, the frame is handed over, and an answer comes only to a frame that was. -/
namespace Baseboard.Link

variable {accept : Acceptor α} {cancel : Option CancelToken} {frame : Bytes}
  {timeout tries : Nat} {l : Link}

/-- There is always a first try. -/
private theorem exists_tries (tries : Nat) : ∃ left, max tries 1 = left + 1 :=
  ⟨max tries 1 - 1, by omega⟩

/-- Nothing is done in an exchange that was cancelled before it began. -/
theorem exchange_of_cancelled (h : l.isCancelled cancel = true) :
    exchange accept cancel frame timeout tries l = .error .cancelled l := by
  obtain ⟨left, hleft⟩ := exists_tries tries
  rw [exchange, exchangePaced, hleft, attempts_of_cancelled h]

/-- Among what was done from one state of a link to another, `frame` was handed over. -/
def Hands (frame : Bytes) (l t : Link) : Prop :=
  ∃ actions, Did l actions t ∧ ∃ action ∈ actions, action.frame? = some frame

private theorem Hands.of_first {next t : Link} {action : Action} (hsent : Did l [action] next)
    (hframe : action.frame? = some frame) (hlater : ∃ later, Did next later t) :
    Hands frame l t := by
  obtain ⟨later, hlater⟩ := hlater
  exact ⟨_, hsent.trans hlater, action, List.mem_append_left _ List.mem_cons_self, hframe⟩

/-- The tries that are left only add to the record. -/
private theorem attempts_did (pace : Pace) (accept : Acceptor α) (cancel : Option CancelToken)
    (frame : Bytes) (timeout maxTries left : Nat) (failure : Option IoFailure) (delivered : Bool)
    (l : Link) :
    Ends (attempts pace accept cancel frame timeout maxTries left failure delivered) l
      fun _ t => ∃ later, Did l later t := by
  refine (attempts_recorded pace accept cancel frame timeout maxTries left failure delivered
    l).imp ?_
  rintro r t ⟨later, hlater, -⟩
  exact ⟨later, hlater⟩

/-- An exchange that was not cancelled before it began hands its frame over. -/
theorem exchange_hands (h : l.isCancelled cancel = false) :
    Ends (exchange accept cancel frame timeout tries) l fun _ t => Hands frame l t := by
  obtain ⟨left, hleft⟩ := exists_tries tries
  rw [exchange, exchangePaced, hleft]
  refine ends_attempts_succ (fun hc => absurd (h.symm.trans hc) (by simp))
    (fun cause next hsent => ?_) fun next hsent => ?_
  · refine (attempts_did ..).imp fun _ _ hlater => ?_
    exact .of_first hsent.did (Action.frame?_ofSend ..) hlater
  · refine (awaitAnswer_recorded ..).imp fun r t ⟨waited, hwaited, _⟩ => ?_
    have hhanded : Hands frame l t :=
      .of_first hsent.did (Action.frame?_ofSend ..) ⟨waited, hwaited⟩
    rcases r with e | _ | answer
    · exact hhanded
    · refine (attempts_did ..).imp fun _ _ ⟨later, hlater⟩ => ?_
      exact .of_first hsent.did (Action.frame?_ofSend ..) ⟨_, hwaited.trans hlater⟩
    · exact hhanded

/-- What came in last was taken for the answer, and `frame`, and no other, was handed over
before. -/
def Answered (accept : Acceptor α) (frame : Bytes) (answer : α) (l t : Link) : Prop :=
  ∃ before wait datagram, Did l (before ++ [.received wait (.ok datagram)]) t ∧
    accept datagram = .ok (some answer) ∧ before.filterMap Action.frame? ≠ [] ∧
    ∀ handed ∈ before.filterMap Action.frame?, handed = frame

/-- An answer comes to a frame that was handed over. -/
theorem exchange_answered (accept : Acceptor α) (cancel : Option CancelToken) (frame : Bytes)
    (timeout tries : Nat) (l : Link) :
    Ends (exchange accept cancel frame timeout tries) l
      fun r t => ∀ answer, r = .ok answer → Answered accept frame answer l t := by
  cases hcancelled : l.isCancelled cancel with
  | true => exact .error (exchange_of_cancelled hcancelled) fun _ => nofun
  | false =>
  refine ((exchange_recorded ..).and (exchange_hands hcancelled)).imp ?_
  rintro r t ⟨⟨actions, hdid, hframes, hend⟩, handed, hdid', action, haction, hframe⟩ answer hr
  obtain rfl : handed = actions := hdid'.unique hdid
  obtain ⟨before, wait, datagram, rfl, haccept⟩ := hend answer hr
  refine ⟨before, wait, datagram, hdid, haccept, ?_, fun sent hsent => ?_⟩
  · rcases List.mem_append.mp haction with haction | haction
    · exact List.ne_nil_of_mem (List.mem_filterMap.mpr ⟨action, haction, hframe⟩)
    · rw [List.mem_singleton.mp haction] at hframe
      cases hframe
  · obtain ⟨action, haction, hframe⟩ := List.mem_filterMap.mp hsent
    exact hframes action (List.mem_append_left _ haction) sent hframe

/-- The errors that an exchange can end with. -/
inductive Fault (accept : Acceptor α) : Error → Prop where
  | cancelled : Fault accept .cancelled
  | sendFailed (cause : IoFailure) : Fault accept (.sendFailed cause)
  | receiveFailed (cause : IoFailure) : Fault accept (.receiveFailed cause)
  | noResponse (tries : Nat) : Fault accept (.noResponse tries)
  | refused {datagram : Bytes} {e : Error} (h : accept datagram = .error e) : Fault accept e

/-- An outcome that is no error but those of an exchange, and cancelled only under a token that
is by now. -/
private def Fails (accept : Acceptor α) (cancel : Option CancelToken) (r : Except Error β)
    (t : Link) : Prop :=
  ∀ e, r = .error e → Fault accept e ∧
    (e = .cancelled → t.isCancelled cancel = true ∨ ∃ datagram, accept datagram = .error .cancelled)

namespace Fails

variable {t : Link} {e : Error}

private theorem ok {b : β} : Fails accept cancel (.ok b : Except Error β) t := nofun

private theorem cancelled (h : t.isCancelled cancel = true) :
    Fails accept cancel (.error .cancelled : Except Error β) t := by
  intro e he
  cases he
  exact ⟨.cancelled, fun _ => .inl h⟩

private theorem refused {datagram : Bytes} (h : accept datagram = .error e) :
    Fails accept cancel (.error e : Except Error β) t := by
  intro found hfound
  cases hfound
  exact ⟨.refused h, fun he => .inr ⟨datagram, he ▸ h⟩⟩

private theorem of_ne (h : Fault accept e) (hne : e ≠ .cancelled) :
    Fails accept cancel (.error e : Except Error β) t := by
  intro found hfound
  cases hfound
  exact ⟨h, fun he => absurd he hne⟩

end Fails

private theorem awaitAnswer_fails (pace : Pace) (accept : Acceptor α)
    (cancel : Option CancelToken) (deadline : Nat) (l : Link) :
    Ends (awaitAnswer pace accept cancel deadline) l (Fails accept cancel) := by
  refine ends_awaitAnswer (fun _ => Fails accept cancel) ?_ ?_ ?_ ?_ l
  · exact fun l hc => .cancelled hc
  · exact fun l _ _ => .ok
  · intro l wait found next r _ hr
    generalize found.mapError l.carrier.report = outcome at hr
    cases hr with
    | answered _ => exact .ok
    | refused h => exact .refused h
    | failed _ _ => exact .of_ne (.receiveFailed _) (by simp)
  · exact fun _ _ _ _ _ _ _ _ _ _ h => h

private theorem attempts_fails (pace : Pace) (accept : Acceptor α)
    (cancel : Option CancelToken) (frame : Bytes) (timeout maxTries left : Nat)
    (failure : Option IoFailure) (delivered : Bool) (l : Link) :
    Ends (attempts pace accept cancel frame timeout maxTries left failure delivered) l
      (Fails accept cancel) := by
  induction left generalizing failure delivered l with
  | zero =>
    refine .error attempts_zero ?_
    rcases failure with _ | e
    · exact .of_ne (.noResponse _) (by simp [verdict])
    · cases delivered
      · exact .of_ne (.sendFailed _) (by simp [verdict])
      · exact .of_ne (.noResponse _) (by simp [verdict])
  | succ left ih =>
    refine ends_attempts_succ .cancelled (fun cause next _ => ih _ _ next) fun next _ => ?_
    refine (awaitAnswer_fails ..).imp fun r t h => ?_
    rcases r with e | _ | answer
    · exact fun found hfound => Except.error.inj hfound ▸ h e rfl
    · exact ih failure true t
    · exact .ok

/-- Every error of an exchange is its being cancelled, a failure of the network, or an error
of whoever looks at the datagrams. -/
theorem exchange_fault (accept : Acceptor α) (cancel : Option CancelToken) (frame : Bytes)
    (timeout tries : Nat) (l : Link) :
    Ends (exchange accept cancel frame timeout tries) l
      fun r _ => ∀ e, r = .error e → Fault accept e :=
  (attempts_fails pollSlice accept cancel frame timeout (max tries 1) (max tries 1) none false
    l).imp fun _ _ h e he => (h e he).1

/-- An exchange that was cancelled was cancelled by its caller. -/
theorem exchange_noticed (haccept : ∀ datagram, accept datagram ≠ .error .cancelled)
    (cancel : Option CancelToken) (frame : Bytes) (timeout tries : Nat) (l : Link) :
    Ends (exchange accept cancel frame timeout tries) l
      fun r t => r = .error .cancelled → t.isCancelled cancel = true := by
  refine (attempts_fails pollSlice accept cancel frame timeout (max tries 1) (max tries 1) none
    false l).imp fun r t h hr => ?_
  rcases (h _ hr).2 rfl with h | ⟨datagram, h⟩
  · exact h
  · exact absurd h (haccept datagram)

end Baseboard.Link
