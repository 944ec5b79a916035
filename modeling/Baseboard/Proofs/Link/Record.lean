import Baseboard.Proofs.Link.Waiting

/-! What an exchange leaves on record. It hands over its own frame and no other, and
when it ends with an answer, the last thing that happened is that a datagram came in
which was taken for that answer. -/
namespace Baseboard

/-- The frame that an action hands over for sending, if it hands over one. -/
def Action.frame? : Action → Option Bytes
  | sent frame => some frame
  | sendFailed frame _ => some frame
  | received _ _ => none

/-- What goes on record of a send. -/
def Action.ofSend (frame : Bytes) : Except IoFailure Unit → Action
  | .ok () => .sent frame
  | .error cause => .sendFailed frame cause

theorem Action.frame?_ofSend (frame : Bytes) (result : Except IoFailure Unit) :
    (ofSend frame result).frame? = some frame := by
  cases result <;> rfl

namespace Link

variable {α : Type} {pace : Pace} {accept : Acceptor α} {cancel : Option CancelToken}
  {frame : Bytes} {deadline wait : Nat} {l next t : Link} {found : Except IoFailure Bytes}
  {result : Except IoFailure Unit}

/-- Nothing but `actions` was done over the network from one state of a link to another. -/
def Did (before : Link) (actions : List Action) (after : Link) : Prop :=
  after.network.trace = before.network.trace ++ actions

theorem Did.refl (l : Link) : Did l [] l := (List.append_nil _).symm

theorem Did.trans {l m n : Link} {first second : List Action} (h : Did l first m)
    (h' : Did m second n) : Did l (first ++ second) n := by
  unfold Did at h h' ⊢
  rw [h', h, List.append_assoc]

/-- What was done can be read off the record. -/
theorem Did.drop_eq {l m : Link} {actions : List Action} (h : Did l actions m) :
    m.network.trace.drop l.network.trace.length = actions := by
  rw [h, List.drop_left]

theorem Did.unique {l m : Link} {first second : List Action} (h : Did l first m)
    (h' : Did l second m) : first = second :=
  h.drop_eq.symm.trans h'.drop_eq

/-- The last of `actions` received a datagram that `accept` takes for `answer`. -/
def EndsWith (accept : Acceptor α) (answer : α) (actions : List Action) : Prop :=
  ∃ before wait datagram, actions = before ++ [.received wait (.ok datagram)] ∧
    accept datagram = .ok (some answer)

theorem EndsWith.append {accept : Acceptor α} {answer : α} {actions : List Action}
    (h : EndsWith accept answer actions) (earlier : List Action) :
    EndsWith accept answer (earlier ++ actions) := by
  obtain ⟨before, wait, datagram, rfl, ha⟩ := h
  exact ⟨earlier ++ before, wait, datagram, (List.append_assoc _ _ _).symm, ha⟩

/-- A send goes on record with what became of the frame. -/
theorem did_send (l : Link) (frame : Bytes) :
    Did l [.ofSend frame (l.network.send frame).1] (l.send frame).2 := by
  unfold send Network.send
  split <;> exact rfl

private theorem trace_await (n : Network) (wait : Nat) : (n.await wait).2.trace = n.trace := by
  unfold Network.await
  split
  · rfl
  · split
    · rfl
    · rename_i e _ _ _
      cases e.cancels <;> rfl

/-- A receive goes on record as it went over the network. -/
theorem did_receive (l : Link) (wait : Nat) :
    Did l [.received (l.carrier.wait wait) (l.network.receive (l.carrier.wait wait)).1]
      (l.receive wait).2 :=
  congrArg (· ++ [_]) (trace_await l.network (l.carrier.wait wait))

theorem Polls.did (h : Polls pace cancel deadline l wait found next) :
    Did l [.received wait found] next := by
  rw [h.found_eq, h.next_eq, h.wait_eq]
  exact did_receive l (nextWait pace deadline l)

theorem Transmits.did (h : Transmits cancel frame l result next) :
    Did l [.ofSend frame result] next := by
  have hdid : Did l [.ofSend frame (l.network.send frame).1] (l.countSend.send frame).2 :=
    did_send l.countSend frame
  rwa [h.countSend_eq, ← h.result_eq] at hdid

/-- How a wait is recorded: as receives, the last of which brought the answer, if one
came. -/
def WaitRecorded (accept : Acceptor α) (l : Link) (r : Except Error (Option α)) (t : Link) :
    Prop :=
  ∃ actions, Did l actions t ∧ (∀ action ∈ actions, action.frame? = none) ∧
    ∀ answer, r = .ok (some answer) → EndsWith accept answer actions

theorem WaitRecorded.after_receive {r : Except Error (Option α)}
    (hd : Did l [.received wait found] next) (h : WaitRecorded accept next r t) :
    WaitRecorded accept l r t := by
  obtain ⟨actions, hactions, hno, hend⟩ := h
  exact ⟨_, hd.trans hactions, List.forall_mem_cons.mpr ⟨rfl, hno⟩,
    fun answer hr => (hend answer hr).append _⟩

theorem WaitRecorded.of_last {r : Except Error α} (hd : Did l [.received wait found] next)
    (h : Concludes accept (found.mapError l.carrier.report) r) :
    WaitRecorded accept l (r.map some) next := by
  refine ⟨_, hd, List.forall_mem_cons.mpr ⟨rfl, fun _ h => absurd h List.not_mem_nil⟩, ?_⟩
  intro answer hr
  cases found with
  | ok datagram =>
    cases h with
    | answered h =>
      cases hr
      exact ⟨[], wait, datagram, rfl, h⟩
    | refused h => cases hr
  | error cause =>
    cases h
    cases hr

/-- A wait that ends without an answer and without another receive. -/
private theorem WaitRecorded.done {r : Except Error (Option α)} (ht : t.network = l.network)
    (hr : ∀ answer, r ≠ .ok (some answer)) : WaitRecorded accept l r t := by
  refine ⟨[], ?_, fun action ha => absurd ha List.not_mem_nil, fun answer h => absurd h (hr answer)⟩
  unfold Did
  rw [ht, List.append_nil]

theorem awaitAnswer_recorded (pace : Pace) (accept : Acceptor α) (cancel : Option CancelToken)
    (deadline : Nat) (l : Link) :
    Ends (awaitAnswer pace accept cancel deadline) l (WaitRecorded accept l) := by
  refine ends_awaitAnswer (WaitRecorded accept) ?_ ?_ ?_ ?_ l
  · exact fun l _ => .done rfl (by simp)
  · exact fun l _ _ => .done rfl (by simp)
  · exact fun l wait found next r hpolls hr => .of_last hpolls.did hr
  · intro l wait found next again r t hpolls _ hagain h
    -- A failure that is counted is on record as any other.
    have hdid : Did l [.received wait found] again := by
      rcases hagain with rfl | rfl
      · exact hpolls.did
      · exact hpolls.did
    exact h.after_receive hdid

/-- How an exchange of `frame` is recorded: no other frame is handed over, and the answer,
if there is one, came last. -/
def Recorded (accept : Acceptor α) (frame : Bytes) (l : Link) (r : Except Error α) (t : Link) :
    Prop :=
  ∃ actions, Did l actions t ∧
    (∀ action ∈ actions, ∀ handed, action.frame? = some handed → handed = frame) ∧
    ∀ answer, r = .ok answer → EndsWith accept answer actions

private theorem Recorded.done {e : Error} : Recorded accept frame l (.error e) l :=
  ⟨[], .refl l, fun _ h => absurd h List.not_mem_nil, fun _ h => by cases h⟩

theorem Recorded.after {actions : List Action} {r : Except Error α} (hd : Did l actions next)
    (hf : ∀ action ∈ actions, ∀ handed, action.frame? = some handed → handed = frame)
    (h : Recorded accept frame next r t) : Recorded accept frame l r t := by
  obtain ⟨later, hlater, hfl, hend⟩ := h
  refine ⟨_, hd.trans hlater, fun action ha => ?_, fun answer hr => (hend answer hr).append _⟩
  rcases List.mem_append.mp ha with ha | ha
  · exact hf action ha
  · exact hfl action ha

/-- A send hands over the frame in hand. -/
private theorem Recorded.after_send {r : Except Error α}
    (h : Transmits cancel frame l result next) (hrest : Recorded accept frame next r t) :
    Recorded accept frame l r t := by
  refine hrest.after h.did fun action haction handed hhanded => ?_
  rw [List.mem_singleton.mp haction, Action.frame?_ofSend] at hhanded
  exact (Option.some.inj hhanded).symm

theorem attempts_recorded (pace : Pace) (accept : Acceptor α) (cancel : Option CancelToken)
    (frame : Bytes) (timeout maxTries left : Nat) (failure : Option IoFailure) (delivered : Bool)
    (l : Link) :
    Ends (attempts pace accept cancel frame timeout maxTries left failure delivered) l
      (Recorded accept frame l) := by
  induction left generalizing failure delivered l with
  | zero => exact .error attempts_zero .done
  | succ left ih =>
    refine ends_attempts_succ (fun _ => .done) (fun cause next hsent => ?_) fun next hsent => ?_
    · exact (ih _ _ next).imp fun _ _ h => .after_send hsent h
    · refine (awaitAnswer_recorded ..).imp fun r t ⟨waited, hdid, hno, hend⟩ => ?_
      have hframes : ∀ action ∈ waited, ∀ handed, action.frame? = some handed → handed = frame := by
        intro action haction handed hhanded
        rw [hno action haction] at hhanded
        cases hhanded
      rcases r with e | _ | answer
      · exact .after_send hsent ⟨waited, hdid, hframes, by simp⟩
      · exact (ih failure true t).imp fun _ _ h => .after_send hsent (h.after hdid hframes)
      · refine .after_send hsent ⟨waited, hdid, hframes, fun other hother => ?_⟩
        rw [← Except.ok.inj hother]
        exact hend answer rfl

/-- An exchange hands over its own frame only, and takes its answer from the last
datagram that came in. -/
theorem exchange_recorded (accept : Acceptor α) (cancel : Option CancelToken) (frame : Bytes)
    (timeout tries : Nat) (l : Link) :
    Ends (exchange accept cancel frame timeout tries) l (Recorded accept frame l) :=
  attempts_recorded pollSlice accept cancel frame timeout (max tries 1) (max tries 1) none false l

end Link
end Baseboard
