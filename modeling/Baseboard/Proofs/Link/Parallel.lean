import Baseboard.Proofs.Link.InStep
import Baseboard.Proofs.Link.Record

/-! Two exchanges side by side. What a link has counted and put on record before makes no
difference to an exchange, and neither does the frame that is sent: networks that bring about the
same events let both go the same way. -/
namespace Baseboard

variable {α : Type}

/-- The same action with another frame, if a frame was handed over. -/
def Action.reframe (frame : Bytes) : Action → Action
  | sent _ => .sent frame
  | sendFailed _ cause => .sendFailed frame cause
  | received wait outcome => .received wait outcome

namespace Link

/-- A link with nothing counted and nothing on record. -/
def forgotten (l : Link) : Link := { l with stats := {}, network.trace := [] }

/-- Nothing but what was counted and put on record tells two links apart. -/
def Alike (l m : Link) : Prop := l.forgotten = m.forgotten

/-- The link as it is when what it counted and did came after what `past` had counted and done,
and `frame` was handed over whenever it handed over a frame. -/
def told (past : Link) (frame : Bytes) (l : Link) : Link :=
  { l with
    stats := ⟨past.stats.sends + l.stats.sends, past.stats.receiveRetries + l.stats.receiveRetries,
      past.stats.timeouts + l.stats.timeouts⟩
    network.trace := past.network.trace ++ l.network.trace.map (Action.reframe frame) }

variable {past l m : Link} {frame frame' : Bytes} {pace : Pace} {accept : Acceptor α}
  {cancel : Option CancelToken} {deadline timeout tries : Nat}

theorem told_forgotten (l : Link) (frame : Bytes) : told l frame l.forgotten = l := by
  obtain ⟨carrier, stats, network⟩ := l
  simp [told, forgotten]

/-- What is put on record next comes after the past as well. -/
private theorem record_told (past : Link) (frame : Bytes) (n : Network) (action : Action) :
    past.network.trace ++ (n.record action).trace.map (Action.reframe frame) =
      past.network.trace ++ n.trace.map (Action.reframe frame) ++ [action.reframe frame] := by
  rw [Network.record, List.map_append, List.map_singleton, List.append_assoc]

theorem receiveWithin_told (past : Link) (frame : Bytes) (l : Link) (wait : Nat) :
    (told past frame l).receiveWithin wait =
      ((l.receiveWithin wait).1, told past frame (l.receiveWithin wait).2) := by
  unfold told receiveWithin Network.receive Network.await
  cases hpending : l.network.pending with
  | nil =>
    simp only [record_told]
    rfl
  | cons e rest =>
    dsimp only
    split
    · simp only [record_told]
      rfl
    · cases e.cancels <;>
      · simp only [record_told]
        rfl

theorem receive_told (past : Link) (frame : Bytes) (l : Link) (wait : Nat) :
    (told past frame l).receive wait =
      ((l.receive wait).1, told past frame (l.receive wait).2) :=
  receiveWithin_told past frame l (l.carrier.wait wait)

theorem send_told (past : Link) (frame frame' : Bytes) (l : Link) :
    (told past frame' l).countSend.send frame' =
      ((l.countSend.send frame).1, told past frame' (l.countSend.send frame).2) := by
  obtain ⟨carrier, stats, script, pending, now, requested, bindFailure, connectFailure, trace⟩ := l
  unfold told countSend send Network.send
  rcases script with _ | ⟨_ | _, rest⟩ <;>
  · simp only [record_told]
    rfl

private theorem awaitAnswer_told (past : Link) (frame : Bytes) (l : Link) :
    EndAlike (awaitAnswer pace accept cancel deadline) l
      (awaitAnswer pace accept cancel deadline) (told past frame l)
      fun _ t t' => t' = told past frame t := by
  induction l using wait_induction pace deadline with
  | step l ih =>
  cases hc : l.isCancelled cancel with
  | true => exact .both_error (awaitAnswer_of_cancelled hc) (awaitAnswer_of_cancelled hc) rfl
  | false =>
  rcases Nat.lt_or_ge l.network.now deadline with htime | htime
  · obtain ⟨hnext, hretry⟩ := ih htime
    refine .congr (awaitAnswer_of_receive hc htime rfl)
      (awaitAnswer_of_receive hc htime (receive_told past frame l _)) ?_
    exact settle_alike (fun _ => hnext) (fun _ => hretry) fun _ => rfl
  · exact .both_ok (awaitAnswer_of_late hc htime) (awaitAnswer_of_late hc htime) rfl

/-- What was done before makes no difference to an exchange, and the frame that is sent makes none
but that it is handed over. -/
private theorem exchange_told (accept : Acceptor α) (cancel : Option CancelToken) (past : Link)
    (frame frame' : Bytes) (timeout tries : Nat) (l : Link) :
    EndAlike (exchange accept cancel frame timeout tries) l
      (exchange accept cancel frame' timeout tries) (told past frame' l)
      fun _ t t' => t' = told past frame' t := by
  have hstep : InStep pollSlice pollSlice accept cancel frame frame' timeout (fun _ => True)
      fun t t' => t' = told past frame' t := by
    refine ⟨?_, ?_, fun _ => trivial, ?_⟩
    · rintro l - rfl
      rfl
    · rintro l - rfl
      rw [send_told past frame frame' l]
      exact ⟨rfl, rfl⟩
    · rintro l - rfl -
      exact awaitAnswer_told past frame' l
  exact hstep.exchangePaced tries rfl trivial

/-- From `l` to `t` and from `m` to `t'` the same was done and counted, with `frame` handed over in
the one case and `frame'` in the other, and nothing else tells `t` and `t'` apart. -/
structure Apace (frame frame' : Bytes) (l m t t' : Link) : Prop where
  alike : t.Alike t'
  stats : l.stats = m.stats → t.stats = t'.stats
  did : ∃ actions : List Action, Did l (actions.map (Action.reframe frame)) t ∧
    Did m (actions.map (Action.reframe frame')) t'

/-- Exchanges of two links that are alike, whatever frames they send, go the same way. -/
theorem exchange_apace (h : l.Alike m) (accept : Acceptor α) (cancel : Option CancelToken)
    (frame frame' : Bytes) (timeout tries : Nat) :
    EndAlike (exchange accept cancel frame timeout tries) l
      (exchange accept cancel frame' timeout tries) m
      fun _ t t' => Apace frame frame' l m t t' := by
  have hl := exchange_told accept cancel l frame frame timeout tries l.forgotten
  have hm := exchange_told accept cancel m frame frame' timeout tries l.forgotten
  rw [told_forgotten] at hl
  have hforgotten : told m frame' l.forgotten = m := by rw [h, told_forgotten]
  rw [hforgotten] at hm
  refine (hl.join hm).imp ?_
  rintro r _ _ ⟨t, rfl, rfl⟩
  exact ⟨rfl, fun hstats => by rw [told, told, hstats], t.network.trace, rfl, rfl⟩

end Link
end Baseboard
