import Baseboard.Proofs.Session.Lifecycle
import Baseboard.Proofs.Session.Reach

/-! Which operations of a session that has ended still do anything. None does but the requests
that manage a session, which do not ask for a phase. -/
namespace Baseboard.Session

variable {config : Config} {s t : Session}

/-- No request of the owner reaches the network: there is no link, or the owner has cancelled. -/
def Barred (s : Session) : Prop := s.connected = false ∨ s.isCancelled = true

instance (s : Session) : Decidable s.Barred := inferInstanceAs (Decidable (_ ∨ _))

theorem Untouched.barred (h : Untouched s t) (hs : s.Barred) : t.Barred := by
  unfold Barred isCancelled at hs ⊢
  rw [h.1, h.2]
  exact hs

theorem Untouched.handedOver_eq (h : Untouched s t) : s.handedOver t = [] := by
  unfold handedOver
  rw [h.2, List.drop_length, List.filterMap_nil]

/-- A request that does not reach the network leaves everything as it was. -/
theorem manage_of_barred (request : Request) (hs : s.Barred) :
    Ends (manage request) s fun _ t => Untouched s t := by
  refine (ends_manage ..).mpr ?_
  unfold Ends
  rw [exchange_eq]
  cases hpacket : s.packet request (.direct s.config.controller) with
  | error e => exact .refl s
  | ok packet =>
  by_cases hconnected : s.connected = true
  · have hcancelled : s.link.isCancelled (some s.token) = true := by
      rcases hs with h | h
      · cases hconnected.symm.trans h
      · exact h
    dsimp only
    rw [if_pos hconnected, if_pos rfl, Link.exchange_of_cancelled hcancelled]
    exact ⟨rfl, rfl⟩
  · dsimp only
    rw [if_neg hconnected]
    exact .refl s

theorem management_of_barred (m : Management) (hs : s.Barred) :
    Ends m.op s fun _ t => Untouched s t := by
  refine ends_management m (fun request _ => manage_of_barred request hs) fun request t ht => ?_
  refine (manage_of_barred request (ht.barred hs)).imp fun _ u hu => ?_
  exact ⟨hu.1.trans ht.1, hu.2.trans ht.2⟩

/-- A session that has ended still hands over the requests that its owner makes to manage it. -/
theorem management_handedOver (m : Management) (hphase : s.phase = .closed) (hs : ¬ s.Barred) :
    Ends m.op s fun _ t => s.handedOver t ≠ [] := by
  have hconnected : s.connected = true := Bool.of_not_eq_false fun h => hs (.inl h)
  have hunsigned (command : UInt8) : s.frameAuth command ≠ .oem := by
    unfold Standing.frameAuth
    rw [hphase]
    exact nofun
  have hends : Ends m.op s fun _ t => s.handedOver t ≠ [] ∧
      ∃ actions, Link.Did s.link actions t.link := by
    refine ends_management m (fun request hshort => ?_) fun request t ht => ?_
    · obtain ⟨packet, hpacket⟩ := (Standing.exists_direct_packet_iff
        (Nat.le_trans hshort (by decide)) s.config.controller).mpr (hunsigned request.command)
      refine (ends_manage ..).mpr ((exchange_sends hconnected ..).imp fun r t ht => ?_)
      rcases ht with ⟨e, hnone, -⟩ | ⟨use, huse⟩
      · cases hpacket.symm.trans hnone
      · refine ⟨fun hnil => ?_, use.actions, huse.did⟩
        rw [handedOver, huse.did.drop_eq] at hnil
        exact hs (.inr (huse.frames_eq_nil_iff.mp hnil).2)
    · obtain ⟨hhanded, first, hfirst⟩ := ht
      refine (ends_manage ..).mpr ((exchange_did ..).imp fun r u hu => ?_)
      obtain ⟨second, hsecond⟩ := hu
      have hdid := hfirst.trans hsecond
      refine ⟨fun hnil => hhanded ?_, _, hdid⟩
      rw [handedOver, hdid.drop_eq, List.filterMap_append] at hnil
      rw [handedOver, hfirst.drop_eq]
      exact (List.append_eq_nil_iff.mp hnil).1
  exact hends.imp fun _ _ ht => ht.1

/-- A session that has ended does nothing when it is called, and nothing about it changes. The
requests that manage a session are made all the same: they hand frames over, unless the session
has no link or its owner has cancelled. -/
theorem closed_silent_iff (h : Reachable config s) (hclosed : s.phase = .closed) :
    (∀ call : Call, call.operates = true → Untouched s (after call.op s)) ∧
    (∀ request : Request, Untouched s (after (require request) s)) ∧
    ∀ m : Management, (Untouched s (after m.op s) ↔ s.Barred) ∧
      (s.handedOver (after m.op s) = [] ↔ s.Barred) := by
  have hid : s.sessionId = 0 := h.rests.2.sessionId_eq_zero (by rw [hclosed]; decide)
  have hcalls (call : Call) (hoperates : call.operates = true) : Untouched s (after call.op s) :=
    (op_untouched call hoperates hclosed hid).after
  refine ⟨hcalls, fun request => ?_, fun m => ?_⟩
  · have hsame : after (Call.command request).op s = after (command request) s := by
      have hends : Ends (Call.command request).op s fun _ t => t = after (command request) s :=
        (ends_map ..).mpr (.intro (fun _ _ h => (after_of_ok h).symm)
          fun _ _ h => (after_of_error h).symm)
      exact hends.after
    rw [after_require, ← hsame]
    exact hcalls (.command request) rfl
  · have hquiet (hs : s.Barred) : Untouched s (after m.op s) := (management_of_barred m hs).after
    have hloud (hs : ¬ s.Barred) : s.handedOver (after m.op s) ≠ [] :=
      (management_handedOver m hclosed hs).after
    refine ⟨⟨fun hsame => ?_, hquiet⟩, ⟨fun hnil => ?_, fun hs => (hquiet hs).handedOver_eq⟩⟩
    · exact Decidable.byContradiction fun hs => hloud hs hsame.handedOver_eq
    · exact Decidable.byContradiction fun hs => hloud hs hnil

/-- A controller that does not answer when the session is closed, but still sets its privilege
level after that. -/
def lenient : Session :=
  (sample [.accepted [],
    responding (.reply ((Request.setPrivilege .user).numbered 4) .completed (some [2]))]).run
    [.establish, .close]

/-- That session does nothing when it is called, but has a link for the requests to manage it. -/
theorem closed_silent_lenient :
    lenient.phase = .closed ∧
      (∀ call : Call, call.operates = true → Untouched lenient (after call.op lenient)) ∧
      ∀ m : Management, lenient.handedOver (after m.op lenient) ≠ [] := by
  have hclosed : lenient.phase = .closed := by decide +kernel
  have hlinked : ¬ lenient.Barred := by decide +kernel
  obtain ⟨hcalls, -, hall⟩ := closed_silent_iff ((sample_begun _).reachable_run _) hclosed
  exact ⟨hclosed, hcalls, fun m hnil => hlinked ((hall m).2.mp hnil)⟩

/-- A privilege level is asked for after the session has ended: a frame is handed over, and its
answer moves a counter of the session. -/
theorem setPrivilege_after_close :
    let t := after (Management.setPrivilege .user).op lenient
    lenient.phase = .closed ∧ lenient.handedOver t ≠ [] ∧
      t.requestSequence ≠ lenient.requestSequence ∧ ¬ Untouched lenient t := by
  intro t
  have hmoved : t.requestSequence ≠ lenient.requestSequence := by decide +kernel
  exact ⟨by decide +kernel, by decide +kernel, hmoved, fun h => hmoved (by rw [h.1])⟩

end Baseboard.Session
