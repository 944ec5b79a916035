import Baseboard.Proofs.Session.Completeness

/-! Commands that fail. One that was not cancelled leaves the session as it stood, wherever it
failed, and one that failed before anything was sent leaves the link as it was too. -/
namespace Baseboard

/-- What goes wrong over the link could not be found before that. -/
theorem Error.Late.not_early {e : Error} (h : e.Late) (expected actual : Phase) :
    ¬ (e.Early ∨ e = .wrongPhase expected actual) := by
  rintro (hearly | rfl)
  · cases hearly <;> cases h
  · cases h

namespace Session

variable {s t : Session} {op : Op Response} {request : Request} {route : Route} {manner : Manner}
  {e : Error} {u : Use}

/-- A request that went out, and was not cancelled, has handed over a frame. -/
theorem Sends.handedOver_ne_nil (h : s.Sends request route manner (.error e) t u)
    (he : e ≠ .cancelled) : s.handedOver t ≠ [] := by
  intro hnil
  rw [handedOver, h.did.drop_eq] at hnil
  have hcancelled := h.cancelled (h.frames_eq_nil_iff.mp hnil)
  exact he (Except.error.inj hcancelled)

/-- A command that failed without being cancelled has done nothing, or its request went out. -/
theorem Issued.failed (h : Issued s.config op request route) (hactive : s.phase = .active)
    (hop : op s = .error e t) (he : e ≠ .cancelled) :
    ((e.Early ∨ e = .wrongPhase .bound s.phase) ∧ t = s) ∨
      ∃ u, s.Sends request route (s.commandManner request route) (.error e) t u := by
  rcases h.dispatches_or with hdispatches | ⟨n, hrefuses⟩
  · rw [hdispatches s rfl, dispatch_eq hactive] at hop
    have hends := exchange_cases request route (s.commandManner request route) s
    cases hx : exchange request route (s.commandManner request route) s with
    | ok response left =>
      rw [hx] at hop
      cases hop
    | error found left =>
      rw [hx] at hop
      obtain ⟨rfl, hleft⟩ := EStateM.Result.error.inj hop
      rw [if_neg he] at hleft
      subst hleft
      refine (hends.of_error hx).imp_left fun ⟨cause, hunsent, hcause, hsame⟩ => ⟨?_, hsame⟩
      rw [Except.error.inj hcause]
      exact hunsent.imp_left Standing.early_of_packet
  · rw [hrefuses s] at hop
    cases hop
    exact .inl ⟨.inl (.requestTooLong n), rfl⟩

/-- A command of an active session that fails without being cancelled leaves the session active,
and everything about it but its link as it was: its id, its counters, how it signs, its level,
what it knows of the controller. If no frame was handed over for sending, the link and what is on
record of it are as they were too. That is so exactly when the data or the message were too long
or there was no code to sign the frame with, or when the session had no link to begin with. -/
theorem failure_atomic (hissued : Issued s.config op request route) (hactive : s.phase = .active)
    (hfails : op s = .error e t) (hcancelled : e ≠ .cancelled) :
    t.phase = .active ∧ t.toStanding = s.toStanding ∧ (s.handedOver t = [] ↔ t = s) ∧
      (t = s ↔ e.Early ∨ e = .wrongPhase .bound .active) := by
  rw [← hactive]
  rcases hissued.failed hactive hfails hcancelled with ⟨hearly, rfl⟩ | ⟨u, hsends⟩
  · exact ⟨rfl, rfl, iff_of_true (handedOver_self t) rfl, iff_of_true rfl hearly⟩
  · have hstanding : t.toStanding = s.toStanding := hsends.standing_of_error e rfl
    have hhanded := hsends.handedOver_ne_nil hcancelled
    have hne : t ≠ s := by
      rintro rfl
      exact hhanded (handedOver_self t)
    exact ⟨congrArg (·.phase) hstanding, hstanding, iff_of_false hhanded hne,
      iff_of_false hne ((hsends.late rfl).not_early .bound s.phase)⟩

/-- A session whose controller does not answer a command goes on as it was. -/
theorem failure_atomic_unanswered :
    let s := (sample []).run [.establish]
    let t := after (command .deviceId) s
    s.phase = .active ∧ command .deviceId s = .error (.noResponse 1) t ∧ t.phase = .active ∧
      t.toStanding = s.toStanding ∧ s.handedOver t ≠ [] ∧ t ≠ s := by
  intro s t
  have hactive : s.phase = .active := by decide +kernel
  have hfails : command .deviceId s = .error (.noResponse 1) t :=
    eq_error_of_failsWith (by decide +kernel)
  have hhanded : s.handedOver t ≠ [] := by decide +kernel
  obtain ⟨hstill, hstanding, hiff, -⟩ :=
    failure_atomic (.command .deviceId) hactive hfails nofun
  exact ⟨hactive, hfails, hstill, hstanding, hhanded, mt hiff.mpr hhanded⟩

end Session
end Baseboard
