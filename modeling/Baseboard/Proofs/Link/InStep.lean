import Baseboard.Proofs.Link.Waiting
import Baseboard.Proofs.Pairing

/-! Two exchanges that go the same way step by step. As long as what comes in is the same to both,
their waits end alike, and so do the exchanges. -/
namespace Baseboard.Link

variable {α : Type} {pace pace' : Pace} {accept : Acceptor α} {cancel : Option CancelToken}
  {frame frame' : Bytes} {timeout : Nat}

/-- Two waits that are brought the same go on alike, or end alike. -/
theorem settle_alike {rest rest' : Link → EStateM.Result Error Link (Option α)}
    {post : Except Error (Option α) → Link → Link → Prop} {l l' : Link}
    {outcome : Except IoFailure Bytes}
    (hrest : settle accept rest outcome l = rest l → EndAlike rest l rest' l' post)
    (hretry : settle accept rest outcome l = rest l.countRetry →
      EndAlike rest l.countRetry rest' l'.countRetry post)
    (hstop : ∀ r, post r l l') :
    EndAlike (settle accept rest outcome) l (settle accept rest' outcome) l' post := by
  rcases ignored_or_concludes accept outcome with hignored | ⟨r, hr⟩
  · rcases settle_of_ignored hignored with hagain | hagain
    · exact .congr (hagain _ _) (hagain _ _) (hrest (hagain _ _))
    · exact .congr (hagain _ _) (hagain _ _) (hretry (hagain _ _))
  · exact ends_settle hr (ends_settle hr ⟨rfl, hstop _⟩)

/-- Two exchanges that go the same way as long as their links are related by `R`: they look alike
to their callers, their sends come out alike, and so do their waits, at least those that leave a
link on which the exchange may go on. -/
structure InStep (pace pace' : Pace) (accept : Acceptor α) (cancel : Option CancelToken)
    (frame frame' : Bytes) (timeout : Nat) (live : Link → Prop) (R : Link → Link → Prop) :
    Prop where
  isCancelled_eq {l l' : Link} : R l l' → l'.isCancelled cancel = l.isCancelled cancel
  send {l l' : Link} : R l l' → (l'.countSend.send frame').1 = (l.countSend.send frame).1 ∧
    R (l.countSend.send frame).2 (l'.countSend.send frame').2
  live_of_ranOut {deadline : Nat} {l t : Link} :
    awaitAnswer pace accept cancel deadline l = .ok none t → live t
  wait {l l' : Link} : R l l' →
    live (after (awaitAnswer pace accept cancel (l.network.now + timeout)) l) →
      EndAlike (awaitAnswer pace accept cancel (l.network.now + timeout)) l
        (awaitAnswer pace' accept cancel (l'.network.now + timeout)) l' fun _ => R

namespace InStep

variable {live : Link → Prop} {R : Link → Link → Prop} {l l' : Link}

theorem attempts (h : InStep pace pace' accept cancel frame frame' timeout live R)
    (maxTries left : Nat) (failure : Option IoFailure) (sent : Bool) (hl : R l l')
    (hlive : live (after
      (Link.attempts pace accept cancel frame timeout maxTries left failure sent) l)) :
    EndAlike (Link.attempts pace accept cancel frame timeout maxTries left failure sent) l
      (Link.attempts pace' accept cancel frame' timeout maxTries left failure sent) l'
      fun _ => R := by
  induction left generalizing failure sent l l' with
  | zero => exact .both_error attempts_zero attempts_zero hl
  | succ left ih =>
    have hsame := h.isCancelled_eq hl
    cases hc : l.isCancelled cancel with
    | true =>
      exact .both_error (attempts_of_cancelled hc) (attempts_of_cancelled (hsame.trans hc)) hl
    | false =>
    rw [hc] at hsame
    obtain ⟨houtcome, hnext⟩ := h.send hl
    cases hs : l.countSend.send frame with
    | mk outcome next =>
    cases hs' : l'.countSend.send frame' with
    | mk outcome' next' =>
    rw [hs, hs'] at houtcome hnext
    obtain rfl : outcome' = outcome := houtcome
    cases outcome' with
    | error cause =>
      have hfirst :
          Link.attempts pace accept cancel frame timeout maxTries (left + 1) failure sent l =
            Link.attempts pace accept cancel frame timeout maxTries left (some cause) sent next :=
        attempts_of_sendFailed hc hs
      rw [after_congr hfirst] at hlive
      exact .congr hfirst (attempts_of_sendFailed hsame hs') (ih _ _ hnext hlive)
    | ok =>
      have hfirst :
          Link.attempts pace accept cancel frame timeout maxTries (left + 1) failure sent l =
            tryOn pace accept cancel frame timeout maxTries left failure
              (next.network.now + timeout) next := attempts_of_sent hc hs
      rw [after_congr hfirst] at hlive
      refine .congr hfirst (attempts_of_sent hsame hs') (EndAlike.bind ?_)
      refine ((h.wait hnext ?_).and_ends (.self ..)).imp fun r t t' ⟨hself, ht⟩ => ?_
      · -- A wait that does not end the exchange leaves a link on which it may go on.
        cases ha : awaitAnswer pace accept cancel (next.network.now + timeout) next with
        | error e t =>
          rw [after_of_error ha]
          rwa [tryOn, after_bind_of_error ha] at hlive
        | ok answer? t =>
          rw [after_of_ok ha]
          cases answer? with
          | some answer => rwa [tryOn, after_bind_of_ok ha] at hlive
          | none => exact h.live_of_ranOut ha
      · rcases r with e | _ | answer
        · exact ht
        · rw [tryOn, after_bind_of_ok (hself none rfl)] at hlive
          exact ih failure true ht hlive
        · exact .pure ht

theorem exchangePaced (h : InStep pace pace' accept cancel frame frame' timeout live R)
    (tries : Nat) (hl : R l l')
    (hlive : live (after (Link.exchangePaced pace accept cancel frame timeout tries) l)) :
    EndAlike (Link.exchangePaced pace accept cancel frame timeout tries) l
      (Link.exchangePaced pace' accept cancel frame' timeout tries) l' fun _ => R :=
  h.attempts (max tries 1) (max tries 1) none false hl hlive

end InStep

end Baseboard.Link
