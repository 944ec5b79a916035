import Baseboard.Proofs.Session.Likeness
import Baseboard.Proofs.Session.Reach

/-! Opening a session again after a failure. What the abandoned attempt found out is still there,
but nothing looks at it before it is found out anew, so the next attempt goes as the first attempt
of a fresh session would. -/
namespace Baseboard

/-- A session stands as it was made, as far as only an active session changes how it stands. -/
structure Standing.Unopened (config : Config) (s : Standing) : Prop where
  username_eq : s.username = Field.fit (Config.textBytes config.username)
  untouched : s.phase ≠ .active → s.phase ≠ .closed →
    s.inboundSequence = 0 ∧ s.privilege = .user ∧ s.privilegeError = none

namespace Standing

variable {config : Config} {s t : Standing}

theorem Unopened.answered (h : s.Unopened config) (n : UInt32) (advances : Bool) :
    (s.answered n advances).Unopened config := by
  rw [answered_eq]
  refine ⟨h.username_eq, fun hactive hclosed => ?_⟩
  have hactive : s.phase ≠ .active := hactive
  rw [if_neg hactive]
  exact h.untouched hactive hclosed

end Standing

namespace Session

variable {config : Config} {first s t : Session}

theorem unopened_preserved (config : Config) : Preserved (Standing.Unopened config) where
  answered hs n advances := hs.answered n advances
  retokened hs _ := ⟨hs.username_eq, hs.untouched⟩
  privileged hs hphase _ := ⟨hs.username_eq, fun hactive => absurd hphase hactive⟩
  turn := by
    intro s t h hs
    obtain ⟨hname, huntouched⟩ := hs
    cases h with
    | activated => exact ⟨hname, fun hactive => absurd rfl hactive⟩
    | unprivileged _ hphase => exact ⟨hname, fun hactive => absurd hphase hactive⟩
    | ended => exact ⟨hname, fun _ hclosed => absurd rfl hclosed⟩
    | opened hphase | bound hphase | seeking hphase | sought hphase =>
      exact ⟨hname, fun _ _ => huntouched (by rw [hphase]; decide) (by rw [hphase]; decide)⟩
    | supports hphase | challenged _ hphase =>
      rcases hphase with hphase | hphase <;>
        exact ⟨hname, fun _ _ => huntouched (by rw [hphase]; decide) (by rw [hphase]; decide)⟩
    | rebound hphase =>
      rcases hphase with (hphase | hphase) | hphase <;>
        exact ⟨hname, fun _ _ => huntouched (by rw [hphase]; decide) (by rw [hphase]; decide)⟩

/-- A session can only have been made with settings that are valid. -/
theorem Begun.standing_eq (h : Begun config s) : config.validate = .ok () ∧ s.Unopened config := by
  have hstart {seeds : Seeds} {link : Link} {connected : Bool} {phase : Phase} {s : Session}
      (h : start config seeds link connected phase = .ok s) :
      config.validate = .ok () ∧ s.Unopened config := by
    unfold start at h
    obtain ⟨_, hvalid, h⟩ := Reading.bind_eq_ok_iff.mp h
    cases h
    exact ⟨hvalid, rfl, fun _ _ => ⟨rfl, rfl, rfl⟩⟩
  cases h with
  | unconnected token h => exact ⟨(hstart h).1, (hstart h).2.username_eq, (hstart h).2.untouched⟩
  | overLink token h => exact ⟨(hstart h).1, (hstart h).2.username_eq, (hstart h).2.untouched⟩

theorem Reachable.unopened (h : Reachable config s) : s.Unopened config :=
  (unopened_preserved config).reachable h fun hbegun => hbegun.standing_eq.2

/-- An opening that failed otherwise than by being cancelled leaves its session bound. -/
theorem establish_bound (h : Reachable config s) (hbound : s.phase = .bound) :
    Ends establish s fun r t => ∀ e, r = .error e → e ≠ .cancelled → t.phase = .bound := by
  obtain ⟨hsound, hrest⟩ := h.rests
  refine ends_establish_of_rest hsound hrest hbound (fun e t sought _ hsought _ _ _ => ?_) ?_
  · exact (hsought.rests hrest hbound).2
  · refine fun r t u found sought steps _ _ _ _ => ⟨?_, ?_, fun _ _ _ _ _ _ => rfl⟩
    · rintro rfl
      exact nofun
    · rintro rfl
      exact .intro (fun _ _ _ e he hne => absurd (Except.error.inj he).symm hne)
        fun _ _ _ e he hne => absurd (Except.error.inj he).symm hne

/-- Openings of a bound session that failed one after the other, and not because they were
cancelled. -/
inductive Retried (first : Session) : Session → Prop where
  | none : Retried first first
  | again {t u : Session} {e : Error} (before : Retried first t) (hfailed : establish t = .error e u)
      (hne : e ≠ .cancelled) : Retried first u

theorem Retried.bound (h : Retried first t) (hreachable : Reachable config first)
    (hbound : first.phase = .bound) : Reachable config t ∧ t.phase = .bound := by
  induction h with
  | none => exact ⟨hreachable, hbound⟩
  | @again t u e _ hfailed hne ih =>
    obtain ⟨ht, hphase⟩ := ih
    exact ⟨ht.trans (.single (after_of_error hfailed ▸ .called .establish)),
      (establish_bound ht hphase).of_error hfailed e rfl hne⟩

end Session

/-- Two uses of the link in which the same was done. -/
def Use.SameActions (u v : Use) : Prop := u.actions = v.actions

theorem Use.SameActions.frames_eq {uses uses' : List Use}
    (h : List.Forall₂ Use.SameActions uses uses') :
    uses.flatMap Use.frames = uses'.flatMap Use.frames := by
  induction h with
  | nil => rfl
  | cons huse _ ih =>
    have hframes : Use.frames _ = Use.frames _ := congrArg (List.filterMap Action.frame?) huse
    rw [List.flatMap_cons, List.flatMap_cons, hframes, ih]

namespace Standing

variable {s s' : Standing}

/-- Two standings that cannot be told apart until a session is activated, or asks to be. -/
structure Early (s s' : Standing) : Prop where
  undecided_eq : s.undecided = s'.undecided
  ne_active : s.phase ≠ .active
  ne_challengeIssued : s.phase ≠ .challengeIssued

/-- What is waited for and the frame are the same for both. -/
private theorem askAlike_of_eq {request : Request} {route : Route}
    (hexpectation : s.expectation request route = s'.expectation request route)
    (hpacket : s.packet request route = s'.packet request route) :
    s.AskAlike Use.SameActions request s' request route := by
  refine ⟨hexpectation, ?_⟩
  rw [hpacket]
  cases s'.packet request route with
  | error e => exact .inl ⟨e, rfl, rfl⟩
  | ok p => exact .inr ⟨p, p, rfl, rfl, fun _ _ => rfl⟩

/-- Early on nothing is signed, so what a handshake has found out makes no difference. -/
private theorem frameAuth_undecided (hactive : s.phase ≠ .active)
    (hchallenged : s.phase ≠ .challengeIssued) (command : UInt8) :
    s.undecided.frameAuth command = s.frameAuth command := by
  have hphase : s.undecided.phase = s.phase := rfl
  unfold frameAuth
  rw [hphase]
  cases h : s.phase <;> first | rfl | exact absurd h hactive | exact absurd h hchallenged

private theorem Early.undecided_asks (h : s.Early s') (request : Request) (route : Route) :
    s.undecided.expectation request route = s.expectation request route ∧
      s.undecided.packet request route = s.packet request route := by
  have hauth := frameAuth_undecided h.ne_active h.ne_challengeIssued request.command
  constructor
  · unfold expectation
    rw [hauth]
    rfl
  · unfold packet
    rw [hauth]
    rfl

private theorem Early.symm (h : s.Early s') : s'.Early s := by
  have hphase : s.phase = s'.phase := congrArg (·.phase) h.undecided_eq
  exact ⟨h.undecided_eq.symm, hphase ▸ h.ne_active, hphase ▸ h.ne_challengeIssued⟩

theorem early_likeness : Session.Likeness Early Use.SameActions where
  outline_eq h := congrArg withoutPassword h.undecided_eq
  looks _ _ _ _ := rfl
  rephased {s s' phase} h hactive hchallenged :=
    ⟨congrArg (fun x : Standing => { x with phase := phase }) h.undecided_eq, hactive, hchallenged⟩
  answered {s s'} h n advances := by
    have hundecided (x : Standing) :
        (x.answered n advances).undecided = x.undecided.answered n advances := by
      rw [answered_eq, answered_eq]
      rfl
    refine ⟨?_, ?_, ?_⟩
    · rw [hundecided, hundecided, h.undecided_eq]
    · rw [phase_answered]
      exact h.ne_active
    · rw [phase_answered]
      exact h.ne_challengeIssued
  asks {s s'} h request route := by
    obtain ⟨hexpectation, hpacket⟩ := h.undecided_asks request route
    obtain ⟨hexpectation', hpacket'⟩ := h.symm.undecided_asks request route
    rw [h.undecided_eq] at hexpectation hpacket
    exact askAlike_of_eq (hexpectation.symm.trans hexpectation') (hpacket.symm.trans hpacket')

theorem eq_accord : Session.Accord Eq Use.SameActions where
  outline_eq h := congrArg outline h
  looks _ _ _ _ := rfl
  rephased h _ _ := h ▸ rfl
  answered h n advances := congrArg (·.answered n advances) h
  asks h _ _ := h ▸ askAlike_of_eq rfl rfl
  authType_eq h := congrArg _ h
  revised f _ h := congrArg f h
  activates _ h _ := h ▸ askAlike_of_eq rfl rfl

end Standing

namespace Session

variable {config : Config} {first s t : Session}

/-- The session as it is made with the settings of a bound one, its numbers and a link like its
own: but for what a handshake found out, it stands as the bound one does. -/
theorem Reachable.exists_fresh (h : Reachable config t) (hbound : t.phase = .bound) (link : Link) :
    ∃ fresh, overLink config ⟨t.outboundSequence, t.pingTag⟩ link = .ok fresh ∧ fresh.link = link ∧
      ({ fresh with token := t.token, requestSequence := t.requestSequence } : Session).undecided =
        t.undecided := by
  obtain ⟨hsound, hrest⟩ := h.rests
  obtain ⟨husername, huntouched⟩ := h.unopened
  obtain ⟨hinbound, hprivilege, herror⟩ :=
    huntouched (by rw [hbound]; decide) (by rw [hbound]; decide)
  have hid := hrest.sessionId_eq_zero (by rw [hbound]; decide)
  have hconnected := hrest.connected (.inl hbound)
  have hvalid : config.validate = .ok () := by
    obtain ⟨_, hbegun, -⟩ := h
    exact hbegun.standing_eq.1
  have houtbound : nonzero t.outboundSequence = t.outboundSequence := if_neg hsound.outbound_ne_zero
  obtain ⟨fresh, hfresh⟩ :
      ∃ fresh, overLink config ⟨t.outboundSequence, t.pingTag⟩ link = .ok fresh := by
    rw [overLink, start, hvalid]
    exact ⟨_, rfl⟩
  refine ⟨fresh, hfresh, ?_⟩
  rw [overLink, start, hvalid] at hfresh
  cases hfresh
  refine ⟨rfl, ?_⟩
  simp only [Standing.undecided, hsound.config_eq, hbound, hconnected, husername, hsound.password_eq,
    hprivilege, herror, hid, hinbound, houtbound]

/-- A bound session on which openings failed, but were not cancelled, is opened again just as a fresh
one is that has the same settings, token and numbers and a link over which the same is going to
happen: with the same frames and the same outcome. In the end nothing tells the two sessions apart
but what the handshake found out, and not even that if they have been opened. -/
theorem retry_uncontaminated (h : Reachable config first) (hbound : first.phase = .bound)
    (hretried : first.Retried t) {link : Link} (hlink : link.Alike t.link) :
    ∃ fresh, overLink config ⟨t.outboundSequence, t.pingTag⟩ link = .ok fresh ∧
      let u : Session := { fresh with token := t.token, requestSequence := t.requestSequence }
      t.phase = .bound ∧ outcome establish t = outcome establish u ∧
      t.handedOver (after establish t) = u.handedOver (after establish u) ∧
      (after establish t).undecided = (after establish u).undecided ∧
      (after establish u).link.Alike (after establish t).link ∧
      (outcome establish u = .ok () →
        (after establish t).toStanding = (after establish u).toStanding) := by
  obtain ⟨hreachable, htbound⟩ := hretried.bound h hbound
  obtain ⟨fresh, hfresh, hown, hundecided⟩ := hreachable.exists_fresh htbound link
  refine ⟨fresh, hfresh, ?_⟩
  intro u
  have hearly : u.Early t.toStanding := by
    have hphase : u.phase = t.phase := congrArg (·.phase) hundecided
    rw [htbound] at hphase
    exact ⟨hundecided, by rw [hphase]; decide, by rw [hphase]; decide⟩
  have hlink : u.link.Alike t.link := by
    rw [show u.link = link from hown]
    exact hlink
  have hpaired : Paired Standing.Early Use.SameActions u t u t :=
    ⟨hearly, hlink, id, [], [], .refl u, .refl t, .nil⟩
  have hends : EndAlike establish u establish t fun r v v' =>
      (r = .ok () → Paired Eq Use.SameActions u t v v') ∧
        Paired (fun x x' => x.undecided = x'.undecided) Use.SameActions u t v v' := by
    refine Standing.eq_accord.establish Standing.early_likeness hpaired (fun c authType h => ?_)
      (fun h => ?_) fun h => ?_
    · exact congrArg (·.withCapabilities c authType) h.undecided_eq
    · exact ⟨h.undecided_eq, congrArg (·.ended) h.undecided_eq, congrArg (·.rebound) h.undecided_eq⟩
    · rw [h]
      exact ⟨rfl, rfl, rfl⟩
  obtain ⟨houtcome, hopened, hended⟩ := hends.ending
  obtain ⟨uses, uses', hadds, hadds', hsame⟩ := hended.uses
  refine ⟨htbound, houtcome, ?_, hended.standing.symm, hended.link, fun hok => ?_⟩
  · rw [hadds.handedOver_eq, hadds'.handedOver_eq, Use.SameActions.frames_eq hsame]
  · exact (hopened hok).standing.symm

/-- A session whose controller offers no authentication type but `Password`, and then does not know
the user. When it is asked again it offers no type but none at all, and lets the session be
opened. -/
def refusedOnce : Session :=
  let granting (r : Request) (n : UInt8) (data : Bytes) :=
    responding (.reply (r.numbered n) .completed (some data))
  scripted sampleConfig (validate_of_anonymous rfl rfl) [
    granting (.authCapabilities 0x8E .administrator) 0 [0x0E, 0x10, 0, 0, 0, 0, 0, 0],
    responding (.reply ((Request.sessionChallenge .password (Field.fit [])).numbered 1) ⟨0x81⟩ none),
    granting (.authCapabilities 0x8E .administrator) 2 [0x0E, 1, 0, 0, 0, 0, 0, 0],
    granting (.sessionChallenge .none (Field.fit [])) 3 (1 :: List.replicate 19 0),
    granting (.activateSession .none .administrator (Field.fit []) 1) 4
      [0, 1, 0, 0, 0, 1, 0, 0, 0, 4],
    granting (.setPrivilege .administrator) 5 [4]]

/-- The first attempt leaves its authentication type behind, and the second goes as it would have
gone without it. -/
theorem refusedOnce_retried :
    ∃ t fresh v, establish refusedOnce = .error (.refused .invalidUsername) t ∧
      t.authType = .password ∧
      overLink sampleConfig ⟨t.outboundSequence, t.pingTag⟩ t.link = .ok fresh ∧
      establish t = .ok () v ∧ v.authType = .none ∧
      let u : Session := { fresh with token := t.token, requestSequence := t.requestSequence }
      outcome establish u = .ok () ∧ (t.handedOver v).length = 4 ∧
        t.handedOver v = u.handedOver (after establish u) ∧
        v.toStanding = (after establish u).toStanding := by
  have hfailed : establish refusedOnce = .error (.refused .invalidUsername) _ :=
    eq_error_of_failsWith (by decide +kernel)
  obtain ⟨_, v, hopened, hseen⟩ : ∃ r v, establish (after establish refusedOnce) = .ok r v ∧
      decide (((after establish refusedOnce).handedOver v).length = 4 ∧ v.authType = .none) = true :=
    exists_of_gives (by decide +kernel)
  have hreachable : Reachable sampleConfig refusedOnce :=
    (scripted_begun (validate_of_anonymous rfl rfl) _).reachable_run []
  obtain ⟨fresh, hfresh, -, houtcome, hframes, -, -, hstanding⟩ :=
    retry_uncontaminated hreachable (by decide +kernel)
      (Retried.none.again hfailed nofun) rfl
  have hok : outcome establish (after establish refusedOnce) = .ok () := by rw [outcome, hopened]
  rw [after_of_ok hopened] at hframes hstanding
  obtain ⟨hcount, hnone⟩ := of_decide_eq_true hseen
  exact ⟨_, fresh, v, hfailed, by decide +kernel, hfresh, hopened, hnone, houtcome.symm.trans hok,
    hcount, hframes, hstanding (houtcome.symm.trans hok)⟩

end Session
end Baseboard
