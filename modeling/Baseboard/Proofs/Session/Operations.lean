import Baseboard.Proofs.Session.Management

/-! How the operations of a session end, each in terms of the steps that it is made of. What
is shown of an operation elsewhere is shown by its rule here, and not from its definition. -/
namespace Baseboard.Session

variable {α : Type} {s : Session}

theorem ends_manage (request : Request) (s : Session)
    (post : Except Error Response → Session → Prop) :
    Ends (manage request) s post ↔
      Ends (exchange request (.direct s.config.controller) ⟨s.config.maxTries, true, true⟩) s post := by
  unfold manage
  rw [ends_bind, ends_get]

/-- The extended question comes first, and is asked again without the extension when the answer
to it does not report completion. -/
theorem ends_authCapabilities {post : Except Error Capabilities → Session → Prop}
    (h : Ends (manage (.authCapabilities 0x8E s.config.privilege)) s fun r t =>
      (∀ e, r = .error e → post (.error e) t) ∧
      (∀ first, r = .ok first → first.code = .completed → post (capabilitiesOf first) t) ∧
      ∀ first, r = .ok first → first.code ≠ .completed →
        Ends (manage (.authCapabilities 0x0E s.config.privilege)) t fun r u =>
          post (r.bind capabilitiesOf) u) : Ends authCapabilities s post := by
  unfold authCapabilities
  rw [ends_bind, ends_get]
  dsimp only
  rw [ends_bind]
  refine h.imp fun r t ht => ?_
  obtain ⟨hlost, htaken, hagain⟩ := ht
  cases r with
  | error e => exact hlost e rfl
  | ok first =>
    dsimp only
    by_cases hcode : first.code = .completed
    · rw [if_pos hcode, ends_bind, ends_pure]
      refine (ends_ofResult ..).mpr ?_
      have htaken := htaken first rfl hcode
      rw [capabilitiesOf, Response.accepted_eq_ok_iff.mpr ⟨hcode, rfl⟩] at htaken
      exact htaken
    · rw [if_neg hcode, ends_bind]
      refine (hagain first rfl hcode).imp fun r u hu => ?_
      cases r with
      | error e => exact hu
      | ok second =>
        dsimp only
        rw [ends_bind, ends_ofResult]
        change post (second.accepted >>= _) u at hu
        cases haccepted : second.accepted with
        | error e =>
          rw [haccepted] at hu
          exact hu
        | ok x =>
          rw [haccepted] at hu
          exact (ends_ofResult ..).mpr hu

theorem ends_sessionChallenge (authType : AuthType) (s : Session)
    (post : Except Error Challenge → Session → Prop) :
    Ends (sessionChallenge authType) s post ↔
      Ends (manage (.sessionChallenge authType s.username)) s fun r t =>
        post (r.bind challengeOf) t := by
  unfold sessionChallenge
  rw [ends_bind, ends_get]
  exact ends_bind_ofResult ..

theorem ends_activateSession (challenge : Field) (initial : UInt32) (s : Session)
    (post : Except Error Activation → Session → Prop) :
    Ends (activateSession challenge initial) s post ↔
      Ends (manage (.activateSession s.authType s.config.privilege challenge initial)) s
        fun r t => post (r.bind activationOf) t := by
  unfold activateSession
  rw [ends_bind, ends_get]
  exact ends_bind_ofResult ..

theorem ends_setPrivilege (level : Privilege) (s : Session)
    (post : Except Error Privilege → Session → Prop) :
    Ends (setPrivilege level) s post ↔
      Ends (manage (.setPrivilege level)) s fun r t => post (r.bind (levelOf level)) t := by
  rw [← ends_bind_ofResult]
  have heq : setPrivilege level =
      manage (.setPrivilege level) >>= fun response => ofResult (levelOf level response) := by
    unfold setPrivilege levelOf
    congr 1
    funext response s
    cases response.acceptedFor .setPrivilege <;> rfl
  rw [heq]

theorem ends_closeSession (sessionId : UInt32) (s : Session)
    (post : Except Error Unit → Session → Prop) :
    Ends (closeSession sessionId) s post ↔
      Ends (manage (.closeSession sessionId)) s fun r t =>
        post (r.bind fun response => (response.acceptedFor .closeSession).map fun _ => ()) t := by
  rw [← ends_bind_ofResult]
  have heq : closeSession sessionId = manage (.closeSession sessionId) >>= fun response =>
      ofResult ((response.acceptedFor .closeSession).map fun _ => ()) := by
    unfold closeSession
    congr 1
    funext response s
    cases response.acceptedFor .closeSession <;> rfl
  rw [heq]

theorem ends_connect {post : Except Error Unit → Session → Prop}
    (hother : s.phase ≠ .unconnected → post (.error (.wrongPhase .unconnected s.phase)) s)
    (hunopened : s.phase = .unconnected → ∀ e, post (.error (.bindFailed e)) s)
    (hopened : s.phase = .unconnected →
      ∀ e, post (.error (.connectFailed s.config.peer e)) { s with phase := .socketOpen })
    (hbound : s.phase = .unconnected → post (.ok ()) { s with connected := true, phase := .bound }) :
    Ends connect s post := by
  unfold connect
  rw [ends_bind]
  refine ends_expect .unconnected s _ (fun hphase => ?_) hother
  dsimp only
  rw [ends_bind, ends_get]
  dsimp only
  cases s.link.network.bindFailure with
  | some e => exact hunopened hphase e
  | none =>
    dsimp only
    rw [ends_bind, enter, ends_revise]
    dsimp only
    cases s.link.network.connectFailure with
    | some e => exact hopened hphase e
    | none => exact hbound hphase

theorem ends_ping {post : Except Error Presence.Pong → Session → Prop}
    (hother : s.phase ≠ .bound → post (.error (.wrongPhase .bound s.phase)) s)
    (hunlinked : s.phase = .bound → s.connected = false →
      post (.error (.wrongPhase .bound .pingSent)) { s with phase := .pingSent })
    (hlooked : s.phase = .bound →
      let waiting : Session := { s with phase := .pingSent }
      Ends (Link.exchange (acceptPong s.pingTag) (some s.token) (Presence.ping s.pingTag)
        s.config.pingTimeout s.config.maxTries) s.link fun r link =>
        match r with
        | .ok pong => post (.ok pong)
          { waiting.used (.presence s.pingTag) none link with phase := .pongReceived }
        | .error e => post (.error e)
          { waiting.used (.presence s.pingTag) (some e) link with phase := .bound }) :
    Ends ping s post := by
  unfold ping
  rw [ends_bind]
  refine ends_expect .bound s _ (fun hphase => ?_) hother
  dsimp only
  rw [ends_bind, ends_get]
  dsimp only
  rw [ends_bind, enter, ends_revise]
  dsimp only
  rw [ends_bind]
  refine ends_expectLink _ _ (fun _ => ?_) (hunlinked hphase)
  dsimp only
  rw [ends_bind, ends_attempt, ends_usingLink]
  refine (hlooked hphase).imp fun r link hr => ?_
  cases r <;> exact hr

/-- The wait for a pong goes on over everything that is none. -/
theorem exists_acceptPong (tag : UInt8) (b : Bytes) : ∃ pong, acceptPong tag b = .ok pong := by
  unfold acceptPong
  cases hparse : Presence.Pong.parse b with
  | ok pong => cases pong <;> exact ⟨_, rfl⟩
  | error e => cases Presence.Pong.safe_parse b e hparse <;> exact ⟨_, rfl⟩

theorem acceptPong_ne_error {tag : UInt8} {b : Bytes} {e : Error} : acceptPong tag b ≠ .error e := by
  obtain ⟨pong, h⟩ := exists_acceptPong tag b
  rw [h]
  nofun

/-- A failed search can be put up with, but not one that was cancelled. -/
theorem ends_pingByPolicy {post : Except Error Unit → Session → Prop}
    (hskipped : post (.ok ()) s)
    (hsought : Ends ping s fun r t => (∀ e, r = .error e → post (.error e) t) ∧
      (r ≠ .error .cancelled → post (.ok ()) t)) : Ends pingByPolicy s post := by
  unfold pingByPolicy
  rw [ends_bind, ends_get]
  dsimp only
  cases s.config.ping with
  | skip => exact hskipped
  | tolerate =>
    dsimp only
    rw [ends_bind, ends_attempt]
    refine hsought.imp fun r t ht => ?_
    dsimp only
    split
    · exact ht.1 _ rfl
    · rename_i hne
      exact ht.2 hne
  | require =>
    dsimp only
    rw [ends_bind]
    refine hsought.imp fun r t ht => ?_
    cases r with
    | ok pong => exact ht.2 nofun
    | error e => exact ht.1 e rfl

/-- Giving up a session always ends it, and never fails. -/
theorem ends_abort {post : Except Error Unit → Session → Prop}
    (hinactive : s.phase ≠ .active → post (.ok ()) { s with toStanding := s.ended })
    (hactive : s.phase = .active →
      Ends (exchange (.closeSession s.sessionId) (.direct s.config.controller) ⟨1, false, true⟩) s
        fun _ t => post (.ok ()) { t with toStanding := t.ended }) : Ends abort s post := by
  unfold abort
  rw [ends_bind, ends_get]
  dsimp only
  by_cases hphase : s.phase = .active
  · rw [if_pos hphase, ends_bind, ends_attempt, ends_bind]
    refine (hactive hphase).imp fun outcome t ht => ?_
    cases outcome with
    | ok response => exact (ends_ofResult ..).mpr ht
    | error e => exact ht
  · rw [if_neg hphase]
    exact hinactive hphase

theorem abort_closes (s : Session) :
    Ends abort s fun outcome t => outcome = .ok () ∧ t.phase = .closed :=
  ends_abort (fun _ => ⟨rfl, rfl⟩) fun _ =>
    .intro (fun _ _ _ => ⟨rfl, rfl⟩) fun _ _ _ => ⟨rfl, rfl⟩

/-- What follows a session that was given up starts from where that left it. -/
theorem ends_abort_bind {f : Unit → Op α} {post : Except Error α → Session → Prop}
    (h : Ends abort s fun _ t => Ends (f ()) t post) : Ends (abort >>= f) s post := by
  rw [ends_bind]
  refine (h.and (abort_closes s)).imp fun r t ht => ?_
  obtain ⟨hrest, rfl, -⟩ := ht
  exact hrest

theorem discard_of_inactive (h : s.phase ≠ .active) : s.discard = s := by
  rw [discard, if_neg h]

theorem discard_of_active (h : s.phase = .active) : s.discard = after abort s := by
  rw [discard, if_pos h, after]
  cases abort s <;> rfl

theorem ends_close {post : Except Error Unit → Session → Prop}
    (hclosed : s.phase = .closed → post (.ok ()) s)
    (hother : s.phase ≠ .active → post (.error (.wrongPhase .active s.phase)) s)
    (hactive : s.phase = .active → Ends (closeSession s.sessionId) s fun r t =>
      post r { t with toStanding := t.ended }) : Ends close s post := by
  unfold close
  rw [ends_bind, ends_get]
  dsimp only
  by_cases hphase : s.phase = .closed
  · rw [if_pos hphase]
    exact hclosed hphase
  rw [if_neg hphase, ends_bind]
  refine ends_expect .active s _ (fun hphase => ?_) hother
  dsimp only
  rw [ends_bind, ends_attempt]
  refine (hactive hphase).imp fun r t ht => ?_
  dsimp only
  rw [ends_bind, ends_revise]
  exact (ends_ofResult ..).mpr ht

/-- That a level was not granted is only kept in the session, unless the request was cancelled. -/
theorem ends_raisePrivilege {post : Except Error Unit → Session → Prop}
    (h : Ends (setPrivilege s.config.privilege) s fun r t =>
      (∀ level, r = .ok level → post (.ok ()) { t with privilege := level }) ∧
      (r = .error .cancelled → post (.error .cancelled) t) ∧
      ∀ e, r = .error e → e ≠ .cancelled → post (.ok ()) { t with privilegeError := some e }) :
    Ends raisePrivilege s post := by
  unfold raisePrivilege
  rw [ends_bind, ends_get]
  dsimp only
  rw [ends_bind, ends_attempt]
  refine h.imp fun r t ht => ?_
  dsimp only
  split
  · exact ht.1 _ rfl
  · exact ht.2.1 rfl
  · rename_i e hne
    exact ht.2.2 e rfl hne

/-- An opening goes from the search to the requests, and what is made of a failure there depends
on whether the owner has cancelled. -/
theorem ends_establish {post : Except Error Unit → Session → Prop}
    (hother : s.phase ≠ .bound → post (.error (.wrongPhase .bound s.phase)) s)
    (hlost : s.phase = .bound → ∀ e t, pingByPolicy s = .error e t → post (.error e) t)
    (hdone : s.phase = .bound →
      ∀ t u, pingByPolicy s = .ok () t → handshake t = .ok () u → post (.ok ()) u)
    (hcancelled : s.phase = .bound →
      ∀ t u, pingByPolicy s = .ok () t → handshake t = .error .cancelled u →
        Ends abort u fun _ v => post (.error .cancelled) v)
    (hfailed : s.phase = .bound →
      ∀ e t u, pingByPolicy s = .ok () t → handshake t = .error e u → e ≠ .cancelled →
        post (.error e) { u with toStanding := u.rebound }) :
    Ends establish s post := by
  unfold establish
  rw [ends_bind]
  refine ends_expect .bound s _ (fun hphase => ?_) hother
  dsimp only
  rw [ends_bind]
  refine .intro (fun _ t ht => ?_) (hlost hphase)
  dsimp only
  rw [ends_bind, ends_attempt]
  refine .intro (fun _ u hu => hdone hphase t u ht hu) fun e u hu => ?_
  dsimp only
  split
  · rename_i hr
    cases hr
  · rename_i hr
    cases hr
    exact ends_abort_bind (hcancelled hphase t u ht hu)
  · rename_i found hne hr
    cases hr
    rw [ends_bind, ends_revise]
    exact hfailed hphase e t u ht hu hne

/-- A command that was cancelled gives its session up. -/
theorem ends_dispatch {request : Request} {route : Route}
    {post : Except Error Response → Session → Prop}
    (hother : s.phase ≠ .active → post (.error (.wrongPhase .active s.phase)) s)
    (hactive : s.phase = .active →
      Ends (exchange request route
          ⟨s.config.maxTries, true, !(route.depth = 0 && request.isSendMessage)⟩) s fun r t =>
        (r = .error .cancelled → Ends abort t fun _ u => post (.error .cancelled) u) ∧
        (r ≠ .error .cancelled → post r t)) : Ends (dispatch request route) s post := by
  unfold dispatch
  rw [ends_bind]
  refine ends_expect .active s _ (fun hphase => ?_) hother
  dsimp only
  rw [ends_bind, ends_get]
  dsimp only
  rw [ends_bind, ends_attempt]
  refine (hactive hphase).imp fun r t ht => ?_
  dsimp only
  split
  · exact ht.2 nofun
  · exact ends_abort_bind (ht.1 rfl)
  · rename_i hne
    exact ht.2 fun h => hne (Except.error.inj h)

theorem ends_command (request : Request) (s : Session)
    (post : Except Error Response → Session → Prop) :
    Ends (command request) s post ↔
      Ends (dispatch request (s.config.route s.config.targetAddress s.config.targetChannel)) s
        post := by
  unfold command
  rw [ends_bind, ends_get]

section Raw

variable {netFn unit target channel number : UInt8} {data : Bytes}

/-- A request whose data are too long is refused before anything is done. -/
theorem raw_of_long (h : longestData < data.length) :
    raw netFn unit target channel number data s = .error (.requestTooLong data.length) s := by
  rw [raw, if_pos h]
  rfl

theorem raw_of_short (h : data.length ≤ longestData) :
    raw netFn unit target channel number data s =
      dispatch (.raw netFn unit number (if data.isEmpty then none else some data))
        (s.config.route target channel) s := by
  rw [raw, if_neg (Nat.not_lt_of_le h)]
  rfl

theorem ends_raw {post : Except Error Response → Session → Prop}
    (hlong : longestData < data.length → post (.error (.requestTooLong data.length)) s)
    (hdispatched : Ends (dispatch (.raw netFn unit number (if data.isEmpty then none else some data))
      (s.config.route target channel)) s post) :
    Ends (raw netFn unit target channel number data) s post := by
  rcases Nat.lt_or_ge longestData data.length with h | h
  · exact .error (raw_of_long h) (hlong h)
  · exact .congr (raw_of_short h) hdispatched

end Raw

theorem ends_require (request : Request) (s : Session)
    (post : Except Error Response → Session → Prop) :
    Ends (require request) s post ↔
      Ends (command request) s fun r t => post (r.bind Response.accepted) t :=
  ends_bind_ofResult ..

end Baseboard.Session
