import Baseboard.Proofs.Link.Parallel
import Baseboard.Proofs.Session.Asking

/-! Two sessions that go the same way. As long as they cannot be told apart by what their
operations look at, and their networks bring about the same events, the operations have the same
outcomes and ask for the same things. -/
namespace Baseboard

namespace Standing

/-- The request by which a session returns its challenge. -/
def activation (s : Standing) (challenge : Field) : Request :=
  .activateSession s.authType s.config.privilege (s.transform.apply challenge s.password)
    s.outboundSequence

/-- The standing with nothing of what a handshake finds out. -/
def undecided (s : Standing) : Standing :=
  { s with authType := .none, policy := .perMessage, transform := .standard, capabilities := none }

/-- The standing with another password than the user's. -/
def withoutPassword (s : Standing) : Standing :=
  { s with config.password := "", password := Field.fit [] }

/-- What every operation of a session can look at. -/
def outline (s : Standing) : Standing := s.undecided.withoutPassword

/-- A request of the one standing and a request of the other wait for the same answers, and go out
in frames such that the uses of the link for them agree. -/
structure AskAlike (agree : Use → Use → Prop) (s : Standing) (request : Request) (s' : Standing)
    (request' : Request) (route : Route) : Prop where
  expectation_eq : s.expectation request route = s'.expectation request' route
  packets : (∃ e, s.packet request route = .error e ∧ s'.packet request' route = .error e) ∨
    ∃ p p', s.packet request route = .ok p ∧ s'.packet request' route = .ok p' ∧
      ∀ (actions : List Action) failure,
        agree ⟨s, .request request route, actions.map (Action.reframe p.encode), failure⟩
          ⟨s', .request request' route, actions.map (Action.reframe p'.encode), failure⟩

end Standing

namespace Session

variable {α β : Type} {like likeNext : Standing → Standing → Prop} {agree : Use → Use → Prop}
  {first first' s s' t t' : Session}

/-- Two sessions have come from `first` and `first'` to where they stand alike, in uses of the link
that agree one by one. -/
structure Paired (like : Standing → Standing → Prop) (agree : Use → Use → Prop)
    (first first' s s' : Session) : Prop where
  standing : like s.toStanding s'.toStanding
  link : s.link.Alike s'.link
  stats : first.link.stats = first'.link.stats → s.link.stats = s'.link.stats
  uses : ∃ uses uses', first.Adds uses s ∧ first'.Adds uses' s' ∧ List.Forall₂ agree uses uses'

namespace Paired

/-- Between two uses of the link the sessions can be made to stand otherwise. -/
theorem restanding (h : Paired like agree first first' s s') {x x' : Standing}
    (hx : likeNext x x') :
    Paired likeNext agree first first' { s with toStanding := x } { s' with toStanding := x' } := by
  obtain ⟨uses, uses', hadds, hadds', hagree⟩ := h.uses
  exact ⟨hx, h.link, h.stats, uses, uses', ⟨hadds.uses_eq, hadds.did⟩, ⟨hadds'.uses_eq, hadds'.did⟩,
    hagree⟩

/-- One more use of the link by each of the sessions. -/
theorem used (h : Paired like agree first first' s s') {frame frame' : Bytes} {link link' : Link}
    (hapace : Link.Apace frame frame' s.link s'.link link link') {purpose purpose' : Purpose}
    (failure : Option Error)
    (hagree : ∀ actions : List Action,
      agree ⟨s.toStanding, purpose, actions.map (Action.reframe frame), failure⟩
        ⟨s'.toStanding, purpose', actions.map (Action.reframe frame'), failure⟩)
    {x x' : Standing} (hx : likeNext x x') :
    Paired likeNext agree first first' { s.used purpose failure link with toStanding := x }
      { s'.used purpose' failure link' with toStanding := x' } := by
  obtain ⟨uses, uses', hadds, hadds', hall⟩ := h.uses
  obtain ⟨actions, hdid, hdid'⟩ := hapace.did
  refine ⟨hx, hapace.alike, fun hstats => hapace.stats (h.stats hstats), _, _,
    hadds.trans ⟨?_, ?_⟩, hadds'.trans ⟨?_, ?_⟩, List.rel_append hall (.cons (hagree actions) .nil)⟩
  · rw [← hdid.drop_eq]
    rfl
  · rw [List.flatMap_singleton]
    exact hdid
  · rw [← hdid'.drop_eq]
    rfl
  · rw [List.flatMap_singleton]
    exact hdid'

end Paired

/-- Standings that are `like` cannot be told apart by the requests that manage a session, nor by
the search for the controller, and stay so. -/
structure Likeness (like : Standing → Standing → Prop) (agree : Use → Use → Prop) : Prop where
  outline_eq : ∀ {s s'}, like s s' → s.outline = s'.outline
  answered : ∀ {s s'}, like s s' → ∀ n advances,
    like (s.answered n advances) (s'.answered n advances)
  rephased : ∀ {s s'} {phase : Phase}, like s s' → phase ≠ .active → phase ≠ .challengeIssued →
    like { s with phase := phase } { s' with phase := phase }
  asks : ∀ {s s'}, like s s' → ∀ request route, s.AskAlike agree request s' request route
  looks : ∀ {s s'}, like s s' → ∀ tag actions failure,
    agree ⟨s, .presence tag, actions, failure⟩ ⟨s', .presence tag, actions, failure⟩

namespace Likeness

/-- Whatever is read off the outline is the same. -/
theorem reads (hl : Likeness like agree) {s s' : Standing} (h : like s s') (f : Standing → α)
    (hf : ∀ x : Standing, f x.outline = f x := by exact fun _ => rfl) : f s = f s' := by
  rw [← hf s, hl.outline_eq h, hf s']

theorem exchange (hl : Likeness like agree) (h : Paired like agree first first' s s')
    {request request' : Request} {route : Route}
    (hask : s.AskAlike agree request s'.toStanding request' route) (manner : Manner) :
    EndAlike (exchange request route manner) s (exchange request' route manner) s'
      fun _ => Paired like agree first first' := by
  have hconnected : s.connected = s'.connected := hl.reads h.standing (·.connected)
  have hphase : s.phase = s'.phase := hl.reads h.standing (·.phase)
  have htoken : s.token = s'.token := hl.reads h.standing (·.token)
  have htimeout : s.config.timeout = s'.config.timeout := hl.reads h.standing (·.config.timeout)
  unfold Session.exchange
  refine EndAlike.get_bind ?_
  rcases hask.packets with ⟨e, hp, hp'⟩ | ⟨p, p', hp, hp', hagree⟩
  · rw [hp, hp']
    exact ⟨rfl, h⟩
  rw [hp, hp', ← hask.expectation_eq, ← htoken, ← htimeout]
  refine EndAlike.ofOk_bind (EndAlike.bind ?_)
  refine EndAlike.expectLink hconnected hphase (EndAlike.bind (EndAlike.usingLink ?_)) h
  refine (Link.exchange_apace h.link ..).imp fun r link link' hapace => ?_
  cases r with
  | ok answer =>
    refine EndAlike.bind (EndAlike.revise (EndAlike.pure ?_))
    exact h.used hapace none (hagree · none) (hl.answered h.standing _ _)
  | error e => exact h.used hapace (some e) (hagree · (some e)) h.standing

/-- Two requests that manage the sessions, as long as what is asked for is alike. -/
theorem managed (hl : Likeness like agree) (h : Paired like agree first first' s s')
    {request request' : Request}
    (hask : s.AskAlike agree request s'.toStanding request' (.direct s'.config.controller)) :
    EndAlike (manage request) s (manage request') s'
      fun _ => Paired like agree first first' := by
  have hcontroller : s.config.controller = s'.config.controller :=
    hl.reads h.standing (·.config.controller)
  have htries : s.config.maxTries = s'.config.maxTries := hl.reads h.standing (·.config.maxTries)
  unfold Session.manage
  refine EndAlike.get_bind ?_
  rw [hcontroller, htries]
  exact hl.exchange h hask _

theorem manage (hl : Likeness like agree) (h : Paired like agree first first' s s')
    (request : Request) :
    EndAlike (manage request) s (manage request) s'
      fun _ => Paired like agree first first' :=
  hl.managed h (hl.asks h.standing ..)

/-- What is read off the answers to two such requests is the same, since the answers are. -/
theorem read (hl : Likeness like agree) (h : Paired like agree first first' s s')
    {request request' : Request}
    (hask : s.AskAlike agree request s'.toStanding request' (.direct s'.config.controller))
    (f : Response → Except Error β) :
    EndAlike (Session.manage request >>= fun response => ofResult (f response)) s
      (Session.manage request' >>= fun response => ofResult (f response)) s'
      fun _ => Paired like agree first first' := by
  refine EndAlike.bind ((hl.managed h hask).imp fun r t t' ht => ?_)
  cases r with
  | ok response => exact EndAlike.ofResult ht
  | error e => exact ht

theorem authCapabilities (hl : Likeness like agree) (h : Paired like agree first first' s s') :
    EndAlike authCapabilities s authCapabilities s'
      fun _ => Paired like agree first first' := by
  have hlevel : s.config.privilege = s'.config.privilege := hl.reads h.standing (·.config.privilege)
  unfold Session.authCapabilities
  refine EndAlike.get_bind ?_
  dsimp only
  rw [hlevel]
  refine EndAlike.bind ((hl.manage h _).imp fun r t t' ht => ?_)
  cases r with
  | error e => exact ht
  | ok first =>
    dsimp only
    by_cases hcode : first.code = .completed
    · rw [if_pos hcode]
      exact EndAlike.bind (EndAlike.pure (EndAlike.ofResult ht))
    · rw [if_neg hcode]
      refine EndAlike.bind ((hl.manage ht _).imp fun r u u' hu => ?_)
      cases r with
      | ok response => exact EndAlike.ofResult_bind (fun _ => EndAlike.ofResult hu) fun _ => hu
      | error e => exact hu

theorem sessionChallenge (hl : Likeness like agree) (h : Paired like agree first first' s s')
    (authType : AuthType) :
    EndAlike (sessionChallenge authType) s (sessionChallenge authType) s'
      fun _ => Paired like agree first first' := by
  have husername : s.username = s'.username := hl.reads h.standing (·.username)
  unfold Session.sessionChallenge
  refine EndAlike.get_bind ?_
  rw [husername]
  exact hl.read h (hl.asks h.standing ..) _

theorem setPrivilege (hl : Likeness like agree) (h : Paired like agree first first' s s')
    (level : Privilege) :
    EndAlike (setPrivilege level) s (setPrivilege level) s'
      fun _ => Paired like agree first first' := by
  unfold Session.setPrivilege
  refine EndAlike.bind ((hl.manage h _).imp fun r t t' ht => ?_)
  cases r with
  | error e => exact ht
  | ok response => exact EndAlike.ofResult_bind (fun _ => EndAlike.pure ht) fun _ => ht

theorem closeSession (hl : Likeness like agree) (h : Paired like agree first first' s s')
    (sessionId : UInt32) :
    EndAlike (closeSession sessionId) s (closeSession sessionId) s'
      fun _ => Paired like agree first first' := by
  unfold Session.closeSession
  refine EndAlike.bind ((hl.manage h _).imp fun r t t' ht => ?_)
  cases r with
  | error e => exact ht
  | ok response => exact EndAlike.ofResult_bind (fun _ => EndAlike.pure ht) fun _ => ht

/-- The search for the controller goes the same way. -/
theorem ping (hl : Likeness like agree) (h : Paired like agree first first' s s') :
    EndAlike ping s ping s' fun _ => Paired like agree first first' := by
  have hphase : s.phase = s'.phase := hl.reads h.standing (·.phase)
  have hconnected : s.connected = s'.connected := hl.reads h.standing (·.connected)
  have htoken : s.token = s'.token := hl.reads h.standing (·.token)
  have htag : s.pingTag = s'.pingTag := hl.reads h.standing (·.pingTag)
  have htimeout : s.config.pingTimeout = s'.config.pingTimeout :=
    hl.reads h.standing (·.config.pingTimeout)
  have htries : s.config.maxTries = s'.config.maxTries := hl.reads h.standing (·.config.maxTries)
  unfold Session.ping
  refine EndAlike.bind (EndAlike.expect hphase (fun _ => EndAlike.get_bind ?_) fun _ => h)
  rw [htoken, htag, htimeout, htries]
  have hwaiting : like { s with phase := .pingSent } { s' with phase := .pingSent } :=
    hl.rephased h.standing (by decide) (by decide)
  refine EndAlike.bind (EndAlike.revise (EndAlike.bind ?_))
  refine EndAlike.expectLink hconnected rfl (EndAlike.bind (EndAlike.attempt ?_))
    (h.restanding hwaiting)
  refine EndAlike.usingLink ((Link.exchange_apace h.link ..).imp fun r link link' hapace => ?_)
  have hlooked (phase : Phase) (hactive : phase ≠ .active)
      (hchallenged : phase ≠ .challengeIssued) :=
    (h.restanding hwaiting).used hapace (failure? r) (fun _ => hl.looks hwaiting s'.pingTag _ _)
      (hl.rephased hwaiting hactive hchallenged)
  cases r with
  | ok pong =>
    exact EndAlike.bind (EndAlike.revise (EndAlike.pure (hlooked _ (by decide) (by decide))))
  | error e =>
    exact EndAlike.bind (EndAlike.revise (EndAlike.throw (hlooked _ (by decide) (by decide))))

theorem pingByPolicy (hl : Likeness like agree) (h : Paired like agree first first' s s') :
    EndAlike pingByPolicy s pingByPolicy s' fun _ => Paired like agree first first' := by
  have hpolicy : s.config.ping = s'.config.ping := hl.reads h.standing (·.config.ping)
  unfold Session.pingByPolicy
  refine EndAlike.get_bind ?_
  rw [hpolicy]
  cases s'.config.ping with
  | skip => exact EndAlike.pure h
  | tolerate =>
    refine EndAlike.bind (EndAlike.attempt ((hl.ping h).imp fun r t t' ht => ?_))
    dsimp only
    split
    · exact EndAlike.throw ht
    · exact EndAlike.pure ht
  | require =>
    refine EndAlike.bind ((hl.ping h).imp fun r t t' ht => ?_)
    cases r with
    | ok pong => exact EndAlike.pure ht
    | error e => exact ht

/-- A session that is given up asks to be closed just before it ends, if it is active. -/
theorem abort (hl : Likeness like agree) (h : Paired like agree first first' s s')
    (hended : ∀ {x x' : Standing}, like x x' → likeNext x.ended x'.ended) :
    EndAlike abort s abort s' fun _ => Paired likeNext agree first first' := by
  have hphase : s.phase = s'.phase := hl.reads h.standing (·.phase)
  have hid : s.sessionId = s'.sessionId := hl.reads h.standing (·.sessionId)
  have hcontroller : s.config.controller = s'.config.controller :=
    hl.reads h.standing (·.config.controller)
  unfold Session.abort
  refine EndAlike.get_bind ?_
  dsimp only
  rw [hphase, hid, hcontroller]
  by_cases hactive : s'.phase = .active
  · rw [if_pos hactive]
    refine EndAlike.bind (EndAlike.attempt (EndAlike.bind ?_))
    refine (hl.exchange h (hl.asks h.standing ..) _).imp fun r t t' ht => ?_
    cases r with
    | ok response => exact EndAlike.ofResult (EndAlike.revise (ht.restanding (hended ht.standing)))
    | error e => exact EndAlike.revise (ht.restanding (hended ht.standing))
  · rw [if_neg hactive]
    exact EndAlike.revise (h.restanding (hended h.standing))

end Likeness

/-- Standings that are `like` cannot be told apart by any operation but through the password. -/
structure Accord (like : Standing → Standing → Prop) (agree : Use → Use → Prop) : Prop extends
    Likeness like agree where
  authType_eq : ∀ {s s'}, like s s' → s.authType = s'.authType
  revised : ∀ {s s'} (f : Standing → Standing), (∀ x, (f x).withoutPassword = f x.withoutPassword) →
    like s s' → like (f s) (f s')
  activates : ∀ {s s'} (challenge : Field), like s s' → s.phase = .challengeIssued →
    s.AskAlike agree (s.activation challenge) s' (s'.activation challenge)
      (.direct s'.config.controller)

namespace Accord

theorem activateSession (ha : Accord like agree) (h : Paired like agree first first' s s')
    (hphase : s.phase = .challengeIssued) (challenge : Field) :
    EndAlike (activateSession (s.transform.apply challenge s.password) s.outboundSequence) s
      (activateSession (s'.transform.apply challenge s'.password) s'.outboundSequence) s'
      fun _ => Paired like agree first first' := by
  unfold Session.activateSession
  exact EndAlike.get_bind (ha.read h (ha.activates challenge h.standing hphase) _)

theorem raisePrivilege (ha : Accord like agree) (h : Paired like agree first first' s s') :
    EndAlike raisePrivilege s raisePrivilege s' fun _ => Paired like agree first first' := by
  have hlevel : s.config.privilege = s'.config.privilege := ha.reads h.standing (·.config.privilege)
  unfold Session.raisePrivilege
  refine EndAlike.get_bind ?_
  rw [hlevel]
  refine EndAlike.bind (EndAlike.attempt ((ha.setPrivilege h _).imp fun r t t' ht => ?_))
  dsimp only
  split
  · rename_i level
    exact EndAlike.revise (ht.restanding
      (ha.revised (fun x => { x with privilege := level }) (fun _ => rfl) ht.standing))
  · exact EndAlike.throw ht
  · rename_i e _
    exact EndAlike.revise (ht.restanding
      (ha.revised (fun x => { x with privilegeError := some e }) (fun _ => rfl) ht.standing))

/-- Two openings go the same way, even if the sessions do not stand alike before they have found out
what their controllers support. -/
theorem handshake {early : Standing → Standing → Prop} (ha : Accord like agree)
    (he : Likeness early agree) (h : Paired early agree first first' s s')
    (hdecide : ∀ {x x' : Standing} c authType, early x x' →
      like (x.withCapabilities c authType) (x'.withCapabilities c authType)) :
    EndAlike handshake s handshake s' fun r t t' =>
      Paired like agree first first' t t' ∨
        (∃ e, r = .error e) ∧ Paired early agree first first' t t' := by
  unfold Session.handshake
  refine EndAlike.bind ((he.authCapabilities h).imp fun r t t' ht => ?_)
  cases r with
  | error e => exact .inr ⟨⟨e, rfl⟩, ht⟩
  | ok capabilities =>
  have hpinned : t.config.authType = t'.config.authType := he.reads ht.standing (·.config.authType)
  dsimp only
  refine EndAlike.get_bind ?_
  rw [hpinned]
  refine EndAlike.ofResult_bind (fun authType => ?_) fun e => .inr ⟨⟨e, rfl⟩, ht⟩
  -- What the sessions found out before makes no difference any more.
  have hu := ht.restanding (hdecide capabilities authType ht.standing)
  refine EndAlike.bind (EndAlike.revise (EndAlike.bind ?_))
  refine (ha.sessionChallenge hu authType).imp fun r v v' hv => ?_
  cases r with
  | error e => exact .inl hv
  | ok challenge =>
  have hw := hv.restanding (ha.revised (·.challenged challenge) (fun _ => rfl) hv.standing)
  refine EndAlike.bind (EndAlike.revise (EndAlike.get_bind (EndAlike.bind ?_)))
  refine (ha.activateSession hw rfl challenge.bytes).imp fun r x x' hx => ?_
  cases r with
  | error e => exact .inl hx
  | ok activation =>
  have hy := hx.restanding (ha.revised (·.activated activation) (fun _ => rfl) hx.standing)
  refine EndAlike.bind (EndAlike.revise ?_)
  exact (ha.raisePrivilege hy).imp fun _ _ _ hz => .inl hz

/-- Two openings go the same way. However they end, the sessions stand as alike as `loose` says. -/
theorem establish {early loose : Standing → Standing → Prop} (ha : Accord like agree)
    (he : Likeness early agree) (h : Paired early agree first first' s s')
    (hdecide : ∀ {x x' : Standing} c authType, early x x' →
      like (x.withCapabilities c authType) (x'.withCapabilities c authType))
    (hearly : ∀ {x x' : Standing}, early x x' →
      loose x x' ∧ loose x.ended x'.ended ∧ loose x.rebound x'.rebound)
    (hlike : ∀ {x x' : Standing}, like x x' →
      loose x x' ∧ loose x.ended x'.ended ∧ loose x.rebound x'.rebound) :
    EndAlike establish s establish s' fun r t t' =>
      (r = .ok () → Paired like agree first first' t t') ∧ Paired loose agree first first' t t' := by
  have hlost {t t' : Session} (ht : Paired early agree first first' t t') :
      Paired loose agree first first' t t' := ht.restanding (hearly ht.standing).1
  have hphase : s.phase = s'.phase := he.reads h.standing (·.phase)
  unfold Session.establish
  refine EndAlike.bind (EndAlike.expect hphase (fun _ => ?_) fun _ => ⟨nofun, hlost h⟩)
  refine EndAlike.bind ((he.pingByPolicy h).imp fun r t t' ht => ?_)
  cases r with
  | error e => exact ⟨nofun, hlost ht⟩
  | ok =>
  refine EndAlike.bind (EndAlike.attempt ((ha.handshake he ht hdecide).imp fun r u u' hu => ?_))
  dsimp only
  split
  · have hu := hu.resolve_right fun hearly => nomatch hearly.1
    exact EndAlike.pure ⟨fun _ => hu, hu.restanding (hlike hu.standing).1⟩
  · have hclosed : EndAlike Session.abort u Session.abort u'
        fun _ v v' => Paired loose agree first first' v v' := by
      rcases hu with hu | ⟨-, hu⟩
      · exact ha.abort hu fun hx => (hlike hx).2.1
      · exact he.abort hu fun hx => (hearly hx).2.1
    refine EndAlike.bind (hclosed.imp fun r v v' hv => ?_)
    cases r with
    | ok => exact EndAlike.throw ⟨nofun, hv⟩
    | error e => exact ⟨nofun, hv⟩
  · refine EndAlike.bind (EndAlike.revise (EndAlike.throw ⟨nofun, ?_⟩))
    rcases hu with hu | ⟨-, hu⟩
    · exact hu.restanding (hlike hu.standing).2.2
    · exact hu.restanding (hearly hu.standing).2.2

end Accord

end Session
end Baseboard
