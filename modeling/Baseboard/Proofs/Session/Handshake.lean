import Baseboard.Proofs.Session.Asking

/-! Every way in which the opening of a session can end, and what has been asked by then. -/
namespace Baseboard.Session

variable {config : Config} {s t : Session} {steps : List (Stage × Use)}

/-- The questions for what the controller supports. -/
theorem authCapabilities_talk (hs : s.Sound config) (hconnected : s.connected = true)
    (hphase : s.phase.Preliminary) (hid : s.sessionId = 0) :
    Ends authCapabilities s fun r t => ∃ before stage use,
      Talk config s (before ++ [(stage, use)]) t ∧ (stage = .capabilities ∨ stage = .fallback) ∧
        t.Sound config ∧ s.Recounted t.toStanding ∧ Gives use capabilitiesOf r := by
  have hopens : s.Opens (.authCapabilities 0x8E s.config.privilege) := .capabilities hphase (.inl rfl)
  obtain ⟨p, hp⟩ := hopens.exists_packet_of_preliminary hphase config.controller
  refine ends_authCapabilities ((manage_asked hs hconnected hopens).imp fun r t ht => ?_)
  rcases ht with ⟨e, hpacket, -⟩ | ⟨use, hasked, hgives⟩
  · cases hp.symm.trans hpacket
  have hasks := hasked.asks_of_preliminary hphase hid
  rw [hs.config_eq] at hasks
  have htalk : Talk config s ([] ++ [(.capabilities, use)]) t := by
    constructor
    · exact hasked.adds
    · exact List.isChain_singleton _
    · intro first hfirst
      cases hfirst
      exact ⟨rfl, hasks⟩
    · intro step hstep
      rw [List.mem_singleton.mp hstep]
      exact hasked.sent
  have hsound := hasked.sound
  have hrecounted := hasked.recounted
  refine ⟨?_, ?_, ?_⟩
  · rintro e rfl
    exact ⟨[], _, use, htalk, .inl rfl, hsound, hrecounted, hgives.bind capabilitiesOf⟩
  · rintro first rfl -
    exact ⟨[], _, use, htalk, .inl rfl, hsound, hrecounted, hgives.bind capabilitiesOf⟩
  · rintro first rfl hcode
    obtain ⟨response, hanswer, hfirst⟩ := hgives.of_ok
    cases hfirst
    have hnext : t.phase.Preliminary := by
      rw [hrecounted.phase_eq]
      exact hphase
    have hagain : t.Opens (.authCapabilities 0x0E s.config.privilege) := by
      rw [← hrecounted.config_eq]
      exact .capabilities hnext (.inr rfl)
    have hlink : t.connected = true := hrecounted.connected_eq.trans hconnected
    obtain ⟨p, hp⟩ := hagain.exists_packet_of_preliminary hnext config.controller
    refine (manage_asked hsound hlink hagain).imp fun r u hu => ?_
    rcases hu with ⟨e, hpacket, -⟩ | ⟨second, hsecond, hgives⟩
    · cases hp.symm.trans hpacket
    have hasks := hsecond.asks_of_preliminary hnext (hrecounted.sessionId_eq.trans hid)
    rw [hs.config_eq] at hasks
    exact ⟨_, _, second, htalk.next hsecond.adds hsecond.sent (.fallback hanswer hcode hasks),
      .inr rfl, hsecond.sound, hrecounted.trans hsecond.recounted, hgives.bind capabilitiesOf⟩

/-- How an opening ends, after the requests `steps`, with outcome `r`. -/
structure Handshaken (config : Config) (s : Session) (r : Except Error Unit) (t : Session)
    (steps : List (Stage × Use)) : Prop where
  talk : Talk config s steps t
  sound : t.Sound config
  connected : t.connected = true
  unclosed : ∀ step ∈ steps, step.1 ≠ .closing
  active_iff : t.phase = .active ↔ ∃ use, (.activation, use) ∈ steps ∧ use.Activates
  capabilities : t.phase = .active → t.capabilities.isSome = true
  done : r = .ok () → t.phase = .active
  failed : ∀ e, r = .error e → e ≠ .cancelled → t.phase ≠ .active
  versionTwo : ∀ step ∈ steps.getLast?, step.1 = .capabilities ∨ step.1 = .fallback →
    step.2.RequiresVersionTwo → r = .error .versionTwoRequired
  cancelled : r = .error .cancelled → t.phase = .active → ∃ before use v,
    steps = before ++ [(.privilege, use)] ∧ use.failure = some .cancelled ∧
      v.toStanding = t.toStanding ∧ Asked config v (.setPrivilege config.privilege) t use

/-- An opening that ends before there is an active session. -/
private theorem handshaken_of_inactive {before : List (Stage × Use)} {stage : Stage} {use : Use}
    {e : Error} (htalk : Talk config s (before ++ [(stage, use)]) t) (hsound : t.Sound config)
    (hconnected : t.connected = true) (hphase : t.phase ≠ .active)
    (hrank : stage.rank ≤ Stage.activation.rank)
    (hactivates : stage = .activation → ¬ use.Activates)
    (hversion : stage = .capabilities ∨ stage = .fallback → use.RequiresVersionTwo →
      e = .versionTwoRequired) :
    Handshaken config s (.error e) t (before ++ [(stage, use)]) := by
  -- No request before the last ranks as high as it, so none of them is for activation.
  have hranks := Follows.rank_lt_last htalk.chain
  constructor
  · exact htalk
  · exact hsound
  · exact hconnected
  · intro step hstep hclosing
    rcases List.mem_append.mp hstep with hstep | hstep
    · have hlt := hranks step hstep
      rw [hclosing] at hlt
      exact absurd (Nat.lt_of_lt_of_le hlt hrank) (by decide)
    · rw [List.mem_singleton.mp hstep] at hclosing
      subst hclosing
      exact absurd hrank (by decide)
  · refine iff_of_false hphase ?_
    rintro ⟨other, hmem, hother⟩
    rcases List.mem_append.mp hmem with hmem | hmem
    · exact absurd (Nat.lt_of_lt_of_le (hranks _ hmem) hrank) (Nat.lt_irrefl _)
    · cases List.mem_singleton.mp hmem
      exact hactivates rfl hother
  · exact fun h => absurd h hphase
  · exact nofun
  · exact fun _ _ _ => hphase
  · intro step hstep hstage hrequires
    rw [List.getLast?_concat, Option.mem_some_iff] at hstep
    subst hstep
    rw [hversion hstage hrequires]
  · exact fun _ h => absurd h hphase

/-- An opening that ends with an active session. -/
private theorem handshaken_of_active {before : List (Stage × Use)} {last : Stage × Use}
    {r : Except Error Unit} (htalk : Talk config s (before ++ [last]) t) (hsound : t.Sound config)
    (hconnected : t.connected = true) (hphase : t.phase = .active)
    (hcapabilities : t.capabilities.isSome = true)
    (hlast : last.1 = .activation ∨ last.1 = .privilege)
    (hactivation : ∃ use, (.activation, use) ∈ before ++ [last] ∧ use.Activates)
    (hr : r = .ok () ∨ r = .error .cancelled ∧ last.1 = .privilege ∧
      last.2.failure = some .cancelled ∧ ∃ v : Session, v.toStanding = t.toStanding ∧
        Asked config v (.setPrivilege config.privilege) t last.2) :
    Handshaken config s r t (before ++ [last]) := by
  have hranks := Follows.rank_lt_last htalk.chain
  constructor
  · exact htalk
  · exact hsound
  · exact hconnected
  · intro step hstep hclosing
    rcases List.mem_append.mp hstep with hstep | hstep
    · have hlt := hranks step hstep
      rw [hclosing] at hlt
      rcases hlast with hlast | hlast <;>
      · rw [hlast] at hlt
        exact absurd hlt (by decide)
    · rw [List.mem_singleton.mp hstep] at hclosing
      rcases hlast with hlast | hlast <;> cases hclosing.symm.trans hlast
  · exact iff_of_true hphase hactivation
  · exact fun _ => hcapabilities
  · exact fun _ => hphase
  · intro e he hne
    rcases hr with rfl | ⟨rfl, -⟩
    · cases he
    · cases he
      exact absurd rfl hne
  · intro step hstep hstage
    rw [List.getLast?_concat, Option.mem_some_iff] at hstep
    subst hstep
    rcases hlast with hlast | hlast <;>
    · rw [hlast] at hstage
      rcases hstage with h | h <;> cases h
  · rintro rfl -
    obtain ⟨stage, use⟩ := last
    rcases hr with h | ⟨-, rfl, hfailure, v, hv, hasked⟩
    · cases h
    · exact ⟨before, use, v, rfl, hfailure, hv, hasked⟩

variable {before : List (Stage × Use)} {last : Use} {response : Response}

/-- The request for the configured privilege level, after the session has been activated. -/
theorem raisePrivilege_handshaken {a : Activation}
    (htalk : Talk config s (before ++ [(.activation, last)]) t)
    (hsound : (t.activated a).Sound config) (hconnected : t.connected = true)
    (hcapabilities : t.capabilities.isSome = true)
    (hstanding : last.standing.Recounted t.toStanding) (hanswer : last.answer? = some response)
    (hcode : response.code = .completed) (hparse : Activation.parse response.payload = .ok a) :
    Ends raisePrivilege { t with toStanding := t.activated a } fun r u =>
      ∃ steps, Handshaken config s r u steps := by
  let t' : Session := { t with toStanding := t.activated a }
  have hactivates : last.Activates := ⟨response, a, hanswer, hcode, hparse⟩
  have hprivilege : t'.config.privilege = config.privilege := congrArg _ hsound.config_eq
  have hopens : t'.Opens (.setPrivilege t'.config.privilege) := .privilege rfl
  refine ends_raisePrivilege ((ends_setPrivilege ..).mpr
    ((manage_asked (s := t') hsound hconnected hopens).imp fun r u hu => ?_))
  rcases hu with ⟨e, hpacket, rfl, rfl⟩ | ⟨use, hasked, hgives⟩
  · -- The request was never made, because its code cannot be computed.
    refine ⟨nofun, fun h => ?_, fun found h _ => ?_⟩
    · exact absurd (Except.error.inj h) (Standing.packet_error_ne hpacket).1
    · exact ⟨_, handshaken_of_active (htalk.restanding _)
        ⟨hsound.1, hsound.2, hsound.3, hsound.4⟩ hconnected rfl hcapabilities (.inl rfl)
        ⟨last, by simp, hactivates⟩ (.inl rfl)⟩
  have hasks : use.Asks config.controller (.setPrivilege config.privilege)
      (if last.standing.policy.signs .user then a.authType?.getD last.standing.authType else .none)
      (nonzero a.inboundSequence) a.sessionId := by
    have h := hasked.asks
    rw [Standing.authInForce_of_active rfl, Standing.frameSequence_of_active rfl, hprivilege] at h
    rw [← hstanding.policy_eq, ← hstanding.authType_eq]
    exact h
  have hnext : Talk config s _ u := htalk.next hasked.adds.of_restanding hasked.sent
    (.privilege hanswer hcode hparse hasks)
  have huphase : u.phase = .active := hasked.recounted.phase_eq
  have huconnected : u.connected = true := hasked.recounted.connected_eq.trans hconnected
  have hucapabilities : u.capabilities.isSome = true := by
    rw [hasked.recounted.capabilities_eq]
    exact hcapabilities
  have hactivation : ∃ use', (Stage.activation, use') ∈
      (before ++ [(.activation, last)]) ++ [(.privilege, use)] ∧ use'.Activates :=
    ⟨last, by simp, hactivates⟩
  obtain ⟨hconfig, hpassword, hsequence, houtbound⟩ := hasked.sound
  have hrevised (x : Standing) (hsound : x.Sound config) (hlinked : x.connected = true)
      (hphase : x.phase = .active) (hsupports : x.capabilities.isSome = true) :
      ∃ steps, Handshaken config s (.ok ()) { u with toStanding := x } steps :=
    ⟨_, handshaken_of_active (hnext.restanding x) hsound hlinked hphase hsupports (.inr rfl)
      hactivation (.inl rfl)⟩
  refine ⟨fun level _ => ?_, fun hr => ?_, fun e _ _ => ?_⟩
  · exact hrevised _ ⟨hconfig, hpassword, hsequence, houtbound⟩ huconnected huphase hucapabilities
  · have hgives := hgives.bind (levelOf t'.config.privilege)
    rw [hr] at hgives
    obtain ⟨hunanswered, hfailure⟩ := hgives.cancelled fun _ _ => levelOf_faults
    refine ⟨_, handshaken_of_active hnext hasked.sound huconnected huphase hucapabilities (.inr rfl)
      hactivation (.inr ⟨rfl, rfl, hfailure, t', (hasked.unanswered hunanswered).symm, ?_⟩)⟩
    rw [← hprivilege]
    exact hasked
  · exact hrevised _ ⟨hconfig, hpassword, hsequence, houtbound⟩ huconnected huphase hucapabilities

/-- The rest of an opening once the controller has issued a challenge. -/
theorem activate_handshaken {c : Challenge}
    (htalk : Talk config s (before ++ [(.challenge, last)]) t)
    (hsound : t.Sound config) (hconnected : t.connected = true)
    (hcapabilities : t.capabilities.isSome = true) (hphase : t.phase.Preliminary)
    (hstanding : last.standing.Recounted t.toStanding) (hanswer : last.answer? = some response)
    (hcode : response.code = .completed) (hparse : Challenge.parse response.payload = .ok c) :
    Ends (do
      let s ← get
      let activation ← activateSession (s.transform.apply c.bytes s.password) s.outboundSequence
      revise fun s => s.activated activation
      raisePrivilege) { t with toStanding := t.challenged c } fun r u =>
      ∃ steps, Handshaken config s r u steps := by
  let t' : Session := { t with toStanding := t.challenged c }
  have hsound' : t'.Sound config := (Turn.challenged c hphase).sound hsound
  have hopens : t'.Opens (.activateSession t'.authType t'.config.privilege
      (t'.transform.apply c.bytes t'.password) t'.outboundSequence) := .activation _ rfl
  rw [ends_bind, ends_get]
  dsimp only
  rw [ends_bind, ends_activateSession]
  refine (manage_asked hsound' hconnected hopens).imp fun r u hu => ?_
  rcases hu with ⟨e, hpacket, rfl, rfl⟩ | ⟨use, hasked, hgives⟩
  · refine ⟨_, handshaken_of_inactive (htalk.restanding _) hsound' hconnected nofun
      (by decide) nofun ?_⟩
    rintro (h | h) <;> cases h
  have hasks : use.Asks config.controller (.activateSession t'.authType config.privilege
      (t'.transform.apply c.bytes t'.password) t'.outboundSequence) t'.authType 0 c.sessionId := by
    have h := hasked.asks
    have hprivilege : t'.config.privilege = config.privilege := congrArg _ hsound.config_eq
    have hinactive : t'.phase ≠ .active := nofun
    rw [Standing.authInForce_of_challenged rfl (Request.isActivation_activateSession ..),
      Standing.frameSequence_of_ne_active hinactive, hprivilege] at h
    exact h
  have hstanding' : use.standing = t'.toStanding := hasked.standing_eq
  have hnext : Talk config s ((before ++ [(.challenge, last)]) ++ [(.activation, use)]) u := by
    refine htalk.next hasked.adds.of_restanding hasked.sent (.activation hanswer hcode hparse ?_ ?_ ?_)
    · rw [hstanding']
      exact hstanding.authType_eq
    · rw [hstanding']
      exact hstanding.policy_eq
    · rw [hstanding']
      exact hasks
  have huphase : u.phase ≠ .active := by
    rw [hasked.recounted.phase_eq]
    exact nofun
  have huconnected : u.connected = true := hasked.recounted.connected_eq.trans hconnected
  have hgives := hgives.bind activationOf
  generalize r.bind activationOf = outcome at hgives ⊢
  cases outcome with
  | error e =>
    refine ⟨_, handshaken_of_inactive hnext hasked.sound huconnected huphase (by decide) ?_ ?_⟩
    · rintro - ⟨found, a, hfound, hdone, ha⟩
      have hgiven := hgives.eq_of_answer hfound
      rw [activationOf, Response.acceptedFor_bind_eq_ok_iff.mpr ⟨hdone, ha⟩] at hgiven
      cases hgiven
    · rintro (h | h) <;> cases h
  | ok activation =>
    obtain ⟨found, hfound, hgiven⟩ := hgives.of_ok
    obtain ⟨hdone, hactivation⟩ := Response.acceptedFor_bind_eq_ok_iff.mp hgiven
    dsimp only
    rw [ends_bind, ends_revise]
    refine raisePrivilege_handshaken hnext ?_ huconnected ?_ ?_ hfound hdone hactivation
    · exact (Turn.activated activation hasked.recounted.phase_eq).sound hasked.sound
    · rw [hasked.recounted.capabilities_eq]
      exact hcapabilities
    · rw [hstanding']
      exact hasked.recounted

/-- The rest of an opening once it is known what the controller supports. -/
theorem challenge_handshaken {stage : Stage} {c : Capabilities} {authType : AuthType}
    (htalk : Talk config s (before ++ [(stage, last)]) t)
    (hstage : stage = .capabilities ∨ stage = .fallback) (hsound : t.Sound config)
    (hconnected : t.connected = true) (hphase : t.phase.Preliminary) (hid : t.sessionId = 0)
    (hanswer : last.answer? = some response)
    (hcode : response.code = .completed) (hparse : Capabilities.parse response.payload = .ok c)
    (hauth : c.negotiate config.authType = .ok authType) :
    Ends (do
      let challenge ← sessionChallenge authType
      revise fun s => s.challenged challenge
      let s ← get
      let activation ←
        activateSession (s.transform.apply challenge.bytes s.password) s.outboundSequence
      revise fun s => s.activated activation
      raisePrivilege) { t with toStanding := t.withCapabilities c authType } fun r u =>
      ∃ steps, Handshaken config s r u steps := by
  let t' : Session := { t with toStanding := t.withCapabilities c authType }
  have hsound' : t'.Sound config := by
    rw [← hsound.config_eq] at hauth
    exact (Turn.supports hphase hauth).sound hsound
  have hopens : t'.Opens (.sessionChallenge authType t'.username) := .challenge hphase
  obtain ⟨p, hp⟩ := hopens.exists_packet_of_preliminary hphase config.controller
  rw [ends_bind, ends_sessionChallenge]
  refine (manage_asked hsound' hconnected hopens).imp fun r u hu => ?_
  rcases hu with ⟨e, hpacket, -⟩ | ⟨use, hasked, hgives⟩
  · cases hp.symm.trans hpacket
  have hasks := hasked.asks_of_preliminary hphase hid
  have hstanding : use.standing = t'.toStanding := hasked.standing_eq
  have hnext : Talk config s _ u := htalk.next hasked.adds.of_restanding hasked.sent
    (.challenge hstage hanswer hcode hparse (by rw [hstanding]; exact hauth)
      (by rw [hstanding]; rfl) (by rw [hstanding]; exact hasks))
  have huphase : u.phase.Preliminary := by
    rw [hasked.recounted.phase_eq]
    exact hphase
  have huconnected : u.connected = true := hasked.recounted.connected_eq.trans hconnected
  have hgives := hgives.bind challengeOf
  generalize r.bind challengeOf = outcome at hgives ⊢
  cases outcome with
  | error e =>
    refine ⟨_, handshaken_of_inactive hnext hasked.sound huconnected huphase.ne_active (by decide)
      nofun ?_⟩
    rintro (h | h) <;> cases h
  | ok challenge =>
    obtain ⟨found, hfound, hgiven⟩ := hgives.of_ok
    obtain ⟨hdone, hchallenge⟩ := Response.acceptedFor_bind_eq_ok_iff.mp hgiven
    refine activate_handshaken hnext hasked.sound huconnected ?_ huphase ?_ hfound hdone hchallenge
    · rw [hasked.recounted.capabilities_eq]
      rfl
    · rw [hstanding]
      exact hasked.recounted

/-- Every way in which an opening can end. -/
theorem handshake_handshaken (hs : s.Sound config) (hconnected : s.connected = true)
    (hphase : s.phase.Preliminary) (hid : s.sessionId = 0) :
    Ends handshake s fun r t => ∃ steps, Handshaken config s r t steps := by
  unfold handshake
  rw [ends_bind]
  refine (authCapabilities_talk hs hconnected hphase hid).imp fun r t ht => ?_
  obtain ⟨before, stage, use, htalk, hstage, hsound, hrecounted, hgives⟩ := ht
  have htconnected : t.connected = true := hrecounted.connected_eq.trans hconnected
  have htphase : t.phase.Preliminary := by
    rw [hrecounted.phase_eq]
    exact hphase
  have hrank : stage.rank ≤ Stage.activation.rank := by
    rcases hstage with rfl | rfl <;> decide
  have hinactive : stage ≠ .activation := by
    rcases hstage with rfl | rfl <;> decide
  cases r with
  | error e =>
    refine ⟨_, handshaken_of_inactive htalk hsound htconnected htphase.ne_active hrank
      (fun h => absurd h hinactive) ?_⟩
    rintro - ⟨response, c, hanswer, hcode, hparse, -⟩
    have hgiven := hgives.eq_of_answer hanswer
    rw [capabilitiesOf_eq_ok_iff.mpr ⟨hcode, hparse⟩] at hgiven
    cases hgiven
  | ok capabilities =>
  obtain ⟨response, hanswer, hgiven⟩ := hgives.of_ok
  obtain ⟨hcode, hparse⟩ := capabilitiesOf_eq_ok_iff.mp hgiven
  dsimp only
  rw [ends_bind, ends_get]
  dsimp only
  rw [ends_bind, ends_ofResult]
  rw [hsound.config_eq]
  cases hauth : capabilities.negotiate config.authType with
  | error e =>
    refine ⟨_, handshaken_of_inactive htalk hsound htconnected htphase.ne_active hrank
      (fun h => absurd h hinactive) ?_⟩
    rintro - ⟨found, c, hfound, -, hc, hrequires⟩
    obtain rfl := Option.some.inj (hanswer.symm.trans hfound)
    obtain rfl := Except.ok.inj (hparse.symm.trans hc)
    rw [Capabilities.negotiate_of_requiresVersionTwo hrequires] at hauth
    exact (Except.error.inj hauth).symm
  | ok authType =>
    dsimp only
    rw [ends_bind, ends_revise]
    exact challenge_handshaken htalk hstage hsound htconnected htphase
      (hrecounted.sessionId_eq.trans hid) hanswer hcode hparse hauth

/-- What a search for the controller leaves behind: one more use of the link, and a session
that found the controller or stands as it did. -/
structure Sought (s : Session) (found : Bool) (t : Session) (uses : List Use) : Prop where
  adds : s.Adds uses t
  presence : ∀ use ∈ uses, use.purpose = .presence s.pingTag ∧
    ∀ frame ∈ use.frames, frame = Presence.ping s.pingTag
  standing_eq : t.toStanding = if found then { s with phase := .pongReceived } else s.toStanding

theorem ping_sought (hphase : s.phase = .bound) (hconnected : s.connected = true) :
    Ends ping s fun r t => ∃ use, Sought s r.isOk t [use] := by
  have hseeking : s.toStanding = { s with phase := .bound } := by rw [← hphase]
  refine ends_ping (fun h => absurd hphase h) (fun _ h => nomatch hconnected.symm.trans h)
    fun _ => ?_
  refine (Link.exchange_recorded (acceptPong s.pingTag) _ (Presence.ping s.pingTag) _ _ _).imp
    fun r link hr => ?_
  obtain ⟨actions, hdid, hframes, -⟩ := hr
  have hsought (failure : Option Error) (found : Bool) (x : Standing)
      (hx : x = if found then { s with phase := .pongReceived } else s.toStanding) :
      ∃ use, Sought s found { (used { s with phase := .pingSent } (.presence s.pingTag) failure link)
        with toStanding := x } [use] := by
    refine ⟨_, ⟨rfl, ?_⟩, ?_, hx⟩
    · rw [List.flatMap_singleton]
      change Link.Did s.link (link.network.trace.drop s.link.network.trace.length) link
      rw [hdid.drop_eq]
      exact hdid
    · intro use huse
      rw [List.mem_singleton.mp huse]
      refine ⟨rfl, fun frame hframe => ?_⟩
      rw [Use.frames, hdid.drop_eq] at hframe
      obtain ⟨action, haction, hsent⟩ := List.mem_filterMap.mp hframe
      exact hframes action haction frame hsent
  cases r with
  | ok pong => exact hsought none true _ rfl
  | error e => exact hsought (some e) false _ hseeking.symm

theorem pingByPolicy_sought (hphase : s.phase = .bound) (hconnected : s.connected = true) :
    Ends pingByPolicy s fun r t =>
      ∃ uses found, Sought s found t uses ∧ ∀ e, r = .error e → found = false := by
  refine ends_pingByPolicy ?_ ((ping_sought hphase hconnected).imp fun r t ht => ?_)
  · exact ⟨[], false, ⟨.refl s, fun u hu => absurd hu List.not_mem_nil, rfl⟩, fun _ _ => rfl⟩
  · obtain ⟨use, huse⟩ := ht
    refine ⟨?_, fun _ => ⟨_, _, huse, nofun⟩⟩
    rintro e rfl
    exact ⟨_, _, huse, fun _ _ => rfl⟩

end Baseboard.Session
