import Baseboard.Proofs.Session.Opening
import Baseboard.Proofs.Session.Tenure

/-! The authentication type that a session is opened with. One is negotiated on what the
controller offers and on what is asked for, but the controller names another one when it
activates the session, and whatever it names is taken. -/
namespace Baseboard

/-- A policy that signs at the lowest level signs at every level. -/
theorem SigningPolicy.signs_of_signs_user {p : SigningPolicy} (h : p.signs .user = true)
    (level : Privilege) : p.signs level = true := by
  cases p with
  | perMessage => rfl
  | userLevel | never => exact absurd h (by decide)

/-- What can be negotiated is offered, and is what was asked for. -/
theorem Capabilities.negotiate_eq_ok {c : Capabilities} {asked : Option AuthType} {t : AuthType}
    (h : c.negotiate asked = .ok t) : c.supports t = true ∧ ∀ pin, asked = some pin → t = pin := by
  unfold negotiate at h
  split at h
  · cases h
  dsimp only at h
  split at h
  next found hfound =>
    cases h
    refine ⟨List.find?_some hfound, ?_⟩
    rintro pin rfl
    exact List.mem_singleton.mp (List.mem_of_find?_eq_some hfound)
  · cases h

/-- The authentication type that the frames of an active session go out under. -/
def Standing.sessionAuth (s : Standing) : AuthType :=
  if s.policy.signs s.privilege then s.authType else .none

namespace Use

/-- The controller has answered what it supports. -/
def Offers (u : Use) (c : Capabilities) : Prop :=
  ∃ response, u.answer? = some response ∧ response.code = .completed ∧
    Capabilities.parse response.payload = .ok c

/-- The controller has answered how it activated the session. -/
def Grants (u : Use) (a : Activation) : Prop :=
  ∃ response, u.answer? = some response ∧ response.code = .completed ∧
    Activation.parse response.payload = .ok a

/-- The link was used for a request of an active session. -/
def InSession (u : Use) : Prop :=
  u.standing.phase = .active ∧ ∃ r route, u.purpose = .request r route

/-- The frames of an active session name the type that it signs with, as far as its policy signs
them. -/
theorem Made.authType_eq {u : Use} (h : u.Made) (hsession : u.InSession) :
    ∀ frame ∈ u.frames, ∃ p, Packet.decode frame = .ok p ∧
      p.header.authType = u.standing.sessionAuth.code := by
  intro frame hframe
  obtain ⟨hphase, r, route, hpurpose⟩ := hsession
  have hmakes := h frame hframe
  rw [hpurpose] at hmakes
  obtain ⟨packet, hpacket, rfl⟩ := hmakes
  refine ⟨packet, Packet.decode_encode (Standing.wellFormed_packet hpacket), ?_⟩
  obtain ⟨code, -, -, rfl⟩ := Standing.packet_eq_ok hpacket
  change (u.standing.frameAuth r.command).code = u.standing.sessionAuth.code
  rw [Standing.frameAuth, hphase, Standing.sessionAuth]

/-- The frames of an active session that signs them are authenticated, unless its type is
`none`. -/
theorem Made.authenticated {u : Use} (h : u.Made) (hsession : u.InSession)
    (hsigns : u.standing.policy.signs u.standing.privilege = true)
    (hauth : u.standing.authType ≠ .none) :
    ∀ frame ∈ u.frames, ∃ p, Packet.decode frame = .ok p ∧ p.header.isAuthenticated = true := by
  intro frame hframe
  obtain ⟨p, hp, hauthType⟩ := h.authType_eq hsession frame hframe
  refine ⟨p, hp, ?_⟩
  rw [SessionHeader.isAuthenticated, bne_iff_ne, hauthType, Standing.sessionAuth, if_pos hsigns]
  exact mt (AuthType.code_eq_zero_iff _).mp hauth

end Use

namespace Session

variable {config : Config} {s t u v : Session} {c : Capabilities} {negotiated : AuthType}
  {a : Activation}

/-- In between the link was not used for any request of an active session. -/
structure Quiet (s t : Session) : Prop where
  grown : s.uses <+: t.uses
  quiet : ∀ use ∈ s.since t, ¬ use.InSession

theorem Continues.toQuiet (h : Continues s t) (hphase : s.phase ≠ .active) : Quiet s t :=
  ⟨h.grown, fun use huse hsession => h.inactive hphase use huse hsession.1⟩

theorem Sought.toQuiet {found : Bool} {uses : List Use} (h : Sought s found t uses) : Quiet s t := by
  have hsince : s.since t = uses := since_eq h.adds.uses_eq
  refine ⟨⟨uses, h.adds.uses_eq.symm⟩, fun use huse hsession => ?_⟩
  rw [hsince] at huse
  obtain ⟨-, r, route, hpurpose⟩ := hsession
  cases hpurpose.symm.trans (h.presence use huse).1

/-- How a session that was about to be activated under the type `negotiated`, with a controller
that supports `c`, became active. What the controller named then is on record, and so is every
request that was made of the session as an active one. -/
structure Gains (c : Capabilities) (negotiated : AuthType) (a : Activation) (s t : Session) :
    Prop where
  computable : negotiated ≠ .oem
  granted : ∃ use ∈ s.since t, use.Grants a
  authType_eq : t.authType = a.authType?.getD negotiated
  policy_eq : t.policy = .ofCapabilities c
  capabilities_eq : t.capabilities = some c
  grown : s.uses <+: t.uses
  uses : ∀ use ∈ s.since t, use.InSession → use.standing.authType = t.authType ∧
    use.standing.policy = t.policy ∧ use.standing.privilege = .user ∧ use.Made

/-- What is done before is no request of an active session. -/
theorem Gains.of_quiet {x : Standing} (h : Gains c negotiated a { v with toStanding := x } t)
    (hquiet : Quiet s v) : Gains c negotiated a s t := by
  have hsince {use : Use} : use ∈ s.since t ↔ use ∈ s.since v ∨ use ∈ v.since t :=
    mem_since_iff hquiet.grown h.grown
  refine ⟨h.computable, ?_, h.authType_eq, h.policy_eq, h.capabilities_eq,
    hquiet.grown.trans h.grown, fun use huse hsession => ?_⟩
  · obtain ⟨use, huse, hgrants⟩ := h.granted
    exact ⟨use, hsince.mpr (.inr huse), hgrants⟩
  · rcases hsince.mp huse with huse | huse
    · exact absurd hsession (hquiet.quiet use huse)
    · exact h.uses use huse hsession

/-- Whatever comes of the request for the privilege level, the session signs under the same type
and the same policy as when it was made. -/
theorem raisePrivilege_continues (s : Session) :
    Ends raisePrivilege s fun _ t => t.authType = s.authType ∧ t.policy = s.policy ∧
      t.capabilities = s.capabilities ∧ s.uses <+: t.uses ∧
      ∀ use ∈ s.since t, use.standing.phase = .active → s.Akin use.standing ∧ use.Made := by
  refine ends_raisePrivilege ((ends_setPrivilege ..).mpr
    (((manage_recounted _ s).and (manage_continues _ s)).imp fun r t ht => ?_))
  obtain ⟨hrecounted, hcontinues⟩ := ht
  have hall := And.intro hrecounted.authType_eq (And.intro hrecounted.policy_eq
    (And.intro hrecounted.capabilities_eq (And.intro hcontinues.grown hcontinues.uses)))
  exact ⟨fun _ _ => hall, fun _ => hall, fun _ _ _ => hall⟩

/-- The request for activation, and what follows it. -/
theorem activate_gains (hs : s.Sound config) (hconnected : s.connected = true)
    (hphase : s.phase = .challengeIssued) (hpolicy : s.policy = .ofCapabilities c)
    (hcapabilities : s.capabilities = some c) (challenge : Field) :
    Ends (do
      let activation ← activateSession challenge s.outboundSequence
      revise fun s => s.activated activation
      raisePrivilege) s fun r t => r = .ok () → ∃ a, Gains c s.authType a s t := by
  rw [ends_bind, ends_activateSession]
  refine ((manage_asked hs hconnected (.activation challenge hphase)).and
    (manage_continues _ s)).imp fun r v hv => ?_
  obtain ⟨⟨e, -, rfl, -⟩ | ⟨use, hasked, hgives⟩, hcontinues⟩ := hv
  · exact nofun
  have hcomputable : s.authType ≠ .oem := by
    have hauth := (Standing.exists_packet_iff.mp hasked.made).1
    rw [Standing.frameAuth, hphase] at hauth
    exact hauth
  have hquiet : Quiet s v := hcontinues.toQuiet (by rw [hphase]; decide)
  have hgives := hgives.bind activationOf
  generalize r.bind activationOf = outcome at hgives ⊢
  cases outcome with
  | error e => exact nofun
  | ok a =>
  obtain ⟨response, hanswer, hgiven⟩ := hgives.of_ok
  obtain ⟨hcode, hparse⟩ := Response.acceptedFor_bind_eq_ok_iff.mp hgiven
  have huse : use ∈ s.since v := by
    rw [since_eq hasked.adds.uses_eq]
    exact List.mem_singleton_self use
  dsimp only
  rw [ends_bind, ends_revise]
  let w : Session := { v with toStanding := v.activated a }
  refine (raisePrivilege_continues w).imp fun _ t ht _ => ⟨a, ?_⟩
  obtain ⟨hauth, hsign, hsame, hgrown, huses⟩ := ht
  have hsince {use : Use} : use ∈ s.since t ↔ use ∈ s.since v ∨ use ∈ v.since t :=
    mem_since_iff hquiet.grown hgrown
  refine ⟨hcomputable, ⟨use, hsince.mpr (.inl huse), response, hanswer, hcode, hparse⟩, ?_, ?_, ?_,
    hquiet.grown.trans hgrown, fun other hother hsession => ?_⟩
  · rw [← hasked.recounted.authType_eq]
    exact hauth
  · exact (hsign.trans hasked.recounted.policy_eq).trans hpolicy
  · exact (hsame.trans hasked.recounted.capabilities_eq).trans hcapabilities
  · rcases hsince.mp hother with hother | hother
    · exact absurd hsession (hquiet.quiet other hother)
    · obtain ⟨hakin, hmade⟩ := huses other hother hsession.1
      exact ⟨hakin.authType_eq.trans hauth.symm, hakin.policy_eq.trans hsign.symm,
        hakin.privilege_eq, hmade⟩

/-- The request for a challenge, and what follows it. -/
theorem challenge_gains (hs : s.Sound config) (hconnected : s.connected = true)
    (hphase : s.phase.Preliminary) (hpolicy : s.policy = .ofCapabilities c)
    (hcapabilities : s.capabilities = some c) (authType : AuthType) :
    Ends (do
      let challenge ← sessionChallenge authType
      revise fun s => s.challenged challenge
      let s ← get
      let activation ←
        activateSession (s.transform.apply challenge.bytes s.password) s.outboundSequence
      revise fun s => s.activated activation
      raisePrivilege) s fun r t => r = .ok () → ∃ a, Gains c s.authType a s t := by
  rw [ends_bind, ends_sessionChallenge]
  refine ((manage_recounted _ s).and (((sound_preserved _).manage _ hs).and (manage_continues _ s))).imp
    fun r v hv => ?_
  obtain ⟨hrecounted, hsound, hcontinues⟩ := hv
  generalize r.bind challengeOf = outcome
  cases outcome with
  | error e => exact nofun
  | ok challenge =>
  have hnext : v.phase.Preliminary := by
    rw [hrecounted.phase_eq]
    exact hphase
  dsimp only
  rw [ends_bind, ends_revise, ends_bind, ends_get]
  refine (activate_gains (s := { v with toStanding := v.challenged challenge })
    ((Turn.challenged challenge hnext).sound hsound) (hrecounted.connected_eq.trans hconnected) rfl
    (hrecounted.policy_eq.trans hpolicy) (hrecounted.capabilities_eq.trans hcapabilities) _).imp
    fun r t ht hr => ?_
  obtain ⟨a, hgains⟩ := ht hr
  have hauthType : (v.challenged challenge).authType = s.authType := hrecounted.authType_eq
  rw [hauthType] at hgains
  exact ⟨a, hgains.of_quiet (hcontinues.toQuiet hphase.ne_active)⟩

/-- How an opening that succeeded came by the type of its session. What the controller supports is
on record too. -/
structure Negotiated (config : Config) (c : Capabilities) (negotiated : AuthType) (a : Activation)
    (s t : Session) : Prop extends Gains c negotiated a s t where
  offered : ∃ use ∈ s.since t, use.Offers c
  negotiate_eq : c.negotiate config.authType = .ok negotiated

theorem Negotiated.of_quiet (h : Negotiated config c negotiated a v t) (hquiet : Quiet s v) :
    Negotiated config c negotiated a s t := by
  refine ⟨Gains.of_quiet (x := v.toStanding) h.toGains hquiet, ?_, h.negotiate_eq⟩
  obtain ⟨use, huse, hoffers⟩ := h.offered
  exact ⟨use, (mem_since_iff hquiet.grown h.grown).mpr (.inr huse), hoffers⟩

theorem authCapabilities_continues (s : Session) :
    Ends authCapabilities s fun _ t => Continues s t :=
  (ends_map authCapabilities (fun _ => ()) s fun _ t => Continues s t).mp
    (management_continues .authCapabilities s)

/-- The requests of an opening, if all goes well. -/
theorem handshake_negotiated (hs : s.Sound config) (hconnected : s.connected = true)
    (hphase : s.phase.Preliminary) (hid : s.sessionId = 0) :
    Ends handshake s fun r t =>
      r = .ok () → ∃ c negotiated a, Negotiated config c negotiated a s t := by
  unfold handshake
  rw [ends_bind]
  refine ((authCapabilities_talk hs hconnected hphase hid).and
    (authCapabilities_continues s)).imp fun r t ht => ?_
  obtain ⟨⟨before, stage, use, htalk, -, hsound, hrecounted, hgives⟩, hcontinues⟩ := ht
  cases r with
  | error e => exact nofun
  | ok c =>
  obtain ⟨response, hanswer, hgiven⟩ := hgives.of_ok
  have huse : use ∈ s.since t := by
    rw [since_eq htalk.adds.uses_eq]
    exact List.mem_map.mpr ⟨(stage, use), by simp, rfl⟩
  have hquiet : Quiet s t := hcontinues.toQuiet hphase.ne_active
  dsimp only
  rw [ends_bind, ends_get]
  dsimp only
  rw [ends_bind, ends_ofResult]
  cases hauth : c.negotiate t.config.authType with
  | error e => exact nofun
  | ok negotiated =>
  dsimp only
  rw [ends_bind, ends_revise]
  let w : Session := { t with toStanding := t.withCapabilities c negotiated }
  have hnext : t.phase.Preliminary := by
    rw [hrecounted.phase_eq]
    exact hphase
  refine (challenge_gains (s := w) ((Turn.supports hnext hauth).sound hsound)
    (hrecounted.connected_eq.trans hconnected) hnext rfl rfl negotiated).imp fun r u hu hr => ?_
  obtain ⟨a, hgains⟩ := hu hr
  have hmem : use ∈ s.since u := (mem_since_iff (t := w) hquiet.grown hgains.grown).mpr (.inl huse)
  rw [hsound.config_eq] at hauth
  exact ⟨c, negotiated, a, hgains.of_quiet hquiet,
    ⟨use, hmem, response, hanswer, capabilitiesOf_eq_ok_iff.mp hgiven⟩, hauth⟩

theorem establish_negotiated (hs : s.Sound config) (hrest : s.AtRest) :
    Ends establish s fun r t =>
      r = .ok () → ∃ c negotiated a, Negotiated config c negotiated a s t := by
  refine ends_establish (fun _ => nofun) (fun _ _ _ _ => nofun) ?_ ?_ fun _ _ _ _ _ _ _ => nofun
  · intro hphase t u ht hu hr
    obtain ⟨sought, found, hsought, -⟩ :=
      (pingByPolicy_sought hphase (hrest.connected (.inl hphase))).of_ok ht
    obtain ⟨hsound, hconnected, hpreliminary, hid⟩ := hsought.ready hs hrest hphase
    obtain ⟨c, negotiated, a, h⟩ :=
      (handshake_negotiated hsound hconnected hpreliminary hid).of_ok hu hr
    exact ⟨c, negotiated, a, h.of_quiet hsought.toQuiet⟩
  · exact fun _ _ u _ _ => (abort_closes u).imp fun _ _ _ => nofun

/-- The session is active, and frames of it can be made. -/
structure Audible (s : Session) : Prop where
  connected : s.connected = true
  active : s.phase = .active
  audible : ¬ s.Mute

theorem Audible.recounted (h : s.Audible) (ht : s.Recounted t.toStanding) : t.Audible :=
  ⟨ht.connected_eq.trans h.connected, ht.phase_eq.trans h.active, mt ht.mute_iff.mp h.audible⟩

/-- An operation has left an audible session, and has not failed for an authentication type. -/
def Supported {α : Type} (r : Except Error α) (t : Session) : Prop :=
  Fares Audible (fun e _ => ∀ authType, e ≠ .unsupportedAuthType authType) r t

theorem Supported.ne {α : Type} {r : Except Error α} (h : Supported r t) (authType : AuthType) :
    r ≠ .error (.unsupportedAuthType authType) := fun hr => h.2 _ hr authType rfl

theorem exchange_supported (request : Request) (route : Route) (manner : Manner) (hs : s.Audible) :
    Ends (exchange request route manner) s Supported := by
  refine (exchange_sends hs.connected request route manner).imp fun r t ht => ?_
  rcases ht with ⟨e, hpacket, rfl, rfl⟩ | ⟨use, huse⟩
  · refine ⟨hs, fun found hfound authType h => ?_⟩
    subst h
    cases hfound
    rcases Standing.packet_eq_error_iff.mp hpacket with ⟨hoem, -⟩ | ⟨-, -, h⟩
    · exact hs.audible ((Standing.mute_iff hs.active request.command).mpr hoem)
    · cases h
  · refine ⟨hs.recounted huse.recounted, fun e he authType h => ?_⟩
    subst h
    cases huse.late he

theorem footing_supported :
    Footing Audible (fun e _ => ∀ authType, e ≠ .unsupportedAuthType authType) where
  manage _ _ hs := (ends_manage ..).mpr (exchange_supported _ _ _ hs)
  faults e _ h authType he := by
    subst he
    cases h

theorem dispatch_supported (request : Request) (route : Route) (hs : s.Audible)
    (authType : AuthType) :
    Ends (dispatch request route) s fun r _ => r ≠ .error (.unsupportedAuthType authType) := by
  refine ends_dispatch (fun h => absurd hs.active h) fun _ => ?_
  refine (exchange_supported request route _ hs).imp fun r t ht => ⟨fun _ => ?_, fun _ => ht.ne _⟩
  exact (abort_closes t).imp fun _ _ _ => nofun

/-- No call of an audible session fails for an authentication type. -/
theorem op_supported (call : Call) (hs : s.Audible) (authType : AuthType) :
    Ends call.op s fun r _ => r ≠ .error (.unsupportedAuthType authType) := by
  have hother {phase : Phase} {α : Type} {f : Unit → Op α} (h : phase ≠ .active) :
      Ends (expect phase >>= f) s fun r _ => r ≠ .error (.unsupportedAuthType authType) :=
    (ends_expect_bind_of_ne fun h' => h (h'.symm.trans hs.active)).mpr nofun
  have hmapped {r : Except Error Response} (h : r ≠ .error (.unsupportedAuthType authType)) :
      r.map (fun _ => ()) ≠ .error (.unsupportedAuthType authType) := by
    cases r with
    | ok response => exact nofun
    | error e => exact fun he => h (congrArg Except.error (Except.error.inj he))
  cases call with
  | connect | establish => exact hother (by decide)
  | ping =>
    refine (ends_map ..).mpr ((ends_expect_bind_of_ne fun h => ?_).mpr nofun)
    cases h.symm.trans hs.active
  | command request =>
    refine (ends_map ..).mpr ((ends_command ..).mpr ?_)
    exact (dispatch_supported request _ hs authType).imp fun _ _ => hmapped
  | raw netFn unit target channel number data =>
    refine (ends_map ..).mpr (ends_raw (fun _ => nofun) ?_)
    exact (dispatch_supported _ _ hs authType).imp fun _ _ => hmapped
  | close =>
    refine ends_close (fun h => ?_) (fun h => absurd hs.active h) fun _ => ?_
    · cases h.symm.trans hs.active
    · have hends : Ends (closeSession s.sessionId) s Supported :=
        footing_supported.closeSession s.sessionId hs
      exact hends.imp fun _ _ ht => ht.ne authType
  | abort =>
    refine (abort_closes s).imp fun r _ hr => ?_
    rw [hr.1]
    exact nofun
  | discard | elapse | cancel | enqueue => exact nofun

/-- The type that a session `t` was opened with is as agreed: the controller offers it, it is the
one that was asked for, and codes can be computed for it. So whatever the owner does, no call of
the active session fails for its type, and it can be asked to be closed; and if another type than
`none` was negotiated, an active session that signs its frames has sent none without
authentication. -/
structure Agreed (config : Config) (c : Capabilities) (negotiated : AuthType) (s t : Session) :
    Prop where
  offered : c.supports t.authType = true
  pinned : ∀ pin, config.authType = some pin → t.authType = pin
  computable : t.authType ≠ .oem
  served : ∀ u, t.Reaches u → u.phase = .active →
    (∀ (call : Call) authType, Ends call.op u fun r _ => r ≠ .error (.unsupportedAuthType authType)) ∧
      u.ClosedBy (after abort u).link.network
  signed : negotiated ≠ .none → ∀ u, t.Reaches u → ∀ use ∈ s.since u, use.InSession →
    use.standing.policy.signs use.standing.privilege = true →
      ∀ frame ∈ use.frames, ∃ p, Packet.decode frame = .ok p ∧ p.header.isAuthenticated = true

/-- An active session is served as long as its type is one that codes can be computed for. -/
theorem Reachable.served (h : Reachable config t) (hactive : t.phase = .active)
    (hcomputable : t.authType ≠ .oem) (hu : t.Reaches u) (huactive : u.phase = .active) :
    (∀ (call : Call) authType, Ends call.op u fun r _ => r ≠ .error (.unsupportedAuthType authType)) ∧
      u.ClosedBy (after abort u).link.network := by
  obtain ⟨hsound, hrest⟩ := (h.trans hu).rests
  have hconnected := hrest.connected (.inr (.inr huactive))
  have haudible : ¬ u.Mute := by
    rintro ⟨-, hoem⟩
    rcases (hu.continues hactive).kept with hakin | hclosed
    · exact hcomputable (hakin.authType_eq.symm.trans hoem)
    · cases huactive.symm.trans hclosed
  exact ⟨fun call authType => op_supported call ⟨hconnected, huactive, haudible⟩ authType,
    (abort_closedBy_iff hsound hconnected huactive).after.mpr haudible⟩

/-- A session that signs its frames under a type that has codes has sent none without. -/
theorem Negotiated.signed (h : Negotiated config c negotiated a s t) (hactive : t.phase = .active)
    (hauth : t.policy.signs t.privilege = true → t.authType ≠ .none) (hu : t.Reaches u) {use : Use}
    (huse : use ∈ s.since u) (hsession : use.InSession)
    (hsigns : use.standing.policy.signs use.standing.privilege = true) :
    ∀ frame ∈ use.frames, ∃ p, Packet.decode frame = .ok p ∧ p.header.isAuthenticated = true := by
  have hcontinues := hu.continues hactive
  rcases (mem_since_iff h.grown hcontinues.grown).mp huse with huse | huse
  · obtain ⟨hauthType, hpolicy, hprivilege, hmade⟩ := h.uses use huse hsession
    refine hmade.authenticated hsession hsigns ?_
    rw [hauthType]
    rw [hpolicy, hprivilege] at hsigns
    exact hauth (SigningPolicy.signs_of_signs_user hsigns t.privilege)
  · obtain ⟨hakin, hmade⟩ := hcontinues.uses use huse hsession.1
    refine hmade.authenticated hsession hsigns ?_
    rw [hakin.authType_eq]
    rw [hakin.policy_eq, hakin.privilege_eq] at hsigns
    exact hauth hsigns

/-- Giving up a session of type `none` hands over a frame without authentication. -/
theorem abort_unauthenticated (hs : t.Sound config) (hconnected : t.connected = true)
    (hactive : t.phase = .active) (hauth : t.authType = .none) :
    ∃ use ∈ t.since (after abort t), use.standing = t.toStanding ∧ use.InSession ∧
      ∃ frame ∈ use.frames, ∀ p, Packet.decode frame = .ok p → p.header.isAuthenticated = false := by
  have haudible : ¬ t.Mute := by
    rintro ⟨-, hoem⟩
    cases hauth.symm.trans hoem
  have hasked : Ends abort t fun _ v => ∃ use ∈ t.since v, use.standing = t.toStanding ∧
      use.InSession ∧ ∃ frame ∈ use.frames,
        ∀ p, Packet.decode frame = .ok p → p.header.isAuthenticated = false := by
    refine (abort_asked hs hconnected hactive haudible).imp fun _ v hv => ?_
    obtain ⟨w, use, x, hasked, hsent, rfl⟩ := hv
    obtain ⟨frame, hframe⟩ := List.exists_mem_of_ne_nil _ hsent
    have huse : use ∈ t.since w := by
      rw [since_eq hasked.adds.uses_eq]
      exact List.mem_singleton_self use
    refine ⟨use, huse, hasked.standing_eq, ⟨?_, _, _, hasked.asks.purpose_eq⟩, frame, hframe, ?_⟩
    · rw [hasked.standing_eq]
      exact hactive
    · intro p hp
      obtain ⟨found, hfound, htype, -⟩ := hasked.asks.frames frame hframe
      obtain rfl := Except.ok.inj (hp.symm.trans hfound)
      have hnone : t.authInForce (.closeSession t.sessionId) = .none := by
        rw [Standing.authInForce_of_active hactive, hauth]
        split <;> rfl
      rw [SessionHeader.isAuthenticated, htype, hnone]
      rfl
  exact hasked.after

/-- When the type of a session is as agreed. -/
theorem Negotiated.agreed_iff (h : Negotiated config c negotiated a s t)
    (ht : Reachable config t) (hactive : t.phase = .active) :
    Agreed config c negotiated s t ↔ t.authType = negotiated ∨
      (config.authType = none ∧ c.supports t.authType = true ∧ t.authType ≠ .oem ∧
        (t.authType = .none → t.policy.signs t.privilege = false)) := by
  obtain ⟨hsupports, hpinned⟩ := Capabilities.negotiate_eq_ok h.negotiate_eq
  constructor
  · intro hagreed
    by_cases hsame : t.authType = negotiated
    · exact .inl hsame
    refine .inr ⟨?_, hagreed.offered, hagreed.computable, fun hnone => ?_⟩
    · refine Option.eq_none_iff_forall_ne_some.mpr fun pin hpin => hsame ?_
      exact (hagreed.pinned pin hpin).trans (hpinned pin hpin).symm
    · obtain ⟨hsound, hrest⟩ := ht.rests
      have hconnected := hrest.connected (.inr (.inr hactive))
      obtain ⟨use, huse, hstanding, hsession, frame, hframe, hunauthenticated⟩ :=
        abort_unauthenticated hsound hconnected hactive hnone
      have hu : t.Reaches (after abort t) := .single (.called .abort)
      have hmem : use ∈ s.since (after abort t) :=
        (mem_since_iff h.grown (hu.continues hactive).grown).mpr (.inr huse)
      refine Bool.eq_false_iff.mpr fun hsigns => ?_
      obtain ⟨p, hp, hauthenticated⟩ := hagreed.signed (fun hn => hsame (hnone.trans hn.symm)) _ hu
        use hmem hsession (by rw [hstanding]; exact hsigns) frame hframe
      cases (hunauthenticated p hp).symm.trans hauthenticated
  · intro hterms
    have hcomputable : t.authType ≠ .oem := by
      rcases hterms with hsame | ⟨-, -, hne, -⟩
      · rw [hsame]
        exact h.computable
      · exact hne
    refine ⟨?_, ?_, hcomputable, fun u hu => ht.served hactive hcomputable hu,
      fun hnone u hu use huse hsession hsigns =>
        h.signed hactive (fun hlevel hauth => ?_) hu huse hsession hsigns⟩
    · rcases hterms with hsame | ⟨-, hoffered, -⟩
      · rw [hsame]
        exact hsupports
      · exact hoffered
    · intro pin hpin
      rcases hterms with hsame | ⟨hfree, -⟩
      · exact hsame.trans (hpinned pin hpin)
      · cases hfree.symm.trans hpin
    · rcases hterms with hsame | ⟨-, -, -, hunsigned⟩
      · exact hnone (hsame.symm.trans hauth)
      · cases (hunsigned hauth).symm.trans hlevel

/-- Whether an opening that succeeded left the session with a type as agreed. What the controller
named in its answer to the request for activation is taken as it is, so this hangs on that answer:
it has to name the type that was negotiated, or no type at all; or, where none was asked for,
another one that the controller offers and that codes can be computed for, which is not `none` in
a session that signs its frames. -/
theorem establish_agreed_iff (h : Reachable config s) (hopened : establish s = .ok () t) :
    ∃ c negotiated a, Negotiated config c negotiated a s t ∧
      (Agreed config c negotiated s t ↔ t.authType = negotiated ∨
        (config.authType = none ∧ c.supports t.authType = true ∧ t.authType ≠ .oem ∧
          (t.authType = .none → t.policy.signs t.privilege = false))) := by
  obtain ⟨hsound, hrest⟩ := h.rests
  obtain ⟨c, negotiated, a, hnegotiated⟩ := (establish_negotiated hsound hrest).of_ok hopened rfl
  have hphase : s.phase = .bound := by
    by_contra hother
    have hends : Ends establish s fun r _ => r ≠ .ok () :=
      (ends_expect_bind_of_ne hother).mpr nofun
    exact hends.of_ok hopened rfl
  have hactive : t.phase = .active :=
    ((establish_active_iff hsound hrest hphase).of_ok hopened).mp rfl
  have ht : Reachable config t := h.trans (.single (after_of_ok hopened ▸ .called .establish))
  exact ⟨c, negotiated, a, hnegotiated, hnegotiated.agreed_iff ht hactive⟩

/-- Settings that insist on the type `Password`. -/
def insisting : Config := { sampleConfig with authType := some .password }

/-- A session that insists on the type `Password`, with a controller that offers nothing else but
names the type with number `chosen` when it activates the session. -/
def activatedAs (chosen : UInt8) : Session :=
  scripted insisting (validate_of_anonymous rfl rfl) (passwordOpening chosen Packet.plain)

/-- The controller names the type that was asked for. -/
theorem agreed_of_password :
    ∃ t, establish (activatedAs AuthType.password.code) = .ok () t ∧ t.authType = .password ∧
      ∃ c negotiated, t.capabilities = some c ∧
        Agreed insisting c negotiated (activatedAs AuthType.password.code) t := by
  obtain ⟨_, t, hopened, hauth⟩ : ∃ r t, establish (activatedAs AuthType.password.code) = .ok r t ∧
      decide (t.authType = .password) = true := exists_of_gives (by decide +kernel)
  have hpassword : t.authType = .password := of_decide_eq_true hauth
  have hreachable : Reachable insisting (activatedAs AuthType.password.code) :=
    (scripted_begun (validate_of_anonymous rfl rfl) _).reachable_run []
  obtain ⟨c, negotiated, a, hnegotiated, hiff⟩ := establish_agreed_iff hreachable hopened
  have hsame : negotiated = .password :=
    (Capabilities.negotiate_eq_ok hnegotiated.negotiate_eq).2 .password rfl
  exact ⟨t, hopened, hpassword, c, negotiated, hnegotiated.capabilities_eq,
    hiff.mpr (.inl (hpassword.trans hsame.symm))⟩

/-- The controller names `none`, which it has not offered and was not asked for. The session is
opened all the same, and its frames are not authenticated although its policy signs them. -/
theorem not_agreed_of_none :
    ∃ t c, establish (activatedAs AuthType.none.code) = .ok () t ∧ t.capabilities = some c ∧
      t.authType = .none ∧ c.supports .none = false ∧ insisting.authType = some .password ∧
      t.policy.signs t.privilege = true ∧
      ∀ negotiated, ¬ Agreed insisting c negotiated (activatedAs AuthType.none.code) t := by
  obtain ⟨_, t, hopened, h⟩ : ∃ r t, establish (activatedAs AuthType.none.code) = .ok r t ∧
      decide (t.authType = .none ∧ (t.capabilities.map fun c => c.supports .none) = some false ∧
        t.policy.signs t.privilege = true) = true := exists_of_gives (by decide +kernel)
  obtain ⟨hauth, hmask, hsigns⟩ := of_decide_eq_true h
  obtain ⟨c, hc, hunoffered⟩ := Option.map_eq_some_iff.mp hmask
  refine ⟨t, c, hopened, hc, hauth, hunoffered, rfl, hsigns, fun negotiated hagreed => ?_⟩
  have hoffered := hagreed.offered
  rw [hauth, hunoffered] at hoffered
  cases hoffered

end Session
end Baseboard
