import Baseboard.Proofs.Session.Closing

/-! What a controller sees of an opening: the pings of the search, then the requests of the
handshake in their order, each only after the answer that calls for it, and a request to close
the session exactly when the opening was cancelled after the session had been activated. -/
namespace Baseboard

/-- The requests that can come after one, if it is not the first. -/
def Stage.later : Stage → List Stage
  | capabilities | fallback => [challenge, activation, privilege]
  | challenge => [activation, privilege]
  | activation => [privilege]
  | privilege | closing => []

/-- The requests of an opening whose controller understands the extended question. -/
def Stage.line : List Stage := [capabilities, challenge, activation, privilege]

/-- The requests of an opening whose controller has to be asked again. -/
def Stage.longLine : List Stage := [capabilities, fallback, challenge, activation, privilege]

namespace Follows

variable {config : Config} {x y : Stage × Use} {before steps : List (Stage × Use)}
  {last : Stage × Use}

/-- In a chain everything but the last is followed by something. -/
theorem exists_next (h : (before ++ [last]).IsChain (Follows config)) :
    ∀ x ∈ before, ∃ y ∈ before ++ [last], Follows config x y := by
  induction before with
  | nil => exact fun x hx => absurd hx List.not_mem_nil
  | cons first rest ih =>
    rw [List.cons_append] at h
    obtain ⟨hfirst, hrest⟩ := List.isChain_cons.mp h
    intro x hx
    rcases List.mem_cons.mp hx with rfl | hx
    · obtain ⟨y, hy⟩ : ∃ y, (rest ++ [last]).head? = some y := by
        cases rest <;> exact ⟨_, rfl⟩
      refine ⟨y, List.mem_cons_of_mem _ (List.mem_of_mem_head? hy), hfirst y hy⟩
    · obtain ⟨y, hy, hxy⟩ := ih hrest x hx
      exact ⟨y, List.mem_cons_of_mem _ hy, hxy⟩

/-- Every request but the last was answered, unless it is followed by the end. -/
theorem answered (h : Follows config x y) (hy : y.1 ≠ .closing) : x.2.answer? ≠ none := by
  cases h with
  | fallback hanswer | challenge _ hanswer | activation hanswer | privilege hanswer =>
    rw [hanswer]
    exact nofun
  | closing => exact absurd rfl hy

/-- Nothing follows an answer that asks for version 2.0. -/
theorem not_requiresVersionTwo (h : Follows config x y)
    (hx : x.1 = .capabilities ∨ x.1 = .fallback) : ¬ x.2.RequiresVersionTwo := by
  rintro ⟨found, c, hfound, hdone, hc, hrequires⟩
  cases h with
  | fallback hanswer hcode =>
    obtain rfl := Option.some.inj (hanswer.symm.trans hfound)
    exact hcode hdone
  | challenge hstage hanswer hcode hparse hauth =>
    obtain rfl := Option.some.inj (hanswer.symm.trans hfound)
    obtain rfl := Except.ok.inj (hparse.symm.trans hc)
    rw [Capabilities.negotiate_of_requiresVersionTwo hrequires] at hauth
    cases hauth
  | activation | privilege | closing => rcases hx with h | h <;> cases h

theorem later_eq (h : Follows config x y) (hy : y.1 ≠ .closing) (hne : y.1 ≠ .fallback) :
    x.1.later = y.1 :: y.1.later := by
  cases h with
  | challenge hstage => rcases hstage with rfl | rfl <;> rfl
  | fallback => exact absurd rfl hne
  | activation | privilege => rfl
  | closing => exact absurd rfl hy

/-- After the first question the requests come in their order. -/
theorem stages_later (h : (x :: steps).IsChain (Follows config)) (hx : x.1 ≠ .capabilities)
    (hsteps : ∀ step ∈ steps, step.1 ≠ .closing) : steps.map Prod.fst <+: x.1.later := by
  -- Ranks ascend, so neither of the two first questions comes again.
  induction steps generalizing x with
  | nil => exact List.nil_prefix
  | cons y rest ih =>
    obtain ⟨hxy, hrest⟩ := List.isChain_cons_cons.mp h
    have hy : y.1 ≠ .closing := hsteps y List.mem_cons_self
    have hrank := hxy.rank_lt
    have hfallback : y.1 ≠ .fallback := by
      intro hy
      rw [hy] at hrank
      cases hxy with
      | fallback => exact hx rfl
      | challenge | activation | privilege | closing => cases hy
    have hcapabilities : y.1 ≠ .capabilities := by
      intro hy
      rw [hy] at hrank
      exact absurd hrank (Nat.not_lt_zero _)
    rw [hxy.later_eq hy hfallback, List.map_cons]
    exact (List.prefix_cons_inj _).mpr
      (ih hrest hcapabilities fun step hstep => hsteps step (List.mem_cons_of_mem _ hstep))

/-- From the first question on the requests come in one of two orders. -/
theorem stages_line (h : (x :: steps).IsChain (Follows config)) (hx : x.1 = .capabilities)
    (hsteps : ∀ step ∈ steps, step.1 ≠ .closing) :
    (x :: steps).map Prod.fst <+: Stage.line ∨ (x :: steps).map Prod.fst <+: Stage.longLine := by
  rw [List.map_cons, hx]
  cases steps with
  | nil => exact .inl ⟨_, rfl⟩
  | cons y rest =>
    obtain ⟨hxy, hrest⟩ := List.isChain_cons_cons.mp h
    have hy : y.1 ≠ .closing := hsteps y List.mem_cons_self
    have hrank := hxy.rank_lt
    have hcapabilities : y.1 ≠ .capabilities := by
      intro hy
      rw [hy] at hrank
      exact absurd hrank (Nat.not_lt_zero _)
    have hlater := stages_later hrest hcapabilities
      fun step hstep => hsteps step (List.mem_cons_of_mem _ hstep)
    rw [List.map_cons]
    by_cases hfallback : y.1 = .fallback
    · rw [hfallback] at hlater ⊢
      exact .inr ((List.prefix_cons_inj _).mpr ((List.prefix_cons_inj _).mpr hlater))
    · have heq := hxy.later_eq hy hfallback
      rw [hx] at heq
      refine .inl ((List.prefix_cons_inj _).mpr ?_)
      change _ <+: Stage.capabilities.later
      rw [heq]
      exact (List.prefix_cons_inj _).mpr hlater

end Follows

/-- The requests of which a frame was handed over. -/
def handedStages (steps : List (Stage × Use)) : List Stage :=
  (steps.filter fun step => !step.2.frames.isEmpty).map Prod.fst

namespace Session

variable {config : Config} {s t u : Session} {r : Except Error Unit} {sought : List Use}
  {steps : List (Stage × Use)} {found : Bool}

/-- A request that was answered was handed over. -/
theorem Talk.handed (h : Talk config s steps t) {step : Stage × Use} (hstep : step ∈ steps)
    (hanswer : step.2.answer? ≠ none) : step.2.frames ≠ [] :=
  fun hnil => hanswer (Use.answer?_of_failure (h.sent step hstep hnil))

/-- What was handed over is what was asked, but for a last request that was cancelled before. -/
theorem Handshaken.handedStages_prefix (h : Handshaken config s r t steps) :
    handedStages steps <+: Stage.line ∨ handedStages steps <+: Stage.longLine := by
  have hsome : handedStages steps <+: steps.map Prod.fst := by
    rcases List.eq_nil_or_concat steps with rfl | ⟨before, last, rfl⟩
    · exact List.nil_prefix
    · rw [List.concat_eq_append] at h ⊢
      have hbefore : before.filter (fun step => !step.2.frames.isEmpty) = before := by
        refine List.filter_eq_self.mpr fun step hstep => ?_
        obtain ⟨y, hy, hfollows⟩ := Follows.exists_next h.talk.chain step hstep
        have hne := h.talk.handed (List.mem_append_left _ hstep)
          (hfollows.answered (h.unclosed y hy))
        rw [List.isEmpty_eq_false_iff.mpr hne]
        rfl
      rw [handedStages, List.filter_append, hbefore, List.map_append, List.map_append]
      refine (List.prefix_append_right_inj _).mpr ?_
      exact List.IsPrefix.map Prod.fst (by
        rw [List.filter_cons]
        split
        · exact List.prefix_rfl
        · exact List.nil_prefix)
  cases steps with
  | nil => exact .inl List.nil_prefix
  | cons first rest =>
    have hline := Follows.stages_line h.talk.chain (h.talk.head first rfl).1
      fun step hstep => h.unclosed step (List.mem_cons_of_mem _ hstep)
    exact hline.imp hsome.trans hsome.trans

/-- What was done in an opening that began with `t`, ended with outcome `r` and left `u`. -/
structure Conforms (config : Config) (t : Session) (r : Except Error Unit) (u : Session)
    (sought : List Use) (steps : List (Stage × Use)) : Prop where
  /-- The link was used for the search and for the requests, and for nothing else. -/
  uses_eq : u.uses = t.uses ++ (sought ++ steps.map Prod.snd)
  handedOver_eq : t.handedOver u = (sought ++ steps.map Prod.snd).flatMap Use.frames
  search : ∀ use ∈ sought, use.purpose = .presence t.pingTag ∧
    ∀ frame ∈ use.frames, frame = Presence.ping t.pingTag
  /-- The first question is the extended one, in a frame that proves nothing. -/
  head : ∀ first ∈ steps.head?, first.1 = .capabilities ∧
    first.2.Asks config.controller (.authCapabilities 0x8E config.privilege) .none 0 0
  /-- Every other request is called for by the answer to the one before. -/
  chain : steps.IsChain (Follows config)
  /-- A request is handed over, unless it was cancelled before it could be. -/
  sent : ∀ step ∈ steps, step.2.frames = [] → step.2.failure = some .cancelled
  /-- The requests handed over come in their order. The session is closed exactly when the
  opening was cancelled after the controller had activated the session. -/
  order : ∃ asked closing, handedStages steps = asked ++ closing ∧
    (asked <+: Stage.line ∨ asked <+: Stage.longLine) ∧
    (closing = [.closing] ∧ r = .error .cancelled ∧
        (∃ use, (.activation, use) ∈ steps ∧ use.Activates) ∨
      closing = [] ∧ ¬ (r = .error .cancelled ∧
        ∃ use, (.activation, use) ∈ steps ∧ use.Activates))
  /-- A controller that supports version 2.0 only is asked nothing more. -/
  versionTwo : ∀ step ∈ steps, step.1 = .capabilities ∨ step.1 = .fallback →
    step.2.RequiresVersionTwo → r = .error .versionTwoRequired ∧ steps.getLast? = some step

/-- An answer that asks for version 2.0 is the last. -/
theorem Talk.getLast?_of_requiresVersionTwo (h : Talk config s steps t) {step : Stage × Use}
    (hstep : step ∈ steps) (hstage : step.1 = .capabilities ∨ step.1 = .fallback)
    (hrequires : step.2.RequiresVersionTwo) : steps.getLast? = some step := by
  rcases List.eq_nil_or_concat steps with rfl | ⟨before, last, rfl⟩
  · cases hstep
  · rw [List.concat_eq_append] at h hstep ⊢
    rcases List.mem_append.mp hstep with hstep | hstep
    · obtain ⟨y, -, hfollows⟩ := Follows.exists_next h.chain step hstep
      exact absurd hrequires (hfollows.not_requiresVersionTwo hstage)
    · rw [List.mem_singleton.mp hstep, List.getLast?_concat]

/-- An opening that does not give up an active session. -/
theorem Handshaken.conforms (hsought : Sought s found t sought)
    (h : Handshaken config t r u steps) (hkept : ¬ (r = .error .cancelled ∧ u.phase = .active))
    (x : Standing) : Conforms config s r { u with toStanding := x } sought steps := by
  have hadds : s.Adds (sought ++ steps.map Prod.snd) { u with toStanding := x } :=
    hsought.adds.trans (h.talk.restanding x).adds
  constructor
  · exact hadds.uses_eq
  · exact hadds.handedOver_eq
  · exact hsought.presence
  · exact h.talk.head
  · exact h.talk.chain
  · exact h.talk.sent
  · refine ⟨handedStages steps, [], (List.append_nil _).symm, h.handedStages_prefix, .inr ⟨rfl, ?_⟩⟩
    rw [← h.active_iff]
    exact hkept
  · intro step hstep hstage hrequires
    have hlast := h.talk.getLast?_of_requiresVersionTwo hstep hstage hrequires
    exact ⟨h.versionTwo step hlast hstage hrequires, hlast⟩

/-- The request to close a session that is given up. -/
theorem abort_asked (hs : s.Sound config) (hconnected : s.connected = true)
    (hphase : s.phase = .active) (haudible : ¬ s.Mute) :
    Ends abort s fun _ t => ∃ v use x, Asked config s (.closeSession s.sessionId) v use ∧
      use.frames ≠ [] ∧ t = { v with toStanding := x } := by
  obtain ⟨p, hp⟩ := (Standing.exists_closing_packet_iff hphase s.sessionId
    s.config.controller).mpr haudible
  refine ends_abort (fun h => absurd hphase h) fun _ => ?_
  refine (exchange_sends hconnected _ _ _).imp fun outcome t ht => ?_
  rcases ht with ⟨e, hpacket, -⟩ | ⟨use, huse⟩
  · cases hp.symm.trans hpacket
  have hasked := huse.asked hs (.closing (show Call.abort.mayClose = true from rfl) hphase)
  refine ⟨t, use, _, hasked, fun hnil => ?_, rfl⟩
  cases (huse.frames_eq_nil_iff.mp hnil).1

/-- An opening that was cancelled once the session was active, and asks for it to be closed. -/
theorem Handshaken.conforms_closing {v : Session} {closing : Use} {x : Standing}
    (hsought : Sought s found t sought)
    (h : Handshaken config t (.error .cancelled) u steps) (hactive : u.phase = .active)
    (hasked : Asked config u (.closeSession u.sessionId) v closing) (hsent : closing.frames ≠ []) :
    Conforms config s (.error .cancelled) { v with toStanding := x } sought
      (steps ++ [(.closing, closing)]) := by
  obtain ⟨before, use, w, rfl, hfailure, hw, hprivilege⟩ := h.cancelled rfl hactive
  have hfollows : Follows config (.privilege, use) (.closing, closing) := by
    have hasks := hprivilege.asks
    have hcloses := hasked.asks
    rw [hw, Standing.authInForce_of_active hactive] at hasks
    rw [Standing.authInForce_of_active hactive] at hcloses
    exact .closing hfailure hasks hcloses
  have htalk := h.talk.next hasked.adds hasked.sent hfollows
  have hadds : s.Adds (sought ++ ((before ++ [(Stage.privilege, use)]) ++
      [(Stage.closing, closing)]).map Prod.snd) { v with toStanding := x } :=
    hsought.adds.trans (htalk.restanding x).adds
  constructor
  · exact hadds.uses_eq
  · exact hadds.handedOver_eq
  · exact hsought.presence
  · exact htalk.head
  · exact htalk.chain
  · exact htalk.sent
  · refine ⟨handedStages (before ++ [(.privilege, use)]), [.closing], ?_, h.handedStages_prefix,
      .inl ⟨rfl, rfl, ?_⟩⟩
    · have hlast : handedStages [(.closing, closing)] = [.closing] := by
        rw [handedStages, List.filter_cons, List.isEmpty_eq_false_iff.mpr hsent]
        rfl
      rw [← hlast, handedStages, handedStages, handedStages, List.filter_append, List.map_append]
    · obtain ⟨activation, hmem, hactivates⟩ := h.active_iff.mp hactive
      exact ⟨activation, List.mem_append_left _ hmem, hactivates⟩
  · intro step hstep hstage hrequires
    have hlast := htalk.getLast?_of_requiresVersionTwo hstep hstage hrequires
    rw [List.getLast?_concat] at hlast
    cases hlast
    rcases hstage with h | h <;> cases h

theorem establish_conforms_of_rest (hs : s.Sound config) (hrest : s.AtRest)
    (hbound : s.phase = .bound) :
    Ends establish s fun r u => ∃ sought steps, Conforms config s r u sought steps := by
  refine ends_establish_of_rest hs hrest hbound ?_ ?_
  · intro e t sought _ hsought
    have hadds : s.Adds (sought ++ []) t := hsought.adds.trans (.refl t)
    refine ⟨sought, [], ⟨hadds.uses_eq, hadds.handedOver_eq, hsought.presence, ?_,
      List.isChain_nil, ?_, ⟨[], [], rfl, .inl List.nil_prefix, .inr ⟨rfl, ?_⟩⟩, ?_⟩⟩
    · intro first hfirst
      cases hfirst
    · exact fun step hstep => absurd hstep List.not_mem_nil
    · rintro ⟨-, use, hmem, -⟩
      cases hmem
    · exact fun step hstep => absurd hstep List.not_mem_nil
  · intro r t u found sought steps _ _ hsought h
    refine ⟨?_, ?_, ?_⟩
    · rintro rfl
      exact ⟨sought, steps, h.conforms hsought (fun h => nomatch h.1) u.toStanding⟩
    · rintro rfl
      by_cases hactive : u.phase = .active
      · refine (abort_asked h.sound h.connected hactive (h.audible hactive)).imp fun _ v hv => ?_
        obtain ⟨w, closing, x, hasked, hsent, rfl⟩ := hv
        exact ⟨sought, _, h.conforms_closing hsought hactive hasked hsent⟩
      · exact ends_abort (fun _ => ⟨sought, steps, h.conforms hsought (fun h => hactive h.2) _⟩)
          fun hphase => absurd hphase hactive
    · rintro e rfl hne
      exact ⟨sought, steps, h.conforms hsought (fun h => hne (Except.error.inj h.1)) _⟩

/-- Whatever the controller answers, when a bound session is opened after any calls the
controller sees the pings of the search and then the requests of the handshake, each in a frame
that bears what the session has to show by then, in their order and each only after an answer
that calls for it. It sees a request to close the session exactly when the opening was cancelled
after the session had been activated. -/
theorem establish_conforms (h : Begun config s) (calls : List Call)
    (hbound : (s.run calls).phase = .bound) :
    Ends establish (s.run calls) fun r u =>
      ∃ sought steps, Conforms config (s.run calls) r u sought steps :=
  establish_conforms_of_rest (run_accounted h calls).sound (run_atRest h calls) hbound

theorem establish_conforms_at_once :
    ((sample []).run []).phase = .bound ∧
      Ends establish ((sample []).run []) fun r u =>
        ∃ sought steps, Conforms sampleConfig ((sample []).run []) r u sought steps :=
  ⟨by decide +kernel, establish_conforms (sample_begun []) [] (by decide +kernel)⟩

end Session
end Baseboard
