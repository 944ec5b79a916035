import Baseboard.Proofs.Session.Frames
import Baseboard.Proofs.Session.Management
import Baseboard.Proofs.Session.Sending
import Mathlib.Data.List.Chain

/-! What a session asks its controller for when it is opened: one request, what is on record
of it, and what it needs of the answer to the one before it. -/
namespace Baseboard

variable {α : Type}

/-- The controller of the session itself is asked without an envelope. -/
@[simp] theorem Route.depth_direct (controller : UInt8) : (direct controller).depth = 0 := if_pos rfl

theorem Request.length_payload_sessionChallenge (t : AuthType) (username : Field) :
    (sessionChallenge t username).payload.length = 17 := by
  change (_ :: username.bytes).length = 17
  rw [List.length_cons, username.length_eq]

theorem Request.length_payload_activateSession (t : AuthType) (level : Privilege)
    (challenge : Field) (initial : UInt32) :
    (activateSession t level challenge initial).payload.length = 22 := by
  change (_ :: _ :: challenge.bytes ++ Bytes.littleEndian 4 _).length = 22
  rw [List.length_append, List.length_cons, List.length_cons, challenge.length_eq,
    Bytes.length_littleEndian]

theorem Request.length_payload_closeSession (sessionId : UInt32) :
    (closeSession sessionId).payload.length = 4 := Bytes.length_littleEndian 4 _

theorem Request.isActivation_activateSession (t : AuthType) (level : Privilege) (challenge : Field)
    (initial : UInt32) : (activateSession t level challenge initial).isActivation = true := by
  have hn : (activateSession t level challenge initial).netFn = NetworkFunction.app.request :=
    netFn_ofFunction ..
  rw [isActivation, hn]
  rfl

theorem Phase.Preliminary.ne_active {p : Phase} (h : p.Preliminary) : p ≠ .active := by
  rcases h with rfl | rfl <;> decide

namespace Standing

variable {s : Standing} {request : Request}

theorem frameSequence_of_ne_active (h : s.phase ≠ .active) : s.frameSequence = 0 := if_neg h

/-- Before a session has an id, its frames prove nothing. -/
theorem frameAuth_of_preliminary (h : s.phase.Preliminary) (command : UInt8) :
    s.frameAuth command = .none := by
  unfold frameAuth
  rcases h with h | h <;> simp [h]

theorem authInForce_of_preliminary (h : s.phase.Preliminary) (request : Request) :
    s.authInForce request = .none := by
  unfold authInForce signs
  rcases h with h | h <;> simp [h]

theorem frameSequence_of_active (h : s.phase = .active) : s.frameSequence = s.outboundSequence :=
  if_pos h

/-- The request for activation proves who asks for it. -/
theorem authInForce_of_challenged (h : s.phase = .challengeIssued)
    (hactivation : request.isActivation = true) : s.authInForce request = s.authType := by
  unfold authInForce signs
  simp [h, hactivation]

theorem authInForce_of_active (h : s.phase = .active) (request : Request) :
    s.authInForce request = if s.policy.signs s.privilege then s.authType else .none := by
  unfold authInForce signs
  simp [h]

/-- A short request to the controller goes into a packet, unless it has to be signed with a code
that cannot be computed. -/
theorem exists_direct_packet_iff (hshort : request.payload.length ≤ 248) (controller : UInt8) :
    (∃ p, s.packet request (.direct controller) = .ok p) ↔ s.frameAuth request.command ≠ .oem := by
  rw [exists_packet_iff, length_message, Route.depth_direct]
  exact ⟨And.left, fun hauth => ⟨hauth, by omega⟩⟩

theorem Opens.length_payload_le (hopens : s.Opens request) : request.payload.length ≤ 22 := by
  cases hopens with
  | capabilities => exact Nat.le_add_left 2 20
  | challenge => exact Nat.le_trans (Nat.le_of_eq (Request.length_payload_sessionChallenge ..)) (by decide)
  | activation => exact Nat.le_of_eq (Request.length_payload_activateSession ..)
  | privilege => exact Nat.le_add_left 1 21

theorem Opens.exists_packet (hopens : s.Opens request) (hauth : s.frameAuth request.command ≠ .oem)
    (controller : UInt8) : ∃ p, s.packet request (.direct controller) = .ok p :=
  (exists_direct_packet_iff (Nat.le_trans hopens.length_payload_le (by decide)) controller).mpr hauth

theorem Opens.exists_packet_of_preliminary (hopens : s.Opens request) (h : s.phase.Preliminary)
    (controller : UInt8) : ∃ p, s.packet request (.direct controller) = .ok p := by
  refine hopens.exists_packet ?_ controller
  rw [frameAuth_of_preliminary h]
  decide

end Standing

/-- The requests of an opening, in the order in which they can be made. -/
inductive Stage where
  | capabilities
  | fallback
  | challenge
  | activation
  | privilege
  | closing
  deriving DecidableEq, Repr

/-- A use of the link asks a controller for `r`: every frame that was handed over in it
decodes, holds `r`, and bears the given authentication type, sequence number and session id. -/
structure Use.Asks (u : Use) (controller : UInt8) (r : Request) (authType : AuthType)
    (sequence sessionId : UInt32) : Prop where
  purpose_eq : u.purpose = .request r (.direct controller)
  frames : ∀ frame ∈ u.frames, ∃ p, Packet.decode frame = .ok p ∧
    p.header.authType = authType.code ∧ p.header.sequence = sequence ∧
    p.header.sessionId = sessionId ∧
    ∃ q, Request.disclose p.payload 0 = .ok q ∧ q.wording = r.wording

/-- Where a request of an opening stands. -/
def Stage.rank : Stage → Nat
  | capabilities => 0
  | fallback => 1
  | challenge => 2
  | activation => 3
  | privilege => 4
  | closing => 5

/-- What one request of an opening needs of the answer to the one before it, and what it then
asks for. Only the end of the session needs that there is no answer. -/
inductive Follows (config : Config) : Stage × Use → Stage × Use → Prop where
  | fallback {u v : Use} {response : Response} (hanswer : u.answer? = some response)
      (hcode : response.code ≠ .completed)
      (hasks : v.Asks config.controller (.authCapabilities 0x0E config.privilege) .none 0 0) :
      Follows config (.capabilities, u) (.fallback, v)
  | challenge {stage : Stage} {u v : Use} {response : Response} {c : Capabilities}
      (hstage : stage = .capabilities ∨ stage = .fallback) (hanswer : u.answer? = some response)
      (hcode : response.code = .completed) (hparse : Capabilities.parse response.payload = .ok c)
      (hauth : c.negotiate config.authType = .ok v.standing.authType)
      (hpolicy : v.standing.policy = .ofCapabilities c)
      (hasks : v.Asks config.controller
        (.sessionChallenge v.standing.authType v.standing.username) .none 0 0) :
      Follows config (stage, u) (.challenge, v)
  | activation {u v : Use} {response : Response} {c : Challenge}
      (hanswer : u.answer? = some response) (hcode : response.code = .completed)
      (hparse : Challenge.parse response.payload = .ok c)
      (hauth : v.standing.authType = u.standing.authType)
      (hpolicy : v.standing.policy = u.standing.policy)
      (hasks : v.Asks config.controller
        (.activateSession v.standing.authType config.privilege
          (v.standing.transform.apply c.bytes v.standing.password) v.standing.outboundSequence)
        v.standing.authType 0 c.sessionId) :
      Follows config (.challenge, u) (.activation, v)
  | privilege {u v : Use} {response : Response} {a : Activation}
      (hanswer : u.answer? = some response) (hcode : response.code = .completed)
      (hparse : Activation.parse response.payload = .ok a)
      (hasks : v.Asks config.controller (.setPrivilege config.privilege)
        (if u.standing.policy.signs .user then a.authType?.getD u.standing.authType else .none)
        (nonzero a.inboundSequence) a.sessionId) :
      Follows config (.activation, u) (.privilege, v)
  | closing {u v : Use} {authType : AuthType} {sequence sessionId : UInt32}
      (hfailure : u.failure = some .cancelled)
      (hu : u.Asks config.controller (.setPrivilege config.privilege) authType sequence sessionId)
      (hasks : v.Asks config.controller (.closeSession sessionId) authType sequence sessionId) :
      Follows config (.privilege, u) (.closing, v)

theorem Follows.rank_lt {config : Config} {x y : Stage × Use} (h : Follows config x y) :
    x.1.rank < y.1.rank := by
  cases h with
  | challenge hstage => rcases hstage with rfl | rfl <;> simp [Stage.rank]
  | fallback | activation | privilege | closing => simp [Stage.rank]

/-- Every request of an opening comes before the last one. -/
theorem Follows.rank_lt_last {config : Config} {before : List (Stage × Use)} {last : Stage × Use}
    (h : (before ++ [last]).IsChain (Follows config)) :
    ∀ step ∈ before, step.1.rank < last.1.rank := by
  let Before (x y : Stage × Use) : Prop := x.1.rank < y.1.rank
  have : Trans Before Before Before := ⟨Nat.lt_trans⟩
  have hranks : (before ++ [last]).IsChain Before := h.imp fun x y hxy => hxy.rank_lt
  have hpairs := (List.pairwise_append.mp (List.isChain_iff_pairwise.mp hranks)).2.2
  exact fun step hstep => hpairs step hstep last List.mem_cons_self

/-- The controller has answered that it activated the session. -/
def Use.Activates (use : Use) : Prop :=
  ∃ response a, use.answer? = some response ∧ response.code = .completed ∧
    Activation.parse response.payload = .ok a

/-- The controller has answered that it supports version 2.0 only. -/
def Use.RequiresVersionTwo (use : Use) : Prop :=
  ∃ response c, use.answer? = some response ∧ response.code = .completed ∧
    Capabilities.parse response.payload = .ok c ∧ c.requiresVersionTwo = true

namespace Session

variable {config : Config} {s t u : Session} {steps : List (Stage × Use)}

/-- From one state of a session to another the link was used for `uses` and nothing else. -/
structure Adds (s : Session) (uses : List Use) (t : Session) : Prop where
  uses_eq : t.uses = s.uses ++ uses
  did : Link.Did s.link (uses.flatMap Use.actions) t.link

theorem Adds.refl (s : Session) : s.Adds [] s := ⟨(List.append_nil _).symm, .refl s.link⟩

theorem Adds.trans {first second : List Use} (h : s.Adds first t) (h' : t.Adds second u) :
    s.Adds (first ++ second) u := by
  constructor
  · rw [h'.uses_eq, h.uses_eq, List.append_assoc]
  · rw [List.flatMap_append]
    exact h.did.trans h'.did

/-- What a session does between two uses of its link by itself is not on record. -/
theorem Adds.of_restanding {x : Standing} {uses : List Use}
    (h : Adds { s with toStanding := x } uses t) : s.Adds uses t := ⟨h.uses_eq, h.did⟩

theorem Adds.handedOver_eq {uses : List Use} (h : s.Adds uses t) :
    s.handedOver t = uses.flatMap Use.frames := by
  unfold handedOver
  rw [h.did.drop_eq, List.filterMap_flatMap]
  rfl

/-- One request to the controller of the session, and what is on record of it. -/
structure Asked (config : Config) (s : Session) (request : Request) (t : Session) (use : Use) :
    Prop where
  adds : s.Adds [use] t
  sound : t.Sound config
  recounted : s.Recounted t.toStanding
  unanswered : use.answer? = none → t.toStanding = s.toStanding
  asks : use.Asks config.controller request (s.authInForce request) s.frameSequence s.sessionId
  standing_eq : use.standing = s.toStanding
  sent : use.frames = [] → use.failure = some .cancelled
  made : ∃ p, s.packet request (.direct config.controller) = .ok p

theorem Sends.asked {request : Request} {manner : Manner} {call : Call} {use : Use}
    {r : Except Error Response} (hs : s.Sound config)
    (hwanted : Wanted s.toStanding call (.request request (.direct s.config.controller)))
    (h : s.Sends request (.direct s.config.controller) manner r t use) :
    Asked config s request t use := by
  obtain ⟨packet, hpacket, hframes⟩ := h.made
  rw [hs.config_eq] at hwanted hpacket
  constructor
  · exact ⟨h.uses_eq, by simpa using h.did⟩
  · exact h.sound hs
  · exact h.recounted
  · intro hnone
    rw [h.answer_eq] at hnone
    cases r with
    | ok response => cases hnone
    | error e => exact h.standing_of_error e rfl
  · constructor
    · rw [← hs.config_eq]
      exact h.purpose_eq
    · intro frame hframe
      have hattests := Standing.attests_packet hwanted hs.sequence_lt hpacket
      obtain ⟨q, hq, hwording, -⟩ := hattests.discloses
      rw [Route.depth_direct] at hq
      rw [hframes frame hframe]
      exact ⟨packet, Packet.decode_encode (Standing.wellFormed_packet hpacket),
        hattests.authType_eq, hattests.sequence_eq, hattests.sessionId_eq, q, hq, hwording⟩
  · exact h.standing_eq
  · intro hnil
    exact (h.failure_eq_some_iff _).mpr (h.cancelled (h.frames_eq_nil_iff.mp hnil))
  · exact ⟨packet, hpacket⟩

/-- What comes of a request is what `f` makes of its answer, or the failure to get one. -/
inductive Gives (use : Use) (f : Response → Except Error α) (r : Except Error α) : Prop where
  | answered {response : Response} (hanswer : use.answer? = some response) (hr : r = f response)
  | unanswered {e : Error} (hanswer : use.answer? = none) (hfailure : use.failure = some e)
      (hr : r = .error e)

theorem Sends.gives {request : Request} {route : Route} {manner : Manner} {use : Use}
    {r : Except Error Response} (h : s.Sends request route manner r t use) :
    Gives use .ok r := by
  cases r with
  | ok response => exact .answered h.answer_eq rfl
  | error e => exact .unanswered h.answer_eq ((h.failure_eq_some_iff e).mpr rfl) rfl

theorem Gives.bind {use : Use} {r : Except Error Response} (h : Gives use .ok r)
    (f : Response → Except Error α) : Gives use f (r.bind f) := by
  cases h with
  | answered hanswer hr =>
    rw [hr]
    exact .answered hanswer rfl
  | unanswered hanswer hfailure hr =>
    rw [hr]
    exact .unanswered hanswer hfailure rfl

theorem Gives.of_ok {use : Use} {f : Response → Except Error α} {a : α}
    (h : Gives use f (.ok a)) : ∃ response, use.answer? = some response ∧ f response = .ok a := by
  cases h with
  | answered hanswer hr => exact ⟨_, hanswer, hr.symm⟩
  | unanswered _ _ hr => cases hr

theorem Gives.eq_of_answer {use : Use} {f : Response → Except Error α} {r : Except Error α}
    {response : Response} (h : Gives use f r) (hanswer : use.answer? = some response) :
    r = f response := by
  cases h with
  | answered hfound hr =>
    obtain rfl := Option.some.inj (hanswer.symm.trans hfound)
    exact hr
  | unanswered hnone => cases hanswer.symm.trans hnone

/-- Only a request that was cancelled itself is cancelled. -/
theorem Gives.cancelled {use : Use} {f : Response → Except Error α}
    (h : Gives use f (.error .cancelled)) (hf : ∀ response e, f response = .error e → e.Faults) :
    use.answer? = none ∧ use.failure = some .cancelled := by
  cases h with
  | answered _ hr => cases hf _ _ hr.symm
  | unanswered hanswer hfailure hr =>
    cases hr
    exact ⟨hanswer, hfailure⟩

/-- A request of an opening is made, if a packet can be made of it. -/
theorem manage_asked {request : Request} (hs : s.Sound config) (hconnected : s.connected = true)
    (hopens : s.Opens request) :
    Ends (manage request) s fun r t =>
      (∃ e, s.packet request (.direct config.controller) = .error e ∧ r = .error e ∧ t = s) ∨
        ∃ use, Asked config s request t use ∧ Gives use .ok r := by
  have hsends := exchange_sends hconnected request (.direct s.config.controller)
    ⟨s.config.maxTries, true, true⟩
  unfold manage
  rw [ends_bind, ends_get]
  refine hsends.imp fun r t ht => ?_
  rcases ht with ⟨e, hpacket, rfl, rfl⟩ | ⟨use, huse⟩
  · rw [hs.config_eq] at hpacket
    exact .inl ⟨e, hpacket, rfl, rfl⟩
  · exact .inr ⟨use, huse.asked hs (.opening hopens), huse.gives⟩

/-- What has been asked so far in an opening. -/
structure Talk (config : Config) (s : Session) (steps : List (Stage × Use)) (t : Session) :
    Prop where
  adds : s.Adds (steps.map Prod.snd) t
  chain : steps.IsChain (Follows config)
  head : ∀ first ∈ steps.head?, first.1 = .capabilities ∧
    first.2.Asks config.controller (.authCapabilities 0x8E config.privilege) .none 0 0
  sent : ∀ step ∈ steps, step.2.frames = [] → step.2.failure = some .cancelled

theorem Talk.restanding (h : Talk config s steps t) (x : Standing) :
    Talk config s steps { t with toStanding := x } :=
  ⟨⟨h.adds.uses_eq, h.adds.did⟩, h.chain, h.head, h.sent⟩

/-- One more request that follows the last one. -/
theorem Talk.next {before : List (Stage × Use)} {last : Stage × Use} {stage : Stage} {use : Use}
    (h : Talk config s (before ++ [last]) t) (hadds : t.Adds [use] u)
    (hsent : use.frames = [] → use.failure = some .cancelled)
    (hfollows : Follows config last (stage, use)) :
    Talk config s ((before ++ [last]) ++ [(stage, use)]) u := by
  constructor
  · rw [List.map_append]
    exact h.adds.trans hadds
  · refine List.isChain_append.mpr ⟨h.chain, List.isChain_singleton _, ?_⟩
    intro x hx y hy
    rw [List.getLast?_concat, Option.mem_some_iff] at hx
    rw [List.head?_cons, Option.mem_some_iff] at hy
    rw [← hx, ← hy]
    exact hfollows
  · intro first hfirst
    refine h.head first ?_
    rw [List.head?_append_of_ne_nil _ (by simp)] at hfirst
    exact hfirst
  · intro step hstep
    rcases List.mem_append.mp hstep with hstep | hstep
    · exact h.sent step hstep
    · rw [List.mem_singleton.mp hstep]
      exact hsent

/-- What is asked of a session that has no id yet. -/
theorem Asked.asks_of_preliminary {request : Request} {use : Use}
    (h : Asked config s request t use) (hphase : s.phase.Preliminary) (hid : s.sessionId = 0) :
    use.Asks config.controller request .none 0 0 := by
  have hasks := h.asks
  rw [Standing.authInForce_of_preliminary hphase,
    Standing.frameSequence_of_ne_active (Phase.Preliminary.ne_active hphase), hid] at hasks
  exact hasks

end Session
end Baseboard
