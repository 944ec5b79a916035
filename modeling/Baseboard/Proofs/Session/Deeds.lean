import Baseboard.Proofs.Session.Likeness
import Baseboard.Proofs.Session.Reach

/-! Everything that the owner of a session can do with it, and what it gives. Two sessions that
cannot be told apart, and in whose hands the same is done, give the same. -/
namespace Baseboard

/-- What an operation gives that succeeds. -/
inductive Yield where
  | done
  | pong (pong : Presence.Pong)
  | response (response : Response)
  | capabilities (capabilities : Capabilities)
  | challenge (challenge : Challenge)
  | activation (activation : Activation)
  | level (level : Privilege)
  deriving DecidableEq, Repr

/-- One thing that the owner of a session does with it. -/
inductive Deed where
  | call (call : Call)
  | require (request : Request)
  | manage (m : Management)
  | retoken (token : CancelToken) (cancelled : Bool)
  deriving DecidableEq, Repr

/-- The operation of a call, with what it gives. -/
def Call.yielding : Call → Session.Op Yield
  | .ping => .pong <$> Session.ping
  | .command request => .response <$> Session.command request
  | .raw netFn unit target channel number data =>
    .response <$> Session.raw netFn unit target channel number data
  | call => (fun _ => .done) <$> call.op

/-- The operation of a request that manages the session, with what it gives. -/
def Management.yielding : Management → Session.Op Yield
  | authCapabilities => .capabilities <$> Session.authCapabilities
  | sessionChallenge authType => .challenge <$> Session.sessionChallenge authType
  | activateSession challenge initial => .activation <$> Session.activateSession challenge initial
  | setPrivilege level => .level <$> Session.setPrivilege level
  | closeSession sessionId => (fun _ => .done) <$> Session.closeSession sessionId

def Deed.op : Deed → Session.Op Yield
  | .call c => c.yielding
  | .require request => .response <$> Session.require request
  | .manage m => m.yielding
  | .retoken token cancelled => (fun _ => .done) <$> modify fun s => s.withToken token cancelled

namespace Session

/-- What comes of a number of deeds, one after the other, and the session that they leave. -/
def perform (s : Session) : List Deed → List (Except Error Yield) × Session
  | [] => ([], s)
  | deed :: rest =>
    let (results, t) := (after deed.op s).perform rest
    (outcome deed.op s :: results, t)

variable {like : Standing → Standing → Prop} {agree : Use → Use → Prop}
  {first first' s s' : Session}

/-- The same happens to the networks of both sessions. -/
theorem Paired.mapNetwork (h : Paired like agree first first' s s') {f : Network → Network}
    (hkept : ∀ n, (f n).trace = n.trace)
    (hforgets : ∀ n, { f n with trace := [] } = f { n with trace := [] }) :
    Paired like agree first first' (s.mapNetwork f) (s'.mapNetwork f) := by
  have hforgotten (l : Link) : ({ l with network := f l.network } : Link).forgotten =
      { l.forgotten with network := f l.forgotten.network } :=
    congrArg (Link.mk l.carrier {}) (hforgets l.network)
  obtain ⟨uses, uses', hadds, hadds', hall⟩ := h.uses
  refine ⟨h.standing, ?_, h.stats, uses, uses', ⟨hadds.uses_eq, ?_⟩, ⟨hadds'.uses_eq, ?_⟩, hall⟩
  · rw [Link.Alike, Session.mapNetwork, Session.mapNetwork, hforgotten, hforgotten, h.link]
  · exact (hkept _).trans hadds.did
  · exact (hkept _).trans hadds'.did

namespace Accord

variable (ha : Accord like agree) (h : Paired like agree first first' s s')
include ha h

theorem revise (f : Standing → Standing)
    (hf : ∀ x : Standing, (f x).withoutPassword = f x.withoutPassword) :
    EndAlike (revise f) s (Session.revise f) s' fun _ => Paired like agree first first' :=
  EndAlike.revise (h.restanding (ha.revised f hf h.standing))

theorem connect :
    EndAlike connect s Session.connect s' fun _ => Paired like agree first first' := by
  have hphase : s.phase = s'.phase := ha.reads h.standing (·.phase)
  have hpeer : s.config.peer = s'.config.peer := ha.reads h.standing (·.config.peer)
  have hbind : s.link.network.bindFailure = s'.link.network.bindFailure :=
    congrArg (·.network.bindFailure) h.link
  have hconnect : s.link.network.connectFailure = s'.link.network.connectFailure :=
    congrArg (·.network.connectFailure) h.link
  unfold Session.connect
  refine EndAlike.bind (EndAlike.expect hphase (fun _ => EndAlike.get_bind ?_) fun _ => h)
  rw [hbind, hconnect, hpeer]
  cases s'.link.network.bindFailure with
  | some e => exact EndAlike.throw h
  | none =>
  have hopened := ha.revise h (fun x => { x with phase := .socketOpen }) fun _ => rfl
  refine EndAlike.bind (hopened.imp fun r t t' ht => ?_)
  cases r with
  | error e => exact ht
  | ok =>
  cases s'.link.network.connectFailure with
  | some e => exact EndAlike.throw ht
  | none => exact ha.revise ht (fun x => { x with connected := true, phase := .bound }) fun _ => rfl

theorem abort :
    EndAlike abort s Session.abort s' fun _ => Paired like agree first first' :=
  ha.toLikeness.abort h (ha.revised (·.ended) fun _ => rfl)

theorem dispatch (request : Request) (route : Route) :
    EndAlike (dispatch request route) s (Session.dispatch request route) s'
      fun _ => Paired like agree first first' := by
  have hphase : s.phase = s'.phase := ha.reads h.standing (·.phase)
  have htries : s.config.maxTries = s'.config.maxTries := ha.reads h.standing (·.config.maxTries)
  unfold Session.dispatch
  refine EndAlike.bind (EndAlike.expect hphase (fun _ => EndAlike.get_bind ?_) fun _ => h)
  rw [htries]
  refine EndAlike.bind (EndAlike.attempt ?_)
  refine (ha.exchange h (ha.asks h.standing request route) _).imp fun r t t' ht => ?_
  dsimp only
  split
  · exact EndAlike.pure ht
  · refine EndAlike.bind ((ha.abort ht).imp fun r u u' hu => ?_)
    cases r with
    | ok => exact EndAlike.throw hu
    | error e => exact hu
  · exact EndAlike.throw ht

theorem command (request : Request) :
    EndAlike (command request) s (Session.command request) s'
      fun _ => Paired like agree first first' := by
  have hroute : s.config.route s.config.targetAddress s.config.targetChannel =
      s'.config.route s'.config.targetAddress s'.config.targetChannel :=
    ha.reads h.standing fun x => x.config.route x.config.targetAddress x.config.targetChannel
  unfold Session.command
  refine EndAlike.get_bind ?_
  dsimp only
  rw [hroute]
  exact ha.dispatch h request _

theorem raw (netFn unit target channel number : UInt8) (data : Bytes) :
    EndAlike (raw netFn unit target channel number data) s
      (Session.raw netFn unit target channel number data) s'
      fun _ => Paired like agree first first' := by
  have hroute : s.config.route target channel = s'.config.route target channel :=
    ha.reads h.standing (·.config.route target channel)
  unfold Session.raw
  by_cases hlong : longestData < data.length
  · rw [if_pos hlong]
    exact EndAlike.bind (EndAlike.throw h)
  · rw [if_neg hlong]
    refine EndAlike.get_bind ?_
    dsimp only
    rw [hroute]
    exact ha.dispatch h _ _

theorem require (request : Request) :
    EndAlike (require request) s (Session.require request) s'
      fun _ => Paired like agree first first' := by
  unfold Session.require
  refine EndAlike.bind ((ha.command h request).imp fun r t t' ht => ?_)
  cases r with
  | ok response => exact EndAlike.ofResult ht
  | error e => exact ht

theorem close :
    EndAlike close s Session.close s' fun _ => Paired like agree first first' := by
  have hphase : s.phase = s'.phase := ha.reads h.standing (·.phase)
  have hid : s.sessionId = s'.sessionId := ha.reads h.standing (·.sessionId)
  unfold Session.close
  refine EndAlike.get_bind ?_
  rw [← hphase, hid]
  by_cases hclosed : s.phase = .closed
  · rw [if_pos hclosed]
    exact EndAlike.pure h
  · rw [if_neg hclosed]
    refine EndAlike.bind (EndAlike.expect hphase (fun _ => ?_) fun _ => h)
    refine EndAlike.bind (EndAlike.attempt ((ha.closeSession h _).imp fun r t t' ht => ?_))
    refine EndAlike.bind (EndAlike.revise (EndAlike.ofResult ?_))
    exact ht.restanding (ha.revised (·.ended) (fun _ => rfl) ht.standing)

theorem discard : Paired like agree first first' s.discard s'.discard := by
  have hphase : s.phase = s'.phase := ha.reads h.standing (·.phase)
  by_cases hactive : s.phase = .active
  · rw [discard_of_active hactive, discard_of_active (hphase ▸ hactive)]
    exact (ha.abort h).ending.2
  · rw [discard_of_inactive hactive, discard_of_inactive (hphase ▸ hactive)]
    exact h

/-- Done with both sessions, a call gives the same. -/
theorem call (c : Call) :
    EndAlike c.yielding s c.yielding s' fun _ => Paired like agree first first' := by
  cases c with
  | connect => exact EndAlike.map (ha.connect h)
  | ping => exact EndAlike.map (ha.ping h)
  | establish =>
    have hgone {x x' : Standing} (hx : like x x') :
        like x x' ∧ like x.ended x'.ended ∧ like x.rebound x'.rebound :=
      ⟨hx, ha.revised (·.ended) (fun _ => rfl) hx, ha.revised (·.rebound) (fun _ => rfl) hx⟩
    have hdecide {x x' : Standing} (c : Capabilities) (authType : AuthType) :=
      @ha.revised x x' (·.withCapabilities c authType) fun _ => rfl
    exact EndAlike.map ((ha.establish ha.toLikeness h hdecide hgone hgone).imp fun _ _ _ ht => ht.2)
  | command request => exact EndAlike.map (ha.command h request)
  | raw netFn unit target channel number data =>
    exact EndAlike.map (ha.raw h netFn unit target channel number data)
  | close => exact EndAlike.map (ha.close h)
  | abort => exact EndAlike.map (ha.abort h)
  | discard => exact ⟨rfl, ha.discard h⟩
  | elapse time => exact ⟨rfl, h.mapNetwork (fun _ => rfl) fun _ => rfl⟩
  | cancel => exact ⟨rfl, h.mapNetwork (fun _ => rfl) fun _ => rfl⟩
  | enqueue events => exact ⟨rfl, h.mapNetwork (fun _ => rfl) fun _ => rfl⟩

theorem management (m : Management) :
    EndAlike m.yielding s m.yielding s' fun _ => Paired like agree first first' := by
  cases m with
  | authCapabilities => exact EndAlike.map (ha.authCapabilities h)
  | sessionChallenge authType => exact EndAlike.map (ha.sessionChallenge h authType)
  | activateSession challenge initial =>
    have hlevel : s.config.privilege = s'.config.privilege :=
      ha.reads h.standing (·.config.privilege)
    refine EndAlike.map ?_
    unfold Session.activateSession
    refine EndAlike.get_bind ?_
    rw [ha.authType_eq h.standing, hlevel]
    exact ha.read h (ha.asks h.standing ..) _
  | setPrivilege level => exact EndAlike.map (ha.setPrivilege h level)
  | closeSession sessionId => exact EndAlike.map (ha.closeSession h sessionId)

theorem deed (d : Deed) :
    EndAlike d.op s d.op s' fun _ => Paired like agree first first' := by
  cases d with
  | call c => exact ha.call h c
  | require request => exact EndAlike.map (ha.require h request)
  | manage m => exact ha.management h m
  | retoken token cancelled =>
    have hstanding := ha.revised (fun x => { x with token := token }) (fun _ => rfl) h.standing
    exact ⟨rfl, (h.restanding hstanding).mapNetwork (fun _ => rfl) fun _ => rfl⟩

omit h in
/-- Whatever is done with both sessions gives the same, and they stay alike. -/
theorem perform (deeds : List Deed) {s s' : Session} (h : Paired like agree first first' s s') :
    (s.perform deeds).1 = (s'.perform deeds).1 ∧
      Paired like agree first first' (s.perform deeds).2 (s'.perform deeds).2 := by
  -- The deeds that are left start from two sessions that the first one has kept alike.
  induction deeds generalizing s s' with
  | nil => exact ⟨rfl, h⟩
  | cons d rest ih =>
    obtain ⟨houtcome, hafter⟩ := (ha.deed h d).ending
    obtain ⟨hresults, hpaired⟩ := ih hafter
    exact ⟨congrArg₂ List.cons houtcome.symm hresults, hpaired⟩

end Accord
end Session
end Baseboard
