import Baseboard.Proofs.Session.Footing
import Baseboard.Proofs.Session.Rest

/-! What a session can become in the hands of its owner. Besides the calls, in any order, the
owner can make the requests that manage a session, in every phase, and hand it another token. -/
namespace Baseboard

/-- A request that manages a session, when the owner of the session makes it. -/
inductive Management where
  | authCapabilities
  | sessionChallenge (authType : AuthType)
  | activateSession (challenge : Field) (initial : UInt32)
  | setPrivilege (level : Privilege)
  | closeSession (sessionId : UInt32)
  deriving DecidableEq, Repr

/-- The operation of a request, without what it gives. -/
def Management.op : Management → Session.Op Unit
  | authCapabilities => (fun _ => ()) <$> Session.authCapabilities
  | sessionChallenge authType => (fun _ => ()) <$> Session.sessionChallenge authType
  | activateSession challenge initial => (fun _ => ()) <$> Session.activateSession challenge initial
  | setPrivilege level => (fun _ => ()) <$> Session.setPrivilege level
  | closeSession sessionId => Session.closeSession sessionId

theorem Standing.AtRest.linked {s : Standing} (h : s.AtRest) : s.Linked := by
  intro hneeds
  refine h.connected ?_
  cases hphase : s.phase with
  | bound => exact .inl rfl
  | pongReceived => exact .inr (.inl rfl)
  | active => exact .inr (.inr rfl)
  | pingSent => exact absurd hphase h.ne_pingSent
  | challengeIssued => exact absurd hphase h.ne_challengeIssued
  | unconnected | socketOpen | closed =>
    rw [hphase] at hneeds
    cases hneeds

namespace Session

variable {config : Config} {s t u : Session}

/-- A request of the owner is one exchange with the controller, or two. -/
theorem ends_management (m : Management) {post : Session → Prop}
    (hfirst : ∀ request : Request, request.payload.length ≤ 22 →
      Ends (manage request) s fun _ t => post t)
    (hagain : ∀ request t, post t → Ends (manage request) t fun _ u => post u) :
    Ends m.op s fun _ t => post t := by
  cases m with
  | authCapabilities =>
    have hasked := hfirst (.authCapabilities 0x8E s.config.privilege) (Nat.le_add_left 2 20)
    refine (ends_map ..).mpr (ends_authCapabilities (hasked.imp fun r t ht => ?_))
    exact ⟨fun _ _ => ht, fun _ _ _ => ht, fun _ _ _ => hagain _ t ht⟩
  | sessionChallenge authType =>
    refine (ends_map ..).mpr ((ends_sessionChallenge ..).mpr (hfirst _ ?_))
    rw [Request.length_payload_sessionChallenge]
    decide
  | activateSession challenge initial =>
    refine (ends_map ..).mpr ((ends_activateSession ..).mpr (hfirst _ ?_))
    exact Nat.le_of_eq (Request.length_payload_activateSession ..)
  | setPrivilege level =>
    have hasked := hfirst (.setPrivilege level) (Nat.le_add_left 1 21)
    exact (ends_map ..).mpr ((ends_setPrivilege ..).mpr hasked)
  | closeSession sessionId =>
    refine (ends_closeSession ..).mpr (hfirst _ ?_)
    rw [Request.length_payload_closeSession]
    decide

theorem manage_recounted (request : Request) (s : Session) :
    Ends (manage request) s fun _ t => s.Recounted t.toStanding :=
  (ends_manage ..).mpr (exchange_recounted ..)

/-- The requests of the owner move the counters at most. -/
theorem management_recounted (m : Management) (s : Session) :
    Ends m.op s fun _ t => s.Recounted t.toStanding :=
  ends_management m (fun request _ => manage_recounted request s)
    fun request t ht => (manage_recounted request t).imp fun _ _ hu => ht.trans hu

/-- One thing that the owner of a session does with it, whatever comes of it. -/
inductive Step (s : Session) : Session → Prop where
  | called (call : Call) : Step s (after call.op s)
  | managed (m : Management) : Step s (after m.op s)
  | retokened (token : CancelToken) (cancelled : Bool) : Step s (s.withToken token cancelled)

/-- What a session can become in the hands of its owner. -/
abbrev Reaches : Session → Session → Prop := Relation.ReflTransGen Step

/-- A session with given settings as its owner can have it. -/
def Reachable (config : Config) (s : Session) : Prop := ∃ first, Begun config first ∧ first.Reaches s

theorem reaches_run (s : Session) (calls : List Call) : s.Reaches (s.run calls) := by
  -- The last call is split off, since it starts where the calls before it left the session.
  induction calls using List.reverseRecOn with
  | nil => exact .refl
  | append_singleton calls call ih =>
    rw [run_concat]
    exact ih.tail (.called call)

theorem Begun.reachable_run (h : Begun config s) (calls : List Call) : Reachable config (s.run calls) :=
  ⟨s, h, reaches_run s calls⟩

theorem Reachable.trans (h : Reachable config s) (ht : s.Reaches t) : Reachable config t := by
  obtain ⟨first, hbegun, hs⟩ := h
  exact ⟨first, hbegun, hs.trans ht⟩

namespace Preserved

variable {p : Standing → Prop}

theorem manage (h : Preserved p) (request : Request) (hs : p s.toStanding) :
    Ends (manage request) s fun _ t => p t.toStanding := by
  refine (ends_manage ..).mpr ((exchange_standing ..).imp fun outcome t ht => ?_)
  cases outcome with
  | ok response =>
    obtain ⟨n, hn⟩ := ht
    rw [hn]
    exact h.answered hs n _
  | error e =>
    dsimp only at ht
    rw [ht]
    exact hs

theorem step (h : Preserved p) (hstep : Step s t) (hlinked : s.Linked) (hs : p s.toStanding) :
    p t.toStanding := by
  cases hstep with
  | called call => exact h.path (op_path call hlinked).after hs
  | managed m =>
    exact (ends_management m (fun request _ => h.manage request hs)
      fun request t ht => h.manage request ht).after
  | retokened token cancelled => exact h.retokened hs token

end Preserved

theorem Step.sound (h : Step s t) (hs : s.Sound config) (hrest : s.AtRest) : t.Sound config :=
  (sound_preserved config).step h hrest.linked hs

theorem Step.atRest (h : Step s t) (hs : s.Sound config) (hrest : s.AtRest) : t.AtRest := by
  cases h with
  | called call => exact ((op_rests call hs hrest).imp fun _ _ ht => ht.1).after
  | managed m => exact hrest.recounted (management_recounted m s).after
  | retokened token cancelled =>
    exact ⟨hrest.ne_pingSent, hrest.ne_challengeIssued, hrest.sessionId_eq_zero, hrest.connected,
      hrest.capabilities⟩

theorem Reaches.rests (h : s.Reaches t) (hs : s.Sound config) (hrest : s.AtRest) :
    t.Sound config ∧ t.AtRest := by
  induction h with
  | refl => exact ⟨hs, hrest⟩
  | tail _ hstep ih => exact ⟨hstep.sound ih.1 ih.2, hstep.atRest ih.1 ih.2⟩

/-- However its owner uses it, a session is at rest between two steps, and its counters are in
range. -/
theorem Reachable.rests (h : Reachable config s) : s.Sound config ∧ s.AtRest := by
  obtain ⟨first, hbegun, hreaches⟩ := h
  exact hreaches.rests hbegun.fresh.sound (hbegun.fresh.atRest hbegun.sessionId_eq)

theorem Preserved.reachable {p : Standing → Prop} (h : Preserved p) (hs : Reachable config s)
    (hbegun : ∀ {first : Session}, Begun config first → p first.toStanding) : p s.toStanding := by
  obtain ⟨first, hfirst, hreaches⟩ := hs
  induction hreaches with
  | refl => exact hbegun hfirst
  | tail hbefore hstep ih =>
    have hrest := (show Reachable config _ from ⟨first, hfirst, hbefore⟩).rests.2
    exact h.step hstep hrest.linked ih

end Session
end Baseboard
