import Baseboard.Proofs.Session.Operations

/-! What every request to the controller keeps is kept throughout an opening, and what is known
of the errors of requests is known of the errors of the operations that are made of them. -/
namespace Baseboard

theorem Capabilities.negotiate_eq_error {c : Capabilities} {pinned : Option AuthType} {e : Error}
    (h : c.negotiate pinned = .error e) :
    e = .versionTwoRequired ∨ e = .noCommonAuthType c.authTypes := by
  unfold negotiate at h
  split at h
  · exact .inl (Except.error.inj h).symm
  · dsimp only at h
    split at h
    · cases h
    · exact .inr (Except.error.inj h).symm

namespace Session

variable {α β : Type} {s : Session} {p : Session → Prop} {q : Error → Session → Prop}

/-- An operation has left a session with `p`, and has failed with no error but those in `q`. -/
def Fares (p : Session → Prop) (q : Error → Session → Prop) (r : Except Error α) (t : Session) :
    Prop :=
  p t ∧ ∀ e, r = .error e → q e t

theorem Fares.ok {a : α} {t : Session} (ht : p t) : Fares p q (.ok a) t := ⟨ht, nofun⟩

theorem Fares.error {e : Error} {t : Session} (ht : p t) (he : q e t) :
    Fares p q (.error e : Except Error α) t :=
  ⟨ht, fun _ hfound => Except.error.inj hfound ▸ he⟩

theorem Fares.bind {op : Op α} {f : α → Op β} (h : Ends op s (Fares p q))
    (hf : ∀ a t, p t → Ends (f a) t (Fares p q)) : Ends (op >>= f) s (Fares p q) := by
  rw [ends_bind]
  refine h.imp fun r t ht => ?_
  cases r with
  | ok a => exact hf a t ht.1
  | error e => exact .error ht.1 (ht.2 e rfl)

theorem Fares.map {op : Op α} (f : α → β) (h : Ends op s (Fares p q)) :
    Ends (f <$> op) s (Fares p q) := by
  refine (ends_map ..).mpr (h.imp fun r t ht => ⟨ht.1, fun e he => ?_⟩)
  cases r with
  | ok a => cases he
  | error found => exact ht.2 e (congrArg Except.error (Except.error.inj he))

/-- What is made of an answer can add errors of its own. -/
theorem Fares.read {r : Except Error α} {t : Session} {f : α → Except Error β}
    (h : Fares p q r t) (hf : ∀ a e, f a = .error e → q e t) : Fares p q (r.bind f) t := by
  refine ⟨h.1, fun e he => ?_⟩
  cases r with
  | ok a => exact hf a e he
  | error found => exact h.2 e (congrArg Except.error (Except.error.inj he))

theorem Fares.revise {f : Standing → Standing} (h : p { s with toStanding := f s.toStanding }) :
    Ends (revise f) s (Fares p q) := Fares.ok h

/-- Requests to the controller keep `p` and fail only with errors in `q`, and so does whoever
reads the answers. -/
structure Footing (p : Session → Prop) (q : Error → Session → Prop) : Prop where
  manage : ∀ request s, p s → Ends (manage request) s (Fares p q)
  faults : ∀ e t, e.Faults → q e t

/-- What is kept does not hang on how a session stands, as long as its link is there. -/
def Restandable (p : Session → Prop) : Prop :=
  ∀ (s : Session) (x : Standing), x.connected = s.connected → p s → p { s with toStanding := x }

namespace Footing

theorem authCapabilities (h : Footing p q) (hs : p s) : Ends authCapabilities s (Fares p q) := by
  refine ends_authCapabilities ((h.manage _ _ hs).imp fun r t ht => ⟨?_, ?_, ?_⟩)
  · rintro e rfl
    exact .error ht.1 (ht.2 e rfl)
  · rintro first rfl -
    exact ht.read fun _ _ hread => h.faults _ _ (capabilitiesOf_faults hread)
  · rintro first rfl -
    exact (h.manage _ _ ht.1).imp fun _ _ hu =>
      hu.read fun _ _ hread => h.faults _ _ (capabilitiesOf_faults hread)

theorem sessionChallenge (h : Footing p q) (authType : AuthType) (hs : p s) :
    Ends (sessionChallenge authType) s (Fares p q) :=
  (ends_sessionChallenge ..).mpr <| (h.manage _ _ hs).imp fun _ _ ht => ht.read fun _ _ hread =>
    h.faults _ _ (Response.acceptedFor_bind_faults (fun _ => Challenge.parse_faults) hread)

theorem activateSession (h : Footing p q) (challenge : Field) (initial : UInt32) (hs : p s) :
    Ends (activateSession challenge initial) s (Fares p q) :=
  (ends_activateSession ..).mpr <| (h.manage _ _ hs).imp fun _ _ ht => ht.read fun _ _ hread =>
    h.faults _ _ (Response.acceptedFor_bind_faults (fun _ => Activation.parse_faults) hread)

theorem setPrivilege (h : Footing p q) (level : Privilege) (hs : p s) :
    Ends (setPrivilege level) s (Fares p q) :=
  (ends_setPrivilege ..).mpr <| (h.manage _ _ hs).imp fun _ _ ht => ht.read fun _ _ hread =>
    h.faults _ _ (levelOf_faults hread)

theorem closeSession (h : Footing p q) (sessionId : UInt32) (hs : p s) :
    Ends (closeSession sessionId) s (Fares p q) :=
  (ends_closeSession ..).mpr <| (h.manage _ _ hs).imp fun _ _ ht => ht.read fun _ _ hread =>
    h.faults _ _ (Response.acceptedFor_bind_faults (f := fun _ => .ok ()) nofun hread)

theorem raisePrivilege (h : Footing p q) (hp : Restandable p) (hs : p s) :
    Ends raisePrivilege s (Fares p q) := by
  refine ends_raisePrivilege ((h.setPrivilege _ hs).imp fun r t ht => ⟨?_, ?_, ?_⟩)
  · exact fun _ _ => ⟨hp t { t.toStanding with privilege := _ } rfl ht.1, nofun⟩
  · exact fun hr => ⟨ht.1, fun e he => ht.2 e (hr.trans (congrArg _ (Except.error.inj he)))⟩
  · exact fun e _ _ => ⟨hp t { t.toStanding with privilegeError := some e } rfl ht.1, nofun⟩

theorem handshake (h : Footing p q) (hp : Restandable p)
    (hq : ∀ (c : Capabilities) pinned e t, c.negotiate pinned = .error e → q e t) (hs : p s) :
    Ends handshake s (Fares p q) := by
  unfold Session.handshake
  refine Fares.bind (h.authCapabilities hs) fun capabilities t ht => ?_
  rw [ends_bind, ends_get]
  dsimp only
  rw [ends_bind, ends_ofResult]
  cases hauth : capabilities.negotiate t.config.authType with
  | error e =>
    exact Fares.error ht (hq _ _ _ _ hauth)
  | ok authType =>
  have hrevise (f : Standing → Standing) (s : Session) (hf : (f s.toStanding).connected = s.connected)
      (hs : p s) : Ends (Session.revise f) s (Fares p q) := Fares.revise (hp s _ hf hs)
  refine Fares.bind (hrevise _ t rfl ht) fun _ u hu => ?_
  refine Fares.bind (h.sessionChallenge authType hu) fun challenge v hv => ?_
  refine Fares.bind (hrevise _ v rfl hv) fun _ w hw => ?_
  rw [ends_bind, ends_get]
  refine Fares.bind (h.activateSession _ _ hw) fun activation x hx => ?_
  refine Fares.bind (hrevise _ x rfl hx) fun _ y hy => ?_
  exact h.raisePrivilege hp hy

end Footing

end Session
end Baseboard
