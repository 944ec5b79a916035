import Baseboard.Proofs.Ending

/-! Two runs side by side. Operations that go through the same steps end with the same outcome,
and what is kept of the two states is worked out step by step, as it is for one run. -/
namespace Baseboard

variable {ε σ α β : Type} {op op' : EStateM ε σ α} {s s' : σ}
  {post weaker : Except ε α → σ → σ → Prop}

/-- What comes of an operation. -/
def outcome (op : EStateM ε σ α) (s : σ) : Except ε α :=
  match op s with
  | .ok a _ => .ok a
  | .error e _ => .error e

/-- What holds of every ending holds of the one that is. -/
theorem Ends.ending {post : Except ε α → σ → Prop} (h : Ends op s post) :
    post (outcome op s) (Baseboard.after op s) := by
  unfold outcome Baseboard.after
  cases hop : op s with
  | ok a t => exact h.of_ok hop
  | error e t => exact h.of_error hop

/-- Two operations end with the same outcome, and the states that they leave satisfy `post`
with it. -/
def EndAlike (op : EStateM ε σ α) (s : σ) (op' : EStateM ε σ α) (s' : σ)
    (post : Except ε α → σ → σ → Prop) : Prop :=
  Ends op s fun r t => Ends op' s' fun r' t' => r' = r ∧ post r t t'

namespace EndAlike

theorem imp (h : EndAlike op s op' s' post) (hw : ∀ r t t', post r t t' → weaker r t t') :
    EndAlike op s op' s' weaker :=
  Ends.imp h fun _ _ h => h.imp fun _ _ h => ⟨h.1, hw _ _ _ h.2⟩

/-- What is known of the first of two operations may be used as well. -/
theorem and_ends {first : Except ε α → σ → Prop} (h : EndAlike op s op' s' post)
    (hfirst : Ends op s first) : EndAlike op s op' s' fun r t t' => first r t ∧ post r t t' :=
  (Ends.and hfirst h).imp fun _ _ ⟨hr, h⟩ => h.imp fun _ _ h => ⟨h.1, hr, h.2⟩

/-- How operations end depends only on what comes of them. -/
theorem congr {first first' : EStateM ε σ α} {t t' : σ} (h : op s = first t)
    (h' : op' s' = first' t') (hfirst : EndAlike first t first' t' post) :
    EndAlike op s op' s' post :=
  Ends.congr h (Ends.imp hfirst fun _ _ => Ends.congr h')

theorem both_ok {a : α} {t t' : σ} (h : op s = .ok a t) (h' : op' s' = .ok a t')
    (hpost : post (.ok a) t t') : EndAlike op s op' s' post :=
  Ends.ok h (Ends.ok h' ⟨rfl, hpost⟩)

theorem both_error {e : ε} {t t' : σ} (h : op s = .error e t) (h' : op' s' = .error e t')
    (hpost : post (.error e) t t') : EndAlike op s op' s' post :=
  Ends.error h (Ends.error h' ⟨rfl, hpost⟩)

/-- The rest of the operations starts where their first steps succeeded. -/
theorem bind {f f' : α → EStateM ε σ β} {post : Except ε β → σ → σ → Prop}
    (h : EndAlike op s op' s' fun r t t' =>
      match r with
      | .ok a => EndAlike (f a) t (f' a) t' post
      | .error e => post (.error e) t t') : EndAlike (op >>= f) s (op' >>= f') s' post := by
  unfold EndAlike at h ⊢
  rw [ends_bind]
  refine h.imp fun r t h => ?_
  cases r with
  | ok a =>
    -- The second run is looked at once it is known where its own first step led.
    cases hop : op' s' with
    | ok a' t' =>
      obtain ⟨heq, h⟩ := h.of_ok hop
      obtain rfl := Except.ok.inj heq
      refine Ends.imp h fun r u h => ?_
      rw [ends_bind, Ends, hop]
      exact h
    | error e t' => cases (h.of_error hop).1
  | error e =>
    dsimp only
    rw [ends_bind]
    refine h.imp fun r' t' h => ?_
    obtain ⟨rfl, h⟩ := h
    exact ⟨rfl, h⟩

/-- Two operations that read their states go on with what they have read. -/
theorem get_bind {f f' : σ → EStateM ε σ β} {post : Except ε β → σ → σ → Prop}
    (h : EndAlike (f s) s (f' s') s' post) : EndAlike (get >>= f) s (get >>= f') s' post := by
  unfold EndAlike at h ⊢
  rw [ends_bind, ends_get]
  refine Ends.imp h fun _ _ h => ?_
  rw [ends_bind, ends_get]
  exact h

theorem pure {a : α} (h : post (.ok a) s s') :
    EndAlike (Pure.pure a) s (Pure.pure a : EStateM ε σ α) s' post := ⟨rfl, h⟩

theorem throw {e : ε} (h : post (.error e) s s') :
    EndAlike (MonadExcept.throw e) s (MonadExcept.throw e : EStateM ε σ α) s' post := ⟨rfl, h⟩

theorem map {f : α → β} {post : Except ε β → σ → σ → Prop}
    (h : EndAlike op s op' s' fun r t t' => post (r.map f) t t') :
    EndAlike (f <$> op) s (f <$> op') s' post := by
  unfold EndAlike at h ⊢
  rw [ends_map]
  refine Ends.imp h fun r t h => ?_
  rw [ends_map]
  exact h.imp fun r' t' h => ⟨congrArg (Except.map f) h.1, h.2⟩

/-- What holds of all the states that two operations can leave holds of those that they do. -/
theorem ending (h : EndAlike op s op' s' post) :
    outcome op' s' = outcome op s ∧ post (outcome op s) (after op s) (after op' s') := by
  unfold EndAlike at h
  exact h.ending.ending

theorem of_ending (houtcome : outcome op' s' = outcome op s)
    (hpost : post (outcome op s) (after op s) (after op' s')) : EndAlike op s op' s' post := by
  unfold outcome at houtcome hpost
  unfold after at hpost
  cases hop : op s with
  | ok a t =>
    cases hop' : op' s' with
    | ok a' t' =>
      rw [hop, hop'] at houtcome hpost
      exact .both_ok hop (Except.ok.inj houtcome ▸ hop') hpost
    | error e' t' =>
      rw [hop, hop'] at houtcome
      cases houtcome
  | error e t =>
    cases hop' : op' s' with
    | ok a' t' =>
      rw [hop, hop'] at houtcome
      cases houtcome
    | error e' t' =>
      rw [hop, hop'] at houtcome hpost
      exact .both_error hop (Except.error.inj houtcome ▸ hop') hpost

/-- Operations that end like the same one end alike. -/
theorem join {first : EStateM ε σ α} {t : σ} {post' : Except ε α → σ → σ → Prop}
    (h : EndAlike first t op s post) (h' : EndAlike first t op' s' post') :
    EndAlike op s op' s' fun r u u' => ∃ v, post r v u ∧ post' r v u' := by
  obtain ⟨houtcome, hpost⟩ := h.ending
  obtain ⟨houtcome', hpost'⟩ := h'.ending
  refine .of_ending (houtcome'.trans houtcome.symm) ?_
  rw [houtcome]
  exact ⟨_, hpost, hpost'⟩
end EndAlike

namespace Session

variable {op op' : Op α} {s s' : Session}

theorem EndAlike.attempt {post : Except Error (Except Error α) → Session → Session → Prop}
    (h : EndAlike op s op' s' fun r t t' => post (.ok r) t t') :
    EndAlike (attempt op) s (attempt op') s' post := by
  unfold EndAlike at h ⊢
  rw [ends_attempt]
  refine Ends.imp h fun r t h => ?_
  rw [ends_attempt]
  exact h.imp fun r' t' h => ⟨congrArg Except.ok h.1, h.2⟩

theorem EndAlike.ofResult {r : Except Error α} {post : Except Error α → Session → Session → Prop}
    (h : post r s s') : EndAlike (ofResult r) s (ofResult r) s' post :=
  (ends_ofResult ..).mpr ((ends_ofResult ..).mpr ⟨rfl, h⟩)

/-- One result, which may not be there. -/
theorem EndAlike.ofResult_bind {r : Except Error α} {f f' : α → Op β}
    {post : Except Error β → Session → Session → Prop} (hok : ∀ a, EndAlike (f a) s (f' a) s' post)
    (herror : ∀ e, post (.error e) s s') :
    EndAlike (Session.ofResult r >>= f) s (Session.ofResult r >>= f') s' post := by
  refine EndAlike.bind (EndAlike.ofResult ?_)
  cases r with
  | ok a => exact hok a
  | error e => exact herror e

/-- Two results that are not the same, but both are there. -/
theorem EndAlike.ofOk_bind {x x' : α} {f f' : α → Op β}
    {post : Except Error β → Session → Session → Prop} (h : EndAlike (f x) s (f' x') s' post) :
    EndAlike (Session.ofResult (.ok x) >>= f) s (Session.ofResult (.ok x') >>= f') s' post := h

theorem EndAlike.revise {f f' : Standing → Standing}
    {post : Except Error Unit → Session → Session → Prop}
    (h : post (.ok ()) { s with toStanding := f s.toStanding }
      { s' with toStanding := f' s'.toStanding }) :
    EndAlike (revise f) s (revise f') s' post := ⟨rfl, h⟩

/-- In the same phase both operations go on, or neither does. -/
theorem EndAlike.expect {phase : Phase} {post : Except Error Unit → Session → Session → Prop}
    (hphase : s.phase = s'.phase) (hok : s.phase = phase → post (.ok ()) s s')
    (herror : s.phase ≠ phase → post (.error (.wrongPhase phase s.phase)) s s') :
    EndAlike (expect phase) s (expect phase) s' post := by
  refine ends_expect phase s _ (fun h => ?_) fun h => ?_
  · exact ends_expect phase s' _ (fun _ => ⟨rfl, hok h⟩) fun h' => absurd (hphase ▸ h) h'
  · refine ends_expect phase s' _ (fun h' => absurd (hphase.trans h') h) fun _ => ⟨?_, herror h⟩
    rw [hphase]

theorem EndAlike.expectLink {post : Except Error Unit → Session → Session → Prop}
    (hconnected : s.connected = s'.connected) (hphase : s.phase = s'.phase)
    (hok : post (.ok ()) s s') (herror : post (.error (.wrongPhase .bound s.phase)) s s') :
    EndAlike expectLink s expectLink s' post := by
  refine ends_expectLink s _ (fun h => ?_) fun h => ?_
  · exact ends_expectLink s' _ (fun _ => ⟨rfl, hok⟩) fun h' =>
      absurd ((hconnected.symm.trans h).symm.trans h') (by decide)
  · refine ends_expectLink s' _ (fun h' => absurd ((hconnected.trans h').symm.trans h) (by decide))
      fun _ => ⟨?_, herror⟩
    rw [hphase]

/-- Why nothing came of an operation, if nothing did. -/
def failure? : Except Error α → Option Error
  | .ok _ => none
  | .error e => some e

/-- Two uses of the link go on record with the same failure, or both without one. -/
theorem EndAlike.usingLink {purpose purpose' : Purpose} {run run' : EStateM Error Link α}
    {post : Except Error α → Session → Session → Prop}
    (h : EndAlike run s.link run' s'.link fun r link link' =>
      post r (s.used purpose (failure? r) link) (s'.used purpose' (failure? r) link')) :
    EndAlike (usingLink purpose run) s (usingLink purpose' run') s' post := by
  refine (ends_usingLink ..).mpr (Ends.imp h fun r link h => ?_)
  cases r with
  | ok a =>
    refine (ends_usingLink ..).mpr (h.imp fun r' link' h => ?_)
    obtain ⟨rfl, h⟩ := h
    exact ⟨rfl, h⟩
  | error e =>
    refine (ends_usingLink ..).mpr (h.imp fun r' link' h => ?_)
    obtain ⟨rfl, h⟩ := h
    exact ⟨rfl, h⟩

end Session
end Baseboard
