import Baseboard.Session.Commands

/-! How an operation can end. What holds of every ending of an operation is worked out
step by step, in the order in which the steps are taken. -/
namespace Baseboard

variable {ε σ α β : Type}

/-- However `op` ends when it starts from `s`, its outcome and the state that it leaves
satisfy `post`. -/
def Ends (op : EStateM ε σ α) (s : σ) (post : Except ε α → σ → Prop) : Prop :=
  match op s with
  | .ok a t => post (.ok a) t
  | .error e t => post (.error e) t

/-- The state that an operation leaves. -/
def after (op : EStateM ε σ α) (s : σ) : σ :=
  match op s with
  | .ok _ t => t
  | .error _ t => t

theorem after_of_ok {op : EStateM ε σ α} {s t : σ} {a : α} (h : op s = .ok a t) :
    after op s = t := by
  rw [after, h]

theorem after_of_error {op : EStateM ε σ α} {s t : σ} {e : ε} (h : op s = .error e t) :
    after op s = t := by
  rw [after, h]

theorem after_congr {op first : EStateM ε σ α} {s t : σ} (h : op s = first t) :
    after op s = after first t := by
  rw [after, h, after]

/-- What two operations, one after the other, leave. -/
theorem after_bind_of_ok {op : EStateM ε σ α} {f : α → EStateM ε σ β} {s t : σ} {a : α}
    (h : op s = .ok a t) : after (op >>= f) s = after (f a) t := by
  have hbind : (op >>= f) s = EStateM.bind op f s := rfl
  rw [after, hbind, EStateM.bind, h, after]

theorem after_bind_of_error {op : EStateM ε σ α} {f : α → EStateM ε σ β} {s t : σ} {e : ε}
    (h : op s = .error e t) : after (op >>= f) s = t := by
  have hbind : (op >>= f) s = EStateM.bind op f s := rfl
  rw [after, hbind, EStateM.bind, h]

/-- Whether an operation gives something that passes a test. -/
def gives (op : EStateM ε σ α) (s : σ) (test : α → σ → Bool) : Bool :=
  match op s with
  | .ok a t => test a t
  | .error _ _ => false

theorem exists_of_gives {op : EStateM ε σ α} {s : σ} {test : α → σ → Bool}
    (h : gives op s test = true) : ∃ a t, op s = .ok a t ∧ test a t = true := by
  unfold gives at h
  split at h
  · rename_i a t hop
    exact ⟨a, t, hop, h⟩
  · cases h

/-- Whether an operation fails with a given error. -/
def failsWith [DecidableEq ε] (op : EStateM ε σ α) (s : σ) (e : ε) : Bool :=
  match op s with
  | .ok _ _ => false
  | .error found _ => found = e

theorem eq_error_of_failsWith [DecidableEq ε] {op : EStateM ε σ α} {s : σ} {e : ε}
    (h : failsWith op s e = true) : op s = .error e (after op s) := by
  unfold failsWith at h
  unfold after
  split at h
  · cases h
  · rename_i found t hop
    rw [hop, of_decide_eq_true h]

namespace Ends

theorem of_ok {op : EStateM ε σ α} {s t : σ} {a : α} {post : Except ε α → σ → Prop}
    (h : Ends op s post) (hr : op s = .ok a t) : post (.ok a) t := by
  simpa only [Ends, hr] using h

theorem of_error {op : EStateM ε σ α} {s t : σ} {e : ε} {post : Except ε α → σ → Prop}
    (h : Ends op s post) (hr : op s = .error e t) : post (.error e) t := by
  simpa only [Ends, hr] using h

/-- An operation ends in one way or the other. -/
theorem intro {op : EStateM ε σ α} {s : σ} {post : Except ε α → σ → Prop}
    (hok : ∀ a t, op s = .ok a t → post (.ok a) t)
    (herror : ∀ e t, op s = .error e t → post (.error e) t) : Ends op s post := by
  unfold Ends
  split
  · rename_i a t hr
    exact hok a t hr
  · rename_i e t hr
    exact herror e t hr

theorem ok {op : EStateM ε σ α} {s t : σ} {a : α} {post : Except ε α → σ → Prop}
    (h : op s = .ok a t) (hpost : post (.ok a) t) : Ends op s post := by
  simpa only [Ends, h] using hpost

theorem error {op : EStateM ε σ α} {s t : σ} {e : ε} {post : Except ε α → σ → Prop}
    (h : op s = .error e t) (hpost : post (.error e) t) : Ends op s post := by
  simpa only [Ends, h] using hpost

/-- How an operation ends depends only on what comes of it. -/
theorem congr {op first : EStateM ε σ α} {s t : σ} {post : Except ε α → σ → Prop}
    (h : op s = first t) (hfirst : Ends first t post) : Ends op s post := by
  rwa [Ends, h]

/-- Where an operation succeeds is where it is known to lead. -/
theorem self (op : EStateM ε σ α) (s : σ) :
    Ends op s fun r t => ∀ a, r = .ok a → op s = .ok a t := by
  refine .intro (fun a t hop found hfound => ?_) fun _ _ _ _ hfound => nomatch hfound
  rw [hop, Except.ok.inj hfound]

theorem imp {op : EStateM ε σ α} {s : σ} {post weaker : Except ε α → σ → Prop}
    (h : Ends op s post) (hw : ∀ r t, post r t → weaker r t) : Ends op s weaker := by
  unfold Ends at h ⊢
  split at h <;> exact hw _ _ h

theorem and {op : EStateM ε σ α} {s : σ} {post post' : Except ε α → σ → Prop}
    (h : Ends op s post) (h' : Ends op s post') : Ends op s fun r t => post r t ∧ post' r t := by
  unfold Ends at h h' ⊢
  split at h
  · rename_i hr
    rw [hr] at h'
    exact ⟨h, h'⟩
  · rename_i hr
    rw [hr] at h'
    exact ⟨h, h'⟩

/-- What holds of every state that can be left holds of the one that is. -/
theorem after {op : EStateM ε σ α} {s : σ} {p : σ → Prop} (h : Ends op s fun _ t => p t) :
    p (after op s) := by
  unfold Ends at h
  unfold Baseboard.after
  split at h <;> exact h

end Ends

@[simp] theorem ends_pure (a : α) (s : σ) (post : Except ε α → σ → Prop) :
    Ends (pure a) s post ↔ post (.ok a) s := Iff.rfl

@[simp] theorem ends_get (s : σ) (post : Except ε σ → σ → Prop) :
    Ends get s post ↔ post (.ok s) s := Iff.rfl

/-- The rest of an operation starts where its first step succeeded. -/
@[simp] theorem ends_bind (op : EStateM ε σ α) (f : α → EStateM ε σ β) (s : σ)
    (post : Except ε β → σ → Prop) :
    Ends (op >>= f) s post ↔ Ends op s fun r t =>
      match r with
      | .ok a => Ends (f a) t post
      | .error e => post (.error e) t := by
  unfold Ends
  change (match EStateM.bind op f s with
    | .ok a t => post (.ok a) t
    | .error e t => post (.error e) t) ↔ _
  unfold EStateM.bind
  cases op s <;> exact Iff.rfl

@[simp] theorem ends_map (op : EStateM ε σ α) (f : α → β) (s : σ)
    (post : Except ε β → σ → Prop) :
    Ends (f <$> op) s post ↔ Ends op s fun r t => post (r.map f) t := by
  unfold Ends
  change (match EStateM.map f op s with
    | .ok a t => post (.ok a) t
    | .error e t => post (.error e) t) ↔ _
  unfold EStateM.map
  cases op s <;> exact Iff.rfl

namespace Session

@[simp] theorem ends_attempt (op : Op α) (s : Session)
    (post : Except Error (Except Error α) → Session → Prop) :
    Ends (attempt op) s post ↔ Ends op s fun r t => post (.ok r) t := by
  unfold Ends attempt
  cases op s <;> exact Iff.rfl

@[simp] theorem ends_ofResult (r : Except Error α) (s : Session)
    (post : Except Error α → Session → Prop) : Ends (ofResult r) s post ↔ post r s := by
  cases r <;> exact Iff.rfl

/-- What is made of the outcome of an operation leaves the session as the operation did. -/
theorem ends_bind_ofResult (op : Op α) (f : α → Except Error β) (s : Session)
    (post : Except Error β → Session → Prop) :
    Ends (op >>= fun a => ofResult (f a)) s post ↔ Ends op s fun r t => post (r.bind f) t := by
  rw [ends_bind]
  constructor
  · refine fun h => h.imp fun r t ht => ?_
    cases r with
    | ok a => exact (ends_ofResult ..).mp ht
    | error e => exact ht
  · refine fun h => h.imp fun r t ht => ?_
    cases r with
    | ok a => exact (ends_ofResult ..).mpr ht
    | error e => exact ht

@[simp] theorem ends_revise (f : Standing → Standing) (s : Session)
    (post : Except Error Unit → Session → Prop) :
    Ends (revise f) s post ↔ post (.ok ()) { s with toStanding := f s.toStanding } := Iff.rfl

theorem ends_expect (phase : Phase) (s : Session) (post : Except Error Unit → Session → Prop)
    (hok : s.phase = phase → post (.ok ()) s)
    (herror : s.phase ≠ phase → post (.error (.wrongPhase phase s.phase)) s) :
    Ends (expect phase) s post := by
  unfold Ends expect
  by_cases h : s.phase = phase
  · simpa only [h, if_true] using hok h
  · simpa only [h, if_false] using herror h

/-- In a phase that is not the expected one an operation does nothing. -/
theorem ends_expect_bind_of_ne {phase : Phase} {s : Session} {f : Unit → Op α}
    {post : Except Error α → Session → Prop} (h : s.phase ≠ phase) :
    Ends (expect phase >>= f) s post ↔ post (.error (.wrongPhase phase s.phase)) s := by
  rw [ends_bind, Ends, expect, if_neg h]

theorem ends_expectLink (s : Session) (post : Except Error Unit → Session → Prop)
    (hok : s.connected = true → post (.ok ()) s)
    (herror : s.connected = false → post (.error (.wrongPhase .bound s.phase)) s) :
    Ends expectLink s post := by
  unfold Ends expectLink
  cases h : s.connected with
  | true => simpa only [if_true] using hok h
  | false => simpa only [Bool.false_eq_true, if_false] using herror h

/-- A use of the link goes on record however it ends. -/
theorem ends_usingLink (purpose : Purpose) (run : EStateM Error Link α) (s : Session)
    (post : Except Error α → Session → Prop) :
    Ends (usingLink purpose run) s post ↔ Ends run s.link fun r link =>
      match r with
      | .ok a => post (.ok a) (s.used purpose none link)
      | .error e => post (.error e) (s.used purpose (some e) link) := by
  unfold Ends usingLink
  cases run s.link <;> exact Iff.rfl

end Session
end Baseboard
