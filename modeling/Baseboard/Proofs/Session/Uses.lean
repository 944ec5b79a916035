import Baseboard.Proofs.Session.Counter
import Baseboard.Proofs.Session.Moves

/-! The uses of the link on record. They account for everything that was done over the
network, each was wanted by some call, and each handed over no frames but those that the
session makes for its purpose. -/
namespace Baseboard

/-- The frames that were handed over for sending in a use of the link. -/
def Use.frames (u : Use) : List Bytes := u.actions.filterMap Action.frame?

/-- A frame that a session makes for a purpose when it stands as `s`. -/
def Standing.Makes (s : Standing) : Purpose → Bytes → Prop
  | .presence tag, frame => frame = Presence.ping tag
  | .request request route, frame =>
    ∃ packet, s.packet request route = .ok packet ∧ frame = packet.encode

/-- What every standing of a session with given settings satisfies. -/
structure Standing.Sound (config : Config) (s : Standing) : Prop where
  config_eq : s.config = config
  password_eq : s.password = Field.fit (Config.textBytes config.password)
  sequence_lt : s.requestSequence.toNat < 64
  outbound_ne_zero : s.outboundSequence ≠ 0

/-- A use of the link that goes back to one of `calls`. -/
structure Use.Accounted (config : Config) (calls : List Call) (u : Use) : Prop where
  sound : u.standing.Sound config
  wanted : ∃ call ∈ calls, Wanted u.standing call u.purpose
  frames : ∀ frame ∈ u.frames, u.standing.Makes u.purpose frame

namespace Session

/-- Everything that was done over the network since `before` was done in a use of the
link that is on record and goes back to one of `calls`. -/
structure Accounted (config : Config) (calls : List Call) (before : List Action) (s : Session) :
    Prop where
  sound : s.Sound config
  trace_eq : s.link.network.trace = before ++ s.uses.flatMap Use.actions
  uses : ∀ u ∈ s.uses, u.Accounted config calls

variable {config : Config} {calls : List Call} {before : List Action} {s t : Session}

/-- What is known of a session that has just been made. -/
structure Fresh (config : Config) (s : Session) : Prop where
  config_eq : s.config = config
  password_eq : s.password = Field.fit (Config.textBytes config.password)
  requestSequence_eq : s.requestSequence = 0
  outbound_ne_zero : s.outboundSequence ≠ 0
  uses_eq : s.uses = []
  phase_eq : s.phase = .unconnected ∨ s.phase = .bound
  linked : s.Linked

private theorem start_fresh {seeds : Seeds} {link : Link} {connected : Bool} {phase : Phase}
    (hphase : phase = .unconnected ∨ phase = .bound ∧ connected = true)
    (h : start config seeds link connected phase = .ok s) : Fresh config s := by
  unfold start at h
  cases hv : config.validate with
  | error e =>
    rw [hv] at h
    cases h
  | ok =>
    rw [hv] at h
    cases h
    refine ⟨rfl, rfl, rfl, nonzero_ne_zero _, rfl, hphase.imp_right And.left, fun hneeds => ?_⟩
    rcases hphase with rfl | ⟨-, rfl⟩
    · cases hneeds
    · rfl

theorem Begun.fresh (h : Begun config s) : Fresh config s := by
  cases h with
  | unconnected token h =>
    obtain ⟨h1, h2, h3, h4, h5, h6, h7⟩ := start_fresh (.inl rfl) h
    exact ⟨h1, h2, h3, h4, h5, h6, h7⟩
  | overLink token h =>
    obtain ⟨h1, h2, h3, h4, h5, h6, h7⟩ := start_fresh (.inr ⟨rfl, rfl⟩) h
    exact ⟨h1, h2, h3, h4, h5, h6, h7⟩

theorem Fresh.sound (h : Fresh config s) : s.Sound config :=
  ⟨h.config_eq, h.password_eq, by rw [h.requestSequence_eq]; decide, h.outbound_ne_zero⟩

end Session

theorem Turn.sound {config : Config} {s t : Standing} (h : Turn s t) (hs : s.Sound config) :
    t.Sound config := by
  obtain ⟨hc, hp, hq, ho⟩ := hs
  cases h with
  | activated a => exact ⟨hc, hp, hq, nonzero_ne_zero _⟩
  | opened | bound | seeking | sought | supports | challenged | unprivileged | rebound | ended =>
    exact ⟨hc, hp, hq, ho⟩

theorem Standing.Sound.answered {config : Config} {s : Standing} (hs : s.Sound config)
    (n : UInt32) (advances : Bool) : (s.answered n advances).Sound config := by
  refine ⟨?_, ?_, ?_, ?_⟩
  · rw [config_answered]
    exact hs.config_eq
  · rw [password_answered]
    exact hs.password_eq
  · rw [requestSequence_answered]
    split
    · rw [toNat_sixBits]
      exact Nat.mod_lt _ (by decide)
    · exact hs.sequence_lt
  · rw [outboundSequence_answered]
    split
    · exact nextSequence_ne_zero _
    · exact hs.outbound_ne_zero

namespace Session

theorem sound_preserved (config : Config) : Preserved (Standing.Sound config) where
  turn hturn hs := hturn.sound hs
  answered hs n advances := hs.answered n advances
  privileged hs _ _ := ⟨hs.config_eq, hs.password_eq, hs.sequence_lt, hs.outbound_ne_zero⟩
  retokened hs _ := ⟨hs.config_eq, hs.password_eq, hs.sequence_lt, hs.outbound_ne_zero⟩

/-- One more use of the link. -/
theorem Accounted.used {accept : Link.Acceptor α} {frame : Bytes} {outcome : Except Error α}
    {link : Link} {purpose : Purpose} {call : Call} (hs : Accounted config calls before s)
    (hcall : call ∈ calls) (hwanted : Wanted s.toStanding call purpose)
    (hmakes : s.Makes purpose frame) (h : Link.Recorded accept frame s.link outcome link)
    (failure : Option Error) : Accounted config calls before (s.used purpose failure link) := by
  obtain ⟨actions, hdid, hframes, -⟩ := h
  refine ⟨hs.sound, ?_, fun u hu => ?_⟩
  · unfold Session.used
    rw [List.flatMap_append, List.flatMap_singleton, hdid.drop_eq, ← List.append_assoc,
      ← hs.trace_eq]
    exact hdid
  · rcases List.mem_append.mp hu with hu | hu
    · exact hs.uses u hu
    rw [List.mem_singleton.mp hu]
    refine ⟨hs.sound, ⟨call, hcall, hwanted⟩, fun handed hh => ?_⟩
    simp only [Use.frames, hdid.drop_eq, List.mem_filterMap] at hh
    obtain ⟨action, haction, hframe⟩ := hh
    rw [hframes action haction handed hframe]
    exact hmakes

theorem Accounted.move {call : Call} (hs : Accounted config calls before s) (hcall : call ∈ calls)
    (h : Move call s t) : Accounted config calls before t := by
  have hsound := (sound_preserved config).move h hs.sound
  cases h with
  | passed htrace => exact ⟨hsound, (htrace _).trans hs.trace_eq, hs.uses⟩
  | turned | privileged => exact ⟨hsound, hs.trace_eq, hs.uses⟩
  | looked failure hwanted h => exact hs.used hcall hwanted rfl h failure
  | answered hwanted h =>
    obtain ⟨packet, hpacket, hrecorded⟩ := h.recorded
    have hused := hs.used hcall hwanted ⟨packet, hpacket, rfl⟩ hrecorded none
    exact ⟨hsound, hused.trace_eq, hused.uses⟩
  | failed hwanted h =>
    obtain ⟨packet, hpacket, hrecorded⟩ := h.recorded
    exact hs.used hcall hwanted ⟨packet, hpacket, rfl⟩ hrecorded _

/-- The record of a run accounts for everything that was done over the network. -/
theorem run_accounted (h : Begun config s) (calls : List Call) :
    Accounted config calls s.link.network.trace (s.run calls) := by
  have hfresh := h.fresh
  refine run_induction calls hfresh.linked ⟨hfresh.sound, ?_, ?_⟩
    fun call hcall s t hmove hs => hs.move hcall hmove
  · rw [hfresh.uses_eq, List.flatMap_nil, List.append_nil]
  · rw [hfresh.uses_eq]
    exact fun u hu => absurd hu List.not_mem_nil

end Session
end Baseboard
