import Baseboard.Bridge
import Baseboard.Challenge
import Baseboard.Packet
import Baseboard.Presence

/-! What is said of data that cannot be read. Every reader of what is received gives a value or
an error of malformed data, and none goes past the end of the data at hand. -/
namespace Baseboard

/-- The errors of malformed data. -/
inductive Error.Malformed : Error → Prop where
  | badChecksum : Malformed .badChecksum
  | badLength : Malformed .badLength
  | tooShort : Malformed .tooShort
  | unexpectedClass (messageClass : UInt8) : Malformed (.unexpectedClass messageClass)

namespace Reading

/-- A reading that gives a value, or says that the data are malformed. -/
def Safe (x : Except Error α) : Prop := ∀ e, x = .error e → e.Malformed

variable {b : Bytes}

theorem safe_pure (a : α) : Safe (pure a) := nofun

theorem safe_throw {e : Error} (h : e.Malformed) : Safe (throw e : Except Error α) := by
  intro found hfound
  cases hfound
  exact h

/-- What is read first can bound what is read next. -/
theorem Safe.bind {x : Except Error α} {f : α → Except Error β} (hx : Safe x)
    (hf : ∀ a, x = .ok a → Safe (f a)) : Safe (x >>= f) := by
  cases x with
  | error found =>
    intro e he
    cases he
    exact hx found rfl
  | ok a => exact hf a rfl

theorem Safe.map {x : Except Error α} (f : α → β) (hx : Safe x) : Safe (x.map f) := by
  cases x with
  | error found =>
    intro e he
    cases he
    exact hx found rfl
  | ok a => nofun

theorem safe_byteAt {i : Nat} (h : i < b.length) : Safe (byteAt b i) := by
  rw [byteAt_of_lt h]
  nofun

theorem safe_slice {start length : Nat} (h : start + length ≤ b.length) :
    Safe (slice b start length) := by
  rw [slice_of_le h]
  nofun

theorem safe_suffix {start : Nat} (h : start ≤ b.length) : Safe (suffix b start) := by
  rw [suffix_of_le h]
  nofun

end Reading

open Reading

theorem Rmcp.Header.safe_parse (b : Bytes) : Safe (parse b) := by
  unfold parse
  dsimp only
  split
  · exact safe_throw .tooShort
  next hlong =>
  unfold headerLength at hlong
  refine (safe_byteAt (by omega)).bind fun _ _ => ?_
  refine (safe_byteAt (by omega)).bind fun _ _ => ?_
  exact (safe_byteAt (by omega)).bind fun _ _ => safe_pure _

theorem Rmcp.Header.length_le_of_parse {b : Bytes} {header : Header} (h : parse b = .ok header) :
    headerLength ≤ b.length := by
  unfold parse at h
  dsimp only at h
  split at h
  · cases h
  next hlong => exact Nat.le_of_not_lt hlong

namespace Packet

theorem safe_parseHeader (b : Bytes) : Safe (parseHeader b) := by
  unfold parseHeader
  dsimp only
  split
  · exact safe_throw .tooShort
  next hlong =>
  refine (safe_byteAt (by omega)).bind fun authType _ => ?_
  refine ((safe_slice (by omega)).map _).bind fun _ _ => ?_
  refine ((safe_slice (by omega)).map _).bind fun _ _ => ?_
  split
  · exact (safe_byteAt (by omega)).bind fun _ _ => safe_pure _
  split
  · exact safe_throw .tooShort
  · refine ((safe_slice (by omega)).map _).bind fun _ _ => ?_
    exact (safe_byteAt (by omega)).bind fun _ _ => safe_pure _

theorem safe_parse (b : Bytes) : Safe (parse b) := by
  unfold parse
  refine (safe_parseHeader b).bind fun header _ => ?_
  dsimp only
  split
  · exact safe_throw .tooShort
  split
  · exact safe_throw .badLength
  · exact (safe_slice (by omega)).bind fun _ _ => safe_pure _

theorem safe_decode (b : Bytes) : Safe (decode b) := by
  unfold decode
  refine (Rmcp.Header.safe_parse b).bind fun header hheader => ?_
  dsimp only
  split
  · exact safe_throw (.unexpectedClass _)
  · have hlong := Rmcp.Header.length_le_of_parse hheader
    exact (safe_suffix hlong).bind fun _ _ => safe_parse _

end Packet

namespace Response

theorem safe_parse (b : Bytes) : Safe (parse b) := by
  unfold parse
  dsimp only
  split
  · exact safe_throw .tooShort
  next hlong =>
  unfold shortest at hlong
  refine (safe_slice (by omega)).bind fun _ _ => ?_
  refine (safe_suffix (by omega)).bind fun _ _ => ?_
  split
  · exact safe_throw .badChecksum
  refine (safe_byteAt (by omega)).bind fun _ _ => ?_
  refine (safe_byteAt (by omega)).bind fun _ _ => ?_
  refine (safe_byteAt (by omega)).bind fun _ _ => ?_
  refine (safe_byteAt (by omega)).bind fun _ _ => ?_
  refine (safe_byteAt (by omega)).bind fun _ _ => ?_
  refine (safe_byteAt (by omega)).bind fun _ _ => ?_
  split
  · refine Safe.bind ?_ fun _ _ => safe_pure _
    exact (safe_slice (by unfold shortest; omega)).map some
  · exact safe_pure _

theorem safe_disclose (r : Response) (depth : Nat) : Safe (r.disclose depth) := by
  induction depth generalizing r with
  | zero => exact safe_pure _
  | succ depth ih =>
    unfold disclose
    split
    · exact safe_pure _
    split
    · exact safe_pure _
    split
    · exact safe_pure _
    · exact (safe_parse _).bind fun next _ => ih next

end Response

theorem Presence.Pong.safe_parse (b : Bytes) : Safe (parse b) := by
  unfold parse
  refine (Rmcp.Header.safe_parse b).bind fun header hheader => ?_
  dsimp only
  split
  · exact safe_pure _
  have hlong := Rmcp.Header.length_le_of_parse hheader
  refine (safe_suffix hlong).bind fun message _ => ?_
  split
  · exact safe_throw .tooShort
  next hmessage =>
  refine (safe_byteAt (by omega)).bind fun _ _ => ?_
  split
  · exact safe_pure _
  refine (safe_suffix (by omega)).bind fun data _ => ?_
  split
  · exact safe_throw .tooShort
  next hdata =>
  refine (safe_byteAt (by omega)).bind fun _ _ => ?_
  refine ((safe_slice (by omega)).map _).bind fun _ _ => ?_
  refine ((safe_slice (by omega)).map _).bind fun _ _ => ?_
  refine (safe_byteAt (by omega)).bind fun _ _ => ?_
  exact (safe_byteAt (by omega)).bind fun _ _ => safe_pure _

namespace Request

theorem safe_parse (b : Bytes) : Safe (parse b) := by
  unfold parse
  dsimp only
  split
  · exact safe_throw .badLength
  next hlong =>
  unfold shortest at hlong
  refine (safe_slice (by omega)).bind fun _ _ => ?_
  refine (safe_suffix (by omega)).bind fun _ _ => ?_
  split
  · exact safe_throw .badChecksum
  refine (safe_byteAt (by omega)).bind fun _ _ => ?_
  refine (safe_byteAt (by omega)).bind fun _ _ => ?_
  refine (safe_byteAt (by omega)).bind fun _ _ => ?_
  refine (safe_byteAt (by omega)).bind fun _ _ => ?_
  refine (safe_byteAt (by omega)).bind fun _ _ => ?_
  split
  · refine Safe.bind ?_ fun _ _ => safe_pure _
    exact (safe_slice (by unfold shortest; omega)).map some
  · exact safe_pure _

theorem safe_within (r : Request) (depth : Nat) : Safe (r.within depth) := by
  induction depth generalizing r with
  | zero => exact safe_pure _
  | succ depth ih =>
    unfold within
    dsimp only
    split
    · exact safe_throw .badLength
    next hnested =>
    -- What is not empty has a channel byte in front of the message.
    have hchannel : 1 ≤ r.payload.length := by
      rw [Bool.or_eq_true, not_or, List.isEmpty_iff] at hnested
      exact List.length_pos_iff.mpr hnested.2
    refine (safe_suffix hchannel).bind fun message _ => ?_
    exact (safe_parse message).bind fun next _ => ih next

theorem safe_disclose (message : Bytes) (depth : Nat) : Safe (disclose message depth) :=
  (safe_parse message).bind fun r _ => r.safe_within depth

end Request

/-- The data of an answer are refused for their length, and for nothing else. -/
theorem Capabilities.parse_eq_error_iff {data : Bytes} {e : Error} :
    parse data = .error e ↔ data.length < 8 ∧ e = .badLength := by
  unfold parse
  by_cases hshort : data.length < 8
  · rw [if_pos hshort]
    exact ⟨fun h => ⟨hshort, (Except.error.inj h).symm⟩, fun h => congrArg Except.error h.2.symm⟩
  · simp (disch := omega) [hshort, byteAt_of_lt, slice_of_le, pure, Except.pure]

theorem Capabilities.safe_parse (data : Bytes) : Safe (parse data) :=
  fun _ h => (parse_eq_error_iff.mp h).2 ▸ .badLength

theorem Challenge.parse_eq_error_iff {data : Bytes} {e : Error} :
    parse data = .error e ↔ data.length < 20 ∧ e = .badLength := by
  unfold parse
  by_cases hshort : data.length < 20
  · rw [if_pos hshort]
    exact ⟨fun h => ⟨hshort, (Except.error.inj h).symm⟩, fun h => congrArg Except.error h.2.symm⟩
  · simp (disch := omega) [hshort, wordAt_of_le, fieldAt_of_le, pure, Except.pure]

theorem Challenge.safe_parse (data : Bytes) : Safe (parse data) :=
  fun _ h => (parse_eq_error_iff.mp h).2 ▸ .badLength

theorem Activation.parse_eq_error_iff {data : Bytes} {e : Error} :
    parse data = .error e ↔ data.length < 10 ∧ e = .badLength := by
  unfold parse
  by_cases hshort : data.length < 10
  · rw [if_pos hshort]
    exact ⟨fun h => ⟨hshort, (Except.error.inj h).symm⟩, fun h => congrArg Except.error h.2.symm⟩
  · simp (disch := omega) [hshort, byteAt_of_lt, wordAt_of_le, pure, Except.pure]

theorem Activation.safe_parse (data : Bytes) : Safe (parse data) :=
  fun _ h => (parse_eq_error_iff.mp h).2 ▸ .badLength

end Baseboard
