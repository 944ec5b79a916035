import Baseboard.Error
import Baseboard.Field

/-! Reading at an offset. Every read checks that it stays inside the data and
gives `overrun` when it does not; the lemmas say when it does. -/
namespace Baseboard.Reading

def byteAt (b : Bytes) (i : Nat) : Except Error UInt8 :=
  match b[i]? with
  | some x => .ok x
  | none => .error .overrun

def slice (b : Bytes) (start length : Nat) : Except Error Bytes :=
  if start + length ≤ b.length then .ok ((b.drop start).take length) else .error .overrun

def suffix (b : Bytes) (start : Nat) : Except Error Bytes :=
  if start ≤ b.length then .ok (b.drop start) else .error .overrun

def wordAt (b : Bytes) (start : Nat) : Except Error UInt32 :=
  (slice b start 4).map fun w => UInt32.ofNat (Bytes.ofLittleEndian w)

def bigWordAt (b : Bytes) (start : Nat) : Except Error UInt32 :=
  (slice b start 4).map fun w => UInt32.ofNat (Bytes.ofBigEndian w)

def fieldAt (b : Bytes) (start : Nat) : Except Error Field :=
  (slice b start 16).map Field.fit

/-- A read that succeeds hands its value on to the reads after it. -/
@[simp] theorem ok_bind (a : α) (f : α → Except Error β) : (Except.ok a >>= f) = f a := rfl

@[simp] theorem error_bind (e : Error) (f : α → Except Error β) :
    (Except.error e >>= f) = .error e := rfl

@[simp] theorem throw_bind (e : Error) (f : α → Except Error β) :
    ((throw e : Except Error α) >>= f) = .error e := rfl

/-- What two readings, one after the other, give. -/
theorem bind_eq_ok_iff {x : Except Error α} {f : α → Except Error β} {b : β} :
    x >>= f = .ok b ↔ ∃ a, x = .ok a ∧ f a = .ok b := by
  constructor
  · intro h
    cases x with
    | error e => cases h
    | ok a => exact ⟨a, rfl, h⟩
  · rintro ⟨a, rfl, h⟩
    exact h

theorem byteAt_of_lt {b : Bytes} {i : Nat} (h : i < b.length) : byteAt b i = .ok b[i] := by
  simp [byteAt, h]

theorem slice_of_le {b : Bytes} {start length : Nat} (h : start + length ≤ b.length) :
    slice b start length = .ok ((b.drop start).take length) := by
  simp [slice, h]

theorem suffix_of_le {b : Bytes} {start : Nat} (h : start ≤ b.length) :
    suffix b start = .ok (b.drop start) := by
  simp [suffix, h]

theorem wordAt_of_le {b : Bytes} {start : Nat} (h : start + 4 ≤ b.length) :
    wordAt b start = .ok (UInt32.ofNat (Bytes.ofLittleEndian ((b.drop start).take 4))) := by
  simp [wordAt, slice_of_le h, Except.map]

theorem fieldAt_of_le {b : Bytes} {start : Nat} (h : start + 16 ≤ b.length) :
    fieldAt b start = .ok (Field.fit ((b.drop start).take 16)) := by
  simp [fieldAt, slice_of_le h, Except.map]

end Baseboard.Reading
