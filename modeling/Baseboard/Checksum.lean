import Baseboard.Bytes

/-! The message checksum: the byte that brings a run of bytes to the sum zero. -/
namespace Baseboard

/-- The sum of the bytes modulo 256. -/
def byteSum (b : Bytes) : UInt8 := b.foldr (· + ·) 0

def checksum (b : Bytes) : UInt8 := -byteSum b

@[simp] theorem byteSum_nil : byteSum [] = 0 := rfl

@[simp] theorem byteSum_cons (x : UInt8) (b : Bytes) : byteSum (x :: b) = x + byteSum b := rfl

@[simp] theorem byteSum_append (a b : Bytes) : byteSum (a ++ b) = byteSum a + byteSum b := by
  induction a with
  | nil => simp
  | cons x a ih => simp [ih, UInt8.add_assoc]

/-- A run of bytes followed by its checksum sums to zero. -/
@[simp] theorem byteSum_append_checksum (b : Bytes) : byteSum (b ++ [checksum b]) = 0 := by
  simp only [checksum, byteSum_append, byteSum_cons, byteSum_nil, UInt8.add_zero,
    UInt8.add_right_neg]

/-- The checksum of a run of bytes is zero exactly when the run sums to zero. -/
theorem checksum_eq_zero_iff (b : Bytes) : checksum b = 0 ↔ byteSum b = 0 := by
  refine ⟨fun h => ?_, fun h => by simp [checksum, h]⟩
  have hn : -(-byteSum b) = -0 := congrArg (- ·) h
  simpa using hn

end Baseboard
