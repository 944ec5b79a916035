import Baseboard.Bytes

/-! The 16-byte fields of the session protocol: user names, passwords,
challenges and authentication codes. -/
namespace Baseboard

/-- Exactly sixteen bytes. -/
structure Field where
  bytes : Bytes
  length_eq : bytes.length = 16
  deriving DecidableEq, Repr

namespace Field

/-- The first sixteen bytes of `b`, filled up with zeros when it is shorter. -/
def fit (b : Bytes) : Field :=
  ⟨(b ++ List.replicate 16 0).take 16, by simp⟩

/-- A value as a field, zero padded; `none` when it does not fit. -/
def pad? (b : Bytes) : Option Field :=
  if b.length ≤ 16 then some (fit b) else none

def xor (a b : Field) : Field :=
  ⟨List.zipWith (· ^^^ ·) a.bytes b.bytes, by simp [a.length_eq, b.length_eq]⟩

theorem ext_bytes {a b : Field} (h : a.bytes = b.bytes) : a = b := by
  cases a; cases b; simp_all

/-- A field fits itself. -/
@[simp] theorem fit_bytes (a : Field) : fit a.bytes = a := by
  apply ext_bytes
  have h := a.length_eq
  simp [fit, h]

end Field
end Baseboard
