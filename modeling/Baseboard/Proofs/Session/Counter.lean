import Baseboard.Session.Basic
import Mathlib.Algebra.Group.Nat.Defs
import Mathlib.Logic.Function.Iterate

/-! The outbound counter. It runs through the numbers from one to the highest and starts
anew at one, so it comes back to a number only after all the others. -/
namespace Baseboard

theorem nonzero_ne_zero (n : UInt32) : nonzero n ≠ 0 := by
  unfold nonzero
  split
  · decide
  · assumption

theorem nextSequence_ne_zero (n : UInt32) : nextSequence n ≠ 0 := nonzero_ne_zero (n + 1)

/-- The counter counts modulo the number of numbers that are not zero. -/
theorem toNat_nextSequence {n : UInt32} (h : n ≠ 0) :
    (nextSequence n).toNat = n.toNat % (2 ^ 32 - 1) + 1 := by
  have hpos : n.toNat ≠ 0 := fun hz => h (UInt32.toNat_inj.mp hz)
  have hlt := n.toNat_lt
  have hsucc : (n + 1).toNat = (n.toNat + 1) % 2 ^ 32 := by
    rw [UInt32.toNat_add]
    rfl
  unfold nextSequence nonzero
  by_cases hz : n + 1 = 0
  · have hwrap : (n.toNat + 1) % 2 ^ 32 = 0 := by rw [← hsucc, hz]; rfl
    rw [if_pos hz]
    change 1 = _
    omega
  · have hne : (n + 1).toNat ≠ 0 := fun h0 => hz (UInt32.toNat_inj.mp h0)
    rw [if_neg hz, hsucc]
    rw [hsucc] at hne
    omega

theorem iterate_nextSequence_ne_zero {n : UInt32} (h : n ≠ 0) (k : Nat) :
    nextSequence^[k] n ≠ 0 := by
  cases k with
  | zero => exact h
  | succ k =>
    rw [Function.iterate_succ_apply']
    exact nextSequence_ne_zero _

/-- The counter after `k` steps. -/
theorem toNat_iterate_nextSequence {n : UInt32} (h : n ≠ 0) (k : Nat) :
    (nextSequence^[k] n).toNat = (n.toNat - 1 + k) % (2 ^ 32 - 1) + 1 := by
  have hpos : n.toNat ≠ 0 := fun hz => h (UInt32.toNat_inj.mp hz)
  have hlt := n.toNat_lt
  induction k with
  | zero =>
    change n.toNat = _
    omega
  | succ k ih =>
    rw [Function.iterate_succ_apply', toNat_nextSequence (iterate_nextSequence_ne_zero h k), ih]
    omega

/-- Fewer steps than there are numbers lead back to the start only if there are none. -/
theorem iterate_nextSequence_eq_self_iff {n : UInt32} (h : n ≠ 0) {k : Nat} (hk : k < 2 ^ 32 - 1) :
    nextSequence^[k] n = n ↔ k = 0 := by
  have hpos : n.toNat ≠ 0 := fun hz => h (UInt32.toNat_inj.mp hz)
  have hlt := n.toNat_lt
  constructor
  · intro heq
    have hnat := toNat_iterate_nextSequence h k
    rw [heq] at hnat
    omega
  · rintro rfl
    rfl

end Baseboard
