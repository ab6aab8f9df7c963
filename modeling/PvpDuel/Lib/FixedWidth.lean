import Mathlib.Algebra.Order.Ring.Int
import Mathlib.Tactic.Common

/-!
# Fixed-width integers read as integers

What the proofs need of `UInt32` and `Int32`: the value of a sum or a difference that stays in range,
of a negation, a minimum and a maximum, and the narrowing of an integer to a type that may not hold
it.
-/

namespace PvpDuel.FixedWidth

theorem uint32_toNat_add {x y : UInt32} (h : x.toNat + y.toNat < 2 ^ 32) :
    (x + y).toNat = x.toNat + y.toNat := by
  rw [UInt32.toNat_add, Nat.mod_eq_of_lt h]

theorem uint32_toNat_sub {x y : UInt32} (h : y.toNat ≤ x.toNat) :
    (x - y).toNat = x.toNat - y.toNat :=
  UInt32.toNat_sub_of_le x y (UInt32.le_iff_toNat_le.2 h)

theorem int32_toInt_add {x y : Int32} (hlo : -2 ^ 31 ≤ x.toInt + y.toInt)
    (hhi : x.toInt + y.toInt < 2 ^ 31) : (x + y).toInt = x.toInt + y.toInt := by
  rw [Int32.toInt_add]
  exact Int.bmod_eq_of_le (by simpa using hlo) (by simpa using hhi)

theorem int32_toInt_sub {x y : Int32} (hlo : -2 ^ 31 ≤ x.toInt - y.toInt)
    (hhi : x.toInt - y.toInt < 2 ^ 31) : (x - y).toInt = x.toInt - y.toInt := by
  rw [Int32.toInt_sub]
  exact Int.bmod_eq_of_le (by simpa using hlo) (by simpa using hhi)

theorem int32_toInt_neg {x : Int32} (h : -2 ^ 31 < x.toInt) : (-x).toInt = -x.toInt := by
  have hlt := x.toInt_lt
  rw [Int32.toInt_neg]
  exact Int.bmod_eq_of_le (by omega) (by omega)

theorem int32_toInt_max (x y : Int32) : (max x y).toInt = max x.toInt y.toInt := by
  change (if x ≤ y then y else x).toInt = _
  split <;> rename_i h <;> rw [Int32.le_iff_toInt_le] at h <;> omega

theorem int32_toInt_min (x y : Int32) : (min x y).toInt = min x.toInt y.toInt := by
  change (if x ≤ y then x else y).toInt = _
  split <;> rename_i h <;> rw [Int32.le_iff_toInt_le] at h <;> omega

/-! ### Narrowing -/

def int32 (value : Int) : Option Int32 :=
  if -2 ^ 31 ≤ value ∧ value < 2 ^ 31 then some (Int32.ofInt value) else none

/-- A natural number as a 32-bit one, where it is one. -/
def uint32 (value : Nat) : Option UInt32 :=
  if value < 2 ^ 32 then some (UInt32.ofNat value) else none

@[simp] theorem int32_toInt (x : Int32) : int32 x.toInt = some x := by
  rw [int32, if_pos ⟨x.le_toInt, x.toInt_lt⟩, Int32.ofInt_toInt]

@[simp] theorem uint32_toNat (x : UInt32) : uint32 x.toNat = some x := by
  rw [uint32, if_pos x.toNat_lt, UInt32.ofNat_toNat]

theorem int32_add {x y : Int32} (hlo : -2 ^ 31 ≤ x.toInt + y.toInt)
    (hhi : x.toInt + y.toInt < 2 ^ 31) : int32 (x.toInt + y.toInt) = some (x + y) := by
  rw [← int32_toInt_add hlo hhi, int32_toInt]

theorem int32_sub {x y : Int32} (hlo : -2 ^ 31 ≤ x.toInt - y.toInt)
    (hhi : x.toInt - y.toInt < 2 ^ 31) : int32 (x.toInt - y.toInt) = some (x - y) := by
  rw [← int32_toInt_sub hlo hhi, int32_toInt]

theorem int32_range {value : Int} {z : Int32} (h : int32 value = some z) :
    -2 ^ 31 ≤ value ∧ value < 2 ^ 31 := by
  unfold int32 at h
  split at h
  · assumption
  · cases h

theorem int32_add_some {x y z : Int32} (h : int32 (x.toInt + y.toInt) = some z) :
    z = x + y ∧ (x + y).toInt = x.toInt + y.toInt := by
  obtain ⟨hlo, hhi⟩ := int32_range h
  rw [int32_add hlo hhi] at h
  exact ⟨(Option.some.inj h).symm, int32_toInt_add hlo hhi⟩

theorem int32_sub_some {x y z : Int32} (h : int32 (x.toInt - y.toInt) = some z) :
    z = x - y ∧ (x - y).toInt = x.toInt - y.toInt := by
  obtain ⟨hlo, hhi⟩ := int32_range h
  rw [int32_sub hlo hhi] at h
  exact ⟨(Option.some.inj h).symm, int32_toInt_sub hlo hhi⟩

theorem uint32_add {x y : UInt32} (h : x.toNat + y.toNat < 2 ^ 32) :
    uint32 (x.toNat + y.toNat) = some (x + y) := by
  rw [← uint32_toNat_add h, uint32_toNat]

end PvpDuel.FixedWidth
