import Mathlib.Data.List.Basic

/- Ceiling division on 32-bit ints: the sum wraps around and the quotient is
   truncated toward zero. Sizes and units are arbitrary. -/
namespace IntCeiling

/-- 2^31, the first value past the ints. -/
def intEnd : Nat := 2147483648

def ceilDiv (size unit : Int32) : Int := ((size + unit - 1) / unit).toInt

theorem toInt_bounds (x : Int32) : -(intEnd : Int) ≤ x.toInt ∧ x.toInt < intEnd := by
  have lo := x.le_toInt
  have hi := x.toInt_lt
  simp only [intEnd]
  omega

theorem toInt_ofNat_of_fits {n : Nat} (fits : n < intEnd) : (Int32.ofNat n).toInt = n := by
  apply Int32.toInt_ofNat_of_lt
  simp only [intEnd] at fits
  omega

theorem toInt_sum {size : Int32} {unit : Nat} (pos : 0 < unit) (unitFits : unit < intEnd) :
    (size.toInt + unit ≤ intEnd →
      (size + Int32.ofNat unit - 1).toInt = size.toInt + unit - 1) ∧
    ((intEnd : Int) < size.toInt + unit →
      (size + Int32.ofNat unit - 1).toInt = size.toInt + unit - 1 - 2 * intEnd) := by
  have lo := size.le_toInt
  have hi := size.toInt_lt
  have one : (1 : Int32).toInt = 1 := by decide
  rw [Int32.toInt_sub, Int32.toInt_add, toInt_ofNat_of_fits unitFits, one, Int.bmod_sub_bmod,
    Int.bmod_def]
  simp only [intEnd] at unitFits ⊢
  constructor
  · intro fits
    split <;> omega
  · intro wraps
    split <;> omega

theorem tdiv_between (x : Int) (unit : Nat) :
    (0 ≤ x → 0 ≤ x.tdiv unit ∧ x.tdiv unit ≤ x) ∧
      (x ≤ 0 → x ≤ x.tdiv unit ∧ x.tdiv unit ≤ 0) := by
  have positive : ∀ y : Int, 0 ≤ y → 0 ≤ y.tdiv unit ∧ y.tdiv unit ≤ y := fun y hy =>
    ⟨Int.tdiv_nonneg hy (Int.natCast_nonneg unit), Int.tdiv_le_self unit hy⟩
  refine ⟨positive x, fun hx => ?_⟩
  have mirrored := positive (-x) (by omega)
  rw [Int.neg_tdiv] at mirrored
  omega

theorem ceilDiv_eq {size : Int32} {unit : Nat} (unitFits : unit < intEnd) :
    ceilDiv size (Int32.ofNat unit) = (size + Int32.ofNat unit - 1).toInt.tdiv unit := by
  have range := toInt_bounds (size + Int32.ofNat unit - 1)
  obtain ⟨above, below⟩ := tdiv_between (size + Int32.ofNat unit - 1).toInt unit
  simp only [ceilDiv, Int32.toInt_div, toInt_ofNat_of_fits unitFits]
  simp only [intEnd] at range
  apply Int.bmod_eq_of_le <;> omega

theorem ceilDiv_exact {size : Int32} {unit : Nat} (pos : 0 < unit) (unitFits : unit < intEnd)
    (nonneg : 0 ≤ size.toInt) (fits : size.toInt + unit ≤ intEnd) :
    ceilDiv size (Int32.ofNat unit) = ((size.toInt.toNat + unit - 1) / unit : Nat) := by
  rw [ceilDiv_eq unitFits, (toInt_sum pos unitFits).1 fits,
    Int.tdiv_eq_ediv_of_nonneg (by omega)]
  have same : size.toInt + unit - 1 = ((size.toInt.toNat + unit - 1 : Nat) : Int) := by omega
  rw [same, Int.natCast_ediv]

theorem ceilDiv_nonpos {size : Int32} {unit : Nat} (pos : 0 < unit) (unitFits : unit < intEnd)
    (bad : size.toInt < 0 ∨ (intEnd : Int) < size.toInt + unit) :
    ceilDiv size (Int32.ofNat unit) ≤ 0 := by
  rw [ceilDiv_eq unitFits]
  by_cases wraps : (intEnd : Int) < size.toInt + unit
  · have hi := size.toInt_lt
    rw [(toInt_sum pos unitFits).2 wraps]
    apply ((tdiv_between _ unit).2 _).2
    simp only [intEnd] at unitFits ⊢
    omega
  · have negative : size.toInt < 0 := bad.resolve_right wraps
    rw [(toInt_sum pos unitFits).1 (by omega)]
    by_cases below : size.toInt + unit - 1 ≤ 0
    · exact ((tdiv_between _ unit).2 below).2
    · -- the numerator is positive and less than the unit
      rw [Int.tdiv_eq_ediv_of_nonneg (by omega)]
      exact Int.le_of_eq (Int.ediv_eq_zero_of_lt (by omega) (by omega))

end IntCeiling
