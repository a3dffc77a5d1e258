import Mathlib.Algebra.Order.Ring.Int
import Mathlib.Data.List.TakeWhile

/- Decimal texts of integers, as %d writes them and atoi reads them. -/
namespace Decimal

abbrev Text := List Char

def decimal (n : Int) : Text :=
  if n < 0 then '-' :: Nat.toDigits 10 n.natAbs else Nat.toDigits 10 n.natAbs

def isSpace (c : Char) : Bool := c == ' ' || ('\t' ≤ c && c ≤ '\r')

def number (t : Text) : Nat := Nat.ofDigitChars 10 (t.takeWhile Char.isDigit) 0

def signed : Text → Int
  | '-' :: t => -(number t : Int)
  | '+' :: t => number t
  | t => number t

/-- strtol in base 10, on a machine with longs of 64 bits. -/
def strtol (t : Text) : Int := max (-2 ^ 63) (min (signed (t.dropWhile isSpace)) (2 ^ 63 - 1))

def atoi (t : Text) : Int32 := Int32.ofInt (strtol t)

variable {n : Int} {c : Char} {t : Text}

theorem decimal_ne_nil (n : Int) : decimal n ≠ [] := by
  unfold decimal
  split
  · exact List.cons_ne_nil _ _
  · exact Nat.toDigits_ne_nil

theorem mem_decimal (hc : c ∈ decimal n) : c = '-' ∨ c.isDigit = true := by
  unfold decimal at hc
  split at hc
  · rcases List.mem_cons.mp hc with sign | digit
    · exact .inl sign
    · exact .inr (Nat.isDigit_of_mem_toDigits (by decide) (by decide) digit)
  · exact .inr (Nat.isDigit_of_mem_toDigits (by decide) (by decide) hc)

theorem not_space_of_digit (digit : c.isDigit = true) : isSpace c = false := by
  simp only [Char.isDigit, ge_iff_le, Bool.and_eq_true, decide_eq_true_eq] at digit
  simp only [isSpace, Bool.or_eq_false_iff, beq_eq_false_iff_ne, Bool.and_eq_false_iff,
    decide_eq_false_iff_not]
  refine ⟨?_, .inr fun low => ?_⟩
  · rintro rfl
    exact absurd digit.1 (by decide)
  · have high : ('\r').val < ('0').val := by decide
    exact absurd (UInt32.le_trans digit.1 low) (UInt32.not_le.mpr high)

theorem number_toDigits (k : Nat) : number (Nat.toDigits 10 k) = k := by
  have digits : (Nat.toDigits 10 k).takeWhile Char.isDigit = Nat.toDigits 10 k :=
    List.takeWhile_eq_self_iff.mpr fun c hc =>
      Nat.isDigit_of_mem_toDigits (by decide) (by decide) hc
  rw [number, digits, Nat.ofDigitChars_ten_toDigits]

theorem signed_toDigits (k : Nat) : signed (Nat.toDigits 10 k) = k := by
  obtain ⟨c, rest, digits⟩ := List.exists_cons_of_ne_nil (Nat.toDigits_ne_nil (n := k) (b := 10))
  have digit : c.isDigit = true :=
    Nat.isDigit_of_mem_toDigits (b := 10) (n := k) (by decide) (by decide) (by simp [digits])
  have value := number_toDigits k
  rw [digits] at value ⊢
  unfold signed
  split
  · rename_i same
    cases same
    contradiction
  · rename_i same
    cases same
    contradiction
  · rw [value]

theorem signed_decimal (n : Int) : signed (decimal n) = n := by
  unfold decimal
  split
  · rw [signed, number_toDigits]
    omega
  · rw [signed_toDigits]
    omega

theorem dropWhile_decimal (n : Int) : (decimal n).dropWhile isSpace = decimal n := by
  refine List.dropWhile_eq_self_iff.mpr fun pos => ?_
  have here : (decimal n)[0] ∈ decimal n := List.getElem_mem pos
  rcases mem_decimal here with sign | digit
  · rw [sign]
    decide
  · rw [not_space_of_digit digit]
    decide

theorem atoi_decimal (n : Int32) : atoi (decimal n.toInt) = n := by
  have low := n.le_toInt
  have high := n.toInt_lt
  have range : strtol (decimal n.toInt) = n.toInt := by
    rw [strtol, dropWhile_decimal, signed_decimal]
    omega
  rw [atoi, range, Int32.ofInt_toInt]

end Decimal
