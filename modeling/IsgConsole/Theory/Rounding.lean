/-
# Theory.Rounding — binary floating point on the rationals

A number is rounded to a multiple of a step, ties to even; the step of a `Format` is its last binary
digit, and no number has a smaller one than the least.  A computed operation is the exact one, rounded
(`single`, `double`).  Numbers too large for a format are left out.

* `Format.round_near` — **rounding moves a number by at most half of its last digit.**
-/
import Mathlib.Algebra.Order.Floor.Ring
import Mathlib.Data.Int.Log
import Mathlib.Data.Rat.Floor
import Mathlib.Tactic.FieldSimp
import Mathlib.Tactic.Linarith

namespace IsgConsole.Theory.Rounding

set_option autoImplicit false

/-- To the nearest integer, ties to even. -/
def roundEven (q : ℚ) : ℤ :=
  let low := ⌊q⌋
  if q - low < 1 / 2 ∨ q - low = 1 / 2 ∧ low % 2 = 0 then low else low + 1

theorem roundEven_near (q : ℚ) : |(roundEven q : ℚ) - q| ≤ 1 / 2 := by
  have low := Int.floor_le q
  have high := Int.lt_floor_add_one q
  rw [abs_le]
  unfold roundEven
  dsimp only
  split
  next down =>
    have half : q - ⌊q⌋ ≤ 1 / 2 := by
      rcases down with less | ⟨same, -⟩
      · exact less.le
      · exact same.le
    constructor <;> linarith
  next up =>
    have half : 1 / 2 ≤ q - ⌊q⌋ := not_lt.mp fun less => up (.inl less)
    push_cast
    constructor <;> linarith

theorem roundEven_intCast (n : ℤ) : roundEven n = n := by simp [roundEven]

/-- How many binary digits a format has, and the exponent of the least one. -/
structure Format where
  digits : ℕ
  least : ℤ

namespace Format

/-- The last digit of a number. -/
def step (f : Format) (q : ℚ) : ℚ := 2 ^ max (Int.log 2 |q| - (f.digits - 1)) f.least

/-- The nearest number of the format. -/
def round (f : Format) (q : ℚ) : ℚ := roundEven (q / f.step q) * f.step q

variable (f : Format)

theorem step_pos (q : ℚ) : 0 < f.step q := zpow_pos two_pos _

@[simp] theorem round_zero : f.round 0 = 0 := by
  have none := roundEven_intCast 0
  rw [Int.cast_zero] at none
  rw [round, zero_div, none, Int.cast_zero, zero_mul]

theorem round_near_step (q : ℚ) : |f.round q - q| ≤ f.step q / 2 := by
  have positive := f.step_pos q
  have near := roundEven_near (q / f.step q)
  have moved : f.round q - q = ((roundEven (q / f.step q) : ℚ) - q / f.step q) * f.step q := by
    rw [round, sub_mul, div_mul_cancel₀ q positive.ne']
  rw [moved, abs_mul, abs_of_pos positive]
  calc |(roundEven (q / f.step q) : ℚ) - q / f.step q| * f.step q
      ≤ 1 / 2 * f.step q := mul_le_mul_of_nonneg_right near positive.le
    _ = f.step q / 2 := by ring

/-- The last digit, by the size of the number. -/
theorem step_le {q size : ℚ} (other : q ≠ 0) (small : |q| ≤ size)
    (normal : (2 : ℚ) ^ (f.least + f.digits - 1) ≤ size) :
    f.step q ≤ size * 2 ^ (1 - f.digits : ℤ) := by
  have positive : (0 : ℚ) < 2 ^ (1 - f.digits : ℤ) := zpow_pos two_pos _
  rw [step]
  rcases le_total (Int.log 2 |q| - (f.digits - 1)) f.least with tiny | large
  · rw [max_eq_right tiny]
    calc (2 : ℚ) ^ f.least = 2 ^ (f.least + f.digits - 1) * 2 ^ (1 - f.digits : ℤ) := by
          rw [← zpow_add₀ two_ne_zero]
          congr 1
          omega
      _ ≤ size * 2 ^ (1 - f.digits : ℤ) := mul_le_mul_of_nonneg_right normal positive.le
  · rw [max_eq_left large]
    have lead : (2 : ℚ) ^ Int.log 2 |q| ≤ |q| := by
      exact_mod_cast Int.zpow_log_le_self (b := 2) one_lt_two (abs_pos.mpr other)
    calc (2 : ℚ) ^ (Int.log 2 |q| - (f.digits - 1))
        = 2 ^ Int.log 2 |q| * 2 ^ (1 - f.digits : ℤ) := by
          rw [← zpow_add₀ two_ne_zero]
          congr 1
          omega
      _ ≤ size * 2 ^ (1 - f.digits : ℤ) :=
          mul_le_mul_of_nonneg_right (lead.trans small) positive.le

/-- **Rounding moves a number by at most half of its last digit**, and that is as small a part of it as
there are digits. -/
theorem round_near {q size : ℚ} (small : |q| ≤ size)
    (normal : (2 : ℚ) ^ (f.least + f.digits - 1) ≤ size) :
    |f.round q - q| ≤ size * 2 ^ (-f.digits : ℤ) := by
  by_cases none : q = 0
  · rw [none, round_zero, sub_zero, abs_zero]
    exact mul_nonneg ((abs_nonneg q).trans small) (zpow_pos two_pos _).le
  calc |f.round q - q| ≤ f.step q / 2 := f.round_near_step q
    _ ≤ size * 2 ^ (1 - f.digits : ℤ) / 2 := by
        have last := f.step_le none small normal
        linarith
    _ = size * 2 ^ (-f.digits : ℤ) := by
        rw [sub_eq_add_neg, zpow_add₀ two_ne_zero, zpow_one]
        ring

end Format

/-- Single and double precision. -/
def singleFormat : Format := ⟨24, -149⟩
def doubleFormat : Format := ⟨53, -1074⟩

/-- A result in single precision; in double precision. -/
def single (q : ℚ) : ℚ := singleFormat.round q
def double (q : ℚ) : ℚ := doubleFormat.round q

example : single (1 / 10) = 13421773 / 134217728 := by decide +kernel

theorem single_near {q size : ℚ} (small : |q| ≤ size) (normal : 1 / 2 ^ 126 ≤ size) :
    |single q - q| ≤ size / 2 ^ 24 := by
  have near := singleFormat.round_near small (by
    refine le_trans (le_of_eq ?_) normal
    norm_num [singleFormat])
  calc |single q - q| ≤ size * 2 ^ (-singleFormat.digits : ℤ) := near
    _ = size / 2 ^ 24 := by norm_num [singleFormat, div_eq_mul_inv]

/-- The same, from both sides. -/
theorem single_within (q size : ℚ) (below : -size ≤ q) (above : q ≤ size)
    (normal : 1 / 2 ^ 126 ≤ size) :
    q - size / 2 ^ 24 ≤ single q ∧ single q ≤ q + size / 2 ^ 24 := by
  obtain ⟨low, high⟩ := abs_le.mp (single_near (abs_le.mpr ⟨below, above⟩) normal)
  constructor <;> linarith

theorem double_near {q size : ℚ} (small : |q| ≤ size) (normal : 1 / 2 ^ 126 ≤ size) :
    |double q - q| ≤ size / 2 ^ 53 := by
  have least : (2 : ℚ) ^ (doubleFormat.least + doubleFormat.digits - 1) ≤ 1 / 2 ^ 126 := by
    rw [one_div, ← zpow_natCast, ← zpow_neg]
    exact zpow_le_zpow_right₀ one_le_two (by decide)
  have near := doubleFormat.round_near small (least.trans normal)
  calc |double q - q| ≤ size * 2 ^ (-doubleFormat.digits : ℤ) := near
    _ = size / 2 ^ 53 := by norm_num [doubleFormat, div_eq_mul_inv]

end IsgConsole.Theory.Rounding
