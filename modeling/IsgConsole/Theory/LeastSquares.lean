/-
# Theory.LeastSquares — overdetermined systems

The squared error of `x` in a system `M x = b` is smallest where `x` solves the normal equations,
and smallest nowhere else if the matrix of those is regular.

* `squaredError_eq` — the error of any other `z`, from that of a solution;
* `least_iff` — **the least error is at the pseudo-inverse, and only there.**
-/
import Mathlib.Algebra.Order.BigOperators.Ring.Finset
import Mathlib.LinearAlgebra.Matrix.NonsingularInverse
import Mathlib.LinearAlgebra.Matrix.ToLinearEquiv
import Mathlib.Tactic.Ring

namespace IsgConsole.Theory.LeastSquares

open scoped Matrix

set_option autoImplicit false

section Error

variable {K : Type} [Field K] {rows cols : Nat} {M : Matrix (Fin rows) (Fin cols) K}
  {b : Fin rows → K} {x : Fin cols → K}

/-- The sum of the squared errors of `x`. -/
def squaredError (M : Matrix (Fin rows) (Fin cols) K) (b : Fin rows → K) (x : Fin cols → K) : K :=
  ∑ i, ((M *ᵥ x) i - b i) ^ 2

/-- **The error of `z`** is that of a solution of the normal equations and that of the way to it. -/
theorem squaredError_eq (normal : Mᵀ *ᵥ (M *ᵥ x - b) = 0) (z : Fin cols → K) :
    squaredError M b z = squaredError M b x + ∑ i, ((M *ᵥ (z - x)) i) ^ 2 := by
  have across : ∑ i, (M *ᵥ (z - x)) i * (M *ᵥ x - b) i = 0 := by
    show (M *ᵥ (z - x)) ⬝ᵥ (M *ᵥ x - b) = 0
    rw [← Matrix.vecMul_transpose, ← Matrix.dotProduct_mulVec, normal, dotProduct_zero]
  have split : ∀ i, ((M *ᵥ z) i - b i) ^ 2 = ((M *ᵥ x) i - b i) ^ 2 +
      2 * ((M *ᵥ (z - x)) i * ((M *ᵥ x - b) i)) + ((M *ᵥ (z - x)) i) ^ 2 := by
    intro i
    rw [Matrix.mulVec_sub, Pi.sub_apply, Pi.sub_apply]
    ring
  rw [squaredError, Finset.sum_congr rfl fun i _ => split i, Finset.sum_add_distrib,
    Finset.sum_add_distrib, ← Finset.mul_sum, across, mul_zero, add_zero, squaredError]

/-- The pseudo-inverse of a regular system solves the normal equations. -/
theorem normal_of_regular (regular : (Mᵀ * M).det ≠ 0) (b : Fin rows → K) :
    Mᵀ *ᵥ (M *ᵥ (((Mᵀ * M)⁻¹ * Mᵀ) *ᵥ b) - b) = 0 := by
  have unit : IsUnit (Mᵀ * M).det := isUnit_iff_ne_zero.mpr regular
  rw [Matrix.mulVec_sub, Matrix.mulVec_mulVec, Matrix.mulVec_mulVec, ← Matrix.mul_assoc,
    Matrix.mul_nonsing_inv _ unit, Matrix.one_mul, sub_self]

end Error

variable {K : Type} [Field K] [LinearOrder K] [IsStrictOrderedRing K] {rows cols : Nat}
  {M : Matrix (Fin rows) (Fin cols) K} {b : Fin rows → K} {x : Fin cols → K}

/-- `x` has the least error. -/
def Least (M : Matrix (Fin rows) (Fin cols) K) (b : Fin rows → K) (x : Fin cols → K) : Prop :=
  ∀ z, squaredError M b x ≤ squaredError M b z

/-- In a regular system a solution of the normal equations has the least error, alone. -/
theorem least_iff_of_normal (regular : (Mᵀ * M).det ≠ 0) (normal : Mᵀ *ᵥ (M *ᵥ x - b) = 0)
    (z : Fin cols → K) : Least M b z ↔ z = x := by
  have squares : ∀ w, 0 ≤ ∑ i, ((M *ᵥ (w - x)) i) ^ 2 :=
    fun w => Finset.sum_nonneg fun i _ => sq_nonneg _
  constructor
  · intro least
    have none' : ∑ i, ((M *ᵥ (z - x)) i) ^ 2 = 0 := by
      have below := least x
      rw [squaredError_eq normal z] at below
      exact le_antisymm (by linarith) (squares z)
    have zero : M *ᵥ (z - x) = 0 := by
      funext i
      have term := (Finset.sum_eq_zero_iff_of_nonneg fun i _ => sq_nonneg _).mp none' i
        (Finset.mem_univ i)
      exact pow_eq_zero_iff two_ne_zero |>.mp term
    refine sub_eq_zero.mp (Matrix.eq_zero_of_mulVec_eq_zero regular ?_)
    rw [← Matrix.mulVec_mulVec, zero, Matrix.mulVec_zero]
  · rintro rfl w
    rw [squaredError_eq normal w]
    exact le_add_of_nonneg_right (squares w)

/-- **Where the error is least** in a regular system. -/
theorem least_iff (regular : (Mᵀ * M).det ≠ 0) :
    Least M b x ↔ x = ((Mᵀ * M)⁻¹ * Mᵀ) *ᵥ b :=
  least_iff_of_normal regular (normal_of_regular regular b) x

/-- A solution of the system has no error, so nothing has less. -/
theorem least_of_solution (solves : M *ᵥ x = b) : Least M b x := by
  intro z
  have zero : squaredError M b x = 0 := by simp [squaredError, solves]
  rw [zero]
  exact Finset.sum_nonneg fun i _ => sq_nonneg _

end IsgConsole.Theory.LeastSquares
