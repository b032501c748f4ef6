/-
# Theory.GaussJordan — inverting a matrix in place, with any choice of pivots

A matrix that is inverted in place holds, behind the first `k` pivots, a part of the inverse beside
what is left of the matrix.  `Swept k A a` says what `a` is then: it takes the inputs that belong to
the first `k` rows and the others to the outputs that belong to the first `k` columns and the others,
with a sign at the first.  A pivot exchanges one more input for its output.

Rows and columns behind the first `k` may be interchanged, which interchanges them in `A` as well.
An interchange that changes a sign has determinant one, so the pivots multiply to the determinant.

* `Swept.sweep`, `Swept.rows`, `Swept.columns` — **what a pivot and an interchange do**;
* `Swept.inverse`, `det_inputs_succ` — behind the last pivot;
* `Swept.singular` — where there is no pivot left.
-/
import Mathlib.LinearAlgebra.Matrix.NonsingularInverse
import Mathlib.LinearAlgebra.Matrix.Permutation
import Mathlib.LinearAlgebra.Matrix.ToLinearEquiv

namespace IsgConsole.Theory.GaussJordan

open scoped Matrix

set_option autoImplicit false

variable {K : Type} [Field K] {n : Nat}

/-! ## Interchanges -/

/-- Row `i` comes to row `k`, and row `k` to row `i` with the other sign; nothing where `i` is not
behind `k`. -/
def exchange (k i : Fin n) : Matrix (Fin n) (Fin n) K :=
  if k < i then Matrix.diagonal (fun r => if r = i then -1 else 1) * (Equiv.swap k i).permMatrix K
  else 1

theorem exchange_of_not_lt {k i : Fin n} (apart : ¬ k < i) : exchange (K := K) k i = 1 :=
  if_neg apart

section Exchange

variable {k i : Fin n} (behind : k < i) (a : Matrix (Fin n) (Fin n) K) (r s : Fin n)
include behind

theorem exchange_mul :
    (exchange k i * a : Matrix (Fin n) (Fin n) K) r s =
      if r = k then a i s else if r = i then -a k s else a r s := by
  rw [exchange, if_pos behind, Matrix.mul_assoc, Matrix.diagonal_mul, PEquiv.toMatrix_toPEquiv_mul,
    Matrix.submatrix_apply]
  by_cases first : r = k
  · simp [first, behind.ne]
  · by_cases second : r = i
    · simp [second, behind.ne']
    · simp [first, second, Equiv.swap_apply_of_ne_of_ne first second]

theorem mul_exchange :
    (a * exchange k i : Matrix (Fin n) (Fin n) K) r s =
      if s = k then -a r i else if s = i then a r k else a r s := by
  rw [exchange, if_pos behind, ← Matrix.mul_assoc, PEquiv.mul_toMatrix_toPEquiv, Matrix.submatrix_apply,
    Matrix.mul_diagonal]
  by_cases first : s = k
  · simp [first]
  · by_cases second : s = i
    · simp [second, behind.ne, behind.ne']
    · simp [first, second, Equiv.swap_apply_of_ne_of_ne first second]

theorem mul_exchange_transpose :
    (a * (exchange k i)ᵀ : Matrix (Fin n) (Fin n) K) r s =
      if s = k then a r i else if s = i then -a r k else a r s := by
  have rows := exchange_mul behind aᵀ s r
  rwa [← Matrix.transpose_apply (exchange k i * aᵀ), Matrix.transpose_mul, Matrix.transpose_transpose] at rows

theorem exchange_transpose_mul :
    ((exchange k i)ᵀ * a : Matrix (Fin n) (Fin n) K) r s =
      if r = k then -a i s else if r = i then a k s else a r s := by
  have columns := mul_exchange behind aᵀ s r
  rwa [← Matrix.transpose_apply (aᵀ * exchange k i), Matrix.transpose_mul, Matrix.transpose_transpose] at columns

omit a in
theorem exchange_apply : exchange (K := K) k i r s =
    if r = k then (1 : Matrix (Fin n) (Fin n) K) i s
    else if r = i then -(1 : Matrix (Fin n) (Fin n) K) k s
    else (1 : Matrix (Fin n) (Fin n) K) r s := by
  rw [← exchange_mul behind, Matrix.mul_one]

end Exchange

theorem det_exchange (k i : Fin n) : (exchange (K := K) k i).det = 1 := by
  by_cases behind : k < i
  · rw [exchange, if_pos behind, Matrix.det_mul, Matrix.det_diagonal, Matrix.det_permutation,
      Equiv.Perm.sign_swap behind.ne, Finset.prod_ite_eq' Finset.univ i]
    simp
  · rw [exchange_of_not_lt behind, Matrix.det_one]

/-! ## Behind the first pivots -/

/-- The first `k` entries, and no others. -/
def front (k : Nat) : Matrix (Fin n) (Fin n) K := Matrix.diagonal fun r => if r.val < k then 1 else 0

/-- What goes into a matrix behind `k` pivots, from the inputs of `A`. -/
def inputs (k : Nat) (A : Matrix (Fin n) (Fin n) K) : Matrix (Fin n) (Fin n) K :=
  1 - front k - front k * A

/-- What comes out of it. -/
def outputs (k : Nat) (A : Matrix (Fin n) (Fin n) K) : Matrix (Fin n) (Fin n) K :=
  A - front k * A - front k

/-- **What the matrix holds** behind `k` pivots. -/
def Swept (k : Nat) (A a : Matrix (Fin n) (Fin n) K) : Prop := a * inputs k A = outputs k A

/-- The matrix leaves the first `k` rows and columns alone. -/
def ActsBehind (k : Nat) (E : Matrix (Fin n) (Fin n) K) : Prop :=
  front k * E = front k ∧ E * front k = front k

theorem front_mul_apply (k : Nat) (A : Matrix (Fin n) (Fin n) K) (r s : Fin n) :
    (front k * A : Matrix (Fin n) (Fin n) K) r s = if r.val < k then A r s else 0 := by
  rw [front, Matrix.diagonal_mul]
  split <;> simp

theorem mul_front_apply (k : Nat) (A : Matrix (Fin n) (Fin n) K) (r s : Fin n) :
    (A * front k : Matrix (Fin n) (Fin n) K) r s = if s.val < k then A r s else 0 := by
  rw [front, Matrix.mul_diagonal]
  split <;> simp

theorem front_apply (k : Nat) (r s : Fin n) :
    front (K := K) k r s = if r.val < k then (1 : Matrix (Fin n) (Fin n) K) r s else 0 := by
  rw [← front_mul_apply, Matrix.mul_one]

theorem inputs_apply (k : Nat) (A : Matrix (Fin n) (Fin n) K) (r s : Fin n) :
    inputs k A r s = if r.val < k then -A r s else (1 : Matrix (Fin n) (Fin n) K) r s := by
  rw [inputs, Matrix.sub_apply, Matrix.sub_apply, front_mul_apply, front_apply]
  split <;> simp

theorem outputs_apply (k : Nat) (A : Matrix (Fin n) (Fin n) K) (r s : Fin n) :
    outputs k A r s = if r.val < k then -(1 : Matrix (Fin n) (Fin n) K) r s else A r s := by
  rw [outputs, Matrix.sub_apply, Matrix.sub_apply, front_mul_apply, front_apply]
  split <;> simp

theorem inputs_zero (A : Matrix (Fin n) (Fin n) K) : inputs 0 A = 1 := by
  ext r s
  rw [inputs_apply, if_neg (Nat.not_lt_zero _)]

theorem swept_zero (A : Matrix (Fin n) (Fin n) K) : Swept 0 A A := by
  rw [Swept, inputs_zero, Matrix.mul_one]
  ext r s
  rw [outputs_apply, if_neg (Nat.not_lt_zero _)]

section Interchange

variable {k : Nat} {A a E : Matrix (Fin n) (Fin n) K}

theorem actsBehind_one (k : Nat) : ActsBehind k (1 : Matrix (Fin n) (Fin n) K) :=
  ⟨Matrix.mul_one _, Matrix.one_mul _⟩

theorem actsBehind_exchange {first : Fin n} (i : Fin n) (ready : k ≤ first.val) :
    ActsBehind k (exchange (K := K) first i) := by
  by_cases behind : first < i
  · have later : k < i.val := lt_of_le_of_lt ready behind
    constructor
    · ext r s
      rw [front_mul_apply, front_apply, exchange_apply behind]
      split
      next early =>
          rw [if_neg (by rintro rfl; omega), if_neg (by rintro rfl; omega)]
      next => rfl
    · ext r s
      rw [mul_front_apply, exchange_apply behind, front_apply]
      simp only [Matrix.one_apply]
      split
      next early =>
          have notFirst : first ≠ s := by rintro rfl; omega
          have notLast : i ≠ s := by rintro rfl; omega
          by_cases same : r = s
          · subst same
            rw [if_neg notFirst.symm, if_neg notLast.symm, if_pos rfl, if_pos early]
          · simp [notFirst, notLast, same]
      next late =>
          by_cases same : r = s
          · subst same
            rw [if_neg late]
          · simp [same]
  · rw [exchange_of_not_lt behind]
    exact actsBehind_one k

theorem ActsBehind.transpose (behind : ActsBehind k E) : ActsBehind k Eᵀ := by
  have diagonal : (front (K := K) (n := n) k)ᵀ = front k := Matrix.diagonal_transpose _
  constructor
  · have right := congrArg Matrix.transpose behind.2
    rwa [Matrix.transpose_mul, diagonal] at right
  · have left := congrArg Matrix.transpose behind.1
    rwa [Matrix.transpose_mul, diagonal] at left

theorem ActsBehind.inputs_mul (behind : ActsBehind k E) : inputs k (E * A) = inputs k A := by
  rw [inputs, inputs, ← Matrix.mul_assoc, behind.1]

/-- **Rows behind the pivots** are combined. -/
theorem Swept.rows (swept : Swept k A a) (behind : ActsBehind k E) :
    Swept k (E * A) (E * a) := by
  rw [Swept, behind.inputs_mul, Matrix.mul_assoc, swept, outputs, outputs, Matrix.mul_sub,
    Matrix.mul_sub, ← Matrix.mul_assoc, ← Matrix.mul_assoc, behind.1, behind.2]

theorem ActsBehind.mul_inputs (behind : ActsBehind k E) :
    E * inputs k (A * E) = inputs k A * E := by
  rw [inputs, inputs, Matrix.mul_sub, Matrix.mul_sub, Matrix.sub_mul, Matrix.sub_mul,
    ← Matrix.mul_assoc, behind.1, behind.2, Matrix.mul_one, Matrix.one_mul, Matrix.mul_assoc]

/-- **Columns behind the pivots** are combined. -/
theorem Swept.columns (swept : Swept k A a) (behind : ActsBehind k E) :
    Swept k (A * E) (a * E) := by
  rw [Swept, Matrix.mul_assoc, behind.mul_inputs, ← Matrix.mul_assoc, swept, outputs, outputs,
    Matrix.sub_mul, Matrix.sub_mul, behind.1, Matrix.mul_assoc]

theorem det_inputs_columns (behind : ActsBehind k E) (unit : E.det = 1) :
    (inputs k (A * E)).det = (inputs k A).det := by
  have same := congrArg Matrix.det (behind.mul_inputs (A := A))
  rwa [Matrix.det_mul, Matrix.det_mul, unit, one_mul, mul_one] at same

end Interchange

/-! ## A pivot -/

/-- The matrix with the input of a pivot exchanged for its output. -/
def sweep (a : Matrix (Fin n) (Fin n) K) (k : Fin n) : Matrix (Fin n) (Fin n) K :=
  Matrix.of fun r s =>
    if r = k then if s = k then 1 / a k k else a k s / a k k
    else if s = k then a r k / -a k k
    else a r s + a r k / -a k k * a k s

section Pivot

variable {A a B : Matrix (Fin n) (Fin n) K} {k : Fin n}

/-- A product with one row of the second factor replaced. -/
theorem mul_updateRow (S : Matrix (Fin n) (Fin n) K) (v : Fin n → K) (r s : Fin n) :
    (S * B.updateRow k v) r s = (S * B) r s + S r k * (v s - B k s) := by
  have split : B.updateRow k v = B + Matrix.vecMulVec (Pi.single k 1) (v - B k) := by
    ext i j
    by_cases here : i = k
    · subst here
      simp [Matrix.vecMulVec_apply]
    · simp [Matrix.vecMulVec_apply, here]
  rw [split, Matrix.mul_add, Matrix.add_apply, Matrix.mul_vecMulVec, Matrix.vecMulVec_apply,
    Matrix.mulVec_single_one]
  rfl

theorem sweep_mul (pivot : a k k ≠ 0) :
    sweep a k * (1 : Matrix (Fin n) (Fin n) K).updateRow k (-a k) =
      a.updateRow k (-Pi.single k 1) := by
  ext r s
  rw [mul_updateRow, Matrix.mul_one, Pi.neg_apply, Matrix.updateRow_apply, Pi.neg_apply]
  by_cases row : r = k
  · subst row
    by_cases column : s = r
    · subst column
      have corner : sweep a s s s = 1 / a s s := by simp [sweep]
      rw [corner, if_pos rfl, Pi.single_eq_same, Matrix.one_apply_eq]
      field_simp
      ring
    · have across : sweep a r r s = a r s / a r r := by simp [sweep, column]
      have corner : sweep a r r r = 1 / a r r := by simp [sweep]
      rw [across, corner, if_pos rfl, Pi.single_eq_of_ne column, Matrix.one_apply_ne' column]
      ring
  · have down : sweep a k r k = a r k / -a k k := by simp [sweep, row]
    rw [down, if_neg row]
    by_cases column : s = k
    · subst column
      rw [down, Matrix.one_apply_eq]
      field_simp
      ring
    · have inside : sweep a k r s = a r s + a r k / -a k k * a k s := by simp [sweep, row, column]
      rw [inside, Matrix.one_apply_ne' column]
      ring

theorem inputs_succ (swept : Swept k.val A a) :
    inputs (k.val + 1) A = (1 : Matrix (Fin n) (Fin n) K).updateRow k (-a k) * inputs k.val A := by
  rw [Matrix.updateRow_mul, Matrix.one_mul, Matrix.neg_vecMul]
  ext r s
  rw [inputs_apply, Matrix.updateRow_apply]
  by_cases here : r = k
  · subst here
    have row : (a r ᵥ* inputs r.val A) s = A r s := by
      show (a * inputs r.val A) r s = A r s
      rw [swept, outputs_apply, if_neg (Nat.lt_irrefl _)]
    rw [if_pos rfl, if_pos (Nat.lt_succ_self _), Pi.neg_apply, row]
  · have apart : r.val ≠ k.val := fun same => here (Fin.ext same)
    rw [if_neg here, inputs_apply]
    exact if_congr (by omega) rfl rfl

theorem outputs_succ (swept : Swept k.val A a) :
    outputs (k.val + 1) A = a.updateRow k (-Pi.single k 1) * inputs k.val A := by
  rw [Matrix.updateRow_mul, swept, Matrix.neg_vecMul, Matrix.single_one_vecMul]
  ext r s
  rw [outputs_apply, Matrix.updateRow_apply]
  by_cases here : r = k
  · subst here
    rw [if_pos rfl, if_pos (Nat.lt_succ_self _), Pi.neg_apply, Matrix.row_apply, inputs_apply,
      if_neg (Nat.lt_irrefl _)]
  · have apart : r.val ≠ k.val := fun same => here (Fin.ext same)
    rw [if_neg here, outputs_apply]
    exact if_congr (by omega) rfl rfl

/-- **A pivot exchanges one input for its output.** -/
theorem Swept.sweep (swept : Swept k.val A a) (pivot : a k k ≠ 0) :
    Swept (k.val + 1) A (sweep a k) := by
  rw [Swept, inputs_succ swept, ← Matrix.mul_assoc, sweep_mul pivot, outputs_succ swept]

/-- The pivots multiply to the determinant of what goes in. -/
theorem det_inputs_succ (swept : Swept k.val A a) :
    (inputs (k.val + 1) A).det = -a k k * (inputs k.val A).det := by
  rw [inputs_succ swept, Matrix.det_mul]
  have row : (-a k) = ∑ j, (-a k j) • (1 : Matrix (Fin n) (Fin n) K) j := by
    ext s
    simp [Finset.sum_apply, Matrix.one_apply]
  rw [row, Matrix.det_updateRow_sum, Matrix.det_one, smul_eq_mul, mul_one]

/-- **Where no pivot is left**, there is no inverse. -/
theorem Swept.singular (swept : Swept k.val A a)
    (nothing : ∀ r s : Fin n, k ≤ r → k ≤ s → a r s = 0) : A.det = 0 := by
  refine Matrix.exists_vecMul_eq_zero_iff.mp ⟨Pi.single k 1 + a k, fun zero => ?_, ?_⟩
  · have one := congrFun zero k
    rw [Pi.add_apply, Pi.single_eq_same, nothing k k le_rfl le_rfl, add_zero, Pi.zero_apply] at one
    exact one_ne_zero one
  · -- Row `k` of what comes out is row `k` of `A`, and combines the rows in front of it.
    have combined : a k ᵥ* A = -A k := by
      ext s
      have row : (a * inputs k.val A) k s = A k s := by
        rw [swept, outputs_apply, if_neg (Nat.lt_irrefl _)]
      rw [Pi.neg_apply, ← row, Matrix.mul_apply, Matrix.vecMul, dotProduct,
        ← Finset.sum_neg_distrib]
      refine Finset.sum_congr rfl fun t _ => ?_
      rw [inputs_apply]
      split
      next => ring
      next late => rw [nothing k t le_rfl (by omega)]; ring
    rw [Matrix.add_vecMul, Matrix.single_one_vecMul, combined]
    exact add_neg_cancel (A k)

end Pivot

section Last

variable {A a : Matrix (Fin n) (Fin n) K}

theorem front_all : front (K := K) (n := n) n = 1 := by
  ext r s
  rw [front_apply, if_pos r.isLt]

/-- **Behind the last pivot** the matrix is the inverse. -/
theorem Swept.inverse (swept : Swept n A a) : a * A = 1 := by
  rw [Swept, inputs, outputs, front_all] at swept
  simpa using swept

theorem det_inputs_all : (inputs n A).det = (-1) ^ n * A.det := by
  rw [inputs, front_all, sub_self, zero_sub, Matrix.one_mul, Matrix.det_neg, Fintype.card_fin]

end Last

end IsgConsole.Theory.GaussJordan
