/-
# AssistLib.Matrix — matrices of doubles, and the transformation between two sets of points

`matinvert` inverts a matrix in place: it looks for the biggest element behind the pivots it has,
brings it to the diagonal by interchanging rows and columns, one of each with the other sign, and
takes the interchanges back in the end.  `solveSystem` multiplies with the pseudo-inverse, where the
determinant is not too small, and `solveTransMatrix` solves one system for each coordinate.

The loops are loops, as they are in the source; numbers are rationals.

* `matinvert_det` — **what `matinvert` returns is the determinant**;
* `matinvert_inverse` — **what it leaves is the inverse, in any order of the pivots**;
* `solveSystem_eq` — the solution with the least error.
-/
import IsgConsole.Theory.GaussJordan
import IsgConsole.Theory.LeastSquares
import IsgConsole.Theory.Loop
import Mathlib.Algebra.Order.Field.Rat

namespace IsgConsole.AssistLib.Iliffe

open IsgConsole.Theory
open scoped Matrix

set_option autoImplicit false

/-! ## Matrices -/

/-- `dmat`, with the numbers in rows. -/
structure Dmat (rows cols : Nat) where
  mat_sto : Vector (Vector ℚ cols) rows

variable {rows cols n p q r : Nat}

/-- `a.el[i][j]`. -/
def Dmat.el (a : Dmat rows cols) : Matrix (Fin rows) (Fin cols) ℚ :=
  fun i j => a.mat_sto[i][j]

/-- `a.el[i][j] = v`. -/
def put (a : Dmat rows cols) (i : Fin rows) (j : Fin cols) (v : ℚ) : Dmat rows cols :=
  { mat_sto := a.mat_sto.set i (a.mat_sto[i].set j v) }

/-- The `dmat` that holds a matrix. -/
def Dmat.holding (M : Matrix (Fin rows) (Fin cols) ℚ) : Dmat rows cols :=
  { mat_sto := Vector.ofFn fun i => Vector.ofFn fun j => M i j }

/-- `for (i = 0; i < n; i++)`. -/
def loop {σ : Type} (n : Nat) (s : σ) (body : σ → Fin n → σ) : σ := (List.finRange n).foldl body s

/-- `newdmat`: a matrix of zeros. -/
def newdmat (rows cols : Nat) : Option (Dmat rows cols) :=
  if rows = 0 ∨ cols = 0 then none else some (.holding 0)

/-- `matmul`, for a `c` that is neither `a` nor `b`. -/
def matmul (a : Dmat p q) (b : Dmat q r) (c : Dmat p r) : Dmat p r :=
  loop p c fun c i => loop r c fun c j =>
    put c i j (loop q 0 fun t k => t + a.el i k * b.el k j)

/-- `transpose`, for an `ATrans` that is not `A`. -/
def transpose (A : Dmat p q) (ATrans : Dmat q p) : Dmat q p :=
  loop p ATrans fun atrans i => loop q atrans fun atrans j => put atrans j i (A.el i j)

/-! ## `matinvert` -/

/-- The biggest element behind the first `k` rows and columns, and where it is. -/
def biggest (a : Dmat n n) (k : Fin n) : ℚ × Fin n × Fin n :=
  loop n (a.el k k, k, k) fun s i => if i < k then s
    else loop n s fun s j => if j < k then s
      else if |a.el i j| > |s.1| then (a.el i j, i, j) else s

def interchangeRows (a : Dmat n n) (k i : Fin n) : Dmat n n :=
  if i > k then
    loop n a fun a j =>
      let hold := -a.el k j
      let a := put a k j (a.el i j)
      put a i j hold
  else a

def interchangeColumns (a : Dmat n n) (k j : Fin n) : Dmat n n :=
  if j > k then
    loop n a fun a i =>
      let hold := -a.el i k
      let a := put a i k (a.el i j)
      put a i j hold
  else a

/-- Divide column by minus pivot. -/
def divideColumn (a : Dmat n n) (k : Fin n) (biga : ℚ) : Dmat n n :=
  loop n a fun a i => if i ≠ k then put a i k (a.el i k / -biga) else a

/-- Reduce matrix. -/
def reduce (a : Dmat n n) (k : Fin n) : Dmat n n :=
  loop n a fun a i =>
    if i ≠ k then
      let hold := a.el i k
      loop n a fun a j => if j ≠ k then put a i j (a.el i j + hold * a.el k j) else a
    else a

/-- Divide row by pivot. -/
def divideRow (a : Dmat n n) (k : Fin n) (biga : ℚ) : Dmat n n :=
  loop n a fun a j => if j ≠ k then put a k j (a.el k j / biga) else a

/-- What the loop over `k` works on. -/
structure Pivoting (n : Nat) where
  a : Dmat n n
  l : Fin n → Fin n
  m : Fin n → Fin n
  det : ℚ

/-- One turn of the loop over `k`; it returns the matrix where there is no pivot. -/
def turn (s : Pivoting n) (k : Fin n) : Except (Dmat n n) (Pivoting n) :=
  let (biga, i, j) := biggest s.a k
  let a := interchangeRows s.a k i
  let a := interchangeColumns a k j
  if biga = 0 then .error a
  else
    let a := divideColumn a k biga
    let a := reduce a k
    let a := divideRow a k biga
    .ok { a := put a k k (1 / biga), l := Function.update s.l k i, m := Function.update s.m k j
          det := s.det * biga }

def restoreColumns (a : Dmat n n) (k i : Fin n) : Dmat n n :=
  if i > k then
    loop n a fun a j =>
      let hold := a.el j k
      let a := put a j k (-a.el j i)
      put a j i hold
  else a

def restoreRows (a : Dmat n n) (k j : Fin n) : Dmat n n :=
  if j > k then
    loop n a fun a i =>
      let hold := a.el k i
      let a := put a k i (-a.el j i)
      put a j i hold
  else a

/-- One of the final interchanges. -/
def restore (l m : Fin n → Fin n) (a : Dmat n n) (k : Fin n) : Dmat n n :=
  restoreRows (restoreColumns a k (l k)) k (m k)

/-- `matinvert`: what it returns, and the matrix behind it. -/
def matinvert (a : Dmat n n) : ℚ × Dmat n n :=
  match (List.finRange n).foldlM turn { a := a, l := id, m := id, det := 1 } with
  | .error a => (0, a)
  | .ok s => (s.det, (List.finRange n).dropLast.reverse.foldl (restore s.l s.m) s.a)

/-! ## Solving -/

/-- `solveSystem`: `a`, where it returns 0. -/
def solveSystem (M : Dmat rows cols) (a : Dmat cols 1) (b : Dmat rows 1) :
    Option (Dmat cols 1) :=
  if rows < cols then none
  else do
    let Mt ← newdmat cols rows
    let Mt := transpose M Mt
    let MtM ← newdmat cols cols
    let MtM := matmul Mt M MtM
    let (det, MtM) := matinvert MtM
    if |det| < 1 / 1000 then none
    else
      let Mdag ← newdmat cols rows
      let Mdag := matmul MtM Mt Mdag
      some (matmul Mdag b a)

/-- `sqrt`.  A root need not be a rational; it is only known not to be negative. -/
structure Root where
  sqrt : ℚ → ℚ
  nonneg : ∀ x, 0 ≤ sqrt x

/-- `solveTransMatrix`: `para`, and `meanErr` where it returns true. -/
def solveTransMatrix {count : Nat} (root : Root) (xs ys xd yd : Fin count → ℚ) (para : Fin 9 → ℚ) :
    (Fin 9 → ℚ) × Option ℚ :=
  match newdmat count 3, newdmat 3 1, newdmat count 1 with
  | some M, some a, some b =>
      let (M, b) := loop count (M, b) fun (M, b) i =>
        let M := put M i 0 (xs i)
        let M := put M i 1 (ys i)
        let M := put M i 2 1
        (M, put b i 0 (xd i))
      match solveSystem M a b with
      | none => (para, none)
      | some a =>
          let para := Function.update para 0 (a.el 0 0)
          let para := Function.update para 1 (a.el 1 0)
          let para := Function.update para 2 (a.el 2 0)
          let b := loop count b fun b i => put b i 0 (yd i)
          match solveSystem M a b with
          | none => (para, none)
          | some a =>
              let para := Function.update para 3 (a.el 0 0)
              let para := Function.update para 4 (a.el 1 0)
              let para := Function.update para 5 (a.el 2 0)
              let para := Function.update para 6 0
              let para := Function.update para 7 0
              let para := Function.update para 8 1
              let totalErr := loop count 0 fun totalErr i =>
                let x := para 0 * xs i + para 1 * ys i + para 2
                let y := para 3 * xs i + para 4 * ys i + para 5
                let err := root.sqrt ((x - xd i) * (x - xd i) + (y - yd i) * (y - yd i))
                totalErr + err
              (para, some (totalErr / count))
  | _, _, _ => (para, none)

/-! ## What the loops do -/

theorem put_apply (a : Dmat rows cols) (i i' : Fin rows) (j j' : Fin cols) (v : ℚ) :
    (put a i j v).el i' j' = if i' = i ∧ j' = j then v else a.el i' j' := by
  simp only [Dmat.el, put, Fin.getElem_fin, Vector.getElem_set, Fin.ext_iff, eq_comm]
  by_cases row : i.val = i'.val
  · by_cases column : j.val = j'.val <;> simp [row, column]
  · simp [row]

@[simp] theorem el_holding (M : Matrix (Fin rows) (Fin cols) ℚ) : (Dmat.holding M).el = M := by
  ext i j
  simp [Dmat.el, Dmat.holding]

theorem Dmat.ext {a b : Dmat rows cols} (same : a.el = b.el) : a = b := by
  obtain ⟨a⟩ := a
  obtain ⟨b⟩ := b
  refine congrArg Dmat.mk (Vector.ext fun i row => Vector.ext fun j column => ?_)
  exact congrFun (congrFun same ⟨i, row⟩) ⟨j, column⟩

/-- A loop whose turns each work on a part of their own. -/
theorem loop_local {σ V : Type} (P : σ → Prop) (view : σ → Fin n → V) (body : σ → Fin n → σ)
    (f : Fin n → V → V) (keep : ∀ s i, P s → P (body s i))
    (own : ∀ s i, P s → view (body s i) i = f i (view s i))
    (other : ∀ s i j, j ≠ i → view (body s i) j = view s j) {s : σ} (start : P s) (j : Fin n) :
    view (loop n s body) j = f j (view s j) := by
  rw [loop, Loop.foldl_local keep own other (List.nodup_finRange n) start,
    if_pos (List.mem_finRange j)]

theorem loop_free {σ V : Type} (view : σ → Fin n → V) (body : σ → Fin n → σ) (f : Fin n → V → V)
    (own : ∀ s i, view (body s i) i = f i (view s i))
    (other : ∀ s i j, j ≠ i → view (body s i) j = view s j) (s : σ) (j : Fin n) :
    view (loop n s body) j = f j (view s j) :=
  loop_local (fun _ => True) view body f (fun _ _ _ => trivial) (fun s i _ => own s i) other
    trivial j

/-- A loop that adds up. -/
theorem loop_sum (t : ℚ) (g : Fin n → ℚ) : loop n t (fun t k => t + g k) = t + ∑ k, g k := by
  rw [loop, Fin.sum_univ_def]
  induction List.finRange n generalizing t with
  | nil => simp
  | cons k ks ih => rw [List.foldl_cons, ih, List.map_cons, List.sum_cons, add_assoc]

/-- The rows and the columns of a matrix, as the parts a loop works on. -/
def rowOf (a : Dmat rows cols) (i : Fin rows) : Fin cols → ℚ := a.el i

def columnOf (a : Dmat rows cols) (j : Fin cols) : Fin rows → ℚ := fun i => a.el i j

theorem columnOf_put_other (a : Dmat rows cols) (i : Fin rows) {j j' : Fin cols} (apart : j' ≠ j)
    (v : ℚ) : columnOf (put a i j v) j' = columnOf a j' := by
  funext i'
  simp [columnOf, put_apply, apart]

theorem rowOf_put_other (a : Dmat rows cols) {i i' : Fin rows} (apart : i' ≠ i) (j : Fin cols)
    (v : ℚ) : rowOf (put a i j v) i' = rowOf a i' := by
  funext j'
  simp [rowOf, put_apply, apart]

theorem matmul_eq (a : Dmat p q) (b : Dmat q r) (c : Dmat p r) :
    (matmul a b c).el = a.el * b.el := by
  have inner : ∀ (c : Dmat p r) i i' j, (loop r c fun c j =>
      put c i j (loop q 0 fun t k => t + a.el i k * b.el k j)).el i' j =
        if i' = i then (a.el * b.el) i j else c.el i' j := by
    intro c i i' j
    refine congrFun (loop_free columnOf _ (fun j v i' => if i' = i then (a.el * b.el) i j else v i')
      (fun c j => ?_) (fun c j j' apart => columnOf_put_other c i apart _) c j) i'
    funext i'
    rw [columnOf, put_apply, loop_sum, zero_add, ← Matrix.mul_apply]
    simp [columnOf]
  ext i j
  refine congrFun (loop_free rowOf _ (fun i _ => (a.el * b.el) i) (fun c i => ?_)
    (fun c i i' apart => ?_) c i) j
  · funext j
    rw [rowOf, inner, if_pos rfl]
  · funext j
    rw [rowOf, inner, if_neg apart, rowOf]

theorem transpose_eq (A : Dmat p q) (ATrans : Dmat q p) : (transpose A ATrans).el = A.elᵀ := by
  have inner : ∀ (a : Dmat q p) i j i', (loop q a fun a j => put a j i (A.el i j)).el j i' =
      if i' = i then A.el i j else a.el j i' := by
    intro a i j i'
    refine congrFun (loop_free rowOf _ (fun j v i' => if i' = i then A.el i j else v i')
      (fun a j => ?_) (fun a j j' apart => rowOf_put_other a apart i _) a j) i'
    funext i'
    simp [rowOf, put_apply]
  ext j i
  refine congrFun (loop_free columnOf _ (fun i _ => A.el i) (fun a i => ?_)
    (fun a i i' apart => ?_) ATrans i) j
  · funext j
    rw [columnOf, inner, if_pos rfl]
  · funext j
    rw [columnOf, inner, if_neg apart, columnOf]

section Pivot

variable (a : Dmat n n) {k : Fin n}

/-- A loop over two rows, from what stands in both. -/
theorem loop_rows {i : Fin n} (behind : k < i) (f g : ℚ → ℚ → ℚ) (r s : Fin n) :
    (loop n a fun a j => put (put a k j (f (a.el k j) (a.el i j))) i j
      (g (a.el k j) (a.el i j))).el r s =
        if r = k then f (a.el k s) (a.el i s) else if r = i then g (a.el k s) (a.el i s)
        else a.el r s := by
  refine congrFun (loop_free columnOf _
    (fun _ v r => if r = k then f (v k) (v i) else if r = i then g (v k) (v i) else v r)
    (fun a j => ?_) (fun a j s apart => ?_) a s) r
  · funext r
    by_cases row : r = i
    · subst row
      simp [columnOf, put_apply, behind.ne']
    · simp [columnOf, put_apply, row]
  · rw [columnOf_put_other _ _ apart, columnOf_put_other _ _ apart]

/-- A loop over two columns. -/
theorem loop_columns {j : Fin n} (behind : k < j) (f g : ℚ → ℚ → ℚ) (r s : Fin n) :
    (loop n a fun a i => put (put a i k (f (a.el i k) (a.el i j))) i j
      (g (a.el i k) (a.el i j))).el r s =
        if s = k then f (a.el r k) (a.el r j) else if s = j then g (a.el r k) (a.el r j)
        else a.el r s := by
  refine congrFun (loop_free rowOf _
    (fun _ v s => if s = k then f (v k) (v j) else if s = j then g (v k) (v j) else v s)
    (fun a i => ?_) (fun a i r apart => ?_) a r) s
  · funext s
    by_cases column : s = j
    · subst column
      simp [rowOf, put_apply, behind.ne']
    · simp [rowOf, put_apply, column]
  · rw [rowOf_put_other _ apart, rowOf_put_other _ apart]

theorem interchangeRows_apply {i : Fin n} (behind : k < i) (r s : Fin n) :
    (interchangeRows a k i).el r s =
      if r = k then a.el i s else if r = i then -a.el k s else a.el r s := by
  rw [interchangeRows, if_pos behind]
  exact loop_rows a behind (fun _ y => y) (fun x _ => -x) r s

theorem interchangeColumns_apply {j : Fin n} (behind : k < j) (r s : Fin n) :
    (interchangeColumns a k j).el r s =
      if s = k then a.el r j else if s = j then -a.el r k else a.el r s := by
  rw [interchangeColumns, if_pos behind]
  exact loop_columns a behind (fun _ y => y) (fun x _ => -x) r s

theorem divideColumn_apply (biga : ℚ) (r s : Fin n) :
    (divideColumn a k biga).el r s = if r ≠ k ∧ s = k then a.el r k / -biga else a.el r s := by
  refine congrFun (loop_free rowOf _ (fun r v s => if r ≠ k ∧ s = k then v k / -biga else v s)
    (fun a i => ?_) (fun a i r apart => ?_) a r) s
  · funext s
    by_cases pivot : i = k
    · simp [rowOf, pivot]
    · simp [rowOf, put_apply, pivot]
  · split
    next => exact rowOf_put_other a apart _ _
    next => rfl

theorem divideRow_apply (biga : ℚ) (r s : Fin n) :
    (divideRow a k biga).el r s = if r = k ∧ s ≠ k then a.el k s / biga else a.el r s := by
  refine congrFun (loop_free columnOf _ (fun s v r => if r = k ∧ s ≠ k then v k / biga else v r)
    (fun a j => ?_) (fun a j s apart => ?_) a s) r
  · funext r
    by_cases pivot : j = k
    · simp [columnOf, pivot]
    · simp [columnOf, put_apply, pivot]
  · split
    next => exact columnOf_put_other a _ apart _
    next => rfl

theorem reduce_apply (r s : Fin n) :
    (reduce a k).el r s =
      if r ≠ k ∧ s ≠ k then a.el r s + a.el r k * a.el k s else a.el r s := by
  have inner : ∀ (b : Dmat n n) (i : Fin n) (hold : ℚ) r s, i ≠ k →
      (loop n b fun b j => if j ≠ k then put b i j (b.el i j + hold * b.el k j) else b).el r s =
        if r = i ∧ s ≠ k then b.el i s + hold * b.el k s else b.el r s := by
    intro b i hold r s apart
    refine congrFun (loop_free columnOf _
      (fun s v r => if r = i ∧ s ≠ k then v i + hold * v k else v r)
      (fun b j => ?_) (fun b j s apart => ?_) b s) r
    · funext r
      by_cases pivot : j = k
      · simp [columnOf, pivot]
      · simp [columnOf, put_apply, pivot]
    · split
      next => exact columnOf_put_other b _ apart _
      next => rfl
  -- Row `k` does not change, and all other rows are combined with it.
  refine congrFun (loop_local (fun b => rowOf b k = rowOf a k) rowOf _
    (fun r v s => if r ≠ k ∧ s ≠ k then v s + v k * a.el k s else v s) (fun b i same => ?_)
    (fun b i same => ?_) (fun b i r apart => ?_) rfl r) s
  · split
    next apart =>
        funext s
        rw [← same, rowOf, inner b i _ k s apart, if_neg fun this => apart this.1.symm, rowOf]
    next => exact same
  · have row : ∀ s, b.el k s = a.el k s := congrFun same
    split
    next apart =>
        funext s
        rw [rowOf, inner b i _ i s apart, row]
        simp [apart, rowOf]
    next pivot =>
        funext s
        simp [rowOf, not_not.mp pivot]
  · split
    next pivot =>
        funext s
        rw [rowOf, inner b i _ r s pivot, if_neg fun this => apart this.1, rowOf]
    next => rfl

end Pivot

/-! ## One pivot -/

open GaussJordan

theorem interchangeRows_eq (a : Dmat n n) (k i : Fin n) :
    (interchangeRows a k i).el = exchange k i * a.el := by
  by_cases behind : k < i
  · ext r s
    rw [interchangeRows_apply a behind, exchange_mul behind]
  · rw [interchangeRows, if_neg behind, exchange_of_not_lt behind, Matrix.one_mul]

theorem interchangeColumns_eq (a : Dmat n n) (k j : Fin n) :
    (interchangeColumns a k j).el = a.el * (exchange k j)ᵀ := by
  by_cases behind : k < j
  · ext r s
    rw [interchangeColumns_apply a behind, mul_exchange_transpose behind]
  · rw [interchangeColumns, if_neg behind, exchange_of_not_lt behind, Matrix.transpose_one,
      Matrix.mul_one]

/-- The interchanges bring the element to the diagonal. -/
theorem interchange_pivot (a : Dmat n n) {k i j : Fin n} (row : k ≤ i) (column : k ≤ j) :
    (interchangeColumns (interchangeRows a k i) k j).el k k = a.el i j := by
  have rows : ∀ s, (interchangeRows a k i).el k s = a.el i s := by
    intro s
    rcases row.eq_or_lt with rfl | behind
    · rw [interchangeRows, if_neg (lt_irrefl _)]
    · rw [interchangeRows_apply a behind, if_pos rfl]
  rcases column.eq_or_lt with rfl | behind
  · rw [interchangeColumns, if_neg (lt_irrefl _), rows]
  · rw [interchangeColumns_apply _ behind, if_pos rfl, rows]

/-- The three loops and the reciprocal make a pivot. -/
theorem pivot_eq (a : Dmat n n) (k : Fin n) :
    put (divideRow (reduce (divideColumn a k (a.el k k)) k) k (a.el k k)) k k (1 / a.el k k) =
      .holding (sweep a.el k) := by
  apply Dmat.ext
  rw [el_holding]
  ext r s
  rw [put_apply, divideRow_apply, reduce_apply, reduce_apply, divideColumn_apply,
    divideColumn_apply, divideColumn_apply, divideColumn_apply]
  by_cases row : r = k
  · by_cases column : s = k
    · simp [sweep, row, column]
    · simp [sweep, row, column]
  · by_cases column : s = k
    · simp [sweep, row, column]
    · simp [sweep, row, column]

/-- A turn of the inner loop of `biggest`. -/
def lookAt (a : Dmat n n) (k i : Fin n) (s : ℚ × Fin n × Fin n) (j : Fin n) : ℚ × Fin n × Fin n :=
  if j < k then s else if |a.el i j| > |s.1| then (a.el i j, i, j) else s

/-- A turn of its outer loop. -/
def lookAlong (a : Dmat n n) (k : Fin n) (s : ℚ × Fin n × Fin n) (i : Fin n) : ℚ × Fin n × Fin n :=
  if i < k then s else loop n s (lookAt a k i)

/-- An element behind the pivots. -/
def Found (a : Dmat n n) (k : Fin n) (s : ℚ × Fin n × Fin n) : Prop :=
  k ≤ s.2.1 ∧ k ≤ s.2.2 ∧ a.el s.2.1 s.2.2 = s.1

section Looking

variable {a : Dmat n n} {k i : Fin n}

theorem lookAt_found (row : k ≤ i) (s : ℚ × Fin n × Fin n) (j : Fin n) (found : Found a k s) :
    Found a k (lookAt a k i s j) := by
  unfold lookAt
  split_ifs with early bigger
  · exact found
  · exact ⟨row, not_lt.mp early, rfl⟩
  · exact found

theorem lookAlong_found (s : ℚ × Fin n × Fin n) (i : Fin n) (found : Found a k s) :
    Found a k (lookAlong a k s i) := by
  unfold lookAlong
  split
  next => exact found
  next late => exact Loop.foldl_keeps (lookAt_found (not_lt.mp late)) found

theorem le_lookAt (s : ℚ × Fin n × Fin n) (j : Fin n) : |s.1| ≤ |(lookAt a k i s j).1| := by
  unfold lookAt
  split_ifs with early bigger
  · exact le_rfl
  · exact bigger.le
  · exact le_rfl

theorem lookAt_reaches {j : Fin n} (column : k ≤ j) (s : ℚ × Fin n × Fin n) :
    |a.el i j| ≤ |(lookAt a k i s j).1| := by
  unfold lookAt
  rw [if_neg (not_lt.mpr column)]
  split
  next => exact le_rfl
  next smaller => exact not_lt.mp smaller

theorem le_lookAlong (s : ℚ × Fin n × Fin n) (i : Fin n) : |s.1| ≤ |(lookAlong a k s i).1| := by
  unfold lookAlong
  split
  next => exact le_rfl
  next => exact Loop.le_foldl (fun s : ℚ × Fin n × Fin n => |s.1|) le_lookAt _ s

theorem lookAlong_reaches {j : Fin n} (row : k ≤ i) (column : k ≤ j) (s : ℚ × Fin n × Fin n) :
    |a.el i j| ≤ |(lookAlong a k s i).1| := by
  rw [lookAlong, if_neg (not_lt.mpr row)]
  exact Loop.foldl_reaches (fun s : ℚ × Fin n × Fin n => |s.1|) le_lookAt (List.mem_finRange j)
    (lookAt_reaches column) s

end Looking

/-- The biggest element is one behind the pivots, and no other is bigger. -/
theorem biggest_spec (a : Dmat n n) (k : Fin n) :
    Found a k (biggest a k) ∧ ∀ i j, k ≤ i → k ≤ j → |a.el i j| ≤ |(biggest a k).1| := by
  have loops : biggest a k = loop n (a.el k k, k, k) (lookAlong a k) := rfl
  rw [loops]
  constructor
  · exact Loop.foldl_keeps lookAlong_found ⟨le_rfl, le_rfl, rfl⟩
  · intro i j row column
    exact Loop.foldl_reaches (fun s : ℚ × Fin n × Fin n => |s.1|) le_lookAlong
      (List.mem_finRange i) (lookAlong_reaches row column) _

/-- The matrix with row `i` and column `j` brought to `k`. -/
def brought (a : Matrix (Fin n) (Fin n) ℚ) (k i j : Fin n) : Matrix (Fin n) (Fin n) ℚ :=
  exchange k i * a * (exchange k j)ᵀ

/-- What a turn leaves. -/
def turned (s : Pivoting n) (k i j : Fin n) : Pivoting n :=
  { a := .holding (sweep (brought s.a.el k i j) k), l := Function.update s.l k i
    m := Function.update s.m k j, det := s.det * brought s.a.el k i j k k }

/-- **One turn**: a pivot behind interchanges, or nothing but zeros. -/
theorem turn_cases (s : Pivoting n) (k : Fin n) :
    (∃ a, turn s k = .error a ∧ ∀ r t, k ≤ r → k ≤ t → s.a.el r t = 0) ∨
    ∃ i j, brought s.a.el k i j k k ≠ 0 ∧ turn s k = .ok (turned s k i j) := by
  obtain ⟨⟨row, column, element⟩, greatest⟩ := biggest_spec s.a k
  by_cases zero : (biggest s.a k).1 = 0
  · left
    refine ⟨_, by rw [turn]; exact if_pos zero, fun r t behind behind' => ?_⟩
    have bound := greatest r t behind behind'
    rw [zero, abs_zero] at bound
    exact abs_nonpos_iff.mp bound
  · right
    have moved := interchange_pivot s.a row column
    rw [element] at moved
    refine ⟨(biggest s.a k).2.1, (biggest s.a k).2.2, ?_⟩
    rw [turned, brought, ← interchangeRows_eq, ← interchangeColumns_eq, ← pivot_eq, moved]
    exact ⟨zero, by rw [turn]; exact if_neg zero⟩

/-! ## Taking the interchanges back -/

theorem restoreColumns_eq (a : Dmat n n) (k i : Fin n) :
    (restoreColumns a k i).el = a.el * exchange k i := by
  unfold restoreColumns
  split
  next behind =>
      ext r s
      rw [mul_exchange behind]
      exact loop_columns a behind (fun _ y => -y) (fun x _ => x) r s
  next apart => rw [exchange_of_not_lt apart, Matrix.mul_one]

theorem restoreRows_eq (a : Dmat n n) (k j : Fin n) :
    (restoreRows a k j).el = (exchange k j)ᵀ * a.el := by
  unfold restoreRows
  split
  next behind =>
      ext r s
      rw [exchange_transpose_mul behind]
      exact loop_rows a behind (fun _ y => -y) (fun x _ => x) r s
  next apart => rw [exchange_of_not_lt apart, Matrix.transpose_one, Matrix.one_mul]

theorem restore_eq (l m : Fin n → Fin n) (a : Dmat n n) (k : Fin n) :
    (restore l m a k).el = (exchange k (m k))ᵀ * (a.el * exchange k (l k)) := by
  rw [restore, restoreRows_eq, restoreColumns_eq]

/-- The interchanges of these turns are taken back, the last first. -/
def undo (l m : Fin n → Fin n) (ks : List (Fin n)) (a : Dmat n n) : Dmat n n :=
  ks.reverse.foldl (restore l m) a

theorem undo_snoc (l m : Fin n → Fin n) (ks : List (Fin n)) (k : Fin n) (a : Dmat n n) :
    undo l m (ks ++ [k]) a = undo l m ks (restore l m a k) := by
  rw [undo, List.reverse_append]
  rfl

/-- A later turn does not change the places of the earlier ones. -/
theorem undo_update (l m : Fin n → Fin n) {ks : List (Fin n)} {k : Fin n} (fresh : k ∉ ks)
    (i j : Fin n) (a : Dmat n n) :
    undo (Function.update l k i) (Function.update m k j) ks a = undo l m ks a := by
  refine List.foldl_ext _ _ _ fun a k' there => ?_
  have apart : k' ≠ k := by
    rintro rfl
    exact fresh (List.mem_reverse.mp there)
  apply Dmat.ext
  rw [restore_eq, restore_eq, Function.update_of_ne apart, Function.update_of_ne apart]

/-- The last turn has nothing to interchange. -/
theorem undo_dropLast (l m : Fin n → Fin n) (a : Dmat n n) :
    undo l m (List.finRange n).dropLast a = undo l m (List.finRange n) a := by
  cases n with
  | zero => rfl
  | succ n =>
      have last : ∀ i, ¬ Fin.last n < i := fun i => not_lt.mpr (Fin.le_last i)
      have same : restore l m a (Fin.last n) = a := by
        apply Dmat.ext
        rw [restore_eq, exchange_of_not_lt (last _), exchange_of_not_lt (last _),
          Matrix.transpose_one, Matrix.one_mul, Matrix.mul_one]
      rw [List.finRange_succ_last, List.dropLast_concat, undo_snoc, same]

/-! ## All pivots -/

/-- **What the turns in front of `k` have reached.**  `P` and `Q` are their interchanges. -/
structure Progress (A : Matrix (Fin n) (Fin n) ℚ) (k : Nat) (s : Pivoting n)
    (P Q : Matrix (Fin n) (Fin n) ℚ) : Prop where
  rows : P.det = 1
  columns : Q.det = 1
  swept : Swept k (P * A * Q) s.a.el
  pivots : (inputs k (P * A * Q)).det = (-1) ^ k * s.det
  undone : ∀ b, (undo s.l s.m ((List.finRange n).take k) b).el = Q * b.el * P

theorem take_finRange {k : Nat} (here : k < n) :
    (List.finRange n).take (k + 1) = (List.finRange n).take k ++ [⟨k, here⟩] := by
  rw [List.take_succ_eq_append_getElem (by simpa using here), List.getElem_finRange]
  rfl

theorem not_mem_take {k : Nat} (here : k < n) :
    (⟨k, here⟩ : Fin n) ∉ (List.finRange n).take k := by
  have distinct := (List.nodup_finRange n).sublist (List.take_sublist (k + 1) _)
  rw [take_finRange here, List.nodup_append] at distinct
  exact fun there => distinct.2.2 _ there _ (List.mem_singleton_self _) rfl

/-- One more turn. -/
theorem Progress.turn {A P Q : Matrix (Fin n) (Fin n) ℚ} {k : Fin n} {s : Pivoting n}
    (progress : Progress A k.val s P Q) {i j : Fin n}
    (pivot : brought s.a.el k i j k k ≠ 0) :
    Progress A (k.val + 1) (turned s k i j) (exchange k i * P) (Q * (exchange k j)ᵀ) := by
  have rows : ActsBehind k.val (exchange (K := ℚ) k i) := actsBehind_exchange i le_rfl
  have columns : ActsBehind k.val (exchange (K := ℚ) k j)ᵀ := (actsBehind_exchange j le_rfl).transpose
  have split : exchange k i * P * A * (Q * (exchange k j)ᵀ) = brought (P * A * Q) k i j := by
    simp only [brought, Matrix.mul_assoc]
  have swept : Swept k.val (brought (P * A * Q) k i j) (brought s.a.el k i j) :=
    (progress.swept.rows rows).columns columns
  refine ⟨?_, ?_, ?_, ?_, fun b => ?_⟩
  · rw [Matrix.det_mul, det_exchange, progress.rows, mul_one]
  · rw [Matrix.det_mul, Matrix.det_transpose, det_exchange, progress.columns, mul_one]
  · rw [split]
    show Swept (k.val + 1) _ (Dmat.holding (sweep (brought s.a.el k i j) k)).el
    rw [el_holding]
    exact swept.sweep pivot
  · have interchanged : (inputs k.val (brought (P * A * Q) k i j)).det =
        (inputs k.val (P * A * Q)).det := by
      rw [brought, det_inputs_columns columns (by rw [Matrix.det_transpose, det_exchange]),
        rows.inputs_mul]
    have product : (turned s k i j).det = s.det * brought s.a.el k i j k k := rfl
    rw [split, det_inputs_succ swept, interchanged, progress.pivots, product]
    ring
  · have places : (turned s k i j).l = Function.update s.l k i ∧
        (turned s k i j).m = Function.update s.m k j := ⟨rfl, rfl⟩
    rw [places.1, places.2, take_finRange k.isLt, undo_snoc,
      undo_update _ _ (not_mem_take k.isLt), progress.undone, restore_eq, Fin.eta,
      Function.update_self, Function.update_self]
    simp only [Matrix.mul_assoc]

/-- **The turns**: they come to the last pivot, or find that there is no inverse. -/
theorem turns_cases (A : Dmat n n) {k : Nat} (within : k ≤ n) :
    let start : Pivoting n := { a := A, l := id, m := id, det := 1 }
    (∃ a, ((List.finRange n).take k).foldlM turn start = .error a ∧ A.el.det = 0) ∨
    ∃ s P Q, ((List.finRange n).take k).foldlM turn start = .ok s ∧ Progress A.el k s P Q := by
  intro start
  induction k with
  | zero =>
      refine .inr ⟨start, 1, 1, rfl, Matrix.det_one, Matrix.det_one, ?_, ?_, fun b => ?_⟩
      · rw [Matrix.one_mul, Matrix.mul_one]
        exact swept_zero A.el
      · rw [inputs_zero, Matrix.det_one, pow_zero, one_mul]
      · rw [List.take_zero, Matrix.one_mul, Matrix.mul_one]
        rfl
  | succ k ih =>
      rw [take_finRange within, List.foldlM_append]
      rcases ih (Nat.le_of_succ_le within) with ⟨a, ran, singular⟩ | ⟨s, P, Q, ran, progress⟩
      · exact .inl ⟨a, by rw [ran]; rfl, singular⟩
      · rw [ran]
        rcases turn_cases s ⟨k, within⟩ with ⟨a, stops, zeros⟩ | ⟨i, j, pivot, turns⟩
        · refine .inl ⟨a, ?_, ?_⟩
          · show [⟨k, within⟩].foldlM turn s = _
            rw [List.foldlM_cons, stops]
            rfl
          · have zero := Swept.singular (k := ⟨k, within⟩) progress.swept zeros
            rwa [Matrix.det_mul, Matrix.det_mul, progress.rows, progress.columns, one_mul,
              mul_one] at zero
        · refine .inr ⟨_, _, _, ?_, progress.turn pivot⟩
          show [⟨k, within⟩].foldlM turn s = _
          rw [List.foldlM_cons, turns]
          rfl

/-- **What `matinvert` returns and leaves.** -/
theorem matinvert_cases (A : Dmat n n) :
    ((matinvert A).1 = 0 ∧ A.el.det = 0) ∨
      ((matinvert A).1 = A.el.det ∧ (matinvert A).2.el * A.el = 1) := by
  have all : (List.finRange n).take n = List.finRange n :=
    List.take_of_length_le (List.length_finRange).le
  have cases' := turns_cases A (le_refl n)
  rw [all] at cases'
  rcases cases' with ⟨a, ran, singular⟩ | ⟨s, P, Q, ran, progress⟩
  · left
    rw [matinvert, ran]
    exact ⟨rfl, singular⟩
  · right
    have det := progress.pivots
    rw [det_inputs_all, Matrix.det_mul, Matrix.det_mul, progress.rows, progress.columns, one_mul,
      mul_one] at det
    have inverse : Q * s.a.el * P * A.el = 1 := by
      have left : s.a.el * P * A.el * Q = 1 := by
        rw [← progress.swept.inverse]
        simp only [Matrix.mul_assoc]
      rw [← mul_eq_one_comm.mp left]
      simp only [Matrix.mul_assoc]
    have undone := progress.undone s.a
    rw [all] at undone
    rw [matinvert, ran]
    dsimp only
    refine ⟨(mul_left_cancel₀ (pow_ne_zero n (by norm_num)) det).symm, ?_⟩
    show (undo s.l s.m (List.finRange n).dropLast s.a).el * A.el = 1
    rw [undo_dropLast, undone, inverse]

/-- **What it returns is the determinant.** -/
theorem matinvert_det (A : Dmat n n) : (matinvert A).1 = A.el.det := by
  rcases matinvert_cases A with ⟨zero, singular⟩ | ⟨det, -⟩
  · rw [zero, singular]
  · exact det

/-- **What it leaves is the inverse**, where there is one. -/
theorem matinvert_inverse {A : Dmat n n} (regular : A.el.det ≠ 0) :
    (matinvert A).2.el = A.el⁻¹ := by
  rcases matinvert_cases A with ⟨-, singular⟩ | ⟨-, inverse⟩
  · exact absurd singular regular
  · exact (Matrix.inv_eq_left_inv inverse).symm

example : (matinvert (.holding !![0, 2; 4, 8])).2.el = !![-1, 1 / 4; 1 / 2, 0] := by
  decide +kernel

/-! ## Systems -/

open LeastSquares

/-- The determinant is not too small. -/
def Solvable (M : Dmat rows cols) : Prop := ¬ |(M.elᵀ * M.el).det| < 1 / 1000

instance (M : Dmat rows cols) : Decidable (Solvable M) := inferInstanceAs (Decidable (¬ _))

theorem Solvable.regular {M : Dmat rows cols} (solvable : Solvable M) :
    (M.elᵀ * M.el).det ≠ 0 := by
  intro zero
  rw [Solvable, zero, abs_zero] at solvable
  exact solvable (by norm_num)

theorem newdmat_eq (some' : 0 < rows) (some'' : 0 < cols) : newdmat rows cols = some (.holding 0) :=
  if_neg (by omega)

/-- **`solveSystem`** multiplies with the pseudo-inverse. -/
theorem solveSystem_eq {M : Dmat rows cols} (enough : cols ≤ rows) (some' : 0 < cols)
    (a : Dmat cols 1) (b : Dmat rows 1) : solveSystem M a b =
      if Solvable M then some (.holding ((M.elᵀ * M.el)⁻¹ * M.elᵀ * b.el)) else none := by
  have rows' : 0 < rows := by omega
  have product : ∀ Mt c, (matmul (transpose M Mt) M c).el = M.elᵀ * M.el := by
    intro Mt c
    rw [matmul_eq, transpose_eq]
  rw [solveSystem, if_neg (by omega), newdmat_eq some' rows', newdmat_eq some' some']
  simp only [Option.bind_eq_bind, Option.bind_some, matinvert_det, product]
  by_cases solvable : Solvable M
  · rw [if_neg solvable, if_pos solvable]
    refine congrArg some (Dmat.ext ?_)
    rw [matmul_eq, matmul_eq, matinvert_inverse (by rw [product]; exact solvable.regular), product,
      transpose_eq, el_holding]
  · rw [if_pos (not_not.mp solvable), if_neg solvable]

/-! ## Points -/

section Points

variable {count : Nat}

/-- A row `x y 1` for each point. -/
def pointRows (xs ys : Fin count → ℚ) : Dmat count 3 :=
  .holding (Matrix.of fun i => ![xs i, ys i, 1])

/-- What is solved for one coordinate. -/
theorem solve_points (xs ys : Fin count → ℚ) (enough : 3 ≤ count) (a : Dmat 3 1)
    {b : Dmat count 1} {d : Fin count → ℚ} (given : ∀ i, b.el i 0 = d i) :
    (¬ Solvable (pointRows xs ys) → solveSystem (pointRows xs ys) a b = none) ∧
    (Solvable (pointRows xs ys) → ∃ a', solveSystem (pointRows xs ys) a b = some a' ∧
      Least (pointRows xs ys).el d ![a'.el 0 0, a'.el 1 0, a'.el 2 0]) := by
  rw [solveSystem_eq enough (by decide)]
  refine ⟨fun fails => if_neg fails, fun solvable => ⟨_, if_pos solvable, ?_⟩⟩
  rw [least_iff solvable.regular]
  have column : (fun i => b.el i 0) = d := funext given
  have entry : ∀ j, (((pointRows xs ys).elᵀ * (pointRows xs ys).el)⁻¹ * (pointRows xs ys).elᵀ *
      b.el) j 0 = ((((pointRows xs ys).elᵀ * (pointRows xs ys).el)⁻¹ * (pointRows xs ys).elᵀ) *ᵥ
        d) j := by
    intro j
    rw [← column]
    rfl
  funext j
  fin_cases j
  · exact entry 0
  · exact entry 1
  · exact entry 2

/-- The first loop fills both matrices. -/
theorem fill_points (xs ys xd : Fin count → ℚ) (M : Dmat count 3) (b : Dmat count 1) :
    let filled := loop count (M, b) fun (M, b) i =>
        let M := put M i 0 (xs i)
        let M := put M i 1 (ys i)
        let M := put M i 2 1
        (M, put b i 0 (xd i))
    filled.1 = pointRows xs ys ∧ ∀ i, filled.2.el i 0 = xd i := by
  intro filled
  have rows := loop_free (fun (s : Dmat count 3 × Dmat count 1) i => (rowOf s.1 i, rowOf s.2 i))
    (fun (M, b) i => (put (put (put M i 0 (xs i)) i 1 (ys i)) i 2 1, put b i 0 (xd i)))
    (fun i _ => (![xs i, ys i, 1], ![xd i])) (fun s i => ?_) (fun s i j apart => ?_) (M, b)
  · constructor
    · apply Dmat.ext
      rw [pointRows, el_holding]
      ext i j
      exact congrFun (congrArg Prod.fst (rows i)) j
    · intro i
      exact congrFun (congrArg Prod.snd (rows i)) 0
  · refine Prod.ext (funext fun j => ?_) (funext fun j => ?_)
    · fin_cases j <;> simp [rowOf, put_apply]
    · fin_cases j
      simp [rowOf, put_apply]
  · refine Prod.ext ?_ (rowOf_put_other _ apart _ _)
    exact (rowOf_put_other _ apart _ _).trans
      ((rowOf_put_other _ apart _ _).trans (rowOf_put_other _ apart _ _))

theorem fill_targets (yd : Fin count → ℚ) (b : Dmat count 1) (i : Fin count) :
    (loop count b fun b i => put b i 0 (yd i)).el i 0 = yd i := by
  refine congrFun (loop_free rowOf _ (fun i _ => ![yd i]) (fun b i => ?_)
    (fun b i j apart => rowOf_put_other b apart _ _) b i) 0
  funext j
  fin_cases j
  simp [rowOf, put_apply]

/-- **`solveTransMatrix`**: the two rows of the transformation have the least error. -/
theorem solveTransMatrix_cases (root : Root) (xs ys xd yd : Fin count → ℚ)
    (para : Fin 9 → ℚ) (enough : 3 ≤ count) :
    (¬ Solvable (pointRows xs ys) → solveTransMatrix root xs ys xd yd para = (para, none)) ∧
    (Solvable (pointRows xs ys) → ∃ para' meanErr,
      solveTransMatrix root xs ys xd yd para = (para', some meanErr) ∧ 0 ≤ meanErr ∧
        Least (pointRows xs ys).el xd ![para' 0, para' 1, para' 2] ∧
        Least (pointRows xs ys).el yd ![para' 3, para' 4, para' 5]) := by
  obtain ⟨filled, given⟩ := fill_points xs ys xd (.holding 0) (.holding 0)
  unfold solveTransMatrix
  rw [newdmat_eq (by omega) (by decide), newdmat_eq (by decide) (by decide),
    newdmat_eq (by omega) (by decide)]
  dsimp only
  dsimp only at filled given
  rw [filled]
  obtain ⟨fails, solves⟩ := solve_points xs ys enough (.holding 0) given
  constructor
  · intro unsolvable
    rw [fails unsolvable]
  · intro solvable
    obtain ⟨a, first, leastX⟩ := solves solvable
    rw [first]
    dsimp only
    have given' := fill_targets yd (loop count ((.holding 0, .holding 0) : Dmat count 3 × Dmat count 1) fun (M, b) i =>
        (put (put (put M i 0 (xs i)) i 1 (ys i)) i 2 1, put b i 0 (xd i))).2
    obtain ⟨a', second, leastY⟩ := (solve_points xs ys enough a given').2 solvable
    rw [second]
    dsimp only
    refine ⟨_, _, rfl, ?_, ?_, ?_⟩
    · rw [loop_sum, zero_add]
      exact div_nonneg (Finset.sum_nonneg fun i _ => root.nonneg _) (Nat.cast_nonneg _)
    · simpa [Function.update] using leastX
    · simpa [Function.update] using leastY

end Points

end IsgConsole.AssistLib.Iliffe
