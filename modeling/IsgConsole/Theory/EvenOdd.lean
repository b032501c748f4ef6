/-
# Theory.EvenOdd — inside a polygon by the even-odd rule

A point is inside when the ray from it to the right crosses the sides of the polygon an odd
number of times.  A side is taken half-open in height, its lower end in and its upper end
out, so that a ray through a vertex counts the two sides there as one crossing or as none.

`insideUpper_iff` is why the convention does not matter: off the boundary, taking the upper
end in and the lower end out gives the same answer.
-/
import Mathlib.Algebra.Order.Field.Basic
import Mathlib.Algebra.Ring.Parity
import Mathlib.Data.List.Count
import Mathlib.Tactic.Ring

namespace IsgConsole.Theory.EvenOdd

set_option autoImplicit false

/-! ## Parities of counts -/

section Parity

variable {α β : Type}

/-- An exclusive or is counted as often as its parts, up to an even number. -/
theorem countP_xor (p q : α → Bool) (xs : List α) :
    (xs.countP fun x => p x ^^ q x) % 2 = (xs.countP p + xs.countP q) % 2 := by
  induction xs with
  | nil => rfl
  | cons x xs ih =>
      simp only [List.countP_cons]
      cases p x <;> cases q x <;> simp <;> omega

end Parity

/-! ## Polygons -/

structure Point (K : Type) where
  x : K
  y : K
  deriving DecidableEq

/-- The same point with other coordinates. -/
def Point.map {K L : Type} (f : K → L) (p : Point K) : Point L := ⟨f p.x, f p.y⟩

section Sides

variable {α β : Type}

/-- The sides of a polygon: from each vertex to the next, and from the last to the first. -/
def sides (points : List α) : List (α × α) := points.zip (points.tail ++ points.take 1)

theorem sides_map (f : α → β) (points : List α) :
    sides (points.map f) = (sides points).map (Prod.map f f) := by
  rw [sides, sides, ← List.map_tail, ← List.map_take, ← List.map_append, List.zip_map]

theorem sides_fst {points : List α} {side : α × α} (there : side ∈ sides points) :
    side.1 ∈ points := (List.of_mem_zip there).1

theorem sides_snd {points : List α} {side : α × α} (there : side ∈ sides points) :
    side.2 ∈ points := by
  rcases List.mem_append.mp (List.of_mem_zip there).2 with later | first
  · exact List.mem_of_mem_tail later
  · exact List.mem_of_mem_take first

/-- Around a polygon every vertex is the start of one side .. -/
theorem countP_starts (p : α → Bool) (points : List α) :
    ((sides points).countP fun side => p side.1) = points.countP p := by
  have lengths : points.length ≤ (points.tail ++ points.take 1).length := by
    cases points with
    | nil => exact Nat.le_refl 0
    | cons first rest => simp
  calc ((sides points).countP fun side => p side.1)
      = ((sides points).map Prod.fst).countP p := List.countP_map.symm
    _ = points.countP p := by rw [sides, List.map_fst_zip lengths]

/-- .. and the end of one. -/
theorem countP_ends (p : α → Bool) (points : List α) :
    ((sides points).countP fun side => p side.2) = points.countP p := by
  have lengths : (points.tail ++ points.take 1).length ≤ points.length := by
    cases points with
    | nil => exact Nat.le_refl 0
    | cons first rest => simp
  calc ((sides points).countP fun side => p side.2)
      = ((sides points).map Prod.snd).countP p := List.countP_map.symm
    _ = (points.tail ++ points.take 1).countP p := by rw [sides, List.map_snd_zip lengths]
    _ = points.countP p := by
        cases points with
        | nil => rfl
        | cons first rest =>
            simp only [List.tail_cons, List.take_succ_cons, List.take_zero, List.countP_append,
              List.countP_cons, List.countP_nil]
            omega

end Sides

/-! ## The rule -/

section Rule

variable {K : Type} [Field K] [LinearOrder K]

/-- The side has one end above the height and the other not. -/
def straddles (y : K) (side : Point K × Point K) : Bool :=
  decide (y < side.1.y) ^^ decide (y < side.2.y)

/-- Where the side is at a height. -/
def crossing (y : K) (side : Point K × Point K) : K :=
  side.1.x + (side.2.x - side.1.x) * (y - side.1.y) / (side.2.y - side.1.y)

/-- The ray to the right crosses the side. -/
def crosses (q : Point K) (side : Point K × Point K) : Bool :=
  straddles q.y side && decide (q.x < crossing q.y side)

def crossings (q : Point K) (points : List (Point K)) : Nat := (sides points).countP (crosses q)

/-- **The even-odd rule.** -/
def Inside (q : Point K) (points : List (Point K)) : Prop := Odd (crossings q points)

instance (q : Point K) (points : List (Point K)) : Decidable (Inside q points) :=
  inferInstanceAs (Decidable (Odd _))

/-- The point lies on the side, its ends included. -/
def OnSide (q : Point K) (side : Point K × Point K) : Prop :=
  (q.x - side.1.x) * (side.2.y - side.1.y) = (q.y - side.1.y) * (side.2.x - side.1.x) ∧
    min side.1.x side.2.x ≤ q.x ∧ q.x ≤ max side.1.x side.2.x ∧
    min side.1.y side.2.y ≤ q.y ∧ q.y ≤ max side.1.y side.2.y

instance (q : Point K) (side : Point K × Point K) : Decidable (OnSide q side) :=
  inferInstanceAs (Decidable (_ ∧ _))

def OnBoundary (q : Point K) (points : List (Point K)) : Prop :=
  ∃ side ∈ sides points, OnSide q side

instance (q : Point K) (points : List (Point K)) : Decidable (OnBoundary q points) :=
  inferInstanceAs (Decidable (∃ side ∈ sides points, OnSide q side))

end Rule

/-! ## The other convention -/

section Upper

variable {K : Type} [Field K] [LinearOrder K]

/-- The side has one end below the height and the other not. -/
def straddlesUpper (y : K) (side : Point K × Point K) : Bool :=
  decide (side.1.y < y) ^^ decide (side.2.y < y)

def crossesUpper (q : Point K) (side : Point K × Point K) : Bool :=
  straddlesUpper q.y side && decide (q.x < crossing q.y side)

/-- The rule with the upper end of a side in and its lower end out. -/
def InsideUpper (q : Point K) (points : List (Point K)) : Prop :=
  Odd ((sides points).countP (crossesUpper q))

/-- The vertex is level with the point and to its right. -/
def levelRight (q : Point K) (v : Point K) : Bool := decide (v.y = q.y) && decide (q.x < v.x)

omit [LinearOrder K] in
theorem crossing_start {y : K} {side : Point K × Point K} (level : side.1.y = y) :
    crossing y side = side.1.x := by
  simp [crossing, level]

omit [LinearOrder K] in
theorem crossing_end {y : K} {side : Point K × Point K} (sloped : side.1.y ≠ side.2.y)
    (level : side.2.y = y) : crossing y side = side.2.x := by
  have differ : side.2.y - side.1.y ≠ 0 := sub_ne_zero.mpr sloped.symm
  rw [crossing, ← level, mul_div_assoc, div_self differ]
  ring

/-- The conventions differ on a side by its ends that are level with the point. -/
theorem crosses_upper {q : Point K} {side : Point K × Point K} (off : ¬ OnSide q side) :
    (crosses q side ^^ crossesUpper q side) = (levelRight q side.1 ^^ levelRight q side.2) := by
  rcases eq_or_ne side.1.y q.y with start | start
  · rcases eq_or_ne side.2.y q.y with finish | finish
    · -- both ends level: the point is to the left of both or to the right of both
      have together : (q.x < side.1.x) ↔ (q.x < side.2.x) := by
        constructor
        · intro left
          by_contra right
          apply off
          refine ⟨?_, ?_, ?_, ?_, ?_⟩ <;> simp [start, finish, left.le, not_lt.mp right]
        · intro right
          by_contra left
          apply off
          refine ⟨?_, ?_, ?_, ?_, ?_⟩ <;> simp [start, finish, right.le, not_lt.mp left]
      simp [crosses, crossesUpper, straddles, straddlesUpper, levelRight, start, finish, together]
    · simp only [crosses, crossesUpper, straddles, straddlesUpper, levelRight,
        crossing_start start, start, finish, lt_irrefl]
      rcases lt_or_gt_of_ne finish with below | above
      · simp [below, below.not_gt]
      · simp [above, above.not_gt]
  · rcases eq_or_ne side.2.y q.y with finish | finish
    · have sloped : side.1.y ≠ side.2.y := fun same => start (same.trans finish)
      simp only [crosses, crossesUpper, straddles, straddlesUpper, levelRight,
        crossing_end sloped finish, start, finish, lt_irrefl]
      rcases lt_or_gt_of_ne start with below | above
      · simp [below, below.not_gt]
      · simp [above, above.not_gt]
    · have flips : ∀ v : Point K, v.y ≠ q.y → decide (v.y < q.y) = !decide (q.y < v.y) := by
        intro v differ
        rcases lt_or_gt_of_ne differ with below | above
        · simp [below, below.not_gt]
        · simp [above, above.not_gt]
      have same : straddlesUpper q.y side = straddles q.y side := by
        rw [straddlesUpper, straddles, flips _ start, flips _ finish]
        cases decide (q.y < side.1.y) <;> cases decide (q.y < side.2.y) <;> rfl
      simp [crosses, crossesUpper, same, levelRight, start, finish]

/-- **Either end of a side may be the one that counts**, off the boundary. -/
theorem insideUpper_iff {q : Point K} {points : List (Point K)} (off : ¬ OnBoundary q points) :
    InsideUpper q points ↔ Inside q points := by
  have differ :
      ((sides points).countP fun side => crosses q side ^^ crossesUpper q side) % 2 = 0 := by
    calc ((sides points).countP fun side => crosses q side ^^ crossesUpper q side) % 2
        = ((sides points).countP fun side => levelRight q side.1 ^^ levelRight q side.2) % 2 := by
          congr 1
          apply List.countP_congr
          intro side there
          rw [crosses_upper fun on => off ⟨side, there, on⟩]
      _ = ((sides points).countP (fun side => levelRight q side.1)
            + (sides points).countP fun side => levelRight q side.2) % 2 :=
          countP_xor (levelRight q ·.1) (levelRight q ·.2) (sides points)
      _ = 0 := by
          rw [countP_starts (levelRight q), countP_ends (levelRight q)]
          omega
  rw [countP_xor] at differ
  rw [InsideUpper, Inside, crossings, Nat.odd_iff, Nat.odd_iff]
  omega

end Upper

end IsgConsole.Theory.EvenOdd
