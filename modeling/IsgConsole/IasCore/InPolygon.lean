/-
# IasCore.InPolygon — the polygon test against the even-odd rule

`isInPolygon` counts the sides that meet the horizontal line of the point to its right, ends
included, and takes off one for every vertex on that line.  The even-odd rule counts the
sides crossed, half-open in height.  `isInPolygon_evenOdd_iff` is where the two agree: the
test is off by one for every side that the quotient of integers (or single precision)
puts on the wrong side of the point, for every vertex level with it, and for every side to
its right whose upper end is level with it; and where more vertices are taken off than sides
were counted, the remainder is not 1 and the answer is no.
-/
import Mathlib.Algebra.Field.Rat
import Mathlib.Algebra.Order.Ring.Rat
import Mathlib.Data.Rat.Cast.Order
import Mathlib.Tactic.FieldSimp
import Mathlib.Tactic.LinearCombination
import IsgConsole.IasCore.PatchCorePt

namespace IsgConsole.IasCore.PatchCorePt

open IsgConsole.Theory IsgConsole.Theory.EvenOdd

set_option autoImplicit false

/-! ## The sides on the line of a point -/

/-- A point with rational coordinates. -/
def toRat (p : Point Int) : Point Rat := p.map fun n : Int => (n : Rat)

/-- The side has a point level with this one, its ends included. -/
def meets (point : Point Int) (side : Point Int × Point Int) : Bool :=
  !(decide (side.1.y > point.y) && decide (side.2.y > point.y)) &&
    !(decide (side.1.y < point.y) && decide (side.2.y < point.y))

def level (point v : Point Int) : Bool := v.y = point.y

/-- The side meets the line of the point to its right: exactly, and of a level side its left
end. -/
def exactRight (point : Point Int) (side : Point Int × Point Int) : Bool :=
  if side.1.y = side.2.y then point.x < min side.1.x side.2.x
  else (point.x : Rat) < crossing (point.y : Rat) (Prod.map toRat toRat side)

/-- The side meets the line on one side of the point and is taken to meet it on the other. -/
def misplaced (point : Point Int) (side : Point Int × Point Int) : Bool :=
  meets point side && (isRight point side.1 side.2 ^^ exactRight point side)

/-- The side is to the right, and its upper end is level with the point. -/
def endsRight (point : Point Int) (side : Point Int × Point Int) : Bool :=
  exactRight point side && decide (max side.1.y side.2.y = point.y)

/-- Everything that puts the test off by one. -/
def slips (point : Point Int) (points : List (Point Int)) : Nat :=
  (sides points).countP (misplaced point) + points.countP (level point)
    + (sides points).countP (endsRight point)

/-- More vertices are level with the point than sides are taken to meet its line to its
right. -/
def Outnumbered (point : Point Int) (points : List (Point Int)) : Prop :=
  ((sides points).countP fun side => meets point side && isRight point side.1 side.2)
    < points.countP (level point)

instance (point : Point Int) (points : List (Point Int)) : Decidable (Outnumbered point points) :=
  inferInstanceAs (Decidable (_ < _))

/-! ## What the loop counts -/

theorem countSide_eq (point : Point Int) (counts : Counts) (side : Point Int × Point Int) :
    countSide point counts side =
      { intersection_num := counts.intersection_num
          + (if meets point side && isRight point side.1 side.2 then 1 else 0)
        cross_num := counts.cross_num + (if level point side.1 then 1 else 0) } := by
  obtain ⟨p1, p2⟩ := side
  rw [countSide]
  by_cases above : p1.y > point.y ∧ p2.y > point.y
  · have unlevel : ¬ p1.y = point.y := by omega
    simp [meets, level, above, unlevel]
  · rw [if_neg above]
    by_cases below : p1.y < point.y ∧ p2.y < point.y
    · have unlevel : ¬ p1.y = point.y := by omega
      simp [meets, level, below, unlevel]
    · rw [if_neg below]
      have met : meets point (p1, p2) = true := by simpa [meets] using ⟨by omega, by omega⟩
      simp only [met, Bool.true_and, level, decide_eq_true_eq]
      congr 1 <;> split <;> simp

/-- The loop counts the sides that meet the line to the right, and the level vertices. -/
theorem foldl_countSide (point : Point Int) (xs : List (Point Int × Point Int)) (counts : Counts) :
    xs.foldl (countSide point) counts =
      { intersection_num := counts.intersection_num
          + xs.countP fun side => meets point side && isRight point side.1 side.2
        cross_num := counts.cross_num + xs.countP fun side => level point side.1 } := by
  induction xs generalizing counts with
  | nil => simp
  | cons side rest ih =>
      rw [List.foldl_cons, ih, countSide_eq]
      simp only [List.countP_cons, Nat.cast_add, Nat.cast_ite, Nat.cast_one, Nat.cast_zero]
      congr 1 <;> omega

/-- The test on the two counts. -/
theorem isInPolygon_iff (point : Point Int) (points : List (Point Int)) :
    isInPolygon point points = true ↔
      ¬ Outnumbered point points ∧
        (((sides points).countP fun side => meets point side && isRight point side.1 side.2)
          + points.countP (level point)) % 2 = 1 := by
  rw [isInPolygon, foldl_countSide, Outnumbered, countP_starts (level point)]
  simp only [zero_add, beq_iff_eq]
  generalize ((sides points).countP fun side => meets point side && isRight point side.1 side.2) = i
  generalize points.countP (level point) = c
  rcases Nat.lt_or_ge i c with fewer | enough
  · have signed : ((i : Int) - c).tmod 2 ≤ 0 := by
      have flipped : ((c : Int) - i).tmod 2 = ((c : Int) - i) % 2 :=
        Int.tmod_eq_emod_of_nonneg (by omega)
      rw [← Int.neg_sub, Int.neg_tmod, flipped]
      omega
    constructor
    · omega
    · exact fun ⟨notFewer, _⟩ => absurd fewer notFewer
  · rw [Int.tmod_eq_emod_of_nonneg (by omega)]
    omega

/-! ## Where the counts agree -/

theorem straddles_toRat (point : Point Int) (side : Point Int × Point Int) :
    straddles (toRat point).y (Prod.map toRat toRat side) =
      (decide (point.y < side.1.y) ^^ decide (point.y < side.2.y)) := by
  simp [straddles, toRat, Point.map]

/-- A side that meets the line crosses it or ends on it from below. -/
theorem meets_eq (point : Point Int) (side : Point Int × Point Int) :
    meets point side =
      ((decide (point.y < side.1.y) ^^ decide (point.y < side.2.y))
        ^^ decide (max side.1.y side.2.y = point.y)) := by
  have upper : decide (max side.1.y side.2.y = point.y) =
      (!(decide (side.1.y < point.y) && decide (side.2.y < point.y)) &&
        (!decide (point.y < side.1.y) && !decide (point.y < side.2.y))) := by
    simp only [← decide_not, ← Bool.decide_and]
    rw [decide_eq_decide]
    omega
  rw [upper, meets]
  have apart : ∀ y : Int, point.y < y → ¬ y < point.y := fun y => by omega
  by_cases start : point.y < side.1.y <;> by_cases finish : point.y < side.2.y <;>
    simp [start, finish, apart]

/-- On one side, the test is off from the rule exactly at a slip. -/
theorem side_parity (point : Point Int) (side : Point Int × Point Int) :
    ((meets point side && isRight point side.1 side.2)
      ^^ crosses (toRat point) (Prod.map toRat toRat side)) =
      (misplaced point side ^^ endsRight point side) := by
  have crossed : crosses (toRat point) (Prod.map toRat toRat side) =
      ((decide (point.y < side.1.y) ^^ decide (point.y < side.2.y)) && exactRight point side) := by
    rw [crosses, straddles_toRat, exactRight]
    split
    next flat => simp [flat]
    next => rfl
  rw [crossed, misplaced, endsRight, meets_eq]
  cases decide (point.y < side.1.y) ^^ decide (point.y < side.2.y) <;>
    cases decide (max side.1.y side.2.y = point.y) <;>
    cases isRight point side.1 side.2 <;> cases exactRight point side <;> rfl

/-- Sides counted and sides crossed differ in parity by the slips that are no vertices. -/
theorem counts_parity (point : Point Int) (points : List (Point Int)) :
    (((sides points).countP fun side => meets point side && isRight point side.1 side.2)
      + crossings (toRat point) (points.map toRat)) % 2 =
    ((sides points).countP (misplaced point) + (sides points).countP (endsRight point)) % 2 := by
  rw [crossings, sides_map, List.countP_map, ← countP_xor, ← countP_xor]
  congr 1
  apply List.countP_congr
  intro side _
  rw [Function.comp_apply, side_parity]

/-- Where no more vertices are taken off than sides were counted, the slips decide. -/
theorem isInPolygon_counted {point : Point Int} {points : List (Point Int)}
    (counted : ¬ Outnumbered point points) :
    (isInPolygon point points = true ↔ Inside (toRat point) (points.map toRat)) ↔
      Even (slips point points) := by
  have parity := counts_parity point points
  rw [isInPolygon_iff, Inside, Nat.odd_iff, and_iff_right counted, Nat.even_iff, slips]
  omega

/-- **The polygon test is the even-odd rule** where its slips are even in number; where more
vertices are taken off than sides were counted, where the point is not inside. -/
theorem isInPolygon_evenOdd_iff (point : Point Int) (points : List (Point Int)) :
    (isInPolygon point points = true ↔ Inside (toRat point) (points.map toRat)) ↔
      if Outnumbered point points then ¬ Inside (toRat point) (points.map toRat)
      else Even (slips point points) := by
  split
  next outnumbered =>
    rw [isInPolygon_iff]
    constructor
    · intro agree inside
      exact (agree.mpr inside).1 outnumbered
    · intro outside
      exact ⟨fun found => absurd outnumbered found.1, fun inside => absurd inside outside⟩
  next counted => exact isInPolygon_counted counted

/-- Off the boundary the test is as right for the rule with upper ends. -/
theorem isInPolygon_upper_iff {point : Point Int} {points : List (Point Int)}
    (off : ¬ OnBoundary (toRat point) (points.map toRat)) :
    (isInPolygon point points = true ↔ InsideUpper (toRat point) (points.map toRat)) ↔
      (isInPolygon point points = true ↔ Inside (toRat point) (points.map toRat)) := by
  rw [insideUpper_iff off]

/-- The centre of a square that stands on its corner is taken to be outside: both vertices
level with it are taken off the two sides to its right. -/
theorem isInPolygon_diamond :
    ∃ (point : Point Int) (points : List (Point Int)), 3 ≤ points.length ∧
      ¬ OnBoundary (toRat point) (points.map toRat) ∧
      ¬ (isInPolygon point points = true ↔ Inside (toRat point) (points.map toRat)) := by
  refine ⟨⟨100, 100⟩, [⟨100, 0⟩, ⟨200, 100⟩, ⟨100, 200⟩, ⟨0, 100⟩], by decide, ?_, ?_⟩
  · decide +kernel
  · decide +kernel

/-! ## Sides without a slip -/

/-- A side whose slope is an integer, and the point, at coordinates that single precision has,
are where they are taken to be. -/
theorem not_misplaced {point : Point Int} {side : Point Int × Point Int}
    (slope : side.1.y - side.2.y ∣ side.1.x - side.2.x) (here : point.x.natAbs < 2 ^ 24)
    (there : (intersection_x point side.1 side.2).natAbs < 2 ^ 24) :
    misplaced point side = false := by
  have same : isRight point side.1 side.2 = exactRight point side := by
    rw [isRight, toFloat_of_small here, toFloat_of_small there, exactRight, intersection_x]
    by_cases flat : side.1.y = side.2.y
    · simp [flat]
    · rw [if_neg flat, if_neg flat, decide_eq_decide]
      obtain ⟨k, run⟩ := slope
      have differ : (side.2.y : Rat) - side.1.y ≠ 0 :=
        sub_ne_zero.mpr (Int.cast_injective.ne (Ne.symm flat))
      have quotient : (side.1.x - side.2.x).tdiv (side.1.y - side.2.y) = k := by
        rw [run]
        exact Int.mul_tdiv_cancel_left k (by omega)
      have rise : (side.2.x : Rat) - side.1.x = k * (side.2.y - side.1.y) := by
        have cast : ((side.1.x - side.2.x : Int) : Rat) = ((side.1.y - side.2.y) * k : Int) := by
          rw [run]
        push_cast at cast
        linear_combination -cast
      have met : crossing (point.y : Rat) (Prod.map toRat toRat side) =
          ((k * (point.y - side.1.y) + side.1.x : Int) : Rat) := by
        simp only [crossing, Prod.map_fst, Prod.map_snd, toRat, Point.map]
        rw [rise]
        push_cast
        field_simp
        ring
      rw [met, quotient, Int.cast_lt]
  simp [misplaced, same]

/-- **Where the test is right**: no vertex level with the point, and no side misplaced. -/
theorem isInPolygon_of_exact {point : Point Int} {points : List (Point Int)}
    (apart : ∀ v ∈ points, v.y ≠ point.y)
    (placed : ∀ side ∈ sides points, misplaced point side = false) :
    isInPolygon point points = true ↔ Inside (toRat point) (points.map toRat) := by
  have levels : points.countP (level point) = 0 := by
    rw [List.countP_eq_zero]
    intro v there
    simp [level, apart v there]
  have ends : (sides points).countP (endsRight point) = 0 := by
    rw [List.countP_eq_zero]
    intro side there
    have start := apart _ (sides_fst there)
    have finish := apart _ (sides_snd there)
    have upper : max side.1.y side.2.y ≠ point.y := by omega
    simp [endsRight, upper]
  have moved : (sides points).countP (misplaced point) = 0 := by
    rw [List.countP_eq_zero]
    intro side there
    simp [placed side there]
  rw [isInPolygon_counted (by simp [Outnumbered, levels]), slips, levels, ends, moved]
  exact ⟨0, rfl⟩

end IsgConsole.IasCore.PatchCorePt
