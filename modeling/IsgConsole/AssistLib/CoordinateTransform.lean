/-
# AssistLib.CoordinateTransform — from the coordinates of an image to those of a robot

`setData` takes points of the image and of the robot, `generate` finds the transformation between
them and `transform` applies it, once it is there.  New data and `reset` take it away.

* `generate_iff` — when `generate` succeeds;
* `transform_exact` — **`transform` answers exactly while a transformation is there, and it is the
  one with the least error over the last data.**
-/
import IsgConsole.AssistLib.Matrix
import IsgConsole.Theory.Machine

namespace IsgConsole.AssistLib.CoordinateTransform

open IsgConsole.Theory IsgConsole.AssistLib.Iliffe
open scoped Matrix

set_option autoImplicit false

-- A transformation is kept as nine numbers, and a row of it has three.
local instance nine : NeZero 9 := ⟨by decide⟩
local instance three : NeZero 3 := ⟨by decide⟩

/-! ## The object -/

/-- `m_coordinateArray`; the four arrays are of one size, as `setData` asserts. -/
structure Coordinates where
  count : Nat
  imgX : Fin count → ℚ
  imgY : Fin count → ℚ
  robotX : Fin count → ℚ
  robotY : Fin count → ℚ

/-- The arrays as they are constructed, and cleared. -/
def Coordinates.clear : Coordinates :=
  { count := 0, imgX := Fin.elim0, imgY := Fin.elim0, robotX := Fin.elim0, robotY := Fin.elim0 }

/-- `CoordinateTransform`. -/
structure State where
  m_bTransform : Bool
  m_transMatrix : Fin 9 → ℚ
  m_coordinateArray : Coordinates

/-- The constructor leaves the matrix as it finds it. -/
def constructed (m_transMatrix : Fin 9 → ℚ) : State :=
  { m_bTransform := false, m_transMatrix := m_transMatrix, m_coordinateArray := .clear }

def setData (s : State) (data : Coordinates) : State :=
  { s with m_coordinateArray := data, m_bTransform := false }

def generate (root : Root) (s : State) : Bool × State :=
  let data := s.m_coordinateArray
  if data.count < 3 then (false, s)
  else
    let (m_transMatrix, meanErr) := solveTransMatrix root data.imgX data.imgY data.robotX
      data.robotY s.m_transMatrix
    let s := { s with m_transMatrix := m_transMatrix }
    match meanErr with
    | none => (false, s)
    | some meanErr =>
        if meanErr < 0 then (false, s) else (true, { s with m_bTransform := true })

/-- What it returns, and `dstX` and `dstY`, which begin as copies. -/
def transform (s : State) {pointNum : Nat} (srcX srcY : Fin pointNum → ℚ) :
    Bool × (Fin pointNum → ℚ) × (Fin pointNum → ℚ) :=
  if !s.m_bTransform then (false, srcX, srcY)
  else if pointNum > 100 then (false, srcX, srcY)
  else
    let m := s.m_transMatrix
    (true, fun i => m 0 * srcX i + m 1 * srcY i + m 2, fun i => m 3 * srcX i + m 4 * srcY i + m 5)

def reset (_ : State) : State :=
  { m_bTransform := false, m_transMatrix := fun _ => 0, m_coordinateArray := .clear }

/-! ## Calls -/

inductive Call where
  | setData (data : Coordinates)
  | generate
  | transform (pointNum : Nat) (srcX srcY : Fin pointNum → ℚ)
  | reset

/-- The call takes the transformation away. -/
def Call.Clears : Call → Prop
  | .setData _ | .reset => True
  | .generate | .transform _ _ _ => False

/-- A call, and what it returns. -/
def step (root : Root) (s : State) : Call → State × List Bool
  | .setData data => (CoordinateTransform.setData s data, [])
  | .generate =>
      let (succeeded, s) := CoordinateTransform.generate root s
      (s, [succeeded])
  | .transform _ srcX srcY => (s, [(CoordinateTransform.transform s srcX srcY).1])
  | .reset => (CoordinateTransform.reset s, [])

abbrev Turn := Machine.Transition State Call Bool

/-- The turn is a `generate` that succeeds. -/
def Generates (t : Turn) : Prop := t.event = .generate ∧ t.outputs = [true]

/-- `generate` has succeeded, and nothing has taken that away. -/
def Generated (run : List Turn) : Prop := Machine.Since Generates (fun t => ¬ t.event.Clears) run

/-- The data of the last `setData`, where no `reset` came behind it. -/
def LastData (calls : List Call) (data : Coordinates) : Prop :=
  Machine.Since (· = .setData data) (fun c => ¬ c.Clears) calls

/-! ## Affine maps -/

/-- `x' = r11 x + r12 y + tx` and `y' = r21 x + r22 y + ty`. -/
@[ext]
structure Affine where
  r11 : ℚ
  r12 : ℚ
  tx : ℚ
  r21 : ℚ
  r22 : ℚ
  ty : ℚ

namespace Affine

def apply (f : Affine) (x y : ℚ) : ℚ × ℚ :=
  (f.r11 * x + f.r12 * y + f.tx, f.r21 * x + f.r22 * y + f.ty)

/-- The squared error over the points. -/
def error (f : Affine) (data : Coordinates) : ℚ :=
  ∑ i, (((f.apply (data.imgX i) (data.imgY i)).1 - data.robotX i) ^ 2 +
    ((f.apply (data.imgX i) (data.imgY i)).2 - data.robotY i) ^ 2)

def Minimises (f : Affine) (data : Coordinates) : Prop := ∀ g : Affine, f.error data ≤ g.error data

/-- The points of the robot are those of the image, mapped. -/
def Maps (f : Affine) (data : Coordinates) : Prop :=
  ∀ i, f.apply (data.imgX i) (data.imgY i) = (data.robotX i, data.robotY i)

def rowX (f : Affine) : Fin 3 → ℚ := ![f.r11, f.r12, f.tx]

def rowY (f : Affine) : Fin 3 → ℚ := ![f.r21, f.r22, f.ty]

def ofRows (x y : Fin 3 → ℚ) : Affine :=
  { r11 := x 0, r12 := x 1, tx := x 2, r21 := y 0, r22 := y 1, ty := y 2 }

theorem rowX_ofRows (x y : Fin 3 → ℚ) : (ofRows x y).rowX = x := by
  funext j
  fin_cases j <;> rfl

theorem rowY_ofRows (x y : Fin 3 → ℚ) : (ofRows x y).rowY = y := by
  funext j
  fin_cases j <;> rfl

theorem eq_of_rows {f g : Affine} (x : f.rowX = g.rowX) (y : f.rowY = g.rowY) : f = g :=
  Affine.ext (congrFun x 0) (congrFun x 1) (congrFun x 2) (congrFun y 0) (congrFun y 1)
    (congrFun y 2)

end Affine

open LeastSquares

/-- The rows of the system for these points. -/
abbrev Coordinates.rows (data : Coordinates) : Dmat data.count 3 := pointRows data.imgX data.imgY

theorem pointRows_mulVec {count : Nat} (xs ys : Fin count → ℚ) (v : Fin 3 → ℚ) (i : Fin count) :
    ((pointRows xs ys).el *ᵥ v) i = v 0 * xs i + v 1 * ys i + v 2 := by
  rw [pointRows, el_holding]
  simp [Matrix.mulVec, dotProduct, Fin.sum_univ_three]
  ring

/-- The error of a map is that of its rows. -/
theorem error_eq (f : Affine) (data : Coordinates) :
    f.error data = squaredError data.rows.el data.robotX f.rowX +
      squaredError data.rows.el data.robotY f.rowY := by
  rw [squaredError, squaredError, ← Finset.sum_add_distrib]
  refine Finset.sum_congr rfl fun i _ => ?_
  rw [pointRows_mulVec, pointRows_mulVec]
  rfl

/-- A map has the least error when its rows have. -/
theorem minimises_iff (f : Affine) (data : Coordinates) : f.Minimises data ↔
    Least data.rows.el data.robotX f.rowX ∧ Least data.rows.el data.robotY f.rowY := by
  constructor
  · intro minimises
    constructor
    · intro z
      have below := minimises (.ofRows z f.rowY)
      rw [error_eq, error_eq, Affine.rowX_ofRows, Affine.rowY_ofRows] at below
      exact le_of_add_le_add_right below
    · intro z
      have below := minimises (.ofRows f.rowX z)
      rw [error_eq, error_eq, Affine.rowX_ofRows, Affine.rowY_ofRows] at below
      exact le_of_add_le_add_left below
  · rintro ⟨x, y⟩ g
    rw [error_eq, error_eq]
    exact add_le_add (x g.rowX) (y g.rowY)

/-- Where the system can be solved, one map has the least error. -/
theorem minimises_unique {f g : Affine} {data : Coordinates} (solvable : Solvable data.rows)
    (one : f.Minimises data) (other : g.Minimises data) : f = g := by
  rw [minimises_iff, least_iff solvable.regular, least_iff solvable.regular] at one other
  exact Affine.eq_of_rows (one.1.trans other.1.symm) (one.2.trans other.2.symm)

/-- A map between the points has no error. -/
theorem minimises_of_maps {f : Affine} {data : Coordinates} (maps : f.Maps data) :
    f.Minimises data := by
  rw [minimises_iff]
  constructor
  · refine least_of_solution (funext fun i => ?_)
    rw [pointRows_mulVec]
    exact congrArg Prod.fst (maps i)
  · refine least_of_solution (funext fun i => ?_)
    rw [pointRows_mulVec]
    exact congrArg Prod.snd (maps i)

/-! ## What is kept over all calls -/

/-- The map that a matrix stands for. -/
def mapOf (m : Fin 9 → ℚ) : Affine :=
  { r11 := m 0, r12 := m 1, tx := m 2, r21 := m 3, r22 := m 4, ty := m 5 }

/-- The system can be solved, and there are points enough for it. -/
def Coordinates.Good (data : Coordinates) : Prop := 3 ≤ data.count ∧ Solvable data.rows

/-- **What `generate` does.** -/
theorem generate_cases (root : Root) (s : State) :
    (¬ s.m_coordinateArray.Good → generate root s = (false, s)) ∧
    (s.m_coordinateArray.Good → ∃ m, generate root s =
        (true, { s with m_transMatrix := m, m_bTransform := true }) ∧
      (mapOf m).Minimises s.m_coordinateArray) := by
  set data := s.m_coordinateArray with isData
  by_cases few : data.count < 3
  · have bad : ¬ data.Good := fun good => absurd good.1 (by omega)
    exact ⟨fun _ => if_pos few, fun good => absurd good bad⟩
  · have enough : 3 ≤ data.count := not_lt.mp few
    obtain ⟨fails, solves⟩ := solveTransMatrix_cases root data.imgX data.imgY data.robotX
      data.robotY s.m_transMatrix enough
    constructor
    · intro bad
      rw [generate, if_neg few, fails fun solvable => bad ⟨enough, solvable⟩]
    · intro good
      obtain ⟨m, meanErr, solved, nonneg, leastX, leastY⟩ := solves good.2
      refine ⟨m, ?_, (minimises_iff _ _).mpr ⟨leastX, leastY⟩⟩
      rw [generate, if_neg few, solved]
      exact if_neg (not_lt.mpr nonneg)

/-- **When `generate` succeeds.** -/
theorem generate_iff (root : Root) (s : State) :
    (generate root s).1 = true ↔ s.m_coordinateArray.Good := by
  obtain ⟨fails, succeeds⟩ := generate_cases root s
  by_cases good : s.m_coordinateArray.Good
  · obtain ⟨m, done, -⟩ := succeeds good
    rw [done]
    exact iff_of_true rfl good
  · rw [fails good]
    exact iff_of_false Bool.noConfusion good

/-- **What is kept** behind every call. -/
structure Kept (run : List Turn) (s : State) : Prop where
  flag : s.m_bTransform = true ↔ Generated run
  fitted : s.m_bTransform = true →
    s.m_coordinateArray.Good ∧ (mapOf s.m_transMatrix).Minimises s.m_coordinateArray
  last : s.m_coordinateArray = .clear ∨
    LastData (run.map Machine.Transition.event) s.m_coordinateArray

theorem kept_constructed (m_transMatrix : Fin 9 → ℚ) : Kept [] (constructed m_transMatrix) where
  flag := iff_of_false Bool.noConfusion Machine.not_since_nil
  fitted set := by cases set
  last := .inl rfl

/-- A call that changes nothing but whether there is a transformation. -/
theorem Kept.lastData {run : List Turn} {s : State} (kept : Kept run s) {t : Turn}
    (keeps : ¬ t.event.Clears) : s.m_coordinateArray = .clear ∨
      LastData ((run ++ [t]).map Machine.Transition.event) s.m_coordinateArray := by
  refine kept.last.imp_right fun last => ?_
  rw [List.map_append]
  exact Machine.since_snoc.mpr (.inr ⟨keeps, last⟩)

/-- A call behind which there is no transformation. -/
theorem not_generated_of_clears {run : List Turn} {t : Turn} (clears : t.event.Clears) :
    ¬ Generated (run ++ [t]) := by
  intro generated
  rcases Machine.since_snoc.mp generated with ⟨event, -⟩ | ⟨keeps, -⟩
  · rw [event] at clears
    exact clears
  · exact keeps clears

/-- `generate` leaves a transformation where the data is good for one, and else what was there. -/
theorem Kept.generated {root : Root} {run : List Turn} {s : State} (kept : Kept run s) :
    Kept (run ++ [Machine.transition (step root) s .generate]) (generate root s).2 := by
  obtain ⟨fails, succeeds⟩ := generate_cases root s
  have answer : (Machine.transition (step root) s .generate).outputs = [(generate root s).1] := rfl
  have snoc : Generated (run ++ [Machine.transition (step root) s .generate]) ↔
      (generate root s).1 = true ∨ Generated run := by
    rw [Generated, Machine.since_snoc, Generates, answer]
    constructor
    · rintro (⟨-, outputs⟩ | ⟨-, generated⟩)
      · exact .inl (List.singleton_inj.mp outputs)
      · exact .inr generated
    · rintro (succeeded | generated)
      · exact .inl ⟨rfl, by rw [succeeded]⟩
      · exact .inr ⟨id, generated⟩
  by_cases good : s.m_coordinateArray.Good
  · obtain ⟨m, done, minimises⟩ := succeeds good
    rw [done] at snoc ⊢
    exact ⟨iff_of_true rfl (snoc.mpr (.inl rfl)), fun _ => ⟨good, minimises⟩, kept.lastData id⟩
  · rw [fails good] at snoc ⊢
    refine ⟨?_, kept.fitted, kept.lastData id⟩
    rw [kept.flag, snoc]
    exact (or_iff_right Bool.noConfusion).symm

/-- **One call.** -/
theorem Kept.call {root : Root} {run : List Turn} {s : State} (kept : Kept run s) (c : Call) :
    Kept (run ++ [Machine.transition (step root) s c]) (step root s c).1 := by
  cases c with
  | setData data =>
      refine ⟨iff_of_false Bool.noConfusion (not_generated_of_clears trivial), fun set => ?_,
        .inr ?_⟩
      · cases set
      · rw [List.map_append]
        exact Machine.since_snoc.mpr (.inl rfl)
  | reset =>
      refine ⟨iff_of_false Bool.noConfusion (not_generated_of_clears trivial), fun set => ?_,
        .inl rfl⟩
      cases set
  | transform pointNum srcX srcY =>
      refine ⟨?_, kept.fitted, kept.lastData id⟩
      rw [Generated, Machine.since_snoc, ← Generated, ← kept.flag]
      constructor
      · exact fun set => .inr ⟨id, set⟩
      · rintro (⟨event, -⟩ | ⟨-, set⟩)
        · cases event
        · exact set
  | generate => exact kept.generated

/-- **All calls.** -/
theorem kept_run (root : Root) (m_transMatrix : Fin 9 → ℚ) (calls : List Call) :
    Kept (Machine.trace (step root) (constructed m_transMatrix) calls)
      (Machine.final (step root) (constructed m_transMatrix) calls) :=
  Machine.run_induction (step root) (kept_constructed m_transMatrix) (fun _ c kept => kept.call c)
    calls

/-- **`transform` behind any calls**: it answers exactly while there is a transformation, and maps
the points by the one map with the least error over the last data; where these are images of each
other under an affine map, it is that map. -/
theorem transform_exact (root : Root) (m_transMatrix : Fin 9 → ℚ) (calls : List Call)
    {pointNum : Nat} (srcX srcY : Fin pointNum → ℚ) :
    let run := Machine.trace (step root) (constructed m_transMatrix) calls
    let answer := transform (Machine.final (step root) (constructed m_transMatrix) calls) srcX srcY
    (answer.1 = true ↔ Generated run ∧ pointNum ≤ 100) ∧
    (answer.1 = true → ∃ data f, LastData calls data ∧
      (∀ i, (answer.2.1 i, answer.2.2 i) = f.apply (srcX i) (srcY i)) ∧
      (∀ g : Affine, g.Minimises data ↔ g = f) ∧
      ∀ g : Affine, g.Maps data → g = f) := by
  intro run answer
  obtain ⟨flag, fitted, last⟩ := kept_run root m_transMatrix calls
  rw [Machine.events_trace] at last
  set s := Machine.final (step root) (constructed m_transMatrix) calls with isState
  have answers : answer.1 = true ↔ s.m_bTransform = true ∧ pointNum ≤ 100 := by
    show (transform s srcX srcY).1 = true ↔ _
    unfold transform
    cases s.m_bTransform with
    | false => simp
    | true =>
        by_cases many : pointNum > 100
        · simp [many]
        · simp [many, not_lt.mp many]
  refine ⟨by rw [answers, flag], fun answered => ?_⟩
  obtain ⟨set, few⟩ := answers.mp answered
  obtain ⟨good, minimises⟩ := fitted set
  have given : LastData calls s.m_coordinateArray := by
    refine last.resolve_left fun clear => ?_
    rw [clear] at good
    exact absurd good.1 (by decide)
  have only : ∀ g : Affine, g.Minimises s.m_coordinateArray → g = mapOf s.m_transMatrix :=
    fun g least => minimises_unique good.2 least minimises
  refine ⟨s.m_coordinateArray, mapOf s.m_transMatrix, given, fun i => ?_,
    fun g => ⟨only g, ?_⟩, fun g maps => only g (minimises_of_maps maps)⟩
  · have mapped : transform s srcX srcY = (true,
        fun i => s.m_transMatrix 0 * srcX i + s.m_transMatrix 1 * srcY i + s.m_transMatrix 2,
        fun i => s.m_transMatrix 3 * srcX i + s.m_transMatrix 4 * srcY i + s.m_transMatrix 5) := by
      rw [transform, set]
      exact if_neg (not_lt.mpr few)
    show ((transform s srcX srcY).2.1 i, (transform s srcX srcY).2.2 i) = _
    rw [mapped]
    rfl
  · rintro rfl
    exact minimises

/-- Three corners, scaled and moved. -/
def corners : Coordinates :=
  { count := 3, imgX := ![0, 1, 0], imgY := ![0, 0, 1], robotX := ![5, 7, 5], robotY := ![1, 1, 4] }

example : transform (generate { sqrt := fun _ => 0, nonneg := fun _ => le_rfl }
    (setData (constructed 0) corners)).2 ![2] ![2] = (true, ![9], ![7]) := by
  decide +kernel

end IsgConsole.AssistLib.CoordinateTransform
