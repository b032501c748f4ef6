/-
# IasCore.PatchCorePt — what becomes of a heat map

The model of a camera returns a score and a heat map.  Between two scores the picture is
judged by its largest hot region: it is searched for in the heat map, asked whether it lies
in the effective area, shrunk when it is large and compared with the template pictures.

The vision library is a parameter: the heat map is what it says of it, and the comparison
with a template a count of pixels.  `int` is taken to be wide enough for the coordinates
of a picture; `float` rounds the coordinates it is given.
-/
import Mathlib.Data.Rat.Defs
import IsgConsole.IasCore.BaseAiInference
import IsgConsole.Theory.EvenOdd
import IsgConsole.Theory.Loop

namespace IsgConsole.IasCore

open IsgConsole.Inspector IsgConsole.Theory IsgConsole.Theory.EvenOdd

set_option autoImplicit false

/-! ## Data -/

structure Config_Data where
  score_min_threshold : Rat
  score_max_threshold : Rat
  heat_threshold : Int
  heat_binary_min_area : Int
  defective_min_area : Int
  effective_area : List (Point Int)
  btemplate_match : Bool
  expand_pixel : Int
  diff_threshold : Int
  dismatched_point_threshold : Int

/-- `Config_Data` as it is constructed. -/
def Config_Data.start : Config_Data :=
  { score_min_threshold := 0, score_max_threshold := 0, heat_threshold := 150,
    heat_binary_min_area := 100, defective_min_area := 64, effective_area := [],
    btemplate_match := false, expand_pixel := 3, diff_threshold := 50,
    dismatched_point_threshold := 50 }

/-- `PatchCore_Result` as it is constructed; the score is handed on beside it. -/
def PatchCoreResult.start : PatchCoreResult :=
  { result := true, ltx := 0, lty := 0, rbx := 0, rby := 0 }

namespace PatchCoreResult

def width (r : PatchCoreResult) : Int := r.rbx - r.ltx
def height (r : PatchCoreResult) : Int := r.rby - r.lty

/-- `area_size`. -/
def area_size (r : PatchCoreResult) : Int := (r.rbx - r.ltx) * (r.rby - r.lty)

end PatchCoreResult

/-- What the vision library says of a heat map. -/
structure HeatMap where
  Max_heat : Int
  /-- The histogram: how many pixels have a heat. -/
  hist : Int → Int
  /-- The bounding rectangles of the contours, of the map scaled to the picture and binarised
  at a threshold. -/
  maybe_rois : Int → List Rect

structure PatchCorePt where
  m_config_data : Config_Data
  m_template_mat_vector : List Mat
  /-- Where the region of the picture matches the one of the template best, the number of
  pixels that differ by the threshold: `cv::matchTemplate` .. `sum_value[0] / 255`. -/
  point_count : Mat → Mat → Int → Option Int

namespace PatchCorePt

/-! ## Inside the effective area -/

/-- A natural number in single precision: 24 binary digits, to the nearest, ties to even. -/
def roundToFloat (m : Nat) : Nat :=
  let unit := 2 ^ (m.log2 - 23)
  let digits := m / unit
  let rest := m % unit
  if unit < 2 * rest ∨ (unit = 2 * rest ∧ digits % 2 = 1) then (digits + 1) * unit
  else digits * unit

/-- `(float)n`. -/
def toFloat (n : Int) : Int := n.sign * roundToFloat n.natAbs

theorem roundToFloat_of_small {m : Nat} (small : m < 2 ^ 24) : roundToFloat m = m := by
  have digits : m.log2 - 23 = 0 := by
    rcases Nat.eq_zero_or_pos m with rfl | pos
    · rfl
    · have fits : m.log2 < 24 := (Nat.log2_lt (Nat.ne_of_gt pos)).mpr small
      omega
  simp [roundToFloat, digits, Nat.mod_one]

theorem roundToFloat_pos {m : Nat} (pos : 0 < m) : 0 < roundToFloat m := by
  have unit : 0 < 2 ^ (m.log2 - 23) := Nat.two_pow_pos _
  have digits : 0 < m / 2 ^ (m.log2 - 23) := by
    refine Nat.div_pos ?_ unit
    calc 2 ^ (m.log2 - 23) ≤ 2 ^ m.log2 := Nat.pow_le_pow_right (by decide) (Nat.sub_le _ _)
      _ ≤ m := Nat.log2_self_le (Nat.ne_of_gt pos)
  unfold roundToFloat
  dsimp only
  split
  · exact Nat.mul_pos (Nat.succ_pos _) unit
  · exact Nat.mul_pos digits unit

/-- Single precision has every integer of 24 binary digits. -/
theorem toFloat_of_small {n : Int} (small : n.natAbs < 2 ^ 24) : toFloat n = n := by
  rw [toFloat, roundToFloat_of_small small, Int.sign_mul_natAbs]

/-- `x` of a side before it is rounded: the slope is a quotient of integers. -/
def intersection_x (point p1 p2 : Point Int) : Int :=
  if p1.y = p2.y then min p1.x p2.x
  else (p1.x - p2.x).tdiv (p1.y - p2.y) * (point.y - p1.y) + p1.x

/-- `x > point.x`, in single precision. -/
def isRight (point p1 p2 : Point Int) : Bool :=
  toFloat (intersection_x point p1 p2) > toFloat point.x

structure Counts where
  intersection_num : Int
  cross_num : Int

/-- One turn of the loop over the sides. -/
def countSide (point : Point Int) (counts : Counts) (side : Point Int × Point Int) : Counts :=
  let (p1, p2) := side
  if p1.y > point.y ∧ p2.y > point.y then counts
  else if p1.y < point.y ∧ p2.y < point.y then counts
  else
    { cross_num := if p1.y = point.y then counts.cross_num + 1 else counts.cross_num
      intersection_num :=
        if isRight point p1 p2 then counts.intersection_num + 1 else counts.intersection_num }

/-- `PatchCorePt::isInPolygon`; the remainder takes the sign of the difference. -/
def isInPolygon (point : Point Int) (points : List (Point Int)) : Bool :=
  let counts := (sides points).foldl (countSide point) { intersection_num := 0, cross_num := 0 }
  (counts.intersection_num - counts.cross_num).tmod 2 == 1

/-! ## The region -/

/-- `num += hist.at<float>(..)`: the counts are stored in single precision, and added in it. -/
def addCount (heat : HeatMap) (num level : Int) : Int := toFloat (num + toFloat (heat.hist level))

/-- The loop over the hottest `max_step` heats, from the `i`-th on. -/
def thresholdFrom (config : Config_Data) (heat : HeatMap) : (steps : Nat) → (i num : Int) → Int
  | 0, _, _ => config.heat_threshold
  | steps + 1, i, num =>
      let num := addCount heat num (heat.Max_heat - i)
      if num > toFloat config.heat_binary_min_area then
        let value_tmp := heat.Max_heat - i
        if value_tmp > config.heat_threshold then value_tmp else config.heat_threshold
      else thresholdFrom config heat steps (i + 1) num

/-- `value_threshold`. -/
def value_threshold (config : Config_Data) (heat : HeatMap) : Int :=
  thresholdFrom config heat 21 0 0

/-- `max_area` and `maybe_rois[n]`; the search starts with no area and the first rectangle. -/
def largestRoi (maybe_rois : List Rect) : Option (Int × Rect) :=
  maybe_rois.head?.map fun first => maybe_rois.foldl (Loop.better Rect.area) (0, first)

/-- The region as it is stored: cut to the picture. -/
def storeRoi (oriImg : Mat) (roi : Rect) (patchCoreResult : PatchCoreResult) : PatchCoreResult :=
  { patchCoreResult with
    ltx := max roi.x 0
    lty := max roi.y 0
    rbx := min (roi.x + roi.width) oriImg.cols
    rby := min (roi.y + roi.height) oriImg.rows }

/-- The result with the region of the heat map, where one is large enough. -/
def locateDefect (config : Config_Data) (oriImg : Mat) (heat_map : HeatMap)
    (patchCoreResult : PatchCoreResult) : PatchCoreResult :=
  match largestRoi (heat_map.maybe_rois (value_threshold config heat_map)) with
  | some (max_area, roi) =>
      if max_area ≥ config.defective_min_area then storeRoi oriImg roi patchCoreResult
      else patchCoreResult
  | none => patchCoreResult

/-- `center`. -/
def center (r : PatchCoreResult) : Point Int :=
  ⟨(r.ltx + r.rbx).tdiv 2, (r.rbx + r.rby).tdiv 2⟩

/-- What `findDefectArea` returns for the result it has stored. -/
def accepts (config : Config_Data) (value_threshold : Int) (r : PatchCoreResult) : Bool :=
  if r.area_size = 0 ∨ (value_threshold = 255 ∧ r.area_size > 10000) then false
  else config.effective_area.isEmpty || isInPolygon (center r) config.effective_area

/-- `PatchCorePt::findDefectArea`. -/
def findDefectArea (self : PatchCorePt) (oriImg : Mat) (heat_map : HeatMap)
    (patchCoreResult : PatchCoreResult) : Bool × PatchCoreResult :=
  let stored := locateDefect self.m_config_data oriImg heat_map patchCoreResult
  (accepts self.m_config_data (value_threshold self.m_config_data heat_map) stored, stored)

/-! ## The comparison with the templates -/

/-- `width * height > 3600`. -/
def isLarge (sides : Int × Int) : Bool := sides.1 * sides.2 > 3600

/-- One turn of the loop that shrinks a region. -/
def shrinkSides (sides : Int × Int) : Int × Int :=
  (if sides.1 > 60 then sides.1 - 3 else sides.1, if sides.2 > 60 then sides.2 - 3 else sides.2)

/-- The region rebuilt around its centre from shorter sides, cut to the picture. -/
def rebuild (oriImg : Mat) (r : PatchCoreResult) (width height : Int) : PatchCoreResult :=
  let center_point_x := r.ltx + r.width.tdiv 2
  let center_point_y := r.lty + r.height.tdiv 2
  { r with
    ltx := max (center_point_x - width.tdiv 2) 0
    lty := max (center_point_y - height.tdiv 2) 0
    rbx := min (center_point_x + width.tdiv 2) oriImg.cols
    rby := min (center_point_y + height.tdiv 2) oriImg.rows }

/-- A region of more than 3600 pixels shrunk around its centre, in at most so many turns. -/
def shrink (turns : Nat) (oriImg : Mat) (r : PatchCoreResult) : Option PatchCoreResult :=
  if r.area_size > 3600 then
    (Loop.whileLoop isLarge shrinkSides turns (r.width, r.height)).map fun (width, height) =>
      rebuild oriImg r width height
  else some r

/-- `rect`. -/
def rect (r : PatchCoreResult) : Rect := .ofPoints r.ltx r.lty r.rbx r.rby

/-- `dst_rect`: the region enlarged by `expand_pixel` on every side, cut to the picture. -/
def dst_rect (expand_pixel : Int) (oriImg : Mat) (rect : Rect) : Rect :=
  .ofPoints (max (rect.x - expand_pixel) 0) (max (rect.y - expand_pixel) 0)
    (min (rect.right + expand_pixel) oriImg.cols) (min (rect.bottom + expand_pixel) oriImg.rows)

/-- The loop over the templates: whether one of them matches. -/
def anyMatches (self : PatchCorePt) (oriImg : Mat) (rect : Rect) : List Mat → Option Bool
  | [] => some false
  | template :: templates => do
      let template_imgRoi ← template.crop (dst_rect self.m_config_data.expand_pixel oriImg rect)
      let srcRoi ← oriImg.crop rect
      let point_count ← self.point_count template_imgRoi srcRoi self.m_config_data.diff_threshold
      if point_count ≤ self.m_config_data.dismatched_point_threshold then return true
      else anyMatches self oriImg rect templates

/-- `PatchCorePt::matchTemplate`; `none` when the vision library throws, or when the loop that
shrinks the region is not over after so many turns. -/
def matchTemplate (self : PatchCorePt) (turns : Nat) (oriImg : Mat)
    (patchCoreResult : PatchCoreResult) : Option (Bool × PatchCoreResult) :=
  if self.m_template_mat_vector.isEmpty then some (true, patchCoreResult)
  else do
    let shrunk ← shrink turns oriImg patchCoreResult
    if ← self.anyMatches oriImg (rect shrunk) self.m_template_mat_vector then
      return (true, { shrunk with ltx := 0, lty := 0, rbx := 0, rby := 0 })
    else return (false, shrunk)

/-- `PatchCorePt::post_process`. -/
def post_process (self : PatchCorePt) (turns : Nat) (oriImg : Mat) (heat_map : HeatMap)
    (patchcore_score : Rat) (patchCoreResult : PatchCoreResult) : Option PatchCoreResult :=
  if patchcore_score < self.m_config_data.score_min_threshold then
    some { patchCoreResult with result := true }
  else if patchcore_score ≤ self.m_config_data.score_max_threshold then
    if !self.m_config_data.btemplate_match then some { patchCoreResult with result := true }
    else
      match self.findDefectArea oriImg heat_map patchCoreResult with
      | (true, found) => do
          let (isMatch, compared) ← self.matchTemplate turns oriImg found
          return { compared with result := isMatch }
      | (false, found) => some { found with result := true }
  else
    some (self.findDefectArea oriImg heat_map { patchCoreResult with result := false }).2

end PatchCorePt

end IsgConsole.IasCore
