/-
# IasCore.DefectArea — the region of a heat map

`findDefectArea_iff`: the largest region is stored and accepted as it should be, but for the
polygon test, which is made at a point whose height comes from the right border of the
region instead of its upper one.

`shrink_iff`: shrinking a large region ends, within the region and the picture; what is left
is empty when the region was one pixel wide or high, for its sides are halved.
-/
import IsgConsole.IasCore.PatchCorePt

namespace IsgConsole.IasCore.PatchCorePt

open IsgConsole.Inspector IsgConsole.Theory IsgConsole.Theory.EvenOdd IsgConsole.Theory.Loop

set_option autoImplicit false

/-! ## The largest region -/

theorem area_nonneg {oriImg : Mat} {roi : Rect} (within : roi.Within oriImg) : 0 ≤ roi.area :=
  Int.mul_nonneg within.2.1 within.2.2.2.2.1

/-- The search finds the first of the largest rectangles. -/
theorem largestRoi_eq {maybe_rois : List Rect} (nonneg : ∀ roi ∈ maybe_rois, 0 ≤ roi.area) :
    (maybe_rois = [] ∧ largestRoi maybe_rois = none) ∨
    ∃ roi, FirstLargest Rect.area maybe_rois roi ∧
      largestRoi maybe_rois = some (roi.area, roi) := by
  cases maybe_rois with
  | nil => exact Or.inl ⟨rfl, rfl⟩
  | cons first rest =>
      right
      have start : FirstLargest Rect.area [first] first := ⟨[], [], rfl, by simp, by simp⟩
      have turn : better Rect.area (0, first) first = (first.area, first) := by
        have pos := nonneg first List.mem_cons_self
        rw [better]
        split
        next => rfl
        next small =>
            have none_left : first.area = 0 := Int.le_antisymm (Int.not_lt.mp small) pos
            rw [none_left]
      obtain ⟨roi, ran, largest⟩ := start.foldl rest
      refine ⟨roi, largest, ?_⟩
      rw [largestRoi, List.head?_cons, Option.map_some, List.foldl_cons, turn, ran]

/-- The result that holds a rectangle. -/
def ofRoi (roi : Rect) : PatchCoreResult :=
  { PatchCoreResult.start with
    ltx := roi.left, lty := roi.top, rbx := roi.right, rby := roi.bottom }

theorem area_size_ofRoi (roi : Rect) : (ofRoi roi).area_size = roi.area := by
  have width : roi.right - roi.left = roi.width := by simp only [Rect.right, Rect.left]; omega
  have height : roi.bottom - roi.top = roi.height := by simp only [Rect.bottom, Rect.top]; omega
  rw [PatchCoreResult.area_size, ofRoi, width, height, Rect.area]

/-- A rectangle inside the picture is stored as it is. -/
theorem storeRoi_within {oriImg : Mat} {roi : Rect} (within : roi.Within oriImg) :
    storeRoi oriImg roi PatchCoreResult.start = ofRoi roi := by
  obtain ⟨left, -, right, top, -, bottom⟩ := within
  simp only [Rect.right, Rect.bottom] at right bottom
  rw [storeRoi, ofRoi, Int.max_eq_left left, Int.max_eq_left top, Int.min_eq_left right,
    Int.min_eq_left bottom]
  rfl

/-- What is stored in a zeroed result: the first of the largest rectangles, where it is large
enough. -/
theorem locateDefect_start (config : Config_Data) {oriImg : Mat} {heat_map : HeatMap}
    (within : ∀ roi ∈ heat_map.maybe_rois (value_threshold config heat_map), roi.Within oriImg) :
    (∃ roi, FirstLargest Rect.area (heat_map.maybe_rois (value_threshold config heat_map)) roi ∧
      config.defective_min_area ≤ roi.area ∧
      locateDefect config oriImg heat_map .start = ofRoi roi) ∨
    ((∀ roi ∈ heat_map.maybe_rois (value_threshold config heat_map),
        roi.area < config.defective_min_area) ∧
      locateDefect config oriImg heat_map .start = .start) := by
  rcases largestRoi_eq fun roi there => area_nonneg (within roi there) with
    ⟨empty, searched⟩ | ⟨roi, largest, searched⟩
  · right
    refine ⟨fun roi there => ?_, by rw [locateDefect, searched]⟩
    rw [empty] at there
    cases there
  · by_cases enough : config.defective_min_area ≤ roi.area
    · left
      refine ⟨roi, largest, enough, ?_⟩
      rw [locateDefect, searched]
      simp only [ge_iff_le, enough, if_true]
      exact storeRoi_within (within roi largest.mem)
    · right
      refine ⟨fun other there => ?_, ?_⟩
      · exact Int.lt_of_le_of_lt (largest.le there) (Int.not_le.mp enough)
      · rw [locateDefect, searched]
        simp only [ge_iff_le, enough, if_false]

/-! ## The decision -/

/-- The centre of a rectangle. -/
def centerOf (roi : Rect) : Point Int :=
  ⟨(roi.left + roi.right).tdiv 2, (roi.top + roi.bottom).tdiv 2⟩

section Decision

variable (core : PatchCorePt) (oriImg : Mat) (heat_map : HeatMap)

/-- A rectangle that is to be accepted when its centre is in the effective area. -/
structure Eligible (roi : Rect) : Prop where
  enough : core.m_config_data.defective_min_area ≤ roi.area
  nonempty : 0 < roi.area
  unsaturated : ¬ (value_threshold core.m_config_data heat_map = 255 ∧ 10000 < roi.area)

/-- What `findDefectArea` is for: a rectangle of maximal area is stored, and accepted unless
it is too small, saturated or outside the effective area. -/
structure DefectDecision : Prop where
  stores : ∀ best ∈ heat_map.maybe_rois (value_threshold core.m_config_data heat_map),
    (∀ roi ∈ heat_map.maybe_rois (value_threshold core.m_config_data heat_map),
      roi.area ≤ best.area) →
    core.m_config_data.defective_min_area ≤ best.area →
    ∃ roi ∈ heat_map.maybe_rois (value_threshold core.m_config_data heat_map),
      roi.area = best.area ∧ (core.findDefectArea oriImg heat_map .start).2 = ofRoi roi
  returns : (core.findDefectArea oriImg heat_map .start).1 = true ↔
    ∃ roi ∈ heat_map.maybe_rois (value_threshold core.m_config_data heat_map),
      (core.findDefectArea oriImg heat_map .start).2 = ofRoi roi ∧
      (∀ other ∈ heat_map.maybe_rois (value_threshold core.m_config_data heat_map),
        other.area ≤ roi.area) ∧
      Eligible core heat_map roi ∧
      (core.m_config_data.effective_area ≠ [] →
        isInPolygon (centerOf roi) core.m_config_data.effective_area = true)

/-- For the point whose height is taken from the right border, the polygon test answers what it
answers for the centre of the region. -/
def CentreHarmless : Prop :=
  ∀ roi, FirstLargest Rect.area
      (heat_map.maybe_rois (value_threshold core.m_config_data heat_map)) roi →
    Eligible core heat_map roi → core.m_config_data.effective_area ≠ [] →
    isInPolygon ⟨(roi.left + roi.right).tdiv 2, (roi.right + roi.bottom).tdiv 2⟩
        core.m_config_data.effective_area =
      isInPolygon (centerOf roi) core.m_config_data.effective_area

variable {core oriImg heat_map}

/-- What `findDefectArea` returns for a rectangle. -/
theorem accepts_ofRoi (heat_map : HeatMap) {roi : Rect} (nonneg : 0 ≤ roi.area)
    (enough : core.m_config_data.defective_min_area ≤ roi.area) :
    accepts core.m_config_data (value_threshold core.m_config_data heat_map) (ofRoi roi) = true ↔
      Eligible core heat_map roi ∧ (core.m_config_data.effective_area ≠ [] →
        isInPolygon ⟨(roi.left + roi.right).tdiv 2, (roi.right + roi.bottom).tdiv 2⟩
          core.m_config_data.effective_area = true) := by
  rw [accepts, area_size_ofRoi]
  split
  next refused =>
    constructor
    · exact fun impossible => absurd impossible Bool.false_ne_true
    · rintro ⟨⟨-, nonempty, unsaturated⟩, -⟩
      rcases refused with empty | saturated
      · omega
      · exact absurd saturated unsaturated
  next kept =>
    have eligible : Eligible core heat_map roi :=
      ⟨enough, by omega, fun saturated => kept (Or.inr saturated)⟩
    rw [and_iff_right eligible, Bool.or_eq_true, List.isEmpty_iff]
    exact or_iff_not_imp_left

theorem ofRoi_injective {one other : Rect} (same : ofRoi one = ofRoi other) : one = other := by
  obtain ⟨x, y, width, height⟩ := one
  obtain ⟨x', y', width', height'⟩ := other
  simp only [ofRoi, Rect.left, Rect.top, Rect.right, Rect.bottom, PatchCoreResult.mk.injEq,
    true_and] at same
  obtain ⟨rfl, rfl, right, bottom⟩ := same
  rw [Rect.mk.injEq]
  omega

/-- The decision where a rectangle is stored. -/
theorem decision_stored {roi : Rect} (nonneg : 0 ≤ roi.area)
    (largest : FirstLargest Rect.area
      (heat_map.maybe_rois (value_threshold core.m_config_data heat_map)) roi)
    (enough : core.m_config_data.defective_min_area ≤ roi.area)
    (stored : locateDefect core.m_config_data oriImg heat_map .start = ofRoi roi) :
    DefectDecision core oriImg heat_map ↔ CentreHarmless core heat_map := by
  have kept : (core.findDefectArea oriImg heat_map .start).2 = ofRoi roi := stored
  have returned : (core.findDefectArea oriImg heat_map .start).1 =
      accepts core.m_config_data (value_threshold core.m_config_data heat_map) (ofRoi roi) := by
    rw [findDefectArea, stored]
  have accepted := accepts_ofRoi heat_map nonneg enough
  constructor
  · rintro ⟨-, returns⟩ other first eligible configured
    obtain rfl := first.unique largest
    rw [returned, accepted, kept] at returns
    rw [Bool.eq_iff_iff]
    constructor
    · intro wrong
      obtain ⟨there, -, same, -, -, inside⟩ := returns.mp ⟨eligible, fun _ => wrong⟩
      rw [ofRoi_injective same]
      exact inside configured
    · intro inside
      exact (returns.mpr ⟨other, first.mem, rfl, fun _ there => first.le there, eligible,
        fun _ => inside⟩).2 configured
  · intro harmless
    refine ⟨fun best there maximal _ => ?_, ?_⟩
    · refine ⟨roi, largest.mem, Int.le_antisymm ?_ ?_, kept⟩
      · exact maximal roi largest.mem
      · exact largest.le there
    · rw [returned, accepted, kept]
      constructor
      · rintro ⟨eligible, wrong⟩
        refine ⟨roi, largest.mem, rfl, fun _ there => largest.le there, eligible, ?_⟩
        intro configured
        rw [← harmless roi largest eligible configured]
        exact wrong configured
      · rintro ⟨other, -, same, -, eligible, inside⟩
        obtain rfl := ofRoi_injective same
        refine ⟨eligible, fun configured => ?_⟩
        rw [harmless roi largest eligible configured]
        exact inside configured

/-- Where nothing is stored: the zeroed result has no pixel. -/
theorem decision_nothing
    (small : ∀ roi ∈ heat_map.maybe_rois (value_threshold core.m_config_data heat_map),
      roi.area < core.m_config_data.defective_min_area)
    (stored : locateDefect core.m_config_data oriImg heat_map .start = .start) :
    DefectDecision core oriImg heat_map := by
  have kept : (core.findDefectArea oriImg heat_map .start).2 = .start := stored
  have refused : (core.findDefectArea oriImg heat_map .start).1 = false := by
    have empty : PatchCoreResult.start.area_size = 0 := rfl
    rw [findDefectArea, stored]
    simp only [accepts, empty, true_or, if_true]
  constructor
  case stores =>
    intro best there _ enough
    exact absurd enough (Int.not_le.mpr (small best there))
  case returns =>
    rw [refused, kept]
    refine iff_of_false Bool.false_ne_true ?_
    rintro ⟨roi, -, same, -, eligible, -⟩
    have nothing := area_size_ofRoi roi
    rw [← same] at nothing
    exact absurd eligible.nonempty (by rw [← nothing]; decide)

/-- **The decision on the region of a heat map** is as it should be exactly where the wrong
height of its centre does no harm. -/
theorem findDefectArea_iff
    (within : ∀ roi ∈ heat_map.maybe_rois (value_threshold core.m_config_data heat_map),
      roi.Within oriImg) :
    DefectDecision core oriImg heat_map ↔ CentreHarmless core heat_map := by
  rcases locateDefect_start core.m_config_data within with
    ⟨roi, largest, enough, stored⟩ | ⟨small, stored⟩
  · exact decision_stored (area_nonneg (within roi largest.mem)) largest enough stored
  · have harmless : CentreHarmless core heat_map := by
      intro roi first eligible _
      exact absurd eligible.enough (Int.not_le.mpr (small roi first.mem))
    exact iff_of_true (decision_nothing small stored) harmless

/-- A detector for the effective area `[250, 450] × [0, 100]`. -/
def rightOfCentre : PatchCorePt :=
  { m_config_data :=
      { Config_Data.start with effective_area := [⟨250, 0⟩, ⟨450, 0⟩, ⟨450, 100⟩, ⟨250, 100⟩] }
    m_template_mat_vector := []
    point_count := fun _ _ _ => none }

/-- A picture, and a heat map of which one region of 40 by 40 pixels stands out. -/
def widePicture : Mat := { cols := 600, rows := 400, pixel := fun _ _ => 0 }

def oneRegion : HeatMap :=
  { Max_heat := 200, hist := fun _ => 0, maybe_rois := fun _ => [⟨300, 20, 40, 40⟩] }

theorem oneRegion_within : ∀ roi ∈ oneRegion.maybe_rois
    (value_threshold rightOfCentre.m_config_data oneRegion), roi.Within widePicture := by
  intro roi there
  obtain rfl := List.mem_singleton.mp there
  exact ⟨by decide, by decide, by decide, by decide, by decide, by decide⟩

/-- The theorem at a picture whose region is refused for the wrong height of its centre. -/
theorem findDefectArea_oneRegion :
    DefectDecision rightOfCentre widePicture oneRegion ↔ CentreHarmless rightOfCentre oneRegion :=
  findDefectArea_iff oneRegion_within

/-- The region lies in the effective area and is not accepted. -/
theorem findDefectArea_refuses :
    ∃ (core : PatchCorePt) (oriImg : Mat) (heat_map : HeatMap),
      (∀ roi ∈ heat_map.maybe_rois (value_threshold core.m_config_data heat_map),
        roi.Within oriImg) ∧ ¬ DefectDecision core oriImg heat_map := by
  refine ⟨rightOfCentre, widePicture, oneRegion, oneRegion_within, fun decision => ?_⟩
  have refused : (rightOfCentre.findDefectArea widePicture oneRegion .start).1 = false := by
    decide +kernel
  have accepted := decision.returns.mpr
    ⟨⟨300, 20, 40, 40⟩, List.mem_cons_self, by decide +kernel,
      fun other there => by
        obtain rfl := List.mem_singleton.mp there
        exact Int.le_refl _,
      ⟨by decide, by decide, by decide +kernel⟩, fun _ => by decide +kernel⟩
  rw [refused] at accepted
  exact Bool.false_ne_true accepted

end Decision

/-! ## Shrinking a region -/

/-- A region that is not empty, inside the picture. -/
structure InPicture (oriImg : Mat) (r : PatchCoreResult) : Prop where
  left : 0 ≤ r.ltx
  wide : r.ltx < r.rbx
  right : r.rbx ≤ oriImg.cols
  top : 0 ≤ r.lty
  high : r.lty < r.rby
  bottom : r.rby ≤ oriImg.rows

/-- A side while it shrinks: as it was, or not below 58. -/
def Shrunk (start side : Int) : Prop := side = start ∨ (58 ≤ side ∧ side ≤ start)

theorem Shrunk.turn {start side : Int} (kept : Shrunk start side) :
    Shrunk start (if side > 60 then side - 3 else side) := by
  simp only [Shrunk] at kept ⊢
  split <;> omega

/-- Of a product above 3600 one factor is above 60. -/
theorem large_side {w h : Int} (h_pos : 0 < h) (large : 3600 < w * h) : 60 < w ∨ 60 < h := by
  by_contra small
  push Not at small
  have bound : w * h ≤ 60 * 60 := Int.mul_le_mul small.1 small.2 h_pos.le (by decide)
  omega

/-- **The loop that shrinks a region ends.** -/
theorem shrinkSides_ends (width height : Int) (height_pos : 0 < height) :
    ∃ turns w h, whileLoop isLarge shrinkSides turns (width, height) = some (w, h) ∧
      Shrunk width w ∧ Shrunk height h ∧ w * h ≤ 3600 := by
  have turn : ∀ sides : Int × Int, Shrunk width sides.1 ∧ Shrunk height sides.2 →
      isLarge sides = true →
      (Shrunk width (shrinkSides sides).1 ∧ Shrunk height (shrinkSides sides).2) ∧
        (shrinkSides sides).1.toNat + (shrinkSides sides).2.toNat
          < sides.1.toNat + sides.2.toNat := by
    rintro sides ⟨kept_width, kept_height⟩ large
    have h_pos : 0 < sides.2 := by
      rcases kept_height with same | bounds <;> omega
    have one := large_side h_pos (by simpa [isLarge] using large)
    refine ⟨⟨kept_width.turn, kept_height.turn⟩, ?_⟩
    simp only [shrinkSides]
    split <;> split <;> omega
  obtain ⟨⟨w, h⟩, ran, ⟨kept_width, kept_height⟩, ended⟩ :=
    whileLoop_ends isLarge shrinkSides (fun sides => Shrunk width sides.1 ∧ Shrunk height sides.2)
      (fun sides => sides.1.toNat + sides.2.toNat) turn (s := (width, height))
      ⟨Or.inl rfl, Or.inl rfl⟩
  exact ⟨_, w, h, ran, kept_width, kept_height, by simpa [isLarge] using ended⟩

/-- One dimension of a region rebuilt around its centre from a side that has shrunk. -/
theorem rebuilt_side {start finish limit side : Int} (first : 0 ≤ start) (long : start < finish)
    (last : finish ≤ limit) (kept : Shrunk (finish - start) side) {lo hi : Int}
    (lower : lo = max (start + (finish - start).tdiv 2 - side.tdiv 2) 0)
    (upper : hi = min (start + (finish - start).tdiv 2 + side.tdiv 2) limit) :
    start ≤ lo ∧ lo ≤ hi ∧ hi ≤ finish ∧ hi - lo ≤ side ∧ (lo < hi ↔ 2 ≤ finish - start) := by
  have nonneg : 0 ≤ side := by
    rcases kept with same | bounds <;> omega
  rw [Int.tdiv_eq_ediv_of_nonneg (by omega), Int.tdiv_eq_ediv_of_nonneg nonneg] at lower upper
  rcases kept with same | bounds <;> omega

/-- What is left of a large region, whatever turns it takes: it is inside the region, and a side
of it is empty exactly when that side was one pixel long. -/
theorem shrink_spec {oriImg : Mat} {r : PatchCoreResult} (inside : InPicture oriImg r)
    (large : 3600 < r.area_size) :
    ∃ shrunk turns, (∀ more, turns ≤ more → shrink more oriImg r = some shrunk) ∧
      shrunk.area_size ≤ 3600 ∧
      (r.ltx ≤ shrunk.ltx ∧ shrunk.ltx ≤ shrunk.rbx ∧ shrunk.rbx ≤ r.rbx) ∧
      (r.lty ≤ shrunk.lty ∧ shrunk.lty ≤ shrunk.rby ∧ shrunk.rby ≤ r.rby) ∧
      (shrunk.ltx < shrunk.rbx ↔ 2 ≤ r.width) ∧ (shrunk.lty < shrunk.rby ↔ 2 ≤ r.height) := by
  obtain ⟨turns, w, h, ran, kept_width, kept_height, small⟩ :=
    shrinkSides_ends r.width r.height (Int.sub_pos_of_lt inside.high)
  have across := rebuilt_side inside.left inside.wide inside.right kept_width rfl rfl
  have down := rebuilt_side inside.top inside.high inside.bottom kept_height rfl rfl
  obtain ⟨left, wide, right, width, wide_iff⟩ := across
  obtain ⟨top, high, bottom, height, high_iff⟩ := down
  refine ⟨rebuild oriImg r w h, turns, fun more enough => ?_, ?_, ⟨left, wide, right⟩,
    ⟨top, high, bottom⟩, wide_iff, high_iff⟩
  · rw [shrink, if_pos large, whileLoop_more ran enough]
    rfl
  · have w_nonneg : 0 ≤ w := Int.le_trans (Int.sub_nonneg_of_le wide) width
    exact Int.le_trans (Int.mul_le_mul width height (Int.sub_nonneg_of_le high) w_nonneg) small

/-- The search rectangle of a region inside the picture. -/
theorem dst_rect_spec {oriImg : Mat} {r : PatchCoreResult} {expand_pixel : Int}
    (nonneg : 0 ≤ expand_pixel) (across : 0 ≤ r.ltx ∧ r.ltx ≤ r.rbx ∧ r.rbx ≤ oriImg.cols)
    (down : 0 ≤ r.lty ∧ r.lty ≤ r.rby ∧ r.rby ≤ oriImg.rows) :
    (dst_rect expand_pixel oriImg (rect r)).Within oriImg ∧
      (dst_rect expand_pixel oriImg (rect r)).left ≤ r.ltx ∧
      r.rbx ≤ (dst_rect expand_pixel oriImg (rect r)).right ∧
      (dst_rect expand_pixel oriImg (rect r)).top ≤ r.lty ∧
      r.rby ≤ (dst_rect expand_pixel oriImg (rect r)).bottom := by
  simp only [Rect.Within, dst_rect, rect, Rect.ofPoints, Rect.left, Rect.top, Rect.right,
    Rect.bottom]
  omega

/-- What shrinking a large region is for. -/
structure ShrinksWell (oriImg : Mat) (r shrunk : PatchCoreResult) : Prop where
  /-- The loop ends, and this is what it leaves. -/
  ends : ∃ turns, ∀ more, turns ≤ more → shrink more oriImg r = some shrunk
  nonempty : shrunk.ltx < shrunk.rbx ∧ shrunk.lty < shrunk.rby
  small : shrunk.area_size ≤ 3600
  inside : r.ltx ≤ shrunk.ltx ∧ shrunk.rbx ≤ r.rbx ∧ r.lty ≤ shrunk.lty ∧ shrunk.rby ≤ r.rby
  /-- The search rectangle lies inside the picture and contains the region. -/
  searched : ∀ expand_pixel, 0 ≤ expand_pixel →
    (dst_rect expand_pixel oriImg (rect shrunk)).Within oriImg ∧
      (dst_rect expand_pixel oriImg (rect shrunk)).left ≤ shrunk.ltx ∧
      shrunk.rbx ≤ (dst_rect expand_pixel oriImg (rect shrunk)).right ∧
      (dst_rect expand_pixel oriImg (rect shrunk)).top ≤ shrunk.lty ∧
      shrunk.rby ≤ (dst_rect expand_pixel oriImg (rect shrunk)).bottom

/-- Of a region that shrinks well both sides are longer than a pixel. -/
theorem ShrinksWell.long {oriImg : Mat} {r shrunk : PatchCoreResult}
    (well : ShrinksWell oriImg r shrunk) (inside : InPicture oriImg r)
    (large : 3600 < r.area_size) : 2 ≤ r.width ∧ 2 ≤ r.height := by
  obtain ⟨out, turns, ends, -, -, -, wide_iff, high_iff⟩ := shrink_spec inside large
  obtain ⟨turns', ends'⟩ := well.ends
  have same : out = shrunk := by
    have one := ends (max turns turns') (Nat.le_max_left ..)
    rw [ends' _ (Nat.le_max_right ..)] at one
    exact (Option.some.inj one).symm
  rw [same] at wide_iff high_iff
  exact ⟨wide_iff.mp well.nonempty.1, high_iff.mp well.nonempty.2⟩

/-- **A large region shrinks well** exactly when it is at least two pixels wide and high. -/
theorem shrink_iff {oriImg : Mat} {r : PatchCoreResult} (inside : InPicture oriImg r)
    (large : 3600 < r.area_size) :
    (∃ shrunk, ShrinksWell oriImg r shrunk) ↔ 2 ≤ r.width ∧ 2 ≤ r.height := by
  constructor
  · rintro ⟨shrunk, well⟩
    exact well.long inside large
  · rintro ⟨wide, high⟩
    obtain ⟨shrunk, turns, ends, small, across, down, wide_iff, high_iff⟩ :=
      shrink_spec inside large
    obtain ⟨left, -, right, top, -, bottom⟩ := inside
    refine ⟨shrunk, ⟨turns, ends⟩, ⟨wide_iff.mpr wide, high_iff.mpr high⟩, small,
      ⟨across.1, across.2.2, down.1, down.2.2⟩, fun expand_pixel nonneg => ?_⟩
    apply dst_rect_spec nonneg <;> omega

/-- The theorem at a region of 100 by 100 pixels. -/
theorem shrink_square :
    (∃ shrunk, ShrinksWell { cols := 200, rows := 200, pixel := fun _ _ => 0 }
        { PatchCoreResult.start with rbx := 100, rby := 100 } shrunk) ↔
      (2 : Int) ≤ 100 - 0 ∧ (2 : Int) ≤ 100 - 0 :=
  shrink_iff ⟨by decide, by decide, by decide, by decide, by decide, by decide⟩ (by decide)

/-- A line of 4000 pixels shrinks to nothing. -/
theorem shrink_line :
    ∃ (oriImg : Mat) (r : PatchCoreResult), InPicture oriImg r ∧ 3600 < r.area_size ∧
      ¬ ∃ shrunk, ShrinksWell oriImg r shrunk := by
  have inside : InPicture { cols := 200, rows := 4000, pixel := fun _ _ => 0 }
      { PatchCoreResult.start with ltx := 100, rbx := 101, rby := 4000 } :=
    ⟨by decide, by decide, by decide, by decide, by decide, by decide⟩
  refine ⟨_, _, inside, by decide, ?_⟩
  rintro ⟨shrunk, well⟩
  exact absurd (well.long inside (by decide)).1 (by decide)

end IsgConsole.IasCore.PatchCorePt
