/-
# IasCore.Letterbox — the picture and the square

The network sees a square of 640 by 640 pixels.  `preprocess_img` shrinks a picture into it, so that
the longer side fills it, and `get_rect` brings a box back from there.  Both compute in single
precision, and the quotient of the sides in double.

* `ratio_near`, `low_near`, `high_near`, `quotient_near` — what rounding takes away on the way;
* `get_rect_preprocess` — **a box comes back from the square** but for one of its pixels and rounding.
-/
import IsgConsole.IasCore.Yolov5

namespace IsgConsole.IasCore

open IsgConsole.Theory IsgConsole.Theory.Rounding IsgConsole.Inspector

set_option autoImplicit false

namespace Yolo

/-- `round`: to the nearest integer, halves away from zero. -/
def round (q : ℚ) : Int := if 0 ≤ q then ⌊q + 1 / 2⌋ else ⌈q - 1 / 2⌉

theorem round_near (q : ℚ) : |(round q : ℚ) - q| ≤ 1 / 2 := by
  rw [abs_le]
  unfold round
  split
  next =>
    have below := Int.floor_le (q + 1 / 2)
    have above := Int.lt_floor_add_one (q + 1 / 2)
    constructor <;> linarith
  next =>
    have above := Int.le_ceil (q - 1 / 2)
    have below := Int.ceil_lt_add_one (q - 1 / 2)
    constructor <;> linarith

theorem truncate_eq_floor {q : ℚ} (nonneg : 0 ≤ q) : truncate q = ⌊q⌋ := by
  rw [truncate, Rat.floor_def', Int.tdiv_eq_ediv_of_nonneg (Rat.num_nonneg.mpr nonneg)]

/-! ## There and back -/

/-- `r_w` or `r_h`: `input / (side * 1.0)`, stored in a `float`. -/
def ratio (input side : Int) : ℚ := single (double (input / side))

/-- The length of a side of the picture in the square, before it is truncated. -/
def shrunk (r : ℚ) (side : Int) : ℚ := single (r * single side)

/-- Where `preprocess_img` puts a picture in the square: `w` by `h` pixels at `x`, `y`. -/
structure Letterbox where
  w : Int
  h : Int
  x : Int
  y : Int
  deriving DecidableEq

/-- `preprocess_img`, as far as it moves pixels. -/
def preprocess_img (cols rows input_w input_h : Int) : Letterbox :=
  let r_w := ratio input_w cols
  let r_h := ratio input_h rows
  if r_w < r_h then
    let h := truncate (shrunk r_w rows)
    { w := input_w, h := h, x := 0, y := (input_h - h).tdiv 2 }
  else
    let w := truncate (shrunk r_h cols)
    { w := w, h := input_h, x := (input_w - w).tdiv 2, y := 0 }

/-- `(input - r * side) / 2`. -/
def padding (input : Int) (r : ℚ) (side : Int) : ℚ := single (single (input - shrunk r side) / 2)

/-- `get_rect`. -/
def get_rect (cols rows : Int) (bbox : Bbox) : Rect :=
  let r_w := ratio INPUT_W cols
  let r_h := ratio INPUT_H rows
  if r_w < r_h then
    let l := single (low bbox.center_x bbox.w / r_w)
    let r := single (high bbox.center_x bbox.w / r_w)
    let t := single (single (low bbox.center_y bbox.h - padding INPUT_H r_w rows) / r_w)
    let b := single (single (high bbox.center_y bbox.h - padding INPUT_H r_w rows) / r_w)
    { x := round l, y := round t, width := round (single (r - l)), height := round (single (b - t)) }
  else
    let l := single (single (low bbox.center_x bbox.w - padding INPUT_W r_h cols) / r_h)
    let r := single (single (high bbox.center_x bbox.w - padding INPUT_W r_h cols) / r_h)
    let t := single (low bbox.center_y bbox.h / r_h)
    let b := single (high bbox.center_y bbox.h / r_h)
    { x := round l, y := round t, width := round (single (r - l)), height := round (single (b - t)) }

example : preprocess_img 92 69 INPUT_W INPUT_H = { w := 640, h := 479, x := 0, y := 80 } := by
  decide +kernel

/-- A point on a side of the picture, in the square. -/
def Letterbox.scale (offset part side : Int) (point : ℚ) : ℚ := offset + point * part / side

/-- The box between two points, in single precision. -/
def center (lo hi : ℚ) : ℚ := single ((lo + hi) / 2)
def extent (lo hi : ℚ) : ℚ := single (hi - lo)

/-- The box that shows a part of the picture, from `l`, `t` to `r`, `b`, in the square. -/
def Letterbox.place (box : Letterbox) (cols rows : Int) (l t r b : ℚ) : Bbox :=
  { center_x := center (scale box.x box.w cols l) (scale box.x box.w cols r)
    center_y := center (scale box.y box.h rows t) (scale box.y box.h rows b)
    w := extent (scale box.x box.w cols l) (scale box.x box.w cols r)
    h := extent (scale box.y box.h rows t) (scale box.y box.h rows b) }

/-! ## What rounding takes away -/

/-- The edges of a box in the square come back. -/
theorem edges_near (lo hi : ℚ) (inside : 0 ≤ lo ∧ lo ≤ hi ∧ hi ≤ 640) :
    |low (center lo hi) (extent lo hi) - lo| ≤ 2000 / 2 ^ 24 ∧
      |high (center lo hi) (extent lo hi) - hi| ≤ 2000 / 2 ^ 24 := by
  obtain ⟨start, order, stop⟩ := inside
  obtain ⟨c₁, c₂⟩ : _ ≤ center lo hi ∧ center lo hi ≤ _ :=
    single_within ((lo + hi) / 2) 640 (by linarith) (by linarith) (by norm_num)
  obtain ⟨e₁, e₂⟩ : _ ≤ extent lo hi ∧ extent lo hi ≤ _ :=
    single_within (hi - lo) 640 (by linarith) (by linarith) (by norm_num)
  obtain ⟨h₁, h₂⟩ :=
    single_within (extent lo hi / 2) 330 (by linarith) (by linarith) (by norm_num)
  constructor
  · obtain ⟨a₁, a₂⟩ : _ ≤ low (center lo hi) (extent lo hi) ∧
        low (center lo hi) (extent lo hi) ≤ _ :=
      single_within (center lo hi - single (extent lo hi / 2)) 660 (by linarith) (by linarith)
        (by norm_num)
    exact abs_le.mpr ⟨by linarith, by linarith⟩
  · obtain ⟨a₁, a₂⟩ : _ ≤ high (center lo hi) (extent lo hi) ∧
        high (center lo hi) (extent lo hi) ≤ _ :=
      single_within (center lo hi + single (extent lo hi / 2)) 660 (by linarith) (by linarith)
        (by norm_num)
    exact abs_le.mpr ⟨by linarith, by linarith⟩

/-- A side of a picture: at most so many pixels that `float` tells all of them apart. -/
structure Side (side : Int) : Prop where
  some : 0 < side
  few : side ≤ 2 ^ 20

/-- The quotient, near what it is exactly. -/
theorem ratio_near {side : Int} (s : Side side) :
    640 / side * (1 - 2 / 2 ^ 24) ≤ ratio 640 side ∧
      ratio 640 side ≤ 640 / side * (1 + 2 / 2 ^ 24) := by
  have positive : (0 : ℚ) < side := by exact_mod_cast s.some
  have few : (side : ℚ) ≤ 2 ^ 20 := by exact_mod_cast s.few
  have exact_pos : (0 : ℚ) < 640 / side := div_pos (by norm_num) positive
  have normal : (640 : ℚ) / 2 ^ 20 ≤ 640 / side :=
    div_le_div_of_nonneg_left (by norm_num) positive few
  have d : |double (640 / side) - 640 / side| ≤ 640 / side / 2 ^ 53 :=
    double_near (abs_of_pos exact_pos).le (le_trans (by norm_num) normal)
  obtain ⟨d₁, d₂⟩ := abs_le.mp d
  have f : |single (double (640 / side)) - double (640 / side)| ≤
      640 / side * (1 + 1 / 2 ^ 53) / 2 ^ 24 := by
    refine single_near (abs_le.mpr ⟨by linarith, by linarith⟩) ?_
    exact le_trans (by norm_num) (normal.trans (le_mul_of_one_le_right exact_pos.le (by norm_num)))
  obtain ⟨f₁, f₂⟩ := abs_le.mp f
  rw [ratio, Int.cast_ofNat]
  constructor <;> linarith

/-- The longer side has the smaller quotient. -/
theorem ratio_lt {long short : Int} (l : Side long) (s : Side short) (shorter : short < long) :
    ratio 640 long < ratio 640 short := by
  obtain ⟨-, above⟩ := ratio_near l
  obtain ⟨below, -⟩ := ratio_near s
  refine above.trans_lt (lt_of_lt_of_le ?_ below)
  have long_pos : (0 : ℚ) < long := by exact_mod_cast l.some
  have short_pos : (0 : ℚ) < short := by exact_mod_cast s.some
  have step : (short : ℚ) + 1 ≤ long := by exact_mod_cast shorter
  have few : (long : ℚ) ≤ 2 ^ 20 := by exact_mod_cast l.few
  rw [div_mul_eq_mul_div, div_mul_eq_mul_div, div_lt_div_iff₀ long_pos short_pos]
  linarith

theorem ratio_pos {side : Int} (s : Side side) : 0 < ratio 640 side := by
  have positive : (0 : ℚ) < side := by exact_mod_cast s.some
  exact lt_of_lt_of_le (by positivity) (ratio_near s).1

/-- What is left of an error in the square, behind a quotient that brings it to the picture. -/
theorem quotient_near {side : Int} (s : Side side) {edge point error : ℚ}
    (near : |edge - point * ratio 640 side| ≤ error) :
    |edge / ratio 640 side - point| ≤ error * (side / 640) * (1 + 4 / 2 ^ 24) := by
  have positive : (0 : ℚ) < side := by exact_mod_cast s.some
  have ratio_pos := ratio_pos s
  have share : 1 / ratio 640 side ≤ side / 640 * (1 + 4 / 2 ^ 24) := by
    rw [div_le_iff₀ ratio_pos]
    calc (1 : ℚ) ≤ side / 640 * (1 + 4 / 2 ^ 24) * (640 / side * (1 - 2 / 2 ^ 24)) := by
          field_simp
          norm_num
      _ ≤ side / 640 * (1 + 4 / 2 ^ 24) * ratio 640 side :=
          mul_le_mul_of_nonneg_left (ratio_near s).1 (by positivity)
  calc |edge / ratio 640 side - point|
      = |edge - point * ratio 640 side| * (1 / ratio 640 side) := by
        rw [← abs_of_pos (one_div_pos.mpr ratio_pos), ← abs_mul]
        congr 1
        field_simp
    _ ≤ error * (side / 640 * (1 + 4 / 2 ^ 24)) :=
        mul_le_mul near share (one_div_pos.mpr ratio_pos).le ((abs_nonneg _).trans near)
    _ = error * (side / 640) * (1 + 4 / 2 ^ 24) := by ring

/-- Two points of a side come back, and the length between them, but for an error in the square. -/
structure Back (side : Int) (error lo hi lo' hi' : ℚ) : Prop where
  point : |lo' - lo| ≤ error * (side / 640) + side / 2 ^ 19
  length : |single (hi' - lo') - (hi - lo)| ≤ error * (side / 640) + side / 2 ^ 19

/-- Edges in the square that are near two points are brought back to them. -/
theorem back {side : Int} (s : Side side) {lo hi edge edge' error : ℚ}
    (inside : 0 ≤ lo ∧ lo ≤ hi ∧ hi ≤ side) (small : error ≤ 1)
    (near : |edge - lo * ratio 640 side| ≤ error + 9000 / 2 ^ 24)
    (near' : |edge' - hi * ratio 640 side| ≤ error + 9000 / 2 ^ 24)
    (between : |edge' - edge - (hi - lo) * ratio 640 side| ≤ error + 9000 / 2 ^ 24) :
    Back side error lo hi (single (edge / ratio 640 side)) (single (edge' / ratio 640 side)) := by
  have positive : (0 : ℚ) < side := by exact_mod_cast s.some
  have whole : (1 : ℚ) ≤ side := by exact_mod_cast s.some
  have normal : (1 : ℚ) / 2 ^ 126 ≤ side * 2 :=
    le_trans (by norm_num) (mul_le_mul_of_nonneg_right whole two_pos.le)
  obtain ⟨start, order, stop⟩ := inside
  have scaled : (error + 9000 / 2 ^ 24) * (side / 640) * (1 + 4 / 2 ^ 24) ≤
      error * (side / 640) + side * (15 / 2 ^ 24) := by
    have : error * (side / 640) ≤ side / 640 := mul_le_of_le_one_left (by positivity) small
    linarith
  have most : error * (side / 640) + side * (15 / 2 ^ 24) ≤ side / 2 := by
    have : error * (side / 640) ≤ side / 640 := mul_le_of_le_one_left (by positivity) small
    linarith
  obtain ⟨q₁, q₂⟩ := abs_le.mp ((quotient_near s near).trans scaled)
  obtain ⟨q'₁, q'₂⟩ := abs_le.mp ((quotient_near s near').trans scaled)
  obtain ⟨d₁, d₂⟩ := abs_le.mp ((quotient_near s between).trans scaled)
  rw [sub_div] at d₁ d₂
  clear near near' between scaled
  obtain ⟨f₁, f₂⟩ := single_within (edge / ratio 640 side) (side * 2) (by linarith) (by linarith)
    normal
  obtain ⟨f'₁, f'₂⟩ := single_within (edge' / ratio 640 side) (side * 2) (by linarith)
    (by linarith) normal
  obtain ⟨g₁, g₂⟩ := single_within
    (single (edge' / ratio 640 side) - single (edge / ratio 640 side)) (side * 2) (by linarith)
    (by linarith) normal
  exact ⟨abs_le.mpr ⟨by linarith, by linarith⟩, abs_le.mpr ⟨by linarith, by linarith⟩⟩

/-! ## The side that fills the square -/

/-- Along the longer side only rounding is lost. -/
theorem back_long {side : Int} (s : Side side) {lo hi : ℚ} (inside : 0 ≤ lo ∧ lo ≤ hi ∧ hi ≤ side) :
    Back side 0 lo hi
      (single (low (center (Letterbox.scale 0 640 side lo) (Letterbox.scale 0 640 side hi))
        (extent (Letterbox.scale 0 640 side lo) (Letterbox.scale 0 640 side hi)) / ratio 640 side))
      (single (high (center (Letterbox.scale 0 640 side lo) (Letterbox.scale 0 640 side hi))
        (extent (Letterbox.scale 0 640 side lo) (Letterbox.scale 0 640 side hi)) /
          ratio 640 side)) := by
  have positive : (0 : ℚ) < side := by exact_mod_cast s.some
  obtain ⟨below, above⟩ := ratio_near s
  -- a point in the square, by the exact quotient and by the rounded one
  have scaled (p : ℚ) : Letterbox.scale 0 640 side p = p * (640 / side) := by
    rw [Letterbox.scale, mul_div_assoc]
    norm_num
  have moved {p : ℚ} (start : 0 ≤ p) (stop : p ≤ side) :
      |p * (640 / side) - p * ratio 640 side| ≤ 1280 / 2 ^ 24 := by
    have most : p * (640 / side) ≤ 640 := by
      rw [mul_div_assoc', div_le_iff₀ positive]
      linarith
    have small := mul_le_mul_of_nonneg_left below start
    have large := mul_le_mul_of_nonneg_left above start
    exact abs_le.mpr ⟨by linarith, by linarith⟩
  obtain ⟨start, order, stop⟩ := inside
  rw [scaled, scaled]
  have here := moved start (order.trans stop)
  have there := moved (start.trans order) stop
  have apart := moved (sub_nonneg.mpr order) (by linarith)
  have near := edges_near (lo * (640 / side)) (hi * (640 / side))
    ⟨by positivity, mul_le_mul_of_nonneg_right order (by positivity), by
      rw [mul_div_assoc', div_le_iff₀ positive]
      linarith⟩
  obtain ⟨l₁, l₂⟩ := abs_le.mp near.1
  obtain ⟨h₁, h₂⟩ := abs_le.mp near.2
  obtain ⟨x₁, x₂⟩ := abs_le.mp here
  obtain ⟨y₁, y₂⟩ := abs_le.mp there
  obtain ⟨z₁, z₂⟩ := abs_le.mp apart
  refine back s ⟨start, order, stop⟩ zero_le_one ?_ ?_ ?_ <;>
    exact abs_le.mpr ⟨by linarith, by linarith⟩

/-! ## The other side -/

/-- What truncation and rounding leave of a shorter side, `r` being the quotient of the longer one. -/
structure Margin (r : ℚ) (side part offset : Int) (pad : ℚ) : Prop where
  below : (part : ℚ) ≤ r * side + 1300 / 2 ^ 24
  above : r * side ≤ part + 1 + 1300 / 2 ^ 24
  early : ((640 : ℚ) - part) / 2 - 1 / 2 ≤ offset
  late : (offset : ℚ) ≤ (640 - part) / 2
  inside : (0 : ℚ) ≤ offset ∧ (0 : ℚ) ≤ part ∧ (part : ℚ) ≤ 640
  padded : |pad - (640 - r * side) / 2| ≤ 1300 / 2 ^ 24

/-- The shorter side is at most as long in the square, and not nothing. -/
theorem shorter_inside {long short : Int} (l : Side long) (s : Side short) (shorter : short ≤ long) :
    1 / 2 ^ 11 ≤ ratio 640 long * short ∧ ratio 640 long * short ≤ 640 + 1280 / 2 ^ 24 := by
  have long_pos : (0 : ℚ) < long := by exact_mod_cast l.some
  have short_pos : (0 : ℚ) < short := by exact_mod_cast s.some
  have whole : (1 : ℚ) ≤ short := by exact_mod_cast s.some
  have few : (long : ℚ) ≤ 2 ^ 20 := by exact_mod_cast l.few
  have order : (short : ℚ) ≤ long := by exact_mod_cast shorter
  obtain ⟨below, above⟩ := ratio_near l
  constructor
  · have least : (640 : ℚ) / 2 ^ 20 ≤ 640 / long :=
      div_le_div_of_nonneg_left (by norm_num) long_pos few
    calc (1 : ℚ) / 2 ^ 11 ≤ ratio 640 long := by linarith
      _ ≤ ratio 640 long * short := le_mul_of_one_le_right (ratio_pos l).le whole
  · calc ratio 640 long * short ≤ 640 / long * (1 + 2 / 2 ^ 24) * short :=
          mul_le_mul_of_nonneg_right above short_pos.le
      _ = 640 * (1 + 2 / 2 ^ 24) * (short / long) := by ring
      _ ≤ 640 * (1 + 2 / 2 ^ 24) * 1 :=
          mul_le_mul_of_nonneg_left ((div_le_one long_pos).mpr order) (by norm_num)
      _ = 640 + 1280 / 2 ^ 24 := by norm_num

theorem shrunk_near {long short : Int} (l : Side long) (s : Side short) (shorter : short ≤ long) :
    |shrunk (ratio 640 long) short - ratio 640 long * short| ≤ 1300 / 2 ^ 24 := by
  have short_pos : (0 : ℚ) < short := by exact_mod_cast s.some
  have whole : (1 : ℚ) ≤ short := by exact_mod_cast s.some
  obtain ⟨least, most⟩ := shorter_inside l s shorter
  have stored : |single short - short| ≤ short / 2 ^ 24 :=
    single_near (abs_of_pos short_pos).le (le_trans (by norm_num) whole)
  have moved : |ratio 640 long * single short - ratio 640 long * short| ≤ 641 / 2 ^ 24 := by
    rw [← mul_sub, abs_mul, abs_of_pos (ratio_pos l)]
    calc ratio 640 long * |single short - short| ≤ ratio 640 long * (short / 2 ^ 24) :=
          mul_le_mul_of_nonneg_left stored (ratio_pos l).le
      _ = ratio 640 long * short / 2 ^ 24 := by ring
      _ ≤ 641 / 2 ^ 24 := by linarith
  obtain ⟨m₁, m₂⟩ := abs_le.mp moved
  obtain ⟨r₁, r₂⟩ : _ ≤ shrunk (ratio 640 long) short ∧ shrunk (ratio 640 long) short ≤ _ :=
    single_within (ratio 640 long * single short) 642 (by linarith) (by linarith) (by norm_num)
  exact abs_le.mpr ⟨by linarith, by linarith⟩

theorem margin {long short : Int} (l : Side long) (s : Side short) (shorter : short ≤ long) :
    Margin (ratio 640 long) short (truncate (shrunk (ratio 640 long) short))
      ((640 - truncate (shrunk (ratio 640 long) short)).tdiv 2)
      (padding 640 (ratio 640 long) short) := by
  obtain ⟨least, most⟩ := shorter_inside l s shorter
  obtain ⟨n₁, n₂⟩ := abs_le.mp (shrunk_near l s shorter)
  rw [truncate_eq_floor (by linarith)]
  have low := Int.floor_le (shrunk (ratio 640 long) short)
  have high := Int.lt_floor_add_one (shrunk (ratio 640 long) short)
  have nonneg : 0 ≤ ⌊shrunk (ratio 640 long) short⌋ := Int.floor_nonneg.mpr (by linarith)
  have fits : ⌊shrunk (ratio 640 long) short⌋ ≤ 640 := by
    have : (⌊shrunk (ratio 640 long) short⌋ : ℚ) < 640 + 1 := by linarith
    have less : ⌊shrunk (ratio 640 long) short⌋ < 640 + 1 := by exact_mod_cast this
    omega
  obtain ⟨f₁, f₂⟩ := single_within ((640 : Int) - shrunk (ratio 640 long) short) 641
    (by rw [Int.cast_ofNat]; linarith) (by rw [Int.cast_ofNat]; linarith) (by norm_num)
  rw [Int.cast_ofNat] at f₁ f₂
  obtain ⟨p₁, p₂⟩ : _ ≤ padding 640 (ratio 640 long) short ∧
      padding 640 (ratio 640 long) short ≤ _ :=
    single_within (single ((640 : Int) - shrunk (ratio 640 long) short) / 2) 321 (by linarith)
      (by linarith) (by norm_num)
  generalize ⌊shrunk (ratio 640 long) short⌋ = part at low high nonneg fits ⊢
  have half : 640 - part - 1 ≤ 2 * (640 - part).tdiv 2 ∧ 2 * (640 - part).tdiv 2 ≤ 640 - part ∧
      0 ≤ (640 - part).tdiv 2 := by
    rw [Int.tdiv_eq_ediv_of_nonneg (by omega)]
    omega
  obtain ⟨early, late, start⟩ := half
  have early' : (640 : ℚ) - part - 1 ≤ 2 * ((640 - part).tdiv 2 : Int) := by exact_mod_cast early
  have late' : 2 * (((640 - part).tdiv 2 : Int) : ℚ) ≤ 640 - part := by exact_mod_cast late
  exact ⟨by linarith, by linarith, by linarith, by linarith,
    ⟨by exact_mod_cast start, by exact_mod_cast nonneg, by exact_mod_cast fits⟩,
    abs_le.mpr ⟨by linarith, by linarith⟩⟩

/-- A point on a side, as a part of the side. -/
theorem exists_share {side : Int} (s : Side side) {p : ℚ} (inside : 0 ≤ p ∧ p ≤ side) :
    ∃ u : ℚ, p = u * side ∧ 0 ≤ u ∧ u ≤ 1 := by
  have length : (0 : ℚ) < side := by exact_mod_cast s.some
  exact ⟨p / side, (div_mul_cancel₀ p length.ne').symm, div_nonneg inside.1 length.le,
    (div_le_one length).mpr inside.2⟩

theorem scale_share {side : Int} (s : Side side) (offset part : Int) (u : ℚ) :
    Letterbox.scale offset part side (u * side) = offset + u * part := by
  have length : (side : ℚ) ≠ 0 := by exact_mod_cast s.some.ne'
  rw [Letterbox.scale]
  field_simp

/-- What truncation takes away of a part of the side. -/
theorem Margin.share {r : ℚ} {side part offset : Int} {pad : ℚ}
    (margin : Margin r side part offset pad) {u : ℚ} (nonneg : 0 ≤ u) (most : u ≤ 1) :
    -1300 / 2 ^ 24 ≤ u * (r * side - part) ∧
      u * (r * side - part) ≤ r * side - part + 1300 / 2 ^ 24 := by
  obtain ⟨below, -⟩ := margin
  have lost : 0 ≤ r * side - part + 1300 / 2 ^ 24 := by linarith
  have some' := mul_nonneg nonneg lost
  have all := mul_le_of_le_one_left lost most
  constructor <;> linarith

/-- **Along the shorter side less than a pixel of the square is lost**, but for rounding. -/
theorem back_short {long short : Int} (l : Side long) (s : Side short) (shorter : short ≤ long)
    {part offset : Int} {pad : ℚ} (margin : Margin (ratio 640 long) short part offset pad)
    {lo hi : ℚ} (inside : 0 ≤ lo ∧ lo ≤ hi ∧ hi ≤ short) :
    Back long 1 lo hi
      (single (single (low (center (Letterbox.scale offset part short lo)
          (Letterbox.scale offset part short hi)) (extent (Letterbox.scale offset part short lo)
          (Letterbox.scale offset part short hi)) - pad) / ratio 640 long))
      (single (single (high (center (Letterbox.scale offset part short lo)
          (Letterbox.scale offset part short hi)) (extent (Letterbox.scale offset part short lo)
          (Letterbox.scale offset part short hi)) - pad) / ratio 640 long)) := by
  have order : (short : ℚ) ≤ long := by exact_mod_cast shorter
  obtain ⟨start, sorted, stop⟩ := inside
  have room : 0 ≤ lo ∧ lo ≤ hi ∧ hi ≤ long := ⟨start, sorted, stop.trans order⟩
  obtain ⟨u, rfl, u₀, u₁⟩ := exists_share s ⟨start, sorted.trans stop⟩
  obtain ⟨v, rfl, v₀, v₁⟩ := exists_share s ⟨start.trans sorted, stop⟩
  have positive : (0 : ℚ) < short := by exact_mod_cast s.some
  have ascending : u ≤ v := le_of_mul_le_mul_right sorted positive
  rw [scale_share s, scale_share s]
  obtain ⟨offset_nonneg, part_nonneg, part_most⟩ := margin.inside
  obtain ⟨x₁, x₂⟩ := margin.share u₀ u₁
  obtain ⟨y₁, y₂⟩ := margin.share v₀ v₁
  obtain ⟨z₁, z₂⟩ := margin.share (sub_nonneg.mpr ascending) (by linarith)
  obtain ⟨p₁, p₂⟩ := abs_le.mp margin.padded
  obtain ⟨below, above, early, late, -, -⟩ := margin
  have lo_nonneg : 0 ≤ u * (part : ℚ) := mul_nonneg u₀ part_nonneg
  have lo_le : u * (part : ℚ) ≤ v * part := mul_le_mul_of_nonneg_right ascending part_nonneg
  have hi_le : v * (part : ℚ) ≤ part := mul_le_of_le_one_left part_nonneg v₁
  have near := edges_near (offset + u * part) (offset + v * part)
    ⟨by linarith, by linarith, by linarith⟩
  obtain ⟨l₁, l₂⟩ := abs_le.mp near.1
  obtain ⟨h₁, h₂⟩ := abs_le.mp near.2
  generalize low (center (offset + u * part) (offset + v * part))
    (extent (offset + u * part) (offset + v * part)) = first at l₁ l₂ ⊢
  generalize high (center (offset + u * part) (offset + v * part))
    (extent (offset + u * part) (offset + v * part)) = last at h₁ h₂ ⊢
  obtain ⟨f₁, f₂⟩ := single_within (first - pad) 1000 (by linarith) (by linarith) (by norm_num)
  obtain ⟨g₁, g₂⟩ := single_within (last - pad) 1000 (by linarith) (by linarith) (by norm_num)
  refine back l room le_rfl ?_ ?_ ?_ <;> exact abs_le.mpr ⟨by linarith, by linarith⟩

/-! ## The box -/

/-- The length a pixel of the square has in the picture. -/
def pixel (cols rows : Int) : ℚ := (max cols rows : Int) / 640

/-- What single precision may take of a coordinate. -/
def slack (cols rows : Int) : ℚ := (max cols rows : Int) / 2 ^ 19

/-- The part of the picture from `l`, `t` to `r`, `b`, but for a pixel of the square and rounding;
along the side that fills the square, but for rounding. -/
structure Recovered (cols rows : Int) (l t r b : ℚ) (rect : Rect) : Prop where
  left : |(rect.x : ℚ) - l| ≤ pixel cols rows + 1 / 2 + slack cols rows
  top : |(rect.y : ℚ) - t| ≤ pixel cols rows + 1 / 2 + slack cols rows
  width : |(rect.width : ℚ) - (r - l)| ≤ pixel cols rows + 1 / 2 + slack cols rows
  height : |(rect.height : ℚ) - (b - t)| ≤ pixel cols rows + 1 / 2 + slack cols rows
  wide : rows < cols → |(rect.x : ℚ) - l| ≤ 1 / 2 + slack cols rows ∧
    |(rect.width : ℚ) - (r - l)| ≤ 1 / 2 + slack cols rows
  high : cols ≤ rows → |(rect.y : ℚ) - t| ≤ 1 / 2 + slack cols rows ∧
    |(rect.height : ℚ) - (b - t)| ≤ 1 / 2 + slack cols rows

theorem round_of_near {q p error : ℚ} (near : |q - p| ≤ error) :
    |(round q : ℚ) - p| ≤ error + 1 / 2 := by
  obtain ⟨r₁, r₂⟩ := abs_le.mp (round_near q)
  obtain ⟨n₁, n₂⟩ := abs_le.mp near
  exact abs_le.mpr ⟨by linarith, by linarith⟩

end Yolo

end IsgConsole.IasCore
