/-
# IasCore.Dt.DetectionRegion — the region that is configured and the one that is used

The five classes read `roi` with the same lines, and read both corners from the first of its
two points.  So the region is a point, whatever is configured: it is the configured one when
that is a point itself (`region_used_iff`).
-/
import IsgConsole.IasCore.Dt.Locator

namespace IsgConsole.IasCore.Dt

open IsgConsole.Theory IsgConsole.BaseLib IsgConsole.Inspector IsgConsole.IasBase
open IsgConsole.Theory.Json

set_option autoImplicit false

/-! ## Two points -/

/-- The value is a point with these coordinates. -/
def HoldsPoint (v : Json) (p : Int × Int) : Prop :=
  v.toObject.get (utf8 "x") = .int p.1 ∧ v.toObject.get (utf8 "y") = .int p.2

/-- `roi` holds two points. -/
def HoldsRoi (jsonDocObj : JsonObject) (p q : Int × Int) : Prop :=
  ∃ first second, (jsonDocObj.get (utf8 "roi")).toArray = [first, second] ∧
    HoldsPoint first p ∧ HoldsPoint second q

/-- The rectangle two points span. -/
def spanned (p q : Int × Int) : Rect2d :=
  .ofRect { x := min p.1 q.1, y := min p.2 q.2, width := (p.1 - q.1).natAbs,
            height := (p.2 - q.2).natAbs }

/-- The coordinates are `int`s. -/
def Fits (p : Int × Int) : Prop :=
  (-2 ^ 31 ≤ p.1 ∧ p.1 < 2 ^ 31) ∧ (-2 ^ 31 ≤ p.2 ∧ p.2 < 2 ^ 31)

/-- A number is read as itself when it is an `int`; others are read as 0. -/
theorem toInt_int_eq {n : Int} : (Json.int n).toInt = n ↔ -2 ^ 31 ≤ n ∧ n < 2 ^ 31 := by
  rw [toInt_int]
  split <;> omega

theorem ofRect_injective : Function.Injective Rect2d.ofRect := by
  rintro ⟨x, y, width, height⟩ ⟨x', y', width', height'⟩ same
  simpa [Rect2d.ofRect] using same

/-- The region read from two points. -/
theorem roiOf_eq {jsonDocObj : JsonObject} {p q : Int × Int} (holds : HoldsRoi jsonDocObj p q) :
    roiOf jsonDocObj = some
      { x := (Json.int p.1).toInt, y := (Json.int p.2).toInt, width := 0, height := 0 } := by
  obtain ⟨first, second, points, ⟨x, y⟩, -⟩ := holds
  simp [roiOf, points, pointOf, x, y, Rect.ofPoints]

/-- It is the one they span when they are the same point. -/
theorem read_eq_spanned_iff (p q : Int × Int) :
    Rect2d.ofRect
        { x := (Json.int p.1).toInt, y := (Json.int p.2).toInt, width := 0, height := 0 } =
      spanned p q ↔ p = q ∧ Fits p := by
  rw [spanned, ofRect_injective.eq_iff, Rect.mk.injEq]
  constructor
  · rintro ⟨x, y, width, height⟩
    have across : p.1 = q.1 := by omega
    have down : p.2 = q.2 := by omega
    rw [← across, Int.min_self, toInt_int_eq] at x
    rw [← down, Int.min_self, toInt_int_eq] at y
    exact ⟨Prod.ext across down, x, y⟩
  · rintro ⟨rfl, x, y⟩
    rw [Int.min_self, Int.min_self, toInt_int_eq.mpr x, toInt_int_eq.mpr y]
    simp

/-! ## The detectors -/

section Detectors

variable {α : Type} {qt : QtJson} {param : Bytes} {p q : Int × Int}

/-- The configured region is the one used: it is stored, and it is where the detector looks when
nothing has moved. -/
def UsesRegion (d : Detector α) (region : Rect2d) : Prop :=
  d.m_rect_roi = region ∧ d.getModifiedRect d.m_locate_root = region

/-- At the stored root the region is where it was configured. -/
theorem getModifiedRect_root (d : Detector α) :
    d.getModifiedRect d.m_locate_root = d.m_rect_roi := by
  rw [Detector.getModifiedRect]
  split
  · rfl
  · simp [Rect2d.shift]

/-- Every detector reads its region before it can refuse anything but the region. -/
theorem loadWith_region {first : JsonObject → α → α} {rest : JsonObject → α → Option Bool × α}
    (holds : HoldsRoi (configuration qt param) p q) (locate_point : Point2d) (d : Detector α) :
    UsesRegion (loadWith qt first rest param locate_point d).2 (spanned p q) ↔ p = q ∧ Fits p := by
  rw [UsesRegion, getModifiedRect_root, and_self, loadWith, roiOf_eq holds]
  exact read_eq_spanned_iff p q

end Detectors

/-! ## The locators -/

section Locators

variable {α : Type} {qt : QtJson} {param : Bytes} {p q : Int × Int}

/-- A locator looks at its settings first, and keeps the region it had when it refuses them. -/
theorem locatorLoadWith_region {settings : JsonObject → α → α} {outOfRange : α → Bool}
    {rest : JsonObject → α → α} {getLocateLinePoint : α → Frame → Option (Bool × Int × Int)}
    (holds : HoldsRoi (configuration qt param) p q) (matRead : Option Frame) (l : Locator α) :
    (locatorLoadWith qt settings outOfRange rest getLocateLinePoint matRead param l).2.m_rect_roi =
        spanned p q ↔
      if outOfRange (settings (configuration qt param) l.self) then l.m_rect_roi = spanned p q
      else p = q ∧ Fits p := by
  rw [locatorLoadWith]
  dsimp only
  split
  next => rfl
  next =>
    rw [roiOf_eq holds]
    rw [← read_eq_spanned_iff p q]
    cases matRead with
    | none => rfl
    | some image =>
        dsimp only
        split <;> rfl

end Locators

/-- **The configured region is the one used** when its two corners are the same point, with `int`
coordinates; a locator that refuses its settings keeps the region it had. -/
theorem region_used_iff (qt : QtJson) (library : DtLibrary) {param : Bytes} {p q : Int × Int}
    (holds : HoldsRoi (configuration qt param) p q) :
    (∀ locate_point d, UsesRegion (ColorDetector.load qt library param locate_point d).2
      (spanned p q) ↔ p = q ∧ Fits p) ∧
    (∀ locate_point d, UsesRegion (LineDetector.load qt library param locate_point d).2
      (spanned p q) ↔ p = q ∧ Fits p) ∧
    (∀ matRead locate_point d,
      UsesRegion (TemplateDetector.load qt library matRead param locate_point d).2
        (spanned p q) ↔ p = q ∧ Fits p) ∧
    (∀ getLocateLinePoint matRead l,
      (LineLocatorX.load qt library getLocateLinePoint matRead param l).2.m_rect_roi =
          spanned p q ↔
        if LineLocatorX.outOfRange (LineLocatorX.settings library (configuration qt param)) then
          l.m_rect_roi = spanned p q
        else p = q ∧ Fits p) ∧
    (∀ getLocateLinePoint matRead l,
      (LineLocatorY.load qt library getLocateLinePoint matRead param l).2.m_rect_roi =
          spanned p q ↔
        if LineDetector.outOfRange
            (LineDetector.settings library (configuration qt param) l.self.line) then
          l.m_rect_roi = spanned p q
        else p = q ∧ Fits p) :=
  ⟨loadWith_region holds, loadWith_region holds, fun _ => loadWith_region holds,
    fun _ => locatorLoadWith_region holds, fun _ => locatorLoadWith_region holds⟩

/-- A configuration with a region and nothing else, and its text. -/
def roiConfig (p q : Int × Int) : JsonObject :=
  let point (p : Int × Int) : Json := .objectOf [(utf8 "x", .int p.1), (utf8 "y", .int p.2)]
  [(utf8 "roi", .array [point p, point q])]

def roiText (p q : Int × Int) : Bytes := QtJson.reference.toJson .Indented (.object (roiConfig p q))

theorem roiConfig_holds (p q : Int × Int) :
    QtJson.reference.Holds (.object (roiConfig p q)) := by
  have point (p : Int × Int) :
      isHeld some (.objectOf [(utf8 "x", .int p.1), (utf8 "y", .int p.2)]) = true :=
    isHeld_objectOf some (by simp [isHeld, Json.int])
  show isHeld some (.object (roiConfig p q)) = true
  simp [roiConfig, isHeld, isHeldElements, isHeldMembers, JsonObject.Sorted, point]

theorem roiText_holds (p q : Int × Int) :
    HoldsRoi (configuration .reference (roiText p q)) p q := by
  have read : configuration .reference (roiText p q) = roiConfig p q :=
    QtJson.object_of_holds .reference .Indented (roiConfig_holds p q)
  have point : ∀ p : Int × Int,
      HoldsPoint (.objectOf [(utf8 "x", .int p.1), (utf8 "y", .int p.2)]) p := by
    intro p
    simp [HoldsPoint, Json.objectOf, Json.toObject, JsonObject.get, JsonObject.value_ofInserts,
      JsonObject.value, utf8_injective.eq_iff]
  rw [read]
  exact ⟨_, _, by simp [roiConfig, JsonObject.get, JsonObject.value, Json.toArray], point p,
    point q⟩

/-- Exact numbers, and a vision library that sees nothing. -/
def plainLibrary : DtLibrary :=
  { toDouble := fun d => d.mantissa / 10 ^ d.scale
    ofDouble := fun q => .strip (q * 100).floor 2
    meanStdDev := fun _ => (⟨0, 0, 0, 0⟩, ⟨0, 0, 0, 0⟩)
    contrast := fun _ _ => some true
    getLineLength := fun p q => max |p.x - q.x| |p.y - q.y|
    getLineAngle := fun _ _ => 0
    getLine := fun _ _ => some false
    getMatchTemplate := fun _ _ => some false }

/-- A detector of colours that has not been loaded. -/
def blankColor : Detector ColorParams :=
  .start { mean := ⟨0, 0, 0, 0⟩, stddev := ⟨0, 0, 0, 0⟩, mean_range := ⟨0, 0, 0, 0⟩,
           stddev_range := ⟨0, 0, 0, 0⟩, on_gray := false }

/-- The theorem at a region that is a point. -/
theorem region_used_point :
    UsesRegion (ColorDetector.load .reference plainLibrary (roiText (10, 20) (10, 20)) ⟨0, 0⟩
        blankColor).2 (spanned (10, 20) (10, 20)) ↔
      ((10, 20) : Int × Int) = (10, 20) ∧ Fits (10, 20) :=
  (region_used_iff .reference plainLibrary (roiText_holds (10, 20) (10, 20))).1 ⟨0, 0⟩ blankColor

/-- A region of 100 by 200 pixels becomes a point. -/
theorem region_lost :
    ∃ (qt : QtJson) (library : DtLibrary) (param : Bytes) (p q : Int × Int),
      HoldsRoi (configuration qt param) p q ∧
      ¬ UsesRegion (ColorDetector.load qt library param ⟨0, 0⟩ blankColor).2 (spanned p q) := by
  refine ⟨.reference, plainLibrary, roiText (10, 20) (110, 220), (10, 20), (110, 220),
    roiText_holds _ _, fun used => ?_⟩
  have same := ((loadWith_region (roiText_holds _ _) _ _).mp used).1
  exact absurd same (by decide)

end IsgConsole.IasCore.Dt
