/-
# IasCore.Dt.Locator — the locators of a line

A locator finds a line in its region and makes a point of it.  Unlike a detector it looks at
its settings before it reads the region, and finds the root point in `channel.jpg` as soon as
it is loaded.
-/
import IsgConsole.IasCore.Dt.Detector

namespace IsgConsole.IasCore.Dt

open IsgConsole.Theory IsgConsole.BaseLib IsgConsole.Inspector IsgConsole.IasBase
open IsgConsole.Theory.Json

set_option autoImplicit false

/-! ## The base class -/

/-- `Locator`, around what a class adds. -/
structure Locator (α : Type) where
  m_run : Bool
  m_InitOK : Bool
  m_rect_roi : Rect2d
  m_config : Bytes
  m_locate_root : Point2d
  self : α

/-- `Locator::Locator`; what a class adds is not initialised. -/
def Locator.start {α : Type} (self : α) : Locator α :=
  { m_run := true, m_InitOK := false, m_rect_roi := .zero, m_config := [],
    m_locate_root := ⟨0, 0⟩, self := self }

section Load

variable {α : Type} (qt : QtJson)

/-- The root point: what is found in the region is moved to the picture. -/
def rootOf (found : Bool) (localPoint : Int × Int) (roi : Rect) : Point2d :=
  if found then ⟨(localPoint.1 + roi.left : Int), (localPoint.2 + roi.top : Int)⟩
  else ⟨localPoint.1, localPoint.2⟩

/-- `load` of a class that reads `settings`, refuses those `outOfRange`, and reads `rest` behind
the region; `getLocateLinePoint` may throw, and so does a region that leaves `channel.jpg`.
`none` when it throws. -/
def locatorLoadWith (settings : JsonObject → α → α) (outOfRange : α → Bool)
    (rest : JsonObject → α → α) (getLocateLinePoint : α → Frame → Option (Bool × Int × Int))
    (matRead : Option Frame) (param : Bytes) (l : Locator α) : Option Bool × Locator α :=
  let jsonDocObj := configuration qt param
  let begun : Locator α :=
    { l with
      m_config := param
      m_InitOK := false
      m_run := toBoolTrue (jsonDocObj.get (utf8 "run"))
      self := settings jsonDocObj l.self }
  if outOfRange begun.self then (some false, begun)
  else
    match roiOf jsonDocObj with
    | none => (some false, begun)
    | some roi =>
        let placed := { begun with
          m_rect_roi := .ofRect roi, self := rest jsonDocObj begun.self }
        match matRead with
        | none => (some false, placed)
        | some image =>
            match (image.crop (.ofRect roi)).bind (getLocateLinePoint placed.self) with
            | none => (none, placed)
            | some (found, localPoint) =>
                (some true, { placed with
                  m_locate_root := rootOf found localPoint roi, m_InitOK := true })

end Load

/-! ## LineLocatorX -/

structure LineXParams where
  locate_direction : Rat
  line_length_range : Rat
  canny_threshold : Rat
  line_angle_begin : Rat
  line_angle_end : Rat
  line_score_threshold : Rat

namespace LineLocatorX

variable (qt : QtJson) (library : DtLibrary)

def settings (jsonDocObj : JsonObject) : LineXParams :=
  let member key := library.double (jsonDocObj.get (utf8 key))
  { locate_direction := member "locate_direction"
    line_length_range := member "line_length_range"
    canny_threshold := member "canny_threshold"
    line_angle_begin := member "line_angle_begin"
    line_angle_end := member "line_angle_end"
    line_score_threshold := member "line_score" }

def outOfRange (p : LineXParams) : Bool :=
  (p.line_length_range < 0 ∨ p.line_length_range > 1) ∨
    ¬ (p.line_angle_begin ≥ 0 ∧ p.line_angle_begin < p.line_angle_end ∧ p.line_angle_end ≤ 180) ∨
    (p.canny_threshold < 0 ∨ p.canny_threshold > 256)

/-- `LineLocatorX::load`. -/
def load (getLocateLinePoint : LineXParams → Frame → Option (Bool × Int × Int))
    (matRead : Option Frame) (param : Bytes) (l : Locator LineXParams) :
    Option Bool × Locator LineXParams :=
  locatorLoadWith qt (fun jsonDocObj _ => settings library jsonDocObj) outOfRange
    (fun _ self => self) getLocateLinePoint matRead param l

end LineLocatorX

/-! ## LineLocatorY -/

structure LineYParams where
  line : LineParams
  locate_direction : Rat

namespace LineLocatorY

variable (qt : QtJson) (library : DtLibrary)

def settings (jsonDocObj : JsonObject) (self : LineYParams) : LineYParams :=
  { line := LineDetector.settings library jsonDocObj self.line
    locate_direction := library.double (jsonDocObj.get (utf8 "locate_direction")) }

/-- The line, read behind the region; the direction is set, whatever was configured. -/
def line (jsonDocObj : JsonObject) (self : LineYParams) : LineYParams :=
  { line := LineDetector.line library jsonDocObj self.line, locate_direction := 1 }

/-- `LineLocatorY::load`. -/
def load (getLocateLinePoint : LineYParams → Frame → Option (Bool × Int × Int))
    (matRead : Option Frame) (param : Bytes) (l : Locator LineYParams) :
    Option Bool × Locator LineYParams :=
  locatorLoadWith qt (settings library) (fun self => LineDetector.outOfRange self.line)
    (line library) getLocateLinePoint matRead param l

end LineLocatorY

end IsgConsole.IasCore.Dt
