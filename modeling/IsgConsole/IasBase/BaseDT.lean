/-
# IasBase.BaseDT — the interface of locators and detectors

A locator or detector is an object some algorithm library makes: its class registers a
factory under a method number, and the program asks it to load a configuration, to update,
to locate or to detect.  `DtAlgorithms` is such a library, as a parameter.

A call that may throw answers `none` when it does; the object is changed by it either way.
-/
import Mathlib.Data.Rat.Defs
import IsgConsole.BaseLib.QtJson

namespace IsgConsole.IasBase

open IsgConsole.Theory IsgConsole.BaseLib IsgConsole.Theory.Json

set_option autoImplicit false

/-- `cv::Point2d`; the program only hands coordinates on. -/
structure Point2d where
  x : Rat
  y : Rat
  deriving DecidableEq

structure BaseDTResult where
  m_id : Int
  m_result : Bool
  m_locate_point : Point2d
  m_position_info : Bytes
  deriving DecidableEq

/-- `BaseDTResult` as it is constructed. -/
def BaseDTResult.start : BaseDTResult :=
  { m_id := -1, m_result := true, m_locate_point := ⟨0, 0⟩, m_position_info := [] }

/-- What `BaseLocator` and `BaseDetector` keep themselves, around what a class adds. -/
structure BaseObject (α : Type) where
  m_id : Int
  m_path : Bytes
  self : α

/-- The object of a configuration text, as an algorithm reads it. -/
def configuration (qt : QtJson) (param : Bytes) : JsonObject := qt.object (qt.toLocal8Bit param)

/-- The locators a detector configuration names, for the X and the Y direction. -/
def anchors (config : JsonObject) : Int × Int :=
  ((config.get (utf8 "locator_x_id")).toInt, (config.get (utf8 "locator_y_id")).toInt)

structure DtAlgorithms (qt : QtJson) where
  Locator : Type
  Detector : Type
  /-- `FindBaseLocatorFactory(method)->getLocator()`, where a factory is registered. -/
  getLocator : Int → Option Locator
  getDetector : Int → Option Detector
  loadLocator : Bytes → BaseObject Locator → Option (Bool × Locator)
  updateLocator : Bytes → BaseObject Locator → Option Bool × Locator
  execLocator : BaseObject Locator → Option (Bool × Bytes) × Locator
  resetLocator : BaseObject Locator → Option (Bool × Bytes) × Locator
  getLocateRoot : Locator → Point2d
  loadDetector : Bytes → Point2d → BaseObject Detector → Option (Bool × Detector)
  updateDetector : Bytes → BaseObject Detector → Option Bool × Detector
  execDetector : BaseObject Detector → Option (Bool × Bytes) × Detector
  resetDetector : BaseObject Detector → Option (Bool × Bytes) × Detector
  setLocateRoot : Point2d → Detector → Detector
  getLocateIdX : Detector → Int
  getLocateIdY : Detector → Int
  /-- A detector is anchored where the configuration it has loaded last says. -/
  load_ids : ∀ param point detector loaded, loadDetector param point detector = some loaded →
    (getLocateIdX loaded.2, getLocateIdY loaded.2) = anchors (configuration qt param)
  update_ids : ∀ param detector,
    (getLocateIdX (updateDetector param detector).2, getLocateIdY (updateDetector param detector).2)
      = anchors (configuration qt param)
  /-- Nothing else moves its anchors. -/
  exec_ids : ∀ detector,
    (getLocateIdX (execDetector detector).2, getLocateIdY (execDetector detector).2)
      = (getLocateIdX detector.self, getLocateIdY detector.self)
  reset_ids : ∀ detector,
    (getLocateIdX (resetDetector detector).2, getLocateIdY (resetDetector detector).2)
      = (getLocateIdX detector.self, getLocateIdY detector.self)
  setLocateRoot_ids : ∀ point detector,
    (getLocateIdX (setLocateRoot point detector), getLocateIdY (setLocateRoot point detector))
      = (getLocateIdX detector, getLocateIdY detector)

namespace DtAlgorithms

/-- Algorithms that keep the anchors of what they load and find every picture fine; `throws`
tells which configurations of a detector the library refuses with an exception. -/
def reference (qt : QtJson) (throws : JsonObject → Bool) : DtAlgorithms qt where
  Locator := Unit
  Detector := Int × Int
  getLocator _ := some ()
  getDetector _ := some (0, 0)
  loadLocator _ _ := some (true, ())
  updateLocator _ _ := (some true, ())
  execLocator _ := (some (true, []), ())
  resetLocator _ := (some (true, []), ())
  getLocateRoot _ := ⟨0, 0⟩
  loadDetector param _ _ :=
    if throws (configuration qt param) then none
    else some (true, anchors (configuration qt param))
  updateDetector param _ :=
    (if throws (configuration qt param) then none else some true, anchors (configuration qt param))
  execDetector detector := (some (true, []), detector.self)
  resetDetector detector := (some (true, []), detector.self)
  setLocateRoot _ detector := detector
  getLocateIdX detector := detector.1
  getLocateIdY detector := detector.2
  load_ids param point detector loaded load := by
    split at load
    next => cases load
    next =>
        obtain rfl := Option.some.inj load
        rfl
  update_ids _ _ := rfl
  exec_ids _ := rfl
  reset_ids _ := rfl
  setLocateRoot_ids _ _ := rfl

end DtAlgorithms

end IsgConsole.IasBase
