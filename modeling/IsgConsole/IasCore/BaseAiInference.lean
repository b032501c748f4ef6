/-
# IasCore.BaseAiInference — what the AI inferences share

The result of an inference, the models it asks, and the pieces of JSON its defect entries
are made of.  The models are external: a detector returns, for a list of pictures, whether
it ran and the boxes it found in each, a classifier whether it ran and a class for each.

`infer` returns `none` where the program leaves its own behaviour: an exception of the
vision library, or an element read behind the end of a vector.
-/
import Mathlib.Data.Rat.Defs
import IsgConsole.BaseLib.QtJson
import IsgConsole.Inspector.Infer

namespace IsgConsole.IasCore

open IsgConsole.Theory IsgConsole.BaseLib IsgConsole.Inspector IsgConsole.Theory.Json

set_option autoImplicit false

/-! ## Results -/

structure BaseAIResult where
  m_result : Bool
  m_position_info : Bytes
  m_isg_info : Bytes
  deriving DecidableEq

namespace BaseAIResult

/-- `BaseAIResult` as it is constructed. -/
def start : BaseAIResult := { m_result := true, m_position_info := [], m_isg_info := [] }

/-- Every inference takes one picture at a time and answers several with a failure each. -/
def refuse (ids : List Int) : List BaseAIResult :=
  List.replicate ids.length { start with m_result := false }

end BaseAIResult

/-! ## Models -/

structure YoloResult where
  classId : Int
  conf : Decimal
  box : Rect
  deriving DecidableEq

structure ResNetResult where
  classId : Int
  deriving DecidableEq

structure PatchCoreResult where
  result : Bool
  ltx : Int
  lty : Int
  rbx : Int
  rby : Int
  deriving DecidableEq

abbrev Yolov5 := List Mat → Bool × List (List YoloResult)

abbrev ResNet := List Mat → Bool × List ResNetResult

abbrev PatchCore := List Mat → PatchCoreResult

/-- `label_array[classId].toObject()`; a class without a label has no members. -/
def labelJson (label_array : List Json) (classId : Int) : JsonObject :=
  if classId < 0 then [] else (label_array[classId.toNat]?.getD .null).toObject

/-- The region of a box inside a picture. -/
def cropRect (image : Mat) (box : Rect) : Rect :=
  .ofPoints (max box.left 0) (max box.top 0) (min box.right image.cols) (min box.bottom image.rows)

/-! ## Pieces of JSON -/

def pointJson (x y : Int) : Json := .objectOf [(utf8 "x", int x), (utf8 "y", int y)]

/-- `points` of a box: its top left and bottom right corner. -/
def pointArray (x₁ y₁ x₂ y₂ : Int) : Json := .array [pointJson x₁ y₁, pointJson x₂ y₂]

/-- The drawing of a box. -/
def drawJson (points : Json) (color : Bytes) : Json :=
  .objectOf [(utf8 "points", points), (utf8 "color", .string color),
    (utf8 "shapeType", int 2)]

/-- `QJsonDocument(array).toJson()`, as `setPositionInfo` receives it. -/
def positionInfo (qt : QtJson) (pos_infoArray : List Json) : Bytes :=
  qt.toJson .Indented (.array pos_infoArray)

end IsgConsole.IasCore
