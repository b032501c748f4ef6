/-
# IasCore.DragLineInference — the tear lines of a packet

Two tear lines are wanted, at less than a threshold's distance and inside the detection
area of the camera.  Detection runs on the area enlarged by 20 pixels.
-/
import IsgConsole.IasCore.BaseAiInference

namespace IsgConsole.IasCore

open IsgConsole.Theory IsgConsole.BaseLib IsgConsole.Inspector IsgConsole.Theory.Json

set_option autoImplicit false

structure DragLineInference where
  yolo_model : Yolov5
  /-- The configured areas; a camera without one has the empty rectangle. -/
  detect_area : Int → Rect
  Camera_Params : JsonObject

namespace DragLineInference

/-- `QString("cameraId_%1").arg(id)`. -/
def cameraKey (id : Int) : Bytes := utf8 "cameraId_" ++ utf8 (toString id)

/-- The configured threshold of a camera. -/
def diff_threshold (self : DragLineInference) (id : Int) : Int :=
  ((self.Camera_Params.get (cameraKey id)).toObject.get (utf8 "diff_threshold")).toInt

/-- The area enlarged by 20 pixels on every side. -/
def enlarged (area : Rect) : Rect :=
  .ofPoints (area.left - 20) (area.top - 20) (area.right + 20) (area.bottom + 20)

/-- The x distance of two boxes, from centre to centre. -/
def distance (a b : Rect) : Int :=
  ((a.left + a.right).tdiv 2 - (b.left + b.right).tdiv 2).natAbs

/-- What the loop has gathered; `paramsObj` is shared by all its turns. -/
structure Findings where
  result : Bool
  paramsObj : JsonObject
  pos_infoArray : List Json

/-- One turn of the loop over the boxes. -/
def reportBox (area detect_area : Rect) (found : Findings) (indexed : YoloResult × Nat) : Findings :=
  let (target, box_index) := indexed
  let box := target.box
  let (dx, dy) := if detect_area.area ≠ 0 then (area.left - 20, area.top - 20) else (0, 0)
  let x₁ := box.left + dx
  let y₁ := box.top + dy
  let x₂ := box.right + dx
  let y₂ := box.bottom + dy
  let outside : Bool := x₁ < area.left ∨ y₁ < area.top ∨ x₂ > area.right ∨ y₂ > area.bottom
  let paramsObj := (found.paramsObj.insert (utf8 "in_area") (.bool (!outside))).insert (utf8 "conf")
    (.number target.conf)
  let drawObj := Json.objectOf
    [(utf8 "color", .string (if outside then utf8 "FF0000" else utf8 "08A7FA")),
     (utf8 "shape_type", int 2),
     (utf8 "points", pointArray x₁ y₁ x₂ y₂)]
  let pos_infoObj := Json.objectOf
    [(utf8 "result", int (if outside then 0 else 1)),
     (utf8 "id", int (box_index + 1)),
     (utf8 "moduleId", int 1),
     (utf8 "classes", int 0),
     (utf8 "label", .string (utf8 "drag_line")),
     (utf8 "draw", .array [drawObj]),
     (utf8 "params", .object paramsObj)]
  { result := found.result && !outside
    paramsObj := paramsObj
    pos_infoArray := found.pos_infoArray ++ [pos_infoObj] }

/-- What the boxes of a picture come to. -/
def judge (self : DragLineInference) (id : Int) (yoloResult : List (List YoloResult)) : Findings :=
  let area := self.detect_area id
  let boxes := yoloResult.flatten.filter fun target => target.classId = 0
  let found : Findings :=
    match boxes with
    | [first, second] =>
        let diff := distance first.box second.box
        { result := diff < self.diff_threshold id
          paramsObj := JsonObject.ofInserts [(utf8 "diff", int diff)]
          pos_infoArray := [] }
    | _ => { result := false, paramsObj := [], pos_infoArray := [] }
  boxes.zipIdx.foldl (reportBox area (enlarged area)) found

/-- What the detector is shown: the whole pictures when the area is of one pixel or none. -/
def asked (detect_area : Rect) (images : List Mat) (crop : Mat) : List Mat :=
  if detect_area.area = 0 ∨ detect_area.area = 1 then images else [crop]

def findings (self : DragLineInference) (ids : List Int) (images : List Mat) : Option Findings := do
  let id ← ids.head?
  let image ← images.head?
  let crop ← image.crop (enlarged (self.detect_area id))
  match self.yolo_model (asked (enlarged (self.detect_area id)) images crop) with
  | (true, yoloResult) => return self.judge id yoloResult
  | (false, _) => return { result := true, paramsObj := [], pos_infoArray := [] }

/-- `DragLineInference::infer`. -/
def infer (self : DragLineInference) (qt : QtJson) (ids : List Int) (images : List Mat) :
    Option (List BaseAIResult) :=
  if 1 < ids.length then some (BaseAIResult.refuse ids)
  else do
    let found ← self.findings ids images
    return List.replicate ids.length
      { m_result := found.result
        m_position_info := positionInfo qt found.pos_infoArray
        m_isg_info := [] }

end DragLineInference

end IsgConsole.IasCore
