/-
# IasCore.YoloResNetInference — foreign matter in shredded tobacco

The first box the detector finds is classified; a box of a defective class is reported
with its corners and with the point to kick at, the box centre mapped by the camera's
transform.
-/
import IsgConsole.IasCore.BaseAiInference

namespace IsgConsole.IasCore

open IsgConsole.Theory IsgConsole.BaseLib IsgConsole.Inspector IsgConsole.Theory.Json

set_option autoImplicit false

/-- `cv::Point2f`. -/
structure Point2f where
  x : ℚ
  y : ℚ
  deriving DecidableEq

/-- `(int)` of a coordinate: the integer part, towards zero. -/
def truncate (q : ℚ) : Int := q.num.tdiv q.den

structure YoloResnetInference where
  yolo_model : Yolov5
  resnet_model : ResNet
  label_array : List Json
  /-- `cv::perspectiveTransform` with the matrix of a camera, where it has one. -/
  m_transform_map : Int → Option (Point2f → Point2f)

namespace YoloResnetInference

/-- The entry of a defect in `pos_info`. -/
def pos_infoObj (labelJsonObj : JsonObject) (classId : Int) (box : Rect) (kickObj : Json) : Json :=
  let points := pointArray box.left box.top box.right box.bottom
  let colorString := (labelJsonObj.get (utf8 "color")).toString (utf8 "FF0000")
  .objectOf
    [(utf8 "id", int 0),
     (utf8 "moduleId", int 1),
     (utf8 "classes", int classId),
     (utf8 "label", .string ((labelJsonObj.get (utf8 "alias")).toString [])),
     (utf8 "draw", .array [drawJson points colorString]),
     (utf8 "result", int 0),
     (utf8 "params", .objectOf [(utf8 "kick_coordinate", kickObj)])]

/-- What is found in a picture. -/
structure Findings where
  result : Bool
  pos_infoArray : List Json
  kickObjArray : List Json

/-- `result` and the arrays as they are declared. -/
def Findings.nothing : Findings := { result := true, pos_infoArray := [], kickObjArray := [] }

/-- The pixel handed to the transform: `x1 + x2 / 2` and `y1 + y2 / 2`, as they stand in the
source, where the division comes first. -/
def in_pos (box : Rect) : Point2f :=
  { x := ((box.left + box.right.tdiv 2 : Int) : ℚ), y := ((box.top + box.bottom.tdiv 2 : Int) : ℚ) }

/-- The findings of a defective box. -/
def Findings.defect (transform : Point2f → Point2f) (labelJsonObj : JsonObject) (classId : Int)
    (box : Rect) : Findings :=
  let out_pos := transform (in_pos box)
  let kickObj := pointJson (truncate out_pos.x) (truncate out_pos.y)
  { result := false
    pos_infoArray := [pos_infoObj labelJsonObj classId box kickObj]
    kickObjArray := [kickObj] }

/-- The first box is classified, and reported when its class is defective. -/
def findings (self : YoloResnetInference) (ids : List Int) (images : List Mat) : Option Findings :=
  match self.yolo_model images with
  -- The loop over the pictures of the batch is left after its first turn.
  | (true, (target :: _) :: _) => do
      let image ← images.head?
      let crop ← image.crop (cropRect image target.box)
      match self.resnet_model [crop] with
      | (true, resnetResult) => do
          let classified ← resnetResult.head?
          let labelJsonObj := labelJson self.label_array classified.classId
          if (labelJsonObj.get (utf8 "isDefective")).toBool then
            let id ← ids.head?
            let transform ← self.m_transform_map id
            return .defect transform labelJsonObj classified.classId target.box
          else return .nothing
      | (false, _) => return .nothing
  | _ => return .nothing

/-- An inference finds nothing, or a defective box of a camera with a transform. -/
theorem findings_cases {self : YoloResnetInference} {ids : List Int} {images : List Mat}
    {found : Findings} (ran : self.findings ids images = some found) :
    found = .nothing ∨ ∃ target rest more id transform labelJsonObj classId,
      self.yolo_model images = (true, (target :: rest) :: more) ∧ ids.head? = some id ∧
        self.m_transform_map id = some transform ∧
        found = .defect transform labelJsonObj classId target.box := by
  unfold findings at ran
  split at ran
  · rename_i target rest more detected
    obtain ⟨image, -, ran⟩ := Option.bind_eq_some_iff.mp ran
    obtain ⟨crop, -, ran⟩ := Option.bind_eq_some_iff.mp ran
    split at ran
    · obtain ⟨classified, -, ran⟩ := Option.bind_eq_some_iff.mp ran
      dsimp only at ran
      split at ran
      · obtain ⟨id, first, ran⟩ := Option.bind_eq_some_iff.mp ran
        obtain ⟨transform, has, ran⟩ := Option.bind_eq_some_iff.mp ran
        exact .inr ⟨target, rest, more, id, transform, _, _, detected, first, has,
          (Option.some.inj ran).symm⟩
      · exact .inl (Option.some.inj ran).symm
    · exact .inl (Option.some.inj ran).symm
  · exact .inl (Option.some.inj ran).symm

/-- The text of `setIsgInfo`; without a point to kick at it stays empty. -/
def isgInfo (qt : QtJson) (kickObjArray : List Json) : Bytes :=
  if kickObjArray = [] then []
  else qt.toJson .Indented
    (.objectOf [(utf8 "kick_coordinate", .array kickObjArray)])

/-- `YoloResnetInference::infer`. -/
def infer (self : YoloResnetInference) (qt : QtJson) (ids : List Int) (images : List Mat) :
    Option (List BaseAIResult) :=
  if 1 < ids.length then some (BaseAIResult.refuse ids)
  else do
    let found ← self.findings ids images
    return List.replicate ids.length
      { m_result := found.result
        m_position_info := positionInfo qt found.pos_infoArray
        m_isg_info := isgInfo qt found.kickObjArray }

end YoloResnetInference

end IsgConsole.IasCore
