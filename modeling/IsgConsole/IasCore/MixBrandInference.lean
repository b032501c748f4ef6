/-
# IasCore.MixBrandInference — mixed brands in a stack of cartons

A stack shows 25 cartons.  The boxes of every picture of the batch are reported together;
with 25 of them each box is classified, and the boxes of a defective class are reported
one by one.
-/
import IsgConsole.IasCore.BaseAiInference

namespace IsgConsole.IasCore

open IsgConsole.Theory IsgConsole.BaseLib IsgConsole.Inspector IsgConsole.Theory.Json

set_option autoImplicit false

structure MixBrandInference where
  yolo_model : Yolov5
  resnet_model : ResNet
  label_array : List Json

namespace MixBrandInference

/-- What the loops have gathered. -/
structure Findings where
  result : Bool
  pos_infoArray : List Json

/-- The entry of all boxes of a picture. -/
def yolo_posinfoObj (boxes : List YoloResult) : Json :=
  let draw := boxes.map fun target =>
    drawJson (pointArray target.box.left target.box.top target.box.right target.box.bottom)
      (utf8 "08A7FA")
  .objectOf
    [(utf8 "id", int 0),
     (utf8 "moduleId", int 0),
     (utf8 "classes", .string (utf8 "null")),
     (utf8 "label", .string (utf8 "it is a label")),
     (utf8 "draw", .array draw),
     (utf8 "params", .objectOf [(utf8 "target_num", int boxes.length)]),
     (utf8 "result", int (if boxes.length = 25 then 1 else 0))]

/-- The entry of a box of a defective class. -/
def resnet_posinfoObj (labelJsonObj : JsonObject) (classId : Int) (result_index : Nat) (box : Rect) :
    Json :=
  let points := pointArray box.left box.top box.right box.bottom
  let colorString := (labelJsonObj.get (utf8 "color")).toString (utf8 "FF0000")
  .objectOf
    [(utf8 "id", int (result_index + 1)),
     (utf8 "moduleId", int 1),
     (utf8 "classes", int classId),
     (utf8 "label", .string ((labelJsonObj.get (utf8 "alias")).toString [])),
     (utf8 "draw", .array [drawJson points colorString]),
     (utf8 "result", int 0),
     (utf8 "params", .object [])]

/-- One turn of the classifying loop.  The classifier is asked about one crop, and its
answer is read at the index of the box. -/
def classifyBox (self : MixBrandInference) (images : List Mat) (found : Findings)
    (indexed : YoloResult × Nat) : Option Findings := do
  let (target, result_index) := indexed
  let image ← images.head?
  let crop ← image.crop (cropRect image target.box)
  match self.resnet_model [crop] with
  | (true, resnetResult) => do
      let classified ← resnetResult[result_index]?
      let labelJsonObj := labelJson self.label_array classified.classId
      if (labelJsonObj.get (utf8 "isDefective")).toBool then
        return { result := false
                 pos_infoArray := found.pos_infoArray ++
                   [resnet_posinfoObj labelJsonObj classified.classId result_index target.box] }
      else return found
  | (false, _) => return found

/-- One turn of the loop over the pictures of the batch: the verdict starts anew. -/
def judgePicture (self : MixBrandInference) (images : List Mat) (found : Findings)
    (boxes : List YoloResult) : Option Findings :=
  let found : Findings := { result := boxes.length = 25
                            pos_infoArray := found.pos_infoArray ++ [yolo_posinfoObj boxes] }
  if found.result then boxes.zipIdx.foldlM (self.classifyBox images) found else some found

def findings (self : MixBrandInference) (images : List Mat) : Option Findings :=
  let nothing : Findings := { result := true, pos_infoArray := [] }
  match self.yolo_model images with
  | (true, yoloResult) => yoloResult.foldlM (self.judgePicture images) nothing
  | (false, _) => some nothing

/-- `MixBrandInference::infer`. -/
def infer (self : MixBrandInference) (qt : QtJson) (ids : List Int) (images : List Mat) :
    Option (List BaseAIResult) :=
  if 1 < ids.length then some (BaseAIResult.refuse ids)
  else do
    let found ← self.findings images
    return List.replicate ids.length
      { m_result := found.result
        m_position_info := positionInfo qt found.pos_infoArray
        m_isg_info := [] }

end MixBrandInference

end IsgConsole.IasCore
