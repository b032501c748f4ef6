/-
# IasAgent.BatchInfer — a group of pictures through an inference

`onImageGroup` hands the pictures to the inference of the channel and emits one result for
each, with the JSON `resultVectorToByteArray` wraps around what the inference wrote.
-/
import IsgConsole.IasCore.BaseAiInference

namespace IsgConsole.IasAgent

open IsgConsole.Theory IsgConsole.BaseLib IsgConsole.Inspector IsgConsole.IasCore
open IsgConsole.Theory.Json

set_option autoImplicit false

structure BatchInfer where
  m_channelID : UInt32
  m_bInitOK : Bool
  /-- `m_aiInference->infer`. -/
  m_aiInference : List Int → List Mat → Option (List BaseAIResult)

namespace BatchInfer

/-- The JSON object of one result. -/
def resultJson (qt : QtJson) (cameraId : Int) (baseResult : BaseAIResult) : JsonObject :=
  let posDoc := qt.object (qt.toLocal8Bit baseResult.m_position_info)
  let isgDoc := qt.object (qt.toLocal8Bit baseResult.m_isg_info)
  JsonObject.ofInserts
    [(utf8 "channel_id", int cameraId),
     (utf8 "is_label_show", .bool false),
     (utf8 "pos_info", .array [.object posDoc]),
     (utf8 "isg_info", .array [.object isgDoc]),
     (utf8 "algo_type", int IAS_AI.toNat)]

/-- `BatchInfer::resultVectorToByteArray`, one result for each camera. -/
def resultVectorToByteArray (qt : QtJson) (cameraIdVector : List Int)
    (resultVector : List BaseAIResult) : Option (List Bytes) :=
  cameraIdVector.zipIdx.mapM fun (cameraId, i) => do
    let baseResult ← resultVector[i]?
    return qt.toJson .Compact (.object (resultJson qt cameraId baseResult))

/-- `BatchInfer::onImageGroup`, and the results it emits. -/
def onImageGroup (self : BatchInfer) (qt : QtJson) (imageGroup : ImageGroupData) :
    Option (List ImageIasResult) := do
  let emitted (i : Nat) (cameraId : UInt32) (result : Int) (jsonData : Bytes) :
      Option ImageIasResult := do
    let imageId ← imageGroup.imageIdVector[i]?
    return { objectId := imageGroup.objectId, cameraId := cameraId, imageId := imageId
             iasType := IAS_AI, channelID := self.m_channelID, result := result
             jsonData := jsonData }
  if ¬ self.m_bInitOK then
    imageGroup.cameraIdVector.zipIdx.mapM fun (cameraId, i) =>
      emitted i cameraId RESULT_TIMEOUT []
  else
    let cameraIdVector := imageGroup.cameraIdVector.map fun id => id.toInt32.toInt
    let imageDataVector ← imageGroup.cameraIdVector.zipIdx.mapM fun (_, i) =>
      imageGroup.imageDataVector[i]?
    let resultVector ← self.m_aiInference cameraIdVector imageDataVector
    let byteArrayVector ← resultVectorToByteArray qt cameraIdVector resultVector
    imageGroup.cameraIdVector.zipIdx.mapM fun (cameraId, i) => do
      let result ← resultVector[i]?
      let jsonData ← byteArrayVector[i]?
      emitted i cameraId (if result.m_result then RESULT_OK else RESULT_NG) jsonData

end BatchInfer

end IsgConsole.IasAgent
