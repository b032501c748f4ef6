/-
# IasAgent.BatchOperate — operations on the inference of an AI channel

`BatchInfer::onOperateInfer` loads an inference once, updates it and saves its file.  It
guards no call: an exception of the inference is not caught anywhere on the thread and ends
the process, which the operations answer with `none`.
-/
import IsgConsole.IasAgent.ChannelInfer

namespace IsgConsole.IasAgent

open IsgConsole.Theory IsgConsole.BaseLib IsgConsole.IasBase IsgConsole.Theory.Json

set_option autoImplicit false

def AI_OPERATION_ADD : Int := 1
def AI_OPERATION_DEL : Int := 2
def AI_OPERATION_UPDATE_PARAM : Int := 3
def AI_OPERATION_SAVE : Int := 100

/-- The AI inferences a library registers, as `BaseAiInference.h` declares them; a call that
throws answers `none`. -/
structure AiAlgorithms where
  Inference : Type
  /-- `FindBaseAiInferenceFactory(componentType)->getAiInference()`. -/
  getAiInference : Int → Option Inference
  load : Bytes → BaseObject Inference → Option (Bool × Inference)
  update : Bytes → BaseObject Inference → Option (Bool × Inference)

/-- What the operations of `BatchInfer` read and write. -/
structure BatchOperate (ai : AiAlgorithms) where
  m_aiInference : Option (BaseObject ai.Inference)
  m_algorithmJsonFilePath : Bytes
  m_channelID : Int
  m_bInitOK : Bool

namespace BatchOperate

variable {ai : AiAlgorithms} (qt : QtJson)

/-- The text of the `params` of a configuration. -/
def paramsText (inputJson : JsonObject) : Bytes :=
  IasJsonParser.toQString qt (inputJson.get (utf8 "params")).toObject

/-- `load` on a new inference. -/
def loadNew (self : BatchOperate ai) (inputJson : JsonObject) (made : ai.Inference) :
    Option (Bool × ai.Inference) :=
  ai.load (paramsText qt inputJson)
    { m_id := IasJsonParser.getComponentId inputJson, m_path := self.m_algorithmJsonFilePath
      self := made }

/-- The channel with an inference it has just loaded, well or not. -/
def withLoaded (self : BatchOperate ai) (inputJson : JsonObject) (loaded : Bool × ai.Inference) :
    BatchOperate ai :=
  { self with
    m_aiInference := some
      { m_id := IasJsonParser.getComponentId inputJson, m_path := self.m_algorithmJsonFilePath
        self := loaded.2 }
    m_bInitOK := if loaded.1 then true else self.m_bInitOK }

/-- `BatchInfer::addAiInference`. -/
def addAiInference (self : BatchOperate ai) (inputJson : JsonObject) :
    Option (Bool × BatchOperate ai) :=
  if self.m_aiInference.isSome then some (false, self)
  else
    match ai.getAiInference (IasJsonParser.getComponentType inputJson) with
    | none => some (false, self)
    | some made =>
        match self.loadNew qt inputJson made with
        | none => none
        | some loaded => some (loaded.1, self.withLoaded inputJson loaded)

/-- The update of the inference there is. -/
def updateAiInference (self : BatchOperate ai) (inputJson : JsonObject) :
    Option (Bool × BatchOperate ai) :=
  match self.m_aiInference with
  | none => some (false, self)
  | some aiInference =>
      match ai.update (paramsText qt inputJson) aiInference with
      | none => none
      | some updated =>
          some (updated.1, { self with
            m_aiInference := some { aiInference with self := updated.2 } })

/-- `BatchInfer::onOperateInfer`. -/
def onOperateInfer (self : BatchOperate ai) (op_type : Int) (inputJson resultJson : JsonObject)
    (fileOpens : Bool) : Option (Bool × JsonObject × BatchOperate ai) :=
  let plain (done : Option (Bool × BatchOperate ai)) := done.map fun d => (d.1, resultJson, d.2)
  if op_type = AI_OPERATION_ADD then plain (self.addAiInference qt inputJson)
  else if op_type = AI_OPERATION_UPDATE_PARAM then plain (self.updateAiInference qt inputJson)
  else if op_type = AI_OPERATION_SAVE then
    match ChannelInfer.saveAlgorithmFile qt fileOpens inputJson with
    | some checksum =>
        some (true, ((resultJson.insert (utf8 "channel_id") (int self.m_channelID)).insert
          (utf8 "json_checksum") (int checksum)), self)
    | none => some (false, resultJson, self)
  else some (false, resultJson, self)

/-- `BatchInfer::releaseModel`; what `remove` returns is not looked at. -/
def releaseModel (self : BatchOperate ai) : BatchOperate ai :=
  if self.m_bInitOK then { self with m_aiInference := none, m_bInitOK := false } else self

end BatchOperate

end IsgConsole.IasAgent
