/-
# IopAgent.IasSet — what the console answers to a change of an algorithm

A `PsCmd_IasSet` request names an algorithm type, a channel, an operation and a
configuration.  The client looks the channel up, has its thread carry the operation out, and
acknowledges with the flag that comes back.  The flag is set before anything is looked up.

* `Truthful` — what an acknowledgement promises;
* `truthful_iff` — **the requests whose acknowledgement keeps the promise.**
-/
import IsgConsole.BaseLib.Protocol
import IsgConsole.IasAgent.BatchOperate

namespace IsgConsole.IopAgent

open IsgConsole.Theory IsgConsole.BaseLib IsgConsole.IasBase IsgConsole.IasAgent
open IsgConsole.Theory.Json

set_option autoImplicit false

namespace IasSet

variable {qt : QtJson} {alg : DtAlgorithms qt} {ai : AiAlgorithms}

/-- What the project keeps of its algorithms: a table for each type, by channel id. -/
structure Project (alg : DtAlgorithms qt) (ai : AiAlgorithms) where
  AICtrls : Hash Int (BatchOperate ai)
  channelInfers : Hash Int (ChannelInfer alg)

structure Request where
  iasType : Bytes
  channelId : Int
  operationType : Int
  dtType : Int
  configuration : JsonObject

def Request.read (jsonObj : JsonObject) : Request :=
  { iasType := (jsonObj.get (utf8 "iasType")).toString []
    channelId := (jsonObj.get (utf8 "channelId")).toInt
    operationType := (jsonObj.get (utf8 "operationType")).toInt
    dtType := (jsonObj.get (utf8 "dtType")).toInt
    configuration := (jsonObj.get (utf8 "configuration")).toObject }

def ackBody (result : Bool) (resultJson : JsonObject) : JsonObject :=
  if result then
    JsonObject.ofInserts [(utf8 "result", .object resultJson), (utf8 "code", int CTRL_SUCCESS),
      (utf8 "message", .string (utf8 "Success"))]
  else
    JsonObject.ofInserts [(utf8 "code", int CTRL_ERROR), (utf8 "message", .string (utf8 "Error"))]

/-- What a request does: the project after it and the body of the reply; `none` when the process
ends before it answers.  An AI request names its channel in the configuration. -/
def onRequest (project : Project alg ai) (r : Request) (fileOpens : Bool) :
    Option (Project alg ai × JsonObject) :=
  if r.iasType = utf8 "AI" then
    let channelId := IasJsonParser.getComponentId r.configuration
    match project.AICtrls.lookup channelId with
    | none => some (project, ackBody true [])
    | some batchInfer =>
        match batchInfer.onOperateInfer qt r.operationType r.configuration [] fileOpens with
        | none => none
        | some (result, resultJson, after) =>
            some ({ project with AICtrls := project.AICtrls.modify channelId fun _ => after },
              ackBody result resultJson)
  else if r.iasType = utf8 "DT" then
    match project.channelInfers.lookup r.channelId with
    | none => some (project, ackBody true [])
    | some channelInfer =>
        let done := channelInfer.onOperateInfer r.operationType r.dtType r.configuration []
          fileOpens
        some ({ project with
            channelInfers := project.channelInfers.modify r.channelId fun _ => done.2.2 },
          ackBody done.1 done.2.1)
  else some (project, ackBody true [])

/-- `TcpClient::onMessageCTRL` of a `PsCmd_IasSet`; the body goes to `respondToPolicyStore`. -/
def onIasSet (project : Project alg ai) (jsonObj : JsonObject) (fileOpens : Bool) :
    Option (Project alg ai × JsonObject) :=
  onRequest project (.read jsonObj) fileOpens

def replyCode (body : JsonObject) : Int := (body.get (utf8 "code")).toInt

@[simp] theorem replyCode_ackBody (result : Bool) (resultJson : JsonObject) :
    replyCode (ackBody result resultJson) = if result then CTRL_SUCCESS else CTRL_ERROR := by
  cases result with
  | true => rfl
  | false => rfl

theorem result_of_success {result : Bool} {resultJson : JsonObject}
    (code : replyCode (ackBody result resultJson) = CTRL_SUCCESS) : result = true := by
  rw [replyCode_ackBody] at code
  cases result with
  | true => rfl
  | false => cases code

/-! ## What was asked for -/

section CarriedOut

variable (before after : ChannelInfer alg) (config : JsonObject)

/-- The locator of a configuration is registered as it was loaded. -/
def LocatorRegistered : Prop :=
  ∃ made loaded, alg.getLocator (ChannelInfer.locatorMethod config) = some made ∧
    before.loadNewLocator config made = some loaded ∧
    after.m_locators.lookup (ChannelInfer.locatorId config) =
      some (ChannelInfer.itemOf config (ChannelInfer.locatorMethod config)
        (ChannelInfer.locatorId config) before.m_algorithmJsonFilePath loaded.2)

/-- The detector of a configuration is registered as it was loaded, at its locators. -/
def DetectorRegistered : Prop :=
  ∃ made locate_point loaded, alg.getDetector (IasJsonParser.getMethod config) = some made ∧
    before.getLocatePointOf config = some locate_point ∧
    before.loadNewDetector config locate_point made = some loaded ∧
    after.m_detectors.lookup (IasJsonParser.getId config) =
      some (ChannelInfer.itemOf config (IasJsonParser.getMethod config)
        (IasJsonParser.getId config) before.m_algorithmJsonFilePath loaded.2)

/-- What `update` of the registered locator answers to a configuration. -/
def locatorUpdate : Option (ChannelItem alg.Locator × Option Bool × alg.Locator) :=
  (before.m_locators.lookup (IasJsonParser.getId config)).map fun item =>
    (item, alg.updateLocator (IasJsonParser.toQString qt config) item.m_base)

/-- What `update` of the registered detector answers, placed at the locators it asks for. -/
def detectorUpdate : Option (ChannelItem alg.Detector × Option Bool × alg.Detector) := do
  let item ← before.m_detectors.lookup (IasJsonParser.getId config)
  let locatePoint ← before.getLocatePointOf config
  return (item, alg.updateDetector (IasJsonParser.toQString qt config)
    { item.m_base with self := alg.setLocateRoot locatePoint item.m_base.self })

/-- The registered locator has taken the configuration over. -/
def LocatorUpdated : Prop :=
  ∃ item updated, locatorUpdate before config = some (item, some true, updated) ∧
    after.m_locators.lookup (IasJsonParser.getId config) = some (item.withSelf updated)

def DetectorUpdated : Prop :=
  ∃ item updated, detectorUpdate before config = some (item, some true, updated) ∧
    after.m_detectors.lookup (IasJsonParser.getId config) = some (item.withSelf updated)

/-- An operation on a DT channel was carried out.  An update of the template picture is never
carried out, since no branch replaces one. -/
structure DtCarriedOut (op_type dt_type : Int) : Prop where
  added : op_type = DT_OPERATION_ADD →
    dt_type = DT_TYPE_LOCATOR ∧ LocatorRegistered before after config ∨
    dt_type = DT_TYPE_DETECTOR ∧ DetectorRegistered before after config
  deleted : op_type = DT_OPERATION_DEL →
    dt_type = DT_TYPE_LOCATOR ∧ IasJsonParser.getId config ∉ after.m_locators ∨
    dt_type = DT_TYPE_DETECTOR ∧ IasJsonParser.getId config ∉ after.m_detectors
  updated : op_type = DT_OPERATION_UPDATE_PARAM →
    dt_type = DT_TYPE_LOCATOR ∧ LocatorUpdated before after config ∨
    dt_type = DT_TYPE_DETECTOR ∧ DetectorUpdated before after config
  image : op_type ≠ DT_OPERATION_UPDATE_IMAGE

/-- An addition is refused by an exception of `load`. -/
def LocatorLoadThrows : Prop :=
  ChannelInfer.locatorId config ∉ before.m_locators ∧
  ∃ made, alg.getLocator (ChannelInfer.locatorMethod config) = some made ∧
    before.loadNewLocator config made = none

def DetectorLoadThrows : Prop :=
  IasJsonParser.getId config ∉ before.m_detectors ∧
  ∃ made locate_point, alg.getDetector (IasJsonParser.getMethod config) = some made ∧
    before.getLocatePointOf config = some locate_point ∧
    before.loadNewDetector config locate_point made = none

/-- An update is refused by an exception of `update`. -/
def LocatorUpdateThrows : Prop :=
  ∃ item updated, locatorUpdate before config = some (item, none, updated)

def DetectorUpdateThrows : Prop :=
  ∃ item updated, detectorUpdate before config = some (item, none, updated)

/-- Nothing was registered or unregistered. -/
def SameIds : Prop :=
  (∀ id, id ∈ after.m_locators ↔ id ∈ before.m_locators) ∧
  ∀ id, id ∈ after.m_detectors ↔ id ∈ before.m_detectors

end CarriedOut

section AiCarriedOut

variable (qt) (before after : BatchOperate ai) (config : JsonObject)

/-- An operation on an AI channel was carried out. -/
structure AiCarriedOut (op_type : Int) : Prop where
  added : op_type = AI_OPERATION_ADD → ∃ made loaded,
    ai.getAiInference (IasJsonParser.getComponentType config) = some made ∧
    before.loadNew qt config made = some (true, loaded) ∧
    after.m_aiInference = some { m_id := IasJsonParser.getComponentId config
                                 m_path := before.m_algorithmJsonFilePath, self := loaded }
  deleted : op_type = AI_OPERATION_DEL → after.m_aiInference = none
  updated : op_type = AI_OPERATION_UPDATE_PARAM → ∃ aiInference updated,
    before.m_aiInference = some aiInference ∧
    ai.update (BatchOperate.paramsText qt config) aiInference = some (true, updated) ∧
    after.m_aiInference = some { aiInference with self := updated }

def InferenceLoadThrows : Prop :=
  before.m_aiInference = none ∧
  ∃ made, ai.getAiInference (IasJsonParser.getComponentType config) = some made ∧
    before.loadNew qt config made = none

def InferenceUpdateThrows : Prop :=
  ∃ aiInference, before.m_aiInference = some aiInference ∧
    ai.update (BatchOperate.paramsText qt config) aiInference = none

end AiCarriedOut

/-! ## DT channels -/

section Dt

variable (self : ChannelInfer alg) (config : JsonObject)

theorem addLocator_registered (done : (self.addLocator config).1 = true) :
    LocatorRegistered self (self.addLocator config).2 config := by
  have addition := self.addLocator_cases config
  generalize self.addLocator config = r at addition done ⊢
  cases addition with
  | known | noFactory | threw => cases done
  | added made loaded fresh factory load =>
      exact ⟨made, loaded, factory, load, AList.lookup_insert _⟩

theorem addDetector_registered (loads : ¬ DetectorLoadThrows self config)
    (done : (self.addDetector config).1 = true) :
    DetectorRegistered self (self.addDetector config).2 config := by
  have addition := self.addDetector_cases config
  generalize self.addDetector config = r at addition done ⊢
  cases addition with
  | known | noFactory | noLocator => cases done
  | threw made locate_point fresh factory located threw =>
      exact absurd ⟨fresh, made, locate_point, factory, located, threw⟩ loads
  | added made locate_point loaded fresh factory located load =>
      exact ⟨made, locate_point, loaded, factory, located, load, AList.lookup_insert _⟩

/-- An exception of a locator refuses its addition .. -/
theorem addLocator_throws (throws : LocatorLoadThrows self config) :
    self.addLocator config = (false, self) := by
  obtain ⟨fresh, made, factory, threw⟩ := throws
  simp [ChannelInfer.addLocator, fresh, factory, threw]

/-- .. and that of a detector is reported as a success. -/
theorem addDetector_throws (throws : DetectorLoadThrows self config) :
    self.addDetector config = (true, self) := by
  obtain ⟨fresh, made, locate_point, factory, located, threw⟩ := throws
  simp [ChannelInfer.addDetector, fresh, factory, located, threw]

theorem removeLocator_removed (done : (self.removeLocator config).1 = true) :
    IasJsonParser.getId config ∉ (self.removeLocator config).2.m_locators := by
  simp only [ChannelInfer.removeLocator] at done ⊢
  split at done
  next there =>
      rw [if_pos there]
      exact fun still => (AList.mem_erase.mp still).1 rfl
  next => cases done

theorem removeDetector_removed (done : (self.removeDetector config).1 = true) :
    IasJsonParser.getId config ∉ (self.removeDetector config).2.m_detectors := by
  simp only [ChannelInfer.removeDetector] at done ⊢
  split at done
  next there =>
      rw [if_pos there]
      exact fun still => (AList.mem_erase.mp still).1 rfl
  next => cases done

theorem updateLocator_updated (done : (self.updateLocator config).1 = true) :
    LocatorUpdated self (self.updateLocator config).2 config := by
  cases held : self.m_locators.lookup (IasJsonParser.getId config) with
  | none => simp [ChannelInfer.updateLocator, held] at done
  | some item =>
      rcases answer : alg.updateLocator (IasJsonParser.toQString qt config) item.m_base
        with ⟨result, updated⟩
      have fine : result = some true := by
        by_contra refused
        simp [ChannelInfer.updateLocator, held, answer, refused] at done
      subst fine
      exact ⟨item, updated, by simp [locatorUpdate, held, answer],
        by simp [ChannelInfer.updateLocator, held, answer]⟩

theorem updateDetector_updated (done : (self.updateDetector config).1 = true) :
    DetectorUpdated self (self.updateDetector config).2 config := by
  cases held : self.m_detectors.lookup (IasJsonParser.getId config) with
  | none => simp [ChannelInfer.updateDetector, held] at done
  | some item =>
      cases located : self.getLocatePointOf config with
      | none => simp [ChannelInfer.updateDetector, held, located] at done
      | some locatePoint =>
          rcases answer : alg.updateDetector (IasJsonParser.toQString qt config)
            { item.m_base with self := alg.setLocateRoot locatePoint item.m_base.self }
            with ⟨result, updated⟩
          have fine : result = some true := by
            simpa [ChannelInfer.updateDetector, held, located, answer, Option.getD_eq_iff]
              using done
          subst fine
          exact ⟨item, updated, by simp [detectorUpdate, held, located, answer],
            by simp [ChannelInfer.updateDetector, held, located, answer]⟩

theorem updateLocator_throws (throws : LocatorUpdateThrows self config) :
    (self.updateLocator config).1 = false ∧ SameIds self (self.updateLocator config).2 := by
  obtain ⟨item, updated, asked⟩ := throws
  obtain ⟨held, there, answer⟩ := Option.map_eq_some_iff.mp asked
  obtain ⟨rfl, threw⟩ := Prod.mk.inj answer
  simp [ChannelInfer.updateLocator, there, threw, SameIds]

theorem updateDetector_throws (throws : DetectorUpdateThrows self config) :
    (self.updateDetector config).1 = false ∧ SameIds self (self.updateDetector config).2 := by
  obtain ⟨item, updated, asked⟩ := throws
  obtain ⟨held, there, asked⟩ := Option.bind_eq_some_iff.mp asked
  obtain ⟨locatePoint, located, asked⟩ := Option.bind_eq_some_iff.mp asked
  obtain ⟨rfl, threw⟩ := Prod.mk.inj (Option.some.inj asked)
  simp [ChannelInfer.updateDetector, there, located, threw, SameIds]

/-- The operations that end in an exception. -/
theorem onOperateInfer_locatorThrows (throws : LocatorLoadThrows self config)
    (resultJson : JsonObject) (fileOpens : Bool) :
    self.onOperateInfer DT_OPERATION_ADD DT_TYPE_LOCATOR config resultJson fileOpens =
      (false, resultJson, self) := by
  show ((self.addLocator config).1, resultJson, (self.addLocator config).2) = _
  rw [addLocator_throws self config throws]

theorem onOperateInfer_throws (throws : DetectorLoadThrows self config)
    (resultJson : JsonObject) (fileOpens : Bool) :
    self.onOperateInfer DT_OPERATION_ADD DT_TYPE_DETECTOR config resultJson fileOpens =
      (true, resultJson, self) := by
  show ((self.addDetector config).1, resultJson, (self.addDetector config).2) = _
  rw [addDetector_throws self config throws]

theorem onOperateInfer_updateThrows {dt_type : Int}
    (throws : dt_type = DT_TYPE_LOCATOR ∧ LocatorUpdateThrows self config ∨
      dt_type = DT_TYPE_DETECTOR ∧ DetectorUpdateThrows self config)
    (resultJson : JsonObject) (fileOpens : Bool) :
    let done := self.onOperateInfer DT_OPERATION_UPDATE_PARAM dt_type config resultJson fileOpens
    done.1 = false ∧ SameIds self done.2.2 := by
  rcases throws with ⟨rfl, throws⟩ | ⟨rfl, throws⟩
  · exact updateLocator_throws self config throws
  · exact updateDetector_throws self config throws

/-- A success is a request carried out, apart from the two that are acknowledged regardless. -/
theorem onOperateInfer_carriedOut {op_type dt_type : Int} {fileOpens : Bool}
    (loads : op_type = DT_OPERATION_ADD → dt_type = DT_TYPE_DETECTOR →
      ¬ DetectorLoadThrows self config)
    (noImage : op_type ≠ DT_OPERATION_UPDATE_IMAGE)
    (done : (self.onOperateInfer op_type dt_type config [] fileOpens).1 = true) :
    DtCarriedOut self (self.onOperateInfer op_type dt_type config [] fileOpens).2.2 config
      op_type dt_type := by
  have operation := self.onOperateInfer_cases config op_type dt_type [] fileOpens
  generalize self.onOperateInfer op_type dt_type config [] fileOpens = r at operation done ⊢
  cases operation with
  | addLocator op dt =>
      subst op dt
      exact ⟨fun _ => .inl ⟨rfl, addLocator_registered self config done⟩, nofun, nofun, noImage⟩
  | addDetector op dt =>
      subst op dt
      exact ⟨fun _ => .inr ⟨rfl, addDetector_registered self config (loads rfl rfl) done⟩, nofun,
        nofun, noImage⟩
  | removeLocator op dt =>
      subst op dt
      exact ⟨nofun, fun _ => .inl ⟨rfl, removeLocator_removed self config done⟩, nofun, noImage⟩
  | removeDetector op dt =>
      subst op dt
      exact ⟨nofun, fun _ => .inr ⟨rfl, removeDetector_removed self config done⟩, nofun, noImage⟩
  | updateLocator op dt =>
      subst op dt
      exact ⟨nofun, nofun, fun _ => .inl ⟨rfl, updateLocator_updated self config done⟩, noImage⟩
  | updateDetector op dt =>
      subst op dt
      exact ⟨nofun, nofun, fun _ => .inr ⟨rfl, updateDetector_updated self config done⟩, noImage⟩
  | updateImage op => exact absurd op noImage
  | resetLocator op | resetDetector op | execLocator op | execDetector op | saved op =>
      subst op
      exact ⟨nofun, nofun, nofun, noImage⟩
  | refused => cases done

end Dt

/-! ## AI channels -/

section Ai

variable (qt) (self : BatchOperate ai) (config : JsonObject)

/-- An exception of an inference ends the process. -/
theorem onOperateInfer_loadEnds (throws : InferenceLoadThrows qt self config)
    (resultJson : JsonObject) (fileOpens : Bool) :
    self.onOperateInfer qt AI_OPERATION_ADD config resultJson fileOpens = none := by
  obtain ⟨free, made, factory, threw⟩ := throws
  have ends : self.addAiInference qt config = none := by
    simp [BatchOperate.addAiInference, free, factory, threw]
  show (self.addAiInference qt config).map _ = none
  rw [ends]
  rfl

theorem onOperateInfer_updateEnds (throws : InferenceUpdateThrows qt self config)
    (resultJson : JsonObject) (fileOpens : Bool) :
    self.onOperateInfer qt AI_OPERATION_UPDATE_PARAM config resultJson fileOpens = none := by
  obtain ⟨aiInference, held, threw⟩ := throws
  have ends : self.updateAiInference qt config = none := by
    simp [BatchOperate.updateAiInference, held, threw]
  show (self.updateAiInference qt config).map _ = none
  rw [ends]
  rfl

theorem addAiInference_added {after : BatchOperate ai}
    (done : self.addAiInference qt config = some (true, after)) :
    ∃ made loaded, ai.getAiInference (IasJsonParser.getComponentType config) = some made ∧
      self.loadNew qt config made = some (true, loaded) ∧
      after.m_aiInference = some { m_id := IasJsonParser.getComponentId config
                                   m_path := self.m_algorithmJsonFilePath, self := loaded } := by
  unfold BatchOperate.addAiInference at done
  split at done
  next => cases done
  next =>
      split at done
      next => cases done
      next made factory =>
          split at done
          next => cases done
          next loaded load =>
              obtain ⟨fine, rfl⟩ := Prod.mk.inj (Option.some.inj done)
              exact ⟨made, loaded.2, factory, by rw [load, ← fine], rfl⟩

theorem updateAiInference_updated {after : BatchOperate ai}
    (done : self.updateAiInference qt config = some (true, after)) :
    ∃ aiInference updated, self.m_aiInference = some aiInference ∧
      ai.update (BatchOperate.paramsText qt config) aiInference = some (true, updated) ∧
      after.m_aiInference = some { aiInference with self := updated } := by
  unfold BatchOperate.updateAiInference at done
  split at done
  next => cases done
  next aiInference held =>
      split at done
      next => cases done
      next updated answer =>
          obtain ⟨fine, rfl⟩ := Prod.mk.inj (Option.some.inj done)
          exact ⟨aiInference, updated.2, held, by rw [answer, ← fine], rfl⟩

/-- A success is a request carried out. -/
theorem onOperateInfer_aiCarriedOut {op_type : Int} {fileOpens : Bool} {resultJson : JsonObject}
    {after : BatchOperate ai}
    (done : self.onOperateInfer qt op_type config [] fileOpens = some (true, resultJson, after)) :
    AiCarriedOut qt self after config op_type := by
  simp only [BatchOperate.onOperateInfer] at done
  split at done
  next op =>
      subst op
      obtain ⟨⟨result, added⟩, ran, same⟩ := Option.map_eq_some_iff.mp done
      obtain ⟨rfl, -, rfl⟩ := same
      exact ⟨fun _ => addAiInference_added qt self config ran, nofun, nofun⟩
  next =>
      split at done
      next op =>
          subst op
          obtain ⟨⟨result, updated⟩, ran, same⟩ := Option.map_eq_some_iff.mp done
          obtain ⟨rfl, -, rfl⟩ := same
          exact ⟨nofun, nofun, fun _ => updateAiInference_updated qt self config ran⟩
      next =>
          split at done
          next op =>
              subst op
              exact ⟨nofun, nofun, nofun⟩
          next => cases done

end Ai

/-! ## Acknowledgements -/

section Acknowledgement

variable (before : Project alg ai) (r : Request)

/-- The channel a request addresses. -/
def AiChannel (batchInfer : BatchOperate ai) : Prop :=
  r.iasType = utf8 "AI" ∧
    before.AICtrls.lookup (IasJsonParser.getComponentId r.configuration) = some batchInfer

def DtChannel (channelInfer : ChannelInfer alg) : Prop :=
  r.iasType = utf8 "DT" ∧ before.channelInfers.lookup r.channelId = some channelInfer

/-- Type and channel are known. -/
def Known : Prop := (∃ batchInfer, AiChannel before r batchInfer) ∨ ∃ c, DtChannel before r c

/-- The addressed channel exists and the request was carried out on it. -/
def CarriedOut (after : Project alg ai) : Prop :=
  (∃ c c', AiChannel before r c ∧
    after.AICtrls.lookup (IasJsonParser.getComponentId r.configuration) = some c' ∧
    AiCarriedOut qt c c' r.configuration r.operationType) ∨
  ∃ c c', DtChannel before r c ∧ after.channelInfers.lookup r.channelId = some c' ∧
    DtCarriedOut c c' r.configuration r.operationType r.dtType

/-- Loading what the request adds throws. -/
def LoadThrows : Prop :=
  (∃ c, AiChannel before r c ∧ r.operationType = AI_OPERATION_ADD ∧
    InferenceLoadThrows qt c r.configuration) ∨
  ∃ c, DtChannel before r c ∧ r.operationType = DT_OPERATION_ADD ∧
    (r.dtType = DT_TYPE_LOCATOR ∧ LocatorLoadThrows c r.configuration ∨
      r.dtType = DT_TYPE_DETECTOR ∧ DetectorLoadThrows c r.configuration)

def UpdateThrows : Prop :=
  (∃ c, AiChannel before r c ∧ r.operationType = AI_OPERATION_UPDATE_PARAM ∧
    InferenceUpdateThrows qt c r.configuration) ∨
  ∃ c, DtChannel before r c ∧ r.operationType = DT_OPERATION_UPDATE_PARAM ∧
    (r.dtType = DT_TYPE_LOCATOR ∧ LocatorUpdateThrows c r.configuration ∨
      r.dtType = DT_TYPE_DETECTOR ∧ DetectorUpdateThrows c r.configuration)

/-- **What an acknowledgement promises**: success only for a request that was carried out, and
an error for one that could not be, with the tables as they were. -/
structure Truthful (reply : Option (Project alg ai × JsonObject)) : Prop where
  success : ∀ after body, reply = some (after, body) → replyCode body = CTRL_SUCCESS →
    CarriedOut before r after
  refused : ¬ Known before r ∨ LoadThrows before r → ∃ after body, reply = some (after, body) ∧
    replyCode body = CTRL_ERROR ∧
    ∀ id, after.channelInfers.lookup id = before.channelInfers.lookup id
  updateRefused : UpdateThrows before r → ∃ after body, reply = some (after, body) ∧
    replyCode body = CTRL_ERROR ∧
    ∀ id c, before.channelInfers.lookup id = some c →
      ∃ c', after.channelInfers.lookup id = some c' ∧ SameIds c c'

/-- The requests the client can acknowledge as it does. -/
structure Dependable : Prop where
  known : Known before r
  detector : ∀ c, DtChannel before r c → r.operationType = DT_OPERATION_ADD →
    r.dtType = DT_TYPE_DETECTOR → ¬ DetectorLoadThrows c r.configuration
  image : ∀ c, DtChannel before r c → r.operationType ≠ DT_OPERATION_UPDATE_IMAGE
  load : ∀ c, AiChannel before r c → r.operationType = AI_OPERATION_ADD →
    ¬ InferenceLoadThrows qt c r.configuration
  update : ∀ c, AiChannel before r c → r.operationType = AI_OPERATION_UPDATE_PARAM →
    ¬ InferenceUpdateThrows qt c r.configuration

end Acknowledgement

section Reply

variable {before : Project alg ai} {r : Request} {fileOpens : Bool}

/-- A request for an unknown type or channel is acknowledged. -/
theorem onRequest_unknown (unknown : ¬ Known before r) :
    onRequest before r fileOpens = some (before, ackBody true []) := by
  simp only [onRequest]
  split
  next ai =>
      split
      next => rfl
      next c held => exact absurd (.inl ⟨c, ai, held⟩) unknown
  next =>
      split
      next dt =>
          split
          next => rfl
          next c held => exact absurd (.inr ⟨c, dt, held⟩) unknown
      next => rfl

theorem onRequest_dt {c : ChannelInfer alg} (channel : DtChannel before r c) :
    onRequest before r fileOpens =
      let done := c.onOperateInfer r.operationType r.dtType r.configuration [] fileOpens
      some ({ before with
          channelInfers := before.channelInfers.modify r.channelId fun _ => done.2.2 },
        ackBody done.1 done.2.1) := by
  have other : r.iasType ≠ utf8 "AI" := by
    rw [channel.1]
    decide
  simp only [onRequest, if_neg other, if_pos channel.1, channel.2]

theorem onRequest_ai {c : BatchOperate ai} (channel : AiChannel before r c) :
    onRequest before r fileOpens =
      (c.onOperateInfer qt r.operationType r.configuration [] fileOpens).map fun done =>
        ({ before with
            AICtrls := before.AICtrls.modify (IasJsonParser.getComponentId r.configuration)
              fun _ => done.2.2 },
          ackBody done.1 done.2.1) := by
  simp only [onRequest, if_pos channel.1, channel.2]
  split <;> simp [*]

/-- A reply that keeps its promise comes from a request the client can acknowledge. -/
theorem dependable_of_truthful
    (truthful : Truthful before r (onRequest before r fileOpens)) :
    Dependable before r := by
  have known : Known before r := by
    by_contra unknown
    obtain ⟨after, body, reply, code, -⟩ := truthful.refused (.inl unknown)
    rw [onRequest_unknown unknown] at reply
    obtain ⟨-, rfl⟩ := Prod.mk.inj (Option.some.inj reply)
    exact absurd code (by decide)
  refine ⟨known, fun c channel op dt throws => ?_, fun c channel op => ?_,
    fun c channel op throws => ?_, fun c channel op throws => ?_⟩
  · obtain ⟨after, body, reply, code, -⟩ :=
      truthful.refused (.inr (.inr ⟨c, channel, op, .inr ⟨dt, throws⟩⟩))
    rw [onRequest_dt channel] at reply
    obtain ⟨-, rfl⟩ := Prod.mk.inj (Option.some.inj reply)
    rw [op, dt, onOperateInfer_throws c _ throws, replyCode_ackBody] at code
    cases code
  · have reply : onRequest before r fileOpens = _ := onRequest_dt channel
    rw [op] at reply
    rcases truthful.success _ _ reply (by rw [replyCode_ackBody]; rfl) with
      ⟨_, _, other, -⟩ | ⟨_, _, -, -, carried⟩
    · have same := other.1.symm.trans channel.1
      exact absurd same (by decide)
    · exact carried.image op
  · obtain ⟨after, body, reply, -⟩ := truthful.refused (.inr (.inl ⟨c, channel, op, throws⟩))
    rw [onRequest_ai channel, op, onOperateInfer_loadEnds qt c _ throws] at reply
    cases reply
  · obtain ⟨after, body, reply, -⟩ := truthful.updateRefused (.inl ⟨c, channel, op, throws⟩)
    rw [onRequest_ai channel, op, onOperateInfer_updateEnds qt c _ throws] at reply
    cases reply

theorem truthful_of_dependable (dependable : Dependable before r) :
    Truthful before r (onRequest before r fileOpens) := by
  refine ⟨fun after body reply code => ?_, fun refused => ?_, fun throws => ?_⟩
  · rcases dependable.known with ⟨c, channel⟩ | ⟨c, channel⟩
    · rw [onRequest_ai channel] at reply
      obtain ⟨⟨result, resultJson, c'⟩, ran, same⟩ := Option.map_eq_some_iff.mp reply
      obtain ⟨rfl, rfl⟩ := Prod.mk.inj same
      obtain rfl := result_of_success code
      refine .inl ⟨c, c', channel, ?_, onOperateInfer_aiCarriedOut qt c r.configuration ran⟩
      simp [channel.2]
    · rw [onRequest_dt channel] at reply
      obtain ⟨rfl, rfl⟩ := Prod.mk.inj (Option.some.inj reply)
      refine .inr ⟨c, _, channel, ?_, onOperateInfer_carriedOut c r.configuration
        (dependable.detector c channel) (dependable.image c channel) (result_of_success code)⟩
      simp [channel.2]
  · rcases refused with unknown | ⟨c, channel, op, throws⟩ | ⟨c, channel, op, why⟩
    · exact absurd dependable.known unknown
    · exact absurd throws (dependable.load c channel op)
    · rcases why with ⟨dt, throws⟩ | ⟨dt, throws⟩
      · refine ⟨_, _, onRequest_dt channel, ?_, fun id => ?_⟩
        · rw [op, dt, onOperateInfer_locatorThrows c _ throws, replyCode_ackBody]
          rfl
        · rw [op, dt, onOperateInfer_locatorThrows c _ throws]
          by_cases here : id = r.channelId
          · subst here
            simp [channel.2]
          · simp [here]
      · exact absurd throws (dependable.detector c channel op dt)
  · rcases throws with ⟨c, channel, op, throws⟩ | ⟨c, channel, op, why⟩
    · exact absurd throws (dependable.update c channel op)
    · obtain ⟨failed, same⟩ := onOperateInfer_updateThrows c r.configuration why [] fileOpens
      refine ⟨_, _, onRequest_dt channel, ?_, fun id c₀ held => ?_⟩
      · rw [op, failed, replyCode_ackBody]
        rfl
      · rw [op]
        by_cases here : id = r.channelId
        · subst here
          obtain rfl := Option.some.inj (channel.2.symm.trans held)
          exact ⟨_, by simp [held], same⟩
        · exact ⟨c₀, by simp [here, held], fun _ => Iff.rfl, fun _ => Iff.rfl⟩

end Reply

/-- **The requests whose acknowledgement is truthful.** -/
theorem truthful_iff (before : Project alg ai) (jsonObj : JsonObject) (fileOpens : Bool) :
    Truthful before (.read jsonObj) (onIasSet before jsonObj fileOpens) ↔
      Dependable before (.read jsonObj) :=
  ⟨dependable_of_truthful, truthful_of_dependable⟩

/-! Two requests that change nothing and are acknowledged: one for a channel that does not exist,
and one for a detector whose `load` throws. -/

/-- A console with the DT channel 1, whose detectors throw when they load. -/
abbrev algorithms : DtAlgorithms QtJson.reference := .reference QtJson.reference fun _ => true

def noAi : AiAlgorithms where
  Inference := Unit
  getAiInference _ := none
  load _ _ := some (true, ())
  update _ _ := some (true, ())

def channel : ChannelInfer algorithms := (ChannelInfer.start algorithms 1 []).initModel [] []

def console : Project algorithms noAi :=
  { AICtrls := ∅, channelInfers := (∅ : Hash Int (ChannelInfer algorithms)).insert 1 channel }

def addDetectorJson (channelId : Int) : JsonObject :=
  [(utf8 "iasType", .string (utf8 "DT")), (utf8 "channelId", int channelId),
   (utf8 "operationType", int DT_OPERATION_ADD), (utf8 "dtType", int DT_TYPE_DETECTOR),
   (utf8 "configuration", .object [(utf8 "id", int 1)])]

theorem nothing_acknowledged :
    ¬ Truthful console (.read (addDetectorJson 9)) (onIasSet console (addDetectorJson 9) true) ∧
    ¬ Truthful console (.read (addDetectorJson 1)) (onIasSet console (addDetectorJson 1) true) := by
  constructor
  · intro truthful
    rcases (dependable_of_truthful truthful).known with ⟨c, type, -⟩ | ⟨c, -, held⟩
    · exact absurd type (by decide)
    · cases held
  · intro truthful
    refine (dependable_of_truthful truthful).detector channel ⟨rfl, rfl⟩ rfl rfl ?_
    exact ⟨by decide, (0, 0), ⟨0, 0⟩, rfl, rfl, rfl⟩

end IasSet

end IsgConsole.IopAgent
