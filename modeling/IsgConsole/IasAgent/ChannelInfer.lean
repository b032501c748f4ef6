/-
# IasAgent.ChannelInfer — the locators and detectors of a channel

A channel keeps a table of locators and a table of detectors.  `initModel` fills them from
the configuration file, `releaseModel` empties them, and `onOperateInfer` is what the
operator's requests do to them.  `inferImage` runs the registered items over a picture.

The tables are walked in the order of their entries, which stands for whichever order the
hash tables have.
-/
import IsgConsole.IasAgent.IasJsonParser
import IsgConsole.IasBase.BaseDT
import IsgConsole.Inspector.Infer
import IsgConsole.Theory.Machine

namespace IsgConsole.IasAgent

open IsgConsole.Theory IsgConsole.BaseLib IsgConsole.IasBase IsgConsole.Inspector
open IsgConsole.Theory.Json

set_option autoImplicit false

def DT_OPERATION_ADD : Int := 1
def DT_OPERATION_DEL : Int := 2
def DT_OPERATION_UPDATE_PARAM : Int := 3
def DT_OPERATION_UPDATE_IMAGE : Int := 4
def DT_OPERATION_AUTOVERIFY : Int := 5
def DT_OPERATION_PROCESS : Int := 6
def DT_OPERATION_SAVE : Int := 100

def DT_TYPE_LOCATOR : Int := 1
def DT_TYPE_DETECTOR : Int := 2

def DEFAULT_LOCATE_METHOD : Int := 0
def DEFAULT_LOCATE_ID : Int := 0

/-! ## State -/

/-- `ChannelLocator` and `ChannelDetector`. -/
structure ChannelItem (α : Type) where
  m_base : BaseObject α
  m_group : Int
  m_feature : Int
  m_method : Int
  m_id : Int

/-- The item with another state of its object. -/
def ChannelItem.withSelf {α : Type} (item : ChannelItem α) (self : α) : ChannelItem α :=
  { item with m_base := { item.m_base with self := self } }

structure ChannelInfer {qt : QtJson} (alg : DtAlgorithms qt) where
  m_locators : Hash Int (ChannelItem alg.Locator)
  m_detectors : Hash Int (ChannelItem alg.Detector)
  m_algorithmJsonFilePath : Bytes
  m_channelID : Int
  m_bInitOK : Bool
  m_bGroup : Bool

namespace ChannelInfer

variable {qt : QtJson} {alg : DtAlgorithms qt}

/-- `ChannelInfer` as it is constructed, with the path `loadAlgorithmConfig` sets. -/
def start (alg : DtAlgorithms qt) (channel_id : Int) (path : Bytes) : ChannelInfer alg :=
  { m_locators := ∅, m_detectors := ∅, m_algorithmJsonFilePath := path
    m_channelID := channel_id, m_bInitOK := false, m_bGroup := false }

/-! ## The registry -/

/-- The method and the id a locator is added under. -/
def locatorMethod (inputJson : JsonObject) : Int :=
  if inputJson = [] then DEFAULT_LOCATE_METHOD else IasJsonParser.getMethod inputJson

def locatorId (inputJson : JsonObject) : Int :=
  if inputJson = [] then DEFAULT_LOCATE_ID else IasJsonParser.getId inputJson

/-- The table entry of a configuration, under a method and an id. -/
def itemOf {α : Type} (inputJson : JsonObject) (method id : Int) (path : Bytes) (loaded : α) :
    ChannelItem α :=
  { m_base := { m_id := id, m_path := path, self := loaded }
    m_group := IasJsonParser.getGroup inputJson
    m_feature := IasJsonParser.getFeature inputJson
    m_method := method
    m_id := id }

/-- `load` on a new locator. -/
def loadNewLocator (self : ChannelInfer alg) (inputJson : JsonObject) (made : alg.Locator) :
    Option (Bool × alg.Locator) :=
  alg.loadLocator (IasJsonParser.toQString qt inputJson)
    { m_id := locatorId inputJson, m_path := self.m_algorithmJsonFilePath, self := made }

def insertLocator (self : ChannelInfer alg) (channelLocator : ChannelItem alg.Locator) :
    ChannelInfer alg :=
  { self with
    m_locators := self.m_locators.insert channelLocator.m_id channelLocator
    m_bInitOK := true
    m_bGroup := if 1 < channelLocator.m_group then true else self.m_bGroup }

/-- `ChannelInfer::addLocator`; what `load` returns is not looked at. -/
def addLocator (self : ChannelInfer alg) (inputJson : JsonObject) : Bool × ChannelInfer alg :=
  if locatorId inputJson ∈ self.m_locators then (false, self)
  else
    match alg.getLocator (locatorMethod inputJson) with
    | none => (false, self)
    | some made =>
        match self.loadNewLocator inputJson made with
        | none => (false, self)
        | some (_, loaded) =>
            (true, self.insertLocator (itemOf inputJson (locatorMethod inputJson)
              (locatorId inputJson) self.m_algorithmJsonFilePath loaded))

/-- `ChannelInfer::getLocatePoint` of two locator ids. -/
def getLocatePoint (self : ChannelInfer alg) (IdX IdY : Int) : Option Point2d :=
  match self.m_locators.lookup IdX, self.m_locators.lookup IdY with
  | some x, some y =>
      some ⟨(alg.getLocateRoot x.m_base.self).x, (alg.getLocateRoot y.m_base.self).y⟩
  | _, _ => none

/-- `ChannelInfer::getLocatePoint` of a configuration. -/
def getLocatePointOf (self : ChannelInfer alg) (inputJson : JsonObject) : Option Point2d :=
  self.getLocatePoint (IasJsonParser.getLocateIdX inputJson) (IasJsonParser.getLocateIdY inputJson)

/-- `load` on a new detector. -/
def loadNewDetector (self : ChannelInfer alg) (inputJson : JsonObject) (locate_point : Point2d)
    (made : alg.Detector) : Option (Bool × alg.Detector) :=
  alg.loadDetector (IasJsonParser.toQString qt inputJson) locate_point
    { m_id := IasJsonParser.getId inputJson, m_path := self.m_algorithmJsonFilePath, self := made }

def insertDetector (self : ChannelInfer alg) (channelDetector : ChannelItem alg.Detector) :
    ChannelInfer alg :=
  { self with
    m_detectors := self.m_detectors.insert channelDetector.m_id channelDetector
    m_bInitOK := true
    m_bGroup := if 1 < channelDetector.m_group then true else self.m_bGroup }

/-- `ChannelInfer::addDetector`.  A `load` that throws leaves the detector out of the table,
and the addition is reported as done. -/
def addDetector (self : ChannelInfer alg) (inputJson : JsonObject) : Bool × ChannelInfer alg :=
  if IasJsonParser.getId inputJson ∈ self.m_detectors then (false, self)
  else
    match alg.getDetector (IasJsonParser.getMethod inputJson) with
    | none => (false, self)
    | some made =>
        match self.getLocatePointOf inputJson with
        | none => (false, self)
        | some locate_point =>
            match self.loadNewDetector inputJson locate_point made with
            | none => (true, self)
            | some (_, loaded) =>
                (true, self.insertDetector (itemOf inputJson (IasJsonParser.getMethod inputJson)
                  (IasJsonParser.getId inputJson) self.m_algorithmJsonFilePath loaded))

/-- `ChannelInfer::removeLocator`. -/
def removeLocator (self : ChannelInfer alg) (inputJson : JsonObject) : Bool × ChannelInfer alg :=
  let id := IasJsonParser.getId inputJson
  if id ∈ self.m_locators then (true, { self with m_locators := self.m_locators.erase id })
  else (false, self)

/-- `ChannelInfer::removeDetector`. -/
def removeDetector (self : ChannelInfer alg) (inputJson : JsonObject) :
    Bool × ChannelInfer alg :=
  let id := IasJsonParser.getId inputJson
  if id ∈ self.m_detectors then (true, { self with m_detectors := self.m_detectors.erase id })
  else (false, self)

/-- A detector after its locators may have moved. -/
def relocate (self : ChannelInfer alg) (channelDetector : ChannelItem alg.Detector) :
    ChannelItem alg.Detector :=
  let baseDetector := channelDetector.m_base.self
  match self.getLocatePoint (alg.getLocateIdX baseDetector) (alg.getLocateIdY baseDetector) with
  | some localPoint => channelDetector.withSelf (alg.setLocateRoot localPoint baseDetector)
  | none => channelDetector

/-- `ChannelInfer::updateLocator`. -/
def updateLocator (self : ChannelInfer alg) (inputJson : JsonObject) : Bool × ChannelInfer alg :=
  let id := IasJsonParser.getId inputJson
  match self.m_locators.lookup id with
  | none => (false, self)
  | some channelLocator =>
      let updated := alg.updateLocator (IasJsonParser.toQString qt inputJson) channelLocator.m_base
      let self := { self with
        m_locators := self.m_locators.modify id fun item => item.withSelf updated.2 }
      if updated.1 = some true then
        (true, { self with m_detectors := self.m_detectors.mapValues fun _ => self.relocate })
      else (false, self)

/-- `ChannelInfer::updateDetector`. -/
def updateDetector (self : ChannelInfer alg) (inputJson : JsonObject) :
    Bool × ChannelInfer alg :=
  let id := IasJsonParser.getId inputJson
  match self.m_detectors.lookup id with
  | none => (false, self)
  | some channelDetector =>
      match self.getLocatePointOf inputJson with
      | none => (false, self)
      | some locatePoint =>
          let placed := alg.setLocateRoot locatePoint channelDetector.m_base.self
          let updated := alg.updateDetector (IasJsonParser.toQString qt inputJson)
            { channelDetector.m_base with self := placed }
          (updated.1.getD false, { self with
            m_detectors := self.m_detectors.modify id fun item => item.withSelf updated.2 })

/-- What `reset` and `exec` answer: their text, read as an object, when they succeed. -/
def resultOf (qt : QtJson) (answer : Option (Bool × Bytes)) (resultJson : JsonObject) :
    Bool × JsonObject :=
  match answer with
  | some (true, resultStdString) => (true, qt.object (qt.toLocal8Bit resultStdString))
  | _ => (false, resultJson)

/-- A call on a registered locator: `resetLocator` and `execLocator` in common. -/
def askLocator (self : ChannelInfer alg)
    (call : BaseObject alg.Locator → Option (Bool × Bytes) × alg.Locator)
    (inputJson resultJson : JsonObject) : Bool × JsonObject × ChannelInfer alg :=
  let id := IasJsonParser.getId inputJson
  match self.m_locators.lookup id with
  | none => (false, resultJson, self)
  | some channelLocator =>
      let called := call channelLocator.m_base
      let answer := resultOf qt called.1 resultJson
      (answer.1, answer.2, { self with
        m_locators := self.m_locators.modify id fun item => item.withSelf called.2 })

/-- A call on a registered detector: `resetDetector` and `execDetector` in common. -/
def askDetector (self : ChannelInfer alg)
    (call : BaseObject alg.Detector → Option (Bool × Bytes) × alg.Detector)
    (inputJson resultJson : JsonObject) : Bool × JsonObject × ChannelInfer alg :=
  let id := IasJsonParser.getId inputJson
  match self.m_detectors.lookup id with
  | none => (false, resultJson, self)
  | some channelDetector =>
      let called := call channelDetector.m_base
      let answer := resultOf qt called.1 resultJson
      (answer.1, answer.2, { self with
        m_detectors := self.m_detectors.modify id fun item => item.withSelf called.2 })

def resetLocator (self : ChannelInfer alg) := self.askLocator alg.resetLocator
def execLocator (self : ChannelInfer alg) := self.askLocator alg.execLocator
def resetDetector (self : ChannelInfer alg) := self.askDetector alg.resetDetector
def execDetector (self : ChannelInfer alg) := self.askDetector alg.execDetector

/-- The sum of the bytes of a text, as `char`s, in an `int`. -/
def checksum (byteArray : Bytes) : Int :=
  Int.bmod (byteArray.map fun b => b.toInt8.toInt).sum (2 ^ 32)

/-- `ChannelInfer::saveAlgorithmFile`: the checksum of what is written, when the file can be
opened. -/
def saveAlgorithmFile (qt : QtJson) (fileOpens : Bool) (jsonFileObj : JsonObject) : Option Int :=
  if fileOpens then some (checksum (IasJsonParser.toQString qt jsonFileObj)) else none

/-- `ChannelInfer::onOperateInfer`: whether it succeeded, and what it answers. -/
def onOperateInfer (self : ChannelInfer alg) (op_type dt_type : Int)
    (inputJson resultJson : JsonObject) (fileOpens : Bool) :
    Bool × JsonObject × ChannelInfer alg :=
  let plain (done : Bool × ChannelInfer alg) := (done.1, resultJson, done.2)
  let refused := (false, resultJson, self)
  if op_type = DT_OPERATION_ADD then
    if dt_type = DT_TYPE_LOCATOR then plain (self.addLocator inputJson)
    else if dt_type = DT_TYPE_DETECTOR then plain (self.addDetector inputJson)
    else refused
  else if op_type = DT_OPERATION_DEL then
    if dt_type = DT_TYPE_LOCATOR then plain (self.removeLocator inputJson)
    else if dt_type = DT_TYPE_DETECTOR then plain (self.removeDetector inputJson)
    else refused
  else if op_type = DT_OPERATION_UPDATE_PARAM then
    if dt_type = DT_TYPE_LOCATOR then plain (self.updateLocator inputJson)
    else if dt_type = DT_TYPE_DETECTOR then plain (self.updateDetector inputJson)
    else refused
  else if op_type = DT_OPERATION_UPDATE_IMAGE then (true, resultJson, self)
  else if op_type = DT_OPERATION_AUTOVERIFY then
    if dt_type = DT_TYPE_LOCATOR then self.resetLocator inputJson resultJson
    else if dt_type = DT_TYPE_DETECTOR then self.resetDetector inputJson resultJson
    else refused
  else if op_type = DT_OPERATION_PROCESS then
    if dt_type = DT_TYPE_LOCATOR then self.execLocator inputJson resultJson
    else if dt_type = DT_TYPE_DETECTOR then self.execDetector inputJson resultJson
    else refused
  else if op_type = DT_OPERATION_SAVE then
    match saveAlgorithmFile qt fileOpens inputJson with
    | some checksum =>
        (true, ((resultJson.insert (utf8 "channel_id") (int self.m_channelID)).insert
          (utf8 "json_checksum") (int checksum)), self)
    | none => refused
  else refused

/-! ## What the operations can do -/

section Cases

variable (self : ChannelInfer alg) (inputJson : JsonObject)

/-- A locator is refused, or loaded and put under an id that was free. -/
inductive LocatorAddition : Bool × ChannelInfer alg → Prop where
  | known (there : locatorId inputJson ∈ self.m_locators) : LocatorAddition (false, self)
  | noFactory (missing : alg.getLocator (locatorMethod inputJson) = none) :
      LocatorAddition (false, self)
  | threw (made : alg.Locator) (factory : alg.getLocator (locatorMethod inputJson) = some made)
      (threw : self.loadNewLocator inputJson made = none) : LocatorAddition (false, self)
  | added (made : alg.Locator) (loaded : Bool × alg.Locator)
      (fresh : locatorId inputJson ∉ self.m_locators)
      (factory : alg.getLocator (locatorMethod inputJson) = some made)
      (load : self.loadNewLocator inputJson made = some loaded) :
      LocatorAddition (true, self.insertLocator (itemOf inputJson (locatorMethod inputJson)
        (locatorId inputJson) self.m_algorithmJsonFilePath loaded.2))

theorem addLocator_cases : LocatorAddition self inputJson (self.addLocator inputJson) := by
  unfold addLocator
  split
  next there => exact .known there
  next fresh =>
      split
      next missing => exact .noFactory missing
      next made factory =>
          split
          next threw => exact .threw made factory threw
          next loaded load => exact .added made _ fresh factory load

/-- A detector is refused, lost in a `load` that throws, or put under an id that was free. -/
inductive DetectorAddition : Bool × ChannelInfer alg → Prop where
  | known (there : IasJsonParser.getId inputJson ∈ self.m_detectors) :
      DetectorAddition (false, self)
  | noFactory (missing : alg.getDetector (IasJsonParser.getMethod inputJson) = none) :
      DetectorAddition (false, self)
  | noLocator (missing : self.getLocatePointOf inputJson = none) : DetectorAddition (false, self)
  | threw (made : alg.Detector) (locate_point : Point2d)
      (fresh : IasJsonParser.getId inputJson ∉ self.m_detectors)
      (factory : alg.getDetector (IasJsonParser.getMethod inputJson) = some made)
      (located : self.getLocatePointOf inputJson = some locate_point)
      (threw : self.loadNewDetector inputJson locate_point made = none) :
      DetectorAddition (true, self)
  | added (made : alg.Detector) (locate_point : Point2d) (loaded : Bool × alg.Detector)
      (fresh : IasJsonParser.getId inputJson ∉ self.m_detectors)
      (factory : alg.getDetector (IasJsonParser.getMethod inputJson) = some made)
      (located : self.getLocatePointOf inputJson = some locate_point)
      (load : self.loadNewDetector inputJson locate_point made = some loaded) :
      DetectorAddition (true, self.insertDetector (itemOf inputJson
        (IasJsonParser.getMethod inputJson) (IasJsonParser.getId inputJson)
        self.m_algorithmJsonFilePath loaded.2))

theorem addDetector_cases : DetectorAddition self inputJson (self.addDetector inputJson) := by
  unfold addDetector
  split
  next there => exact .known there
  next fresh =>
      split
      next missing => exact .noFactory missing
      next made factory =>
          split
          next missing => exact .noLocator missing
          next locate_point located =>
              split
              next threw => exact .threw made locate_point fresh factory located threw
              next loaded load =>
                  exact .added made locate_point _ fresh factory located load

/-- The branch an operation takes. -/
inductive Operation (op_type dt_type : Int) (resultJson : JsonObject) :
    Bool × JsonObject × ChannelInfer alg → Prop where
  | addLocator (op : op_type = DT_OPERATION_ADD) (dt : dt_type = DT_TYPE_LOCATOR) :
      Operation op_type dt_type resultJson
        ((self.addLocator inputJson).1, resultJson, (self.addLocator inputJson).2)
  | addDetector (op : op_type = DT_OPERATION_ADD) (dt : dt_type = DT_TYPE_DETECTOR) :
      Operation op_type dt_type resultJson
        ((self.addDetector inputJson).1, resultJson, (self.addDetector inputJson).2)
  | removeLocator (op : op_type = DT_OPERATION_DEL) (dt : dt_type = DT_TYPE_LOCATOR) :
      Operation op_type dt_type resultJson
        ((self.removeLocator inputJson).1, resultJson, (self.removeLocator inputJson).2)
  | removeDetector (op : op_type = DT_OPERATION_DEL) (dt : dt_type = DT_TYPE_DETECTOR) :
      Operation op_type dt_type resultJson
        ((self.removeDetector inputJson).1, resultJson, (self.removeDetector inputJson).2)
  | updateLocator (op : op_type = DT_OPERATION_UPDATE_PARAM) (dt : dt_type = DT_TYPE_LOCATOR) :
      Operation op_type dt_type resultJson
        ((self.updateLocator inputJson).1, resultJson, (self.updateLocator inputJson).2)
  | updateDetector (op : op_type = DT_OPERATION_UPDATE_PARAM) (dt : dt_type = DT_TYPE_DETECTOR) :
      Operation op_type dt_type resultJson
        ((self.updateDetector inputJson).1, resultJson, (self.updateDetector inputJson).2)
  | updateImage (op : op_type = DT_OPERATION_UPDATE_IMAGE) :
      Operation op_type dt_type resultJson (true, resultJson, self)
  | resetLocator (op : op_type = DT_OPERATION_AUTOVERIFY) :
      Operation op_type dt_type resultJson (self.resetLocator inputJson resultJson)
  | resetDetector (op : op_type = DT_OPERATION_AUTOVERIFY) :
      Operation op_type dt_type resultJson (self.resetDetector inputJson resultJson)
  | execLocator (op : op_type = DT_OPERATION_PROCESS) :
      Operation op_type dt_type resultJson (self.execLocator inputJson resultJson)
  | execDetector (op : op_type = DT_OPERATION_PROCESS) :
      Operation op_type dt_type resultJson (self.execDetector inputJson resultJson)
  | saved (op : op_type = DT_OPERATION_SAVE) (checksum : Int) :
      Operation op_type dt_type resultJson
        (true, ((resultJson.insert (utf8 "channel_id") (int self.m_channelID)).insert
          (utf8 "json_checksum") (int checksum)), self)
  | refused (other : (dt_type ≠ DT_TYPE_LOCATOR ∧ dt_type ≠ DT_TYPE_DETECTOR) ∨
        (op_type ≠ DT_OPERATION_ADD ∧ op_type ≠ DT_OPERATION_DEL ∧
          op_type ≠ DT_OPERATION_UPDATE_PARAM)) :
      Operation op_type dt_type resultJson (false, resultJson, self)

/-- A branch by the type of the item, or the refusal of another type. -/
theorem of_dt_type {P : Bool × JsonObject × ChannelInfer alg → Prop} {dt_type : Int}
    {locator detector other : Bool × JsonObject × ChannelInfer alg}
    (onLocator : dt_type = DT_TYPE_LOCATOR → P locator)
    (onDetector : dt_type = DT_TYPE_DETECTOR → P detector)
    (onOther : dt_type ≠ DT_TYPE_LOCATOR ∧ dt_type ≠ DT_TYPE_DETECTOR → P other) :
    P (if dt_type = DT_TYPE_LOCATOR then locator
      else if dt_type = DT_TYPE_DETECTOR then detector else other) := by
  split
  next dt => exact onLocator dt
  next noLocator =>
      split
      next dt => exact onDetector dt
      next noDetector => exact onOther ⟨noLocator, noDetector⟩

theorem onOperateInfer_cases (op_type dt_type : Int) (resultJson : JsonObject)
    (fileOpens : Bool) :
    Operation self inputJson op_type dt_type resultJson
      (self.onOperateInfer op_type dt_type inputJson resultJson fileOpens) := by
  simp only [onOperateInfer]
  by_cases add : op_type = DT_OPERATION_ADD
  · rw [if_pos add]
    exact of_dt_type (.addLocator add) (.addDetector add) fun dt => .refused (.inl dt)
  rw [if_neg add]
  by_cases del : op_type = DT_OPERATION_DEL
  · rw [if_pos del]
    exact of_dt_type (.removeLocator del) (.removeDetector del) fun dt => .refused (.inl dt)
  rw [if_neg del]
  by_cases update : op_type = DT_OPERATION_UPDATE_PARAM
  · rw [if_pos update]
    exact of_dt_type (.updateLocator update) (.updateDetector update) fun dt => .refused (.inl dt)
  rw [if_neg update]
  by_cases image : op_type = DT_OPERATION_UPDATE_IMAGE
  · rw [if_pos image]
    exact .updateImage image
  rw [if_neg image]
  by_cases reset : op_type = DT_OPERATION_AUTOVERIFY
  · rw [if_pos reset]
    exact of_dt_type (fun _ => .resetLocator reset) (fun _ => .resetDetector reset)
      fun dt => .refused (.inl dt)
  rw [if_neg reset]
  by_cases exec : op_type = DT_OPERATION_PROCESS
  · rw [if_pos exec]
    exact of_dt_type (fun _ => .execLocator exec) (fun _ => .execDetector exec)
      fun dt => .refused (.inl dt)
  rw [if_neg exec]
  by_cases save : op_type = DT_OPERATION_SAVE
  · rw [if_pos save]
    cases saveAlgorithmFile qt fileOpens inputJson with
    | none => exact .refused (.inr ⟨add, del, update⟩)
    | some checksum => exact .saved save checksum
  rw [if_neg save]
  exact .refused (.inr ⟨add, del, update⟩)

end Cases

/-! ## Runs -/

/-- `ChannelInfer::initModel` with what the configuration file lists; the empty object stands
for the default locator. -/
def initModel (self : ChannelInfer alg) (locators detectors : List JsonObject) :
    ChannelInfer alg :=
  let located := (([] : JsonObject) :: locators).foldl (fun s json => (s.addLocator json).2) self
  detectors.foldl (fun s json => (s.addDetector json).2) located

/-- `ChannelInfer::releaseModel`; `m_bGroup` stays. -/
def releaseModel (self : ChannelInfer alg) : ChannelInfer alg :=
  { self with m_locators := ∅, m_detectors := ∅, m_bInitOK := false }

inductive Event where
  | initModel (locators detectors : List JsonObject)
  | releaseModel
  | onOperateInfer (op_type dt_type : Int) (inputJson : JsonObject) (fileOpens : Bool)

/-- A step of the channel; what it outputs is the answer to an operation. -/
def step (self : ChannelInfer alg) : Event → ChannelInfer alg × List (Bool × JsonObject)
  | .initModel locators detectors => (self.initModel locators detectors, [])
  | .releaseModel => (self.releaseModel, [])
  | .onOperateInfer op_type dt_type inputJson fileOpens =>
      let done := self.onOperateInfer op_type dt_type inputJson [] fileOpens
      (done.2.2, [(done.1, done.2.1)])

end ChannelInfer

end IsgConsole.IasAgent
