/-
# Multipler.ImageMultipler — gathering the results of one camera's images

`CImageMultipler` keeps a record for every image that waits for results.  Results of the
algorithms are merged into the record; with the last one, or when the image times out,
the record is reported and dropped.

The tables are `Hash`es.  The scan of `onTimeout` takes the first due record in the
iteration order of the table, which Qt leaves open: the order is part of the event.
-/
import IsgConsole.IopAgent.TcpImageReport
import IsgConsole.Theory.Machine

namespace IsgConsole.Multipler

open IsgConsole.Theory IsgConsole.BaseLib IsgConsole.Inspector IsgConsole.IopAgent
open IsgConsole.Theory.Json

set_option autoImplicit false

/-! ## Data -/

/-- `OBJECT_IMAGE_RESULT`. -/
structure ObjectImageResult where
  objectId : UInt64
  imageId : UInt64
  result : Int
  deriving DecidableEq

/-- What the handlers look up elsewhere while they run. -/
structure Surroundings where
  /-- `project()->getRunType() == RunType_Infer`. -/
  runTypeInfer : Bool
  /-- `PLCUdpCtrl::getInstance()` and `PCPUdpCtrl::getInstance()` exist. -/
  plc : Bool
  pcp : Bool
  /-- `PCPUdpCtrl::getInstance()->getKickEnable()`. -/
  kickEnable : Bool
  deriving DecidableEq

inductive Output where
  | sendImageResultToPolicyStore (imageRecord : ImageResultRecord)
  | imageResultSignal (objectImageResult : ObjectImageResult)
  | writeData (x y : Int)
  deriving DecidableEq

/-- The members that stay as `init` has set them. -/
structure ImageMultiplerConfig where
  id : UInt32
  m_inferTimeout : UInt64
  m_IasCount : UInt32
  deriving DecidableEq

structure CImageMultipler where
  m_imageResultRecord : Hash UInt64 ImageResultRecord
  m_imageIasIdRecord : Hash UInt64 UInt32
  m_detectTotalCount : Int
  m_detectNgCount : Int
  deriving DecidableEq

namespace CImageMultipler

/-- `CImageMultipler` as it is constructed. -/
def start : CImageMultipler :=
  { m_imageResultRecord := ∅, m_imageIasIdRecord := ∅, m_detectTotalCount := 0,
    m_detectNgCount := 0 }

/-! ## Handlers -/

/-- `CImageMultipler::onImageData`. -/
def onImageData (s : CImageMultipler) (imageData : ImageData) : CImageMultipler :=
  if imageData.imageId ∈ s.m_imageResultRecord then s
  else
    { s with
      m_detectTotalCount := s.m_detectTotalCount + 1
      m_imageResultRecord := s.m_imageResultRecord.insert imageData.imageId
        { imageData := imageData, result := RESULT_INIT, jsonData := [] } }

/-- `QByteArray::insert(i, s, len)`. -/
def insertBytes (bytes : Bytes) (i : Nat) (s : Bytes) : Bytes := bytes.take i ++ s ++ bytes.drop i

/-- The JSON text of a record with one more result. -/
def mergeJson (jsonData json : Bytes) : Bytes :=
  if jsonData = [] then [lbracket] ++ json ++ [rbracket]
  else
    -- The closing bracket is to be replaced, but stays behind what is inserted.
    insertBytes jsonData (jsonData.length - 1) ([comma] ++ json ++ [rbracket])

/-- The verdict of a record with one more result. -/
def mergeResult (result iasResult : Int) : Int :=
  if result = RESULT_INIT then iasResult
  else if iasResult = RESULT_NG then iasResult
  else result

/-- A record with a result merged into it. -/
def merge (imageRecord : ImageResultRecord) (iasResult : ImageIasResult) : ImageResultRecord :=
  { imageRecord with
    jsonData := mergeJson imageRecord.jsonData iasResult.jsonData
    result := mergeResult imageRecord.result iasResult.result }

/-- The point a result asks to kick at, read the way the handler reads it. -/
def kickPoint (qt : QtJson) (jsonData : Bytes) : Option (Int × Int) := do
  let isg_info ← (qt.object jsonData).value (utf8 "isg_info")
  let first ← isg_info.toArray.head?
  let kick_coordinate ← first.toObject.value (utf8 "kick_coordinate")
  let jsonObj := kick_coordinate.toObject
  return ((jsonObj.get (utf8 "x")).toInt, (jsonObj.get (utf8 "y")).toInt)

/-- The kick of a faulty result, when kicking is on. -/
def kick (qt : QtJson) (env : Surroundings) (iasResult : ImageIasResult) : List Output :=
  if iasResult.result = RESULT_NG ∧ env.plc ∧ env.pcp ∧ env.kickEnable then
    match kickPoint qt iasResult.jsonData with
    | some (x, y) => [.writeData x y]
    | none => []
  else []

/-- The signal to the object of the image, in inference mode. -/
def signal (env : Surroundings) (imageRecord : ImageResultRecord) : List Output :=
  if env.runTypeInfer then
    [.imageResultSignal
      { objectId := imageRecord.imageData.objectId
        imageId := imageRecord.imageData.imageId
        result := imageRecord.result }]
  else []

/-- `m_detectNgCount++` for a faulty verdict. -/
def ngCount (result : Int) : Int := if result = RESULT_NG then 1 else 0

/-- `CImageMultipler::onImageIasResult`. -/
def onImageIasResult (cfg : ImageMultiplerConfig) (qt : QtJson) (s : CImageMultipler)
    (env : Surroundings) (iasResult : ImageIasResult) : CImageMultipler × List Output :=
  if iasResult.cameraId ≠ cfg.id then (s, [])
  else
    match s.m_imageResultRecord.lookup iasResult.imageId with
    | none => (s, [])
    | some stored =>
        let imageRecord := merge stored iasResult
        let s := { s with
          m_imageResultRecord := s.m_imageResultRecord.insert iasResult.imageId imageRecord }
        let kicks := kick qt env iasResult
        if cfg.m_IasCount ≤ 1 then
          ({ s with
              m_detectNgCount := s.m_detectNgCount + ngCount iasResult.result
              m_imageResultRecord := s.m_imageResultRecord.erase iasResult.imageId },
            kicks ++ .sendImageResultToPolicyStore imageRecord :: signal env imageRecord)
        else
          match s.m_imageIasIdRecord.lookup iasResult.imageId with
          | none =>
              ({ s with m_imageIasIdRecord := s.m_imageIasIdRecord.insert iasResult.imageId 1 },
                kicks)
          | some count =>
              let receivedCount := count + 1
              if receivedCount < cfg.m_IasCount then
                ({ s with
                    m_imageIasIdRecord :=
                      s.m_imageIasIdRecord.insert iasResult.imageId receivedCount },
                  kicks)
              else
                ({ s with
                    m_detectNgCount := s.m_detectNgCount + ngCount imageRecord.result
                    m_imageResultRecord := s.m_imageResultRecord.erase iasResult.imageId
                    m_imageIasIdRecord := s.m_imageIasIdRecord.erase iasResult.imageId },
                  kicks ++ .sendImageResultToPolicyStore imageRecord :: signal env imageRecord)

/-- The age test of `onTimeout`, in unsigned 64-bit arithmetic. -/
def isDue (cfg : ImageMultiplerConfig) (nowTime : UInt64) (imageRecord : ImageResultRecord) : Bool :=
  cfg.m_inferTimeout ≤ nowTime - imageRecord.imageData.genTimeStamp

/-- A record that ran out of time is reported with what it has. -/
def closeJson (imageRecord : ImageResultRecord) : ImageResultRecord :=
  if imageRecord.jsonData = [] then { imageRecord with jsonData := [lbracket, rbracket] }
  else imageRecord

/-- `CImageMultipler::onTimeout`: the first due record of the table is reported and
dropped. -/
def onTimeout (cfg : ImageMultiplerConfig) (s : CImageMultipler) (env : Surroundings)
    (nowTime : UInt64) (order : List UInt64) : CImageMultipler × List Output :=
  match (order.filterMap s.m_imageResultRecord.lookup).find? (isDue cfg nowTime) with
  | none => (s, [])
  | some imageRecord =>
      ({ s with
          m_detectNgCount := s.m_detectNgCount + ngCount imageRecord.result
          m_imageIasIdRecord := s.m_imageIasIdRecord.erase imageRecord.imageData.imageId
          m_imageResultRecord := s.m_imageResultRecord.erase imageRecord.imageData.imageId },
        signal env imageRecord ++ [.sendImageResultToPolicyStore (closeJson imageRecord)])

/-- `CImageMultipler::getStatistic`: read and clear. -/
def getStatistic (s : CImageMultipler) : (Int × Int) × CImageMultipler :=
  ((s.m_detectTotalCount, s.m_detectNgCount), { s with m_detectTotalCount := 0, m_detectNgCount := 0 })

/-! ## Events -/

/-- A signal the multipler serves; `order` is the iteration order of the record table. -/
inductive Event where
  | onImageData (imageData : ImageData)
  | onImageIasResult (env : Surroundings) (iasResult : ImageIasResult)
  | onTimeout (env : Surroundings) (nowTime : UInt64) (order : List UInt64)
  deriving DecidableEq

def step (cfg : ImageMultiplerConfig) (qt : QtJson) (s : CImageMultipler) :
    Event → CImageMultipler × List Output
  | .onImageData imageData => (s.onImageData imageData, [])
  | .onImageIasResult env iasResult => s.onImageIasResult cfg qt env iasResult
  | .onTimeout env nowTime order => s.onTimeout cfg env nowTime order

end CImageMultipler

end IsgConsole.Multipler
