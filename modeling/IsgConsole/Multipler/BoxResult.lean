/-
# Multipler.BoxResult — boxes on their way along the line

`CBoxResult` follows boxes of cartons.  A picture of camera 1 (shape) puts a new box into a queue
of two or three; pictures of cameras 2 and 3 (stacking) belong to the newest box.  A bar code, or
the first appearance picture of a group where no reader is connected, takes the oldest box out,
and appearance pictures belong to the box taken out last.  A faulty picture stops the machine it
was taken at.

The clock is `qint64` milliseconds; ids and times of a box are its readings as `uint64_t`.  The
constructor leaves `m_boxFoundFromQueue`, `m_isWaiguanFirst` and the numbers of `m_boxPoped` as
the memory was: `Memory` is what it held.
-/
import IsgConsole.IOCtrl.PCPUdpCtrl
import IsgConsole.Multipler.AbstractObject
import IsgConsole.Multipler.ImageMultipler

namespace IsgConsole.Multipler

open IsgConsole.Theory IsgConsole.Inspector IsgConsole.IOCtrl

set_option autoImplicit false

/-! ## Data -/

/-- `BoxObject_S`. -/
structure BoxObject where
  objectId : UInt64
  bReportOrignal : Bool
  bReportBinning : Bool
  generateTime : UInt64
  result : Bool
  barCode : Bytes
  imageCameraIdHash : Hash UInt64 UInt32
  imageResultHash : Hash UInt64 UInt16
  deriving DecidableEq

structure CBoxResult extends AbstractObject where
  /-- The newest box first. -/
  m_box_queue : List BoxObject
  m_boxFoundFromQueue : Bool
  m_boxPoped : BoxObject
  m_isWaiguanFirst : Bool
  m_WaiguanFirstTime : Int64
  deriving DecidableEq

namespace CBoxResult

inductive Output where
  /-- The picture as `preInfer` hands it back. -/
  | handBack (imageData : ImageData)
  | sendBarCodeToPolicyStore (objectId : UInt64) (barCode : Bytes)
  /-- A call queued to the UDP thread. -/
  | sendDataAsync (cmd : UInt16) (buffer : Bytes)
  deriving DecidableEq

/-- The members that stay as `init` has set them. -/
structure Config where
  m_useBarCoder : Bool
  m_queueLen : Nat
  m_minElapsed : Int32
  deriving DecidableEq

/-- `CBoxResult::init`. -/
def init (boxQueueLen boxMinElapsed : Int32) (barCoder : Bool) : Config :=
  { m_useBarCoder := barCoder
    m_queueLen := if boxQueueLen = 2 then 2 else 3
    m_minElapsed := boxMinElapsed }

/-- What the memory of a new object holds where its constructor writes nothing. -/
structure Memory where
  m_boxFoundFromQueue : Bool
  m_isWaiguanFirst : Bool
  objectId : UInt64
  bReportOrignal : Bool
  bReportBinning : Bool
  generateTime : UInt64
  result : Bool
  deriving DecidableEq

/-- `CBoxResult` as it is constructed. -/
def constructed (memory : Memory) : CBoxResult :=
  { AbstractObject.start with
    m_box_queue := []
    m_boxFoundFromQueue := memory.m_boxFoundFromQueue
    m_boxPoped :=
      { objectId := memory.objectId, bReportOrignal := memory.bReportOrignal
        bReportBinning := memory.bReportBinning, generateTime := memory.generateTime
        result := memory.result, barCode := [], imageCameraIdHash := ∅, imageResultHash := ∅ }
    m_isWaiguanFirst := memory.m_isWaiguanFirst
    m_WaiguanFirstTime := 0 }

/-! ## The queue -/

/-- A new box, and the counters it is drawn from. -/
def newBox (object : AbstractObject) (currTime : Int64) : BoxObject × AbstractObject :=
  let (bReportOrignal, object) := object.orginalReport
  let (bReportBinning, object) := object.binningReport
  ({ objectId := currTime.toUInt64
     bReportOrignal := bReportOrignal
     bReportBinning := bReportBinning
     generateTime := currTime.toUInt64
     result := true
     barCode := []
     imageCameraIdHash := ∅
     imageResultHash := ∅ }, object)

/-- `CBoxResult::enqueue`: with one box too many the oldest is dropped. -/
def enqueue (cfg : Config) (s : CBoxResult) (currTime : Int64) : CBoxResult :=
  let (box, object) := newBox s.toAbstractObject currTime
  let m_box_queue := box :: s.m_box_queue
  { s with
    toAbstractObject := { object with m_detectTotalCount := object.m_detectTotalCount + 1 }
    m_box_queue :=
      if cfg.m_queueLen < m_box_queue.length then m_box_queue.dropLast else m_box_queue }

/-- The age test of `dequeue`, in unsigned 64-bit arithmetic. -/
def isRipe (cfg : Config) (now : Int64) (box : BoxObject) : Bool :=
  box.generateTime + cfg.m_minElapsed.toInt64.toUInt64 ≤ now.toUInt64

/-- `CBoxResult::sendBarCodeInfoToPolicyStore`. -/
def sendBarCodeInfoToPolicyStore (m_boxPoped : BoxObject) : List Output :=
  if m_boxPoped.barCode = [] then []
  else [.sendBarCodeToPolicyStore m_boxPoped.objectId m_boxPoped.barCode]

/-- `CBoxResult::dequeue`; `now` is the clock when the oldest box is looked at. -/
def dequeue (cfg : Config) (s : CBoxResult) (barCode : Bytes) (now : Int64) :
    CBoxResult × List Output :=
  let s := { s with m_boxFoundFromQueue := false }
  match s.m_box_queue.getLast? with
  | none => (s, [])
  | some box =>
      if isRipe cfg now box then
        let m_boxPoped := { box with barCode := barCode }
        ({ s with
            m_boxFoundFromQueue := true
            m_boxPoped := m_boxPoped
            m_box_queue := s.m_box_queue.dropLast },
          sendBarCodeInfoToPolicyStore m_boxPoped)
      else (s, [])

/-! ## Pictures -/

/-- The picture with what it takes over from its box. -/
def assign (imageData : ImageData) (box : BoxObject) : ImageData :=
  { imageData with
    objectId := box.objectId
    bReportOrignal := box.bReportOrignal
    bReportBinning := box.bReportBinning }

/-- A picture without a box: `objectId = -1`. -/
def unassigned (imageData : ImageData) : ImageData :=
  { imageData with objectId := -1, bReportOrignal := false, bReportBinning := false }

/-- The box with one more picture. -/
def addImage (box : BoxObject) (imageData : ImageData) : BoxObject :=
  { box with
    imageCameraIdHash := box.imageCameraIdHash.insert imageData.imageId imageData.cameraId }

/-- The picture goes to `m_box_queue[0]`. -/
def toNewest (s : CBoxResult) (imageData : ImageData) : CBoxResult × List Output :=
  match s.m_box_queue with
  | [] => (s, [.handBack (unassigned imageData)])
  | box :: rest =>
      ({ s with m_box_queue := addImage box imageData :: rest },
        [.handBack (assign imageData box)])

/-- An appearance picture within three seconds of the first of its group belongs to the group. -/
def group (s : CBoxResult) (currTime : Int64) : CBoxResult :=
  if 3000 ≤ currTime - s.m_WaiguanFirstTime then
    { s with m_isWaiguanFirst := true, m_WaiguanFirstTime := currTime }
  else { s with m_isWaiguanFirst := false }

/-- The first picture of a group takes a box out, unless the reader will. -/
def dequeueFirst (cfg : Config) (s : CBoxResult) (connected : Bool) (now : Int64) :
    CBoxResult × List Output :=
  if cfg.m_useBarCoder ∧ connected then (s, [])
  else if s.m_isWaiguanFirst then s.dequeue cfg [] now
  else (s, [])

/-- The picture goes to `m_boxPoped`, if that was found. -/
def toPoped (s : CBoxResult) (imageData : ImageData) : CBoxResult × List Output :=
  if s.m_boxFoundFromQueue then
    ({ s with m_boxPoped := addImage s.m_boxPoped imageData },
      [.handBack (assign imageData s.m_boxPoped)])
  else (s, [.handBack (unassigned imageData)])

/-- A picture of camera 1, 2 or 3. -/
def atMachine1 (cameraId : UInt32) : Bool := cameraId = 1 ∨ cameraId = 2 ∨ cameraId = 3

/-- `CBoxResult::preInferAsync`; `connected` is the state of the reader, `now` the clock of a
`dequeue` on the way.  After `enqueue` there is a newest box. -/
def preInferAsync (cfg : Config) (s : CBoxResult) (imageData : ImageData) (currTime : Int64)
    (connected : Bool) (now : Int64) : CBoxResult × List Output :=
  if imageData.cameraId = 1 then (s.enqueue cfg currTime).toNewest imageData
  else if imageData.cameraId = 2 ∨ imageData.cameraId = 3 then s.toNewest imageData
  else
    let (s, sent) := (s.group currTime).dequeueFirst cfg connected now
    let (s, handed) := s.toPoped imageData
    (s, sent ++ handed)

/-- `CBoxResult::onBarCode`. -/
def onBarCode (cfg : Config) (s : CBoxResult) (barCode : Bytes) (now : Int64) :
    CBoxResult × List Output :=
  s.dequeue cfg barCode now

/-! ## Results -/

/-- Where a box is. -/
inductive Place where
  | queue (i : Nat)
  | poped
  deriving DecidableEq

/-- `CBoxResult::findBox`: the newest box of the queue under the id, or the one taken out last. -/
def findBox (s : CBoxResult) (objectId : UInt64) : Option (Place × BoxObject) :=
  match s.m_box_queue.zipIdx.find? fun indexed => indexed.1.objectId = objectId with
  | some (box, i) => some (.queue i, box)
  | none => if s.m_boxPoped.objectId = objectId then some (.poped, s.m_boxPoped) else none

/-- `CBoxResult::findCameraId`: the camera as an `int`. -/
def findCameraId (box : BoxObject) (imageId : UInt64) : Int :=
  match box.imageCameraIdHash.lookup imageId with
  | some cameraId => cameraId.toInt32.toInt
  | none => -1

/-- The box at a place is written back. -/
def put (s : CBoxResult) (box : BoxObject) : Place → CBoxResult
  | .queue i => { s with m_box_queue := s.m_box_queue.set i box }
  | .poped => { s with m_boxPoped := box }

/-- The call that stops a machine.  The test for the cameras of the first machine is as it stands
in the source. -/
def stopMachine (pcp kickEnable : Bool) (cameraId : Int) : List Output :=
  if pcp then
    let cmd := if 1 ≤ cameraId ∨ cameraId ≤ 3 then UdpCmd.boxStopMachine1 else .boxStopMachine2
    (IOCtrl.sendData kickEnable cmd.code []).toList.map fun (cmd, buffer) =>
      .sendDataAsync cmd buffer
  else []

/-- `CBoxResult::onImageResult`; `pcp` and `kickEnable` are of the `PCPUdpCtrl` there is. -/
def onImageResult (s : CBoxResult) (pcp kickEnable : Bool) (objectImageResult : ObjectImageResult) :
    CBoxResult × List Output :=
  match s.findBox objectImageResult.objectId with
  | none => (s, [])
  | some (place, box) =>
      let cameraId := findCameraId box objectImageResult.imageId
      if cameraId = -1 then (s, [])
      else
        let imageResultHash := box.imageResultHash.insert objectImageResult.imageId
          (UInt16.ofInt objectImageResult.result)
        if objectImageResult.result = RESULT_NG then
          let ng := if box.result then 1 else 0
          ({ s with m_detectNgCount := s.m_detectNgCount + ng }.put
              { box with imageResultHash := imageResultHash, result := false } place,
            stopMachine pcp kickEnable cameraId)
        else (s.put { box with imageResultHash := imageResultHash } place, [])

/-! ## Events -/

/-- A call or signal `CBoxResult` serves. -/
inductive Event where
  | preInferAsync (imageData : ImageData) (currTime : Int64) (connected : Bool) (now : Int64)
  | onBarCode (barCode : Bytes) (now : Int64)
  | onImageResult (pcp kickEnable : Bool) (objectImageResult : ObjectImageResult)
  deriving DecidableEq

def step (cfg : Config) (s : CBoxResult) : Event → CBoxResult × List Output
  | .preInferAsync imageData currTime connected now =>
      s.preInferAsync cfg imageData currTime connected now
  | .onBarCode barCode now => s.onBarCode cfg barCode now
  | .onImageResult pcp kickEnable objectImageResult =>
      s.onImageResult pcp kickEnable objectImageResult

end CBoxResult

end IsgConsole.Multipler
