/-
# Multipler.PacketResult — pictures of one cigarette packet

`CPacketResult` gathers the pictures of a packet: a picture joins an open packet whose
first picture was taken at about the same time, or starts a new one under a fresh object
id, which is the clock reading in milliseconds.  With the results of its pictures, or when
it is out of time, the packet is judged, kicked if faulty, and dropped.

The loops over the packet table take the packets in the iteration order of the hash, which
Qt leaves open: the order is part of the event.
-/
import IsgConsole.IOCtrl.PCPUdpCtrl
import IsgConsole.Multipler.AbstractObject
import IsgConsole.Multipler.ImageMultipler

namespace IsgConsole.Multipler

open IsgConsole.Theory IsgConsole.Inspector IsgConsole.IOCtrl

set_option autoImplicit false

/-! ## Data -/

/-- `PacketObject_S`. -/
structure PacketObject where
  objectId : UInt64
  bReportOrignal : Bool
  bReportBinning : Bool
  firstImageTime : UInt64
  result : Bool
  imageCameraIdHash : Hash UInt64 UInt32
  imageResultHash : Hash UInt64 UInt16
  deriving DecidableEq

/-- The devices a kick may go to, the first that is there, and what `doKickFinal` reads of
the project. -/
structure KickDevices where
  pcpSerialCtrl : Bool
  siemensS7PLC : Bool
  pcpUdpCtrl : Bool
  kickEnable : Bool
  /-- `project()->productType() == PRODUCT_YANSI_STOPMODE`. -/
  stopMode : Bool
  deriving DecidableEq

namespace CPacketResult

inductive Output where
  /-- The picture as `preInfer` hands it back. -/
  | handBack (imageData : ImageData)
  /-- The log line of a packet that is judged or given up. -/
  | objectResult (objRecord : PacketObject)
  | PCP_KickSendData
  | sendDataToPLC
  /-- A call queued to the UDP thread. -/
  | sendDataAsync (cmd : UInt16) (buffer : Bytes)
  | setEnabled (enabled : Bool)
  | triggerReport
  deriving DecidableEq

/-- The members that stay as `init` has set them. -/
structure Config where
  m_maxInterval : UInt64
  m_inferTimeout : UInt64
  deriving DecidableEq

end CPacketResult

structure CPacketResult extends AbstractObject where
  m_packetHash : Hash UInt64 PacketObject
  deriving DecidableEq

namespace CPacketResult

/-- `CPacketResult` as it is constructed. -/
def start : CPacketResult := { AbstractObject.start with m_packetHash := ∅ }

/-! ## Packets -/

def distance (a b : UInt64) : UInt64 :=
  if b < a then a - b else if a < b then b - a else 0

/-- The packets in an iteration order, with their keys. -/
def packets (s : CPacketResult) (order : List UInt64) : List (UInt64 × PacketObject) :=
  order.filterMap fun key => (s.m_packetHash.lookup key).map fun record => (key, record)

/-- The picture was taken within the interval of the packet. -/
def near (cfg : Config) (imageData : ImageData) (i : PacketObject) : Bool :=
  distance imageData.genTimeStamp i.firstImageTime ≤ cfg.m_maxInterval

/-- The camera of the picture has no picture in the packet, and pictures are missing. -/
def hasRoom (imageData : ImageData) (realOnlineCameraCount : Int) (i : PacketObject) : Bool :=
  i.imageCameraIdHash.entries.all (fun image => image.2 ≠ imageData.cameraId) ∧
    (i.imageCameraIdHash.keys.length : Int) < realOnlineCameraCount

/-- The packet a picture joins.  The loop stops at the first packet within the interval,
whether the picture can join it or not. -/
def joined (cfg : Config) (s : CPacketResult) (imageData : ImageData)
    (realOnlineCameraCount : Int) (order : List UInt64) : Option (UInt64 × PacketObject) :=
  match (s.packets order).find? fun packet => near cfg imageData packet.2 with
  | some packet => if hasRoom imageData realOnlineCameraCount packet.2 then some packet else none
  | none => none

/-- The verdict on the results there are. -/
def verdict (objRecord : PacketObject) : Bool :=
  objRecord.imageResultHash.entries.all fun result => (result.2.toNat : Int) ≠ RESULT_NG

/-- `m_detectNgCount ++` for a faulty packet. -/
def countNg (s : CPacketResult) (result : Bool) : CPacketResult :=
  if result then s else { s with m_detectNgCount := s.m_detectNgCount + 1 }

/-- The command to the kicking device. -/
def kickCommand (devices : KickDevices) (record : PacketObject) : List Output :=
  if devices.pcpSerialCtrl then [.PCP_KickSendData]
  else if devices.siemensS7PLC then [.sendDataToPLC]
  else if devices.pcpUdpCtrl then
    let call := IOCtrl.sendData devices.kickEnable UdpCmd.kick.code
      (kickBody record.firstImageTime)
    call.toList.map (fun (cmd, buffer) => .sendDataAsync cmd buffer) ++
      if devices.kickEnable ∧ devices.stopMode then [.setEnabled false, .triggerReport] else []
  else []

/-- `CPacketResult::doKickFinal`. -/
def doKickFinal (s : CPacketResult) (devices : KickDevices) (record : PacketObject) :
    CPacketResult × List Output :=
  if record.result then (s, [])
  else ({ s with m_detectNgCount := s.m_detectNgCount + 1 }, kickCommand devices record)

/-! ## Handlers -/

/-- The picture with what it takes over from its packet. -/
def assign (imageData : ImageData) (record : PacketObject) : ImageData :=
  { imageData with
    objectId := record.objectId
    bReportOrignal := record.bReportOrignal
    bReportBinning := record.bReportBinning }

/-- `CPacketResult::preInferAsync`. -/
def preInferAsync (cfg : Config) (s : CPacketResult) (imageData : ImageData) (now : UInt64)
    (realOnlineCameraCount : Int) (order : List UInt64) : CPacketResult × List Output :=
  match joined cfg s imageData realOnlineCameraCount order with
  | some (key, i) =>
      let i := { i with
        imageCameraIdHash := i.imageCameraIdHash.insert imageData.imageId imageData.cameraId }
      ({ s with m_packetHash := s.m_packetHash.insert key i }, [.handBack (assign imageData i)])
  | none =>
      let (bReportOrignal, object) := s.toAbstractObject.orginalReport
      let (bReportBinning, object) := object.binningReport
      let record : PacketObject :=
        { objectId := now
          bReportOrignal := bReportOrignal
          bReportBinning := bReportBinning
          firstImageTime := imageData.genTimeStamp
          result := true
          imageCameraIdHash := AList.singleton imageData.imageId imageData.cameraId
          imageResultHash := ∅ }
      ({ object with
          m_detectTotalCount := object.m_detectTotalCount + 1
          m_packetHash := s.m_packetHash.insert record.objectId record },
        [.handBack (assign imageData record)])

/-- The packet with the result of one of its pictures. -/
def addResult (objRecord : PacketObject) (objectImageResult : ObjectImageResult) : PacketObject :=
  if objectImageResult.imageId ∈ objRecord.imageCameraIdHash then
    { objRecord with
      imageResultHash := objRecord.imageResultHash.insert objectImageResult.imageId
        (UInt16.ofInt objectImageResult.result) }
  else objRecord

/-- All results are there: of the online cameras, or of the pictures so far. -/
def complete (realOnlineCameraCount : Int) (objRecord : PacketObject) : Bool :=
  realOnlineCameraCount ≤ objRecord.imageResultHash.keys.length ∨
    objRecord.imageCameraIdHash.keys.length ≤ objRecord.imageResultHash.keys.length

/-- `CPacketResult::onImageResult`. -/
def onImageResult (s : CPacketResult) (devices : KickDevices)
    (objectImageResult : ObjectImageResult) (realOnlineCameraCount : Int) :
    CPacketResult × List Output :=
  match s.m_packetHash.lookup objectImageResult.objectId with
  | none => (s, [])
  | some stored =>
      let objRecord := addResult stored objectImageResult
      if complete realOnlineCameraCount objRecord then
        let objRecord := { objRecord with result := verdict objRecord }
        let (s, kicks) := (s.countNg objRecord.result).doKickFinal devices objRecord
        ({ s with
            m_packetHash := (s.m_packetHash.insert objectImageResult.objectId objRecord).erase
              objRecord.objectId },
          .objectResult objRecord :: kicks)
      else
        ({ s with m_packetHash := s.m_packetHash.insert objectImageResult.objectId objRecord }, [])

/-- The age test of `onTimeout`, in unsigned 64-bit arithmetic. -/
def isDue (cfg : Config) (nowTime : UInt64) (objRecord : PacketObject) : Bool :=
  cfg.m_inferTimeout ≤ nowTime - objRecord.firstImageTime

/-- `CPacketResult::onTimeout`: the first due packet is given up, or judged by the results
there are; it is kicked only if all its pictures are there. -/
def onTimeout (cfg : Config) (s : CPacketResult) (devices : KickDevices) (nowTime : UInt64)
    (realOnlineCameraCount : Int) (order : List UInt64) : CPacketResult × List Output :=
  match (s.packets order).find? fun packet => isDue cfg nowTime packet.2 with
  | none => (s, [])
  | some (key, objRecord) =>
      if objRecord.imageResultHash.keys = [] then
        ({ s with m_packetHash := s.m_packetHash.erase objRecord.objectId },
          [.objectResult objRecord])
      else
        let objRecord := { objRecord with result := verdict objRecord }
        let s := s.countNg objRecord.result
        let (s, kicks) :=
          if realOnlineCameraCount ≤ objRecord.imageCameraIdHash.keys.length then
            s.doKickFinal devices objRecord
          else (s, [])
        ({ s with m_packetHash := (s.m_packetHash.insert key objRecord).erase objRecord.objectId },
          .objectResult objRecord :: kicks)

/-! ## Events -/

/-- A call or signal `CPacketResult` serves. -/
inductive Event where
  | preInferAsync (imageData : ImageData) (now : UInt64) (realOnlineCameraCount : Int)
      (order : List UInt64)
  | onImageResult (devices : KickDevices) (objectImageResult : ObjectImageResult)
      (realOnlineCameraCount : Int)
  | onTimeout (devices : KickDevices) (nowTime : UInt64) (realOnlineCameraCount : Int)
      (order : List UInt64)
  deriving DecidableEq

def step (cfg : Config) (s : CPacketResult) : Event → CPacketResult × List Output
  | .preInferAsync imageData now realOnlineCameraCount order =>
      s.preInferAsync cfg imageData now realOnlineCameraCount order
  | .onImageResult devices objectImageResult realOnlineCameraCount =>
      s.onImageResult devices objectImageResult realOnlineCameraCount
  | .onTimeout devices nowTime realOnlineCameraCount order =>
      s.onTimeout cfg devices nowTime realOnlineCameraCount order

end CPacketResult

end IsgConsole.Multipler
