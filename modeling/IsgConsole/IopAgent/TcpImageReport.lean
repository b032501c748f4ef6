/-
# IopAgent.TcpImageReport — the media channel

`TcpImageReport` creates the media channel, answers its commands and reports pictures:
with a result (`sendImageResultToPolicyStoreAsync`) or raw
(`sendImageDataToPolicyStoreAsync`).  A picture report is an `IMAGE_DATA_INFO`, the jpg
bytes and the JSON of the result.

`scaled` is Qt's.
-/
import IsgConsole.IopAgent.TcpClient
import IsgConsole.Inspector.Infer

namespace IsgConsole.IopAgent

open IsgConsole.Theory IsgConsole.BaseLib IsgConsole.Inspector IsgConsole.Theory.Json

set_option autoImplicit false

/-- `IMAGE_RESULT_RECORD`. -/
structure ImageResultRecord where
  imageData : ImageData
  result : Int
  jsonData : Bytes
  deriving DecidableEq

namespace TcpImageReport

/-- `ImageMediaReportType`. -/
def IMAGE_REPORT_NULL : Int := 0
def IMAGE_REPORT_ORIGINAL : Int := 1
def IMAGE_REPORT_BINNING : Int := 2
def IMAGE_REPORT_BOTH : Int := 3

/-- The command word written out in `sendImageDataToPolicyStoreAsync`. -/
def rawImageCommand : UInt16 := 5001

/-- `TcpImageReport::sendCreateImageReport`. -/
def sendCreateImageReport (now : UInt64) : Message :=
  ({ tranId := now
     timeStamp := now
     processId := 0
     processType := PROCESS_TYPE_ISG
     command := PsCmd.ImageReportCreat.code
     version := VERSION
     len := 0 }, [])

section Senders

variable (qt : QtJson) (scaled : QImage → Int → Int → QImage)

/-- `TcpImageReport::sendResponse`. -/
def sendResponse (now : UInt64) (head : PolicyInfoMsgHeader) (jsonObj : JsonObject) : Message :=
  let array := qt.toJson .Compact (.object jsonObj)
  ({ tranId := head.tranId
     timeStamp := now
     processId := 0
     processType := PROCESS_TYPE_ISG
     command := PsCmd.ACK.code
     version := VERSION
     len := UInt32.ofNat array.length }, array)

/-- Whether the original picture of a record is wanted. -/
def orignalReport (m_mediaReportType : Int) (imageRecord : ImageResultRecord) : Bool :=
  (m_mediaReportType = IMAGE_REPORT_ORIGINAL ∨ m_mediaReportType = IMAGE_REPORT_BOTH) ∧
    imageRecord.imageData.bReportOrignal

def binningReport (m_mediaReportType : Int) (imageRecord : ImageResultRecord) : Bool :=
  (m_mediaReportType = IMAGE_REPORT_BINNING ∨ m_mediaReportType = IMAGE_REPORT_BOTH) ∧
    imageRecord.imageData.bReportBinning

/-- `TcpImageReport::sendImageResultToPolicyStoreAsync`, with the socket state it looks at. -/
def sendImageResultToPolicyStoreAsync (now : UInt64) (m_mediaReportType : Int)
    (connectedState : Bool) (imageRecord : ImageResultRecord) : Option Message :=
  let orignal := orignalReport m_mediaReportType imageRecord
  let binning := binningReport m_mediaReportType imageRecord
  if ¬ orignal ∧ ¬ binning then none
  else if ¬ connectedState then none
  else
    let bBinning : Bool := binning ∧ ¬ orignal
    let image := if bBinning then scaled imageRecord.imageData.imageData 640 480
      else imageRecord.imageData.imageData
    let imageInfo : ImageDataInfo :=
      { objectId := imageRecord.imageData.objectId
        cameraId := imageRecord.imageData.cameraId.toUInt16
        imageId := imageRecord.imageData.imageId
        genTimeStamp := imageRecord.imageData.genTimeStamp
        imageType := UInt16.ofInt image.depth
        imageWidth := UInt32.ofInt image.width
        imageHeight := UInt32.ofInt image.height
        result := Int16.ofInt imageRecord.result
        imageSize := UInt32.ofNat image.jpg.length
        jsonSize := UInt32.ofNat imageRecord.jsonData.length }
    let tcpMsg := ImageDataInfo.codec.encode imageInfo ++ image.jpg ++ imageRecord.jsonData
    some ({ tranId := now
            timeStamp := now
            processId := 0
            processType := PROCESS_TYPE_ISG
            command := if bBinning then PsCmd.ImageResultReportBinning.code
              else PsCmd.ImageResultReport.code
            version := VERSION
            len := UInt32.ofNat tcpMsg.length }, tcpMsg)

/-- `TcpImageReport::sendImageDataToPolicyStoreAsync`. -/
def sendImageDataToPolicyStoreAsync (now : UInt64) (connectedState : Bool) (imageData : ImageData) :
    Option Message :=
  if ¬ connectedState then none
  else
    let image := imageData.imageData
    let imageInfo : ImageDataInfo :=
      { objectId := 0
        cameraId := imageData.cameraId.toUInt16
        imageId := imageData.imageId
        genTimeStamp := imageData.genTimeStamp
        imageType := UInt16.ofInt image.depth
        imageWidth := UInt32.ofInt image.width
        imageHeight := UInt32.ofInt image.height
        result := 1
        imageSize := UInt32.ofNat image.jpg.length
        jsonSize := 0 }
    let tcpMsg := ImageDataInfo.codec.encode imageInfo ++ image.jpg
    -- The header announces no body although `tcpMsg` follows it.
    some ({ tranId := now
            timeStamp := now
            processId := 0
            processType := PROCESS_TYPE_ISG
            command := rawImageCommand
            version := VERSION
            len := 0 }, tcpMsg)

end Senders

end TcpImageReport

end IsgConsole.IopAgent
