/-
# BaseLib.Protocol — the packed headers of the policy-store connections

`BaseLib/Protocol.h`: the command words, the message header that stands in front
of every message on a policy-store TCP stream, and the image header that stands
in front of every reported picture.  Both structs are packed (`#pragma pack(1)`),
so their memory is the little-endian words of their fields in declaration order.
-/
import IsgConsole.Theory.Bytes

namespace IsgConsole.BaseLib

open IsgConsole.Theory

set_option autoImplicit false

/-! ## Constants -/

def VERSION : UInt16 := 2
def PROCESS_TYPE_ISG : UInt16 := 5

/-- The codes of a reply. -/
def CTRL_SUCCESS : Int := 200
def CTRL_ERROR : Int := 400

/-- `POLICY_STORE_CMD_TYPE_ENUM`. -/
inductive PsCmd where
  | ConfigSet | RegisterToPolicy | CHANGE_BRANDID | STATISTIC | IasSet | REBOOT | ACK
  | ReportBarcode | Enable | AlarmLedSet | Heartbeat | ContinueKickStart | SetWorkMode
  | SpotEnable | InquireSpotDetectStatus | InquireVersionInfo | ImageReportCreat
  | ImageReportMediaType | ImageResultReport | ImageResultReportBinning
  deriving DecidableEq, Repr

/-- The command words as the header carries them. -/
def PsCmd.code : PsCmd → UInt16
  | .ConfigSet => 1
  | .RegisterToPolicy => 3
  | .CHANGE_BRANDID => 6
  | .STATISTIC => 9
  | .IasSet => 10
  | .REBOOT => 1000
  | .ACK => 1001
  | .ReportBarcode => 1005
  | .Enable => 1100
  | .AlarmLedSet => 3000
  | .Heartbeat => 3001
  | .ContinueKickStart => 3002
  | .SetWorkMode => 3005
  | .SpotEnable => 3006
  | .InquireSpotDetectStatus => 3007
  | .InquireVersionInfo => 3008
  | .ImageReportCreat => 8001
  | .ImageReportMediaType => 8002
  | .ImageResultReport => 8003
  | .ImageResultReportBinning => 8005

/-! ## POLICY_INFO_MSG_HEADER -/

/-- `POLICY_INFO_MSG_HEADER`. -/
structure PolicyInfoMsgHeader where
  tranId : UInt64
  timeStamp : UInt64
  processId : UInt32
  processType : UInt16
  command : UInt16
  version : UInt16
  len : UInt32
  deriving DecidableEq, Repr

namespace PolicyInfoMsgHeader

open FixedCodec in
/-- The packed layout. -/
def codec : FixedCodec PolicyInfoMsgHeader :=
  (pair u64 (pair u64 (pair u32 (pair u16 (pair u16 (pair u16 u32)))))).imap
    (fun (tranId, timeStamp, processId, processType, command, version, len) =>
      { tranId, timeStamp, processId, processType, command, version, len })
    (fun h => (h.tranId, h.timeStamp, h.processId, h.processType, h.command, h.version, h.len))
    (fun _ => rfl) (fun _ => rfl)

/-- `sizeof(POLICY_INFO_MSG_HEADER)`. -/
@[simp] theorem codec_width : codec.width = 30 := rfl

/-- The number of body bytes the header announces. -/
def bodyLen (h : PolicyInfoMsgHeader) : Nat := h.len.toNat

end PolicyInfoMsgHeader

/-! ## IMAGE_DATA_INFO -/

/-- `IMAGE_DATA_INFO`. -/
structure ImageDataInfo where
  objectId : UInt64
  cameraId : UInt16
  imageId : UInt64
  genTimeStamp : UInt64
  imageType : UInt16
  imageWidth : UInt32
  imageHeight : UInt32
  result : Int16
  imageSize : UInt32
  jsonSize : UInt32
  deriving DecidableEq

namespace ImageDataInfo

open FixedCodec in
/-- The packed layout. -/
def codec : FixedCodec ImageDataInfo :=
  (pair u64 (pair u16 (pair u64 (pair u64 (pair u16 (pair u32 (pair u32 (pair i16
      (pair u32 u32))))))))).imap
    (fun (objectId, cameraId, imageId, genTimeStamp, imageType, imageWidth, imageHeight, result,
        imageSize, jsonSize) =>
      { objectId, cameraId, imageId, genTimeStamp, imageType, imageWidth, imageHeight, result,
        imageSize, jsonSize })
    (fun i => (i.objectId, i.cameraId, i.imageId, i.genTimeStamp, i.imageType, i.imageWidth,
      i.imageHeight, i.result, i.imageSize, i.jsonSize))
    (fun _ => rfl) (fun _ => rfl)

/-- `sizeof(IMAGE_DATA_INFO)`. -/
@[simp] theorem codec_width : codec.width = 46 := rfl

end ImageDataInfo

end IsgConsole.BaseLib
