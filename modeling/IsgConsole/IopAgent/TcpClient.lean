/-
# IopAgent.TcpClient — what the policy-store client sends

`TcpClient` registers the console, answers commands, forwards heartbeats and reports
statistics.  Each sender fills a `POLICY_INFO_MSG_HEADER` by hand and puts a compact JSON
text behind it; a message is modelled as that header and that text, the two parts
`sendMsg` appends.
-/
import IsgConsole.BaseLib.Protocol
import IsgConsole.BaseLib.QtJson
import IsgConsole.Theory.Framing

namespace IsgConsole.IopAgent

open IsgConsole.Theory IsgConsole.BaseLib IsgConsole.Theory.Json

set_option autoImplicit false

/-- A message as a sender assembles it: the header and the bytes appended behind it. -/
abbrev Message := Framing.Frame PolicyInfoMsgHeader

namespace TcpClient

/-- `IAS_DT` and `IAS_AI`. -/
def IAS_DT : Int := 0
def IAS_AI : Int := 1

/-- An algorithm channel as the registration describes it. -/
structure Channel where
  channelId : Int
  jsonChecksum : Int
  deriving DecidableEq

/-- What `registerToPolicyStore` reads of the project, channels in table order. -/
structure Registration where
  applicationDirPath : Bytes
  AICtrls : List Channel
  channelInfers : List Channel
  brandId : Bytes
  deriving DecidableEq

/-- `crcJson` of one channel. -/
def crcJson (algorithmType : Int) (channel : Channel) : Json :=
  .object (JsonObject.insert (utf8 "check_sum") (int channel.jsonChecksum)
    (JsonObject.insert (utf8 "channel_id") (int channel.channelId)
      (JsonObject.insert (utf8 "algorithm_type") (int algorithmType) [])))

def registerBody (r : Registration) : JsonObject :=
  let jsonArray := r.AICtrls.map (crcJson IAS_AI) ++ r.channelInfers.map (crcJson IAS_DT)
  JsonObject.insert (utf8 "algorithmInfo") (.array jsonArray)
    (JsonObject.insert (utf8 "brandId") (.string r.brandId)
      (JsonObject.insert (utf8 "rootAddress") (.string r.applicationDirPath) []))

variable (qt : QtJson)

/-- `TcpClient::registerToPolicyStore`; `now` is also the transaction id it remembers. -/
def registerToPolicyStore (now : UInt64) (r : Registration) : Message :=
  let array := qt.toJson .Compact (.object (registerBody r))
  ({ tranId := now
     timeStamp := now
     processId := 0
     processType := PROCESS_TYPE_ISG
     command := PsCmd.RegisterToPolicy.code
     version := VERSION
     len := UInt32.ofNat array.length }, array)

/-- `TcpClient::sendToPolicyStoreAsync`: of `head` it takes the transaction and the command. -/
def sendToPolicyStoreAsync (now : UInt64) (tranId : UInt64) (command : UInt16)
    (jsonObj : JsonObject) : Message :=
  let array := qt.toJson .Compact (.object jsonObj)
  ({ tranId := tranId
     timeStamp := now
     processId := 0
     processType := PROCESS_TYPE_ISG
     command := command
     version := VERSION
     len := UInt32.ofNat array.length }, array)

/-- `TcpClient::respondToPolicyStore`. -/
def respondToPolicyStore (now : UInt64) (head : PolicyInfoMsgHeader) (jsonObj : JsonObject) :
    Message :=
  sendToPolicyStoreAsync qt now head.tranId PsCmd.ACK.code jsonObj

/-- Counters of one channel, read and cleared by `getStatistic`. -/
structure Statistic where
  channelId : Int
  TotalCount : Int
  NgCount : Int
  deriving DecidableEq

/-- `jsonObject` of one channel. -/
def statisticJson (s : Statistic) : Json :=
  .object (JsonObject.insert (utf8 "ng_count") (int s.NgCount)
    (JsonObject.insert (utf8 "total_count") (int s.TotalCount)
      (JsonObject.insert (utf8 "channel_id") (int s.channelId) [])))

def Statistic.needReport (s : Statistic) : Bool := 0 < s.TotalCount ∨ 0 < s.NgCount

/-- `TcpClient::onStatisticReportTimeout`: the object's counters under channel 0, then those
of the image multiplers; nothing is sent when all of them are zero. -/
def onStatisticReportTimeout (now : UInt64) (registaredState : Bool) (TotalCount NgCount : Int)
    (imageMultiplers : List Statistic) : Option Message :=
  let all := { channelId := 0, TotalCount, NgCount } :: imageMultiplers
  if registaredState ∧ all.any Statistic.needReport then
    let byteArray := qt.toJson .Compact (.array (all.map statisticJson))
    some ({ tranId := now
            timeStamp := now
            processId := 0
            processType := PROCESS_TYPE_ISG
            command := PsCmd.STATISTIC.code
            version := VERSION
            len := UInt32.ofNat byteArray.length }, byteArray)
  else none

end TcpClient

end IsgConsole.IopAgent
