import IsgConsole.Theory.Bytes
import IsgConsole.Theory.Framing
import IsgConsole.BaseLib.ProtocolStream
import IsgConsole.IOCtrl.PCPUdpCtrl
import IsgConsole.Theory.Json.Text
import IsgConsole.Theory.Json.Parse
import IsgConsole.Theory.Json.Print
import IsgConsole.BaseLib.QtJson
import IsgConsole.IopAgent.PolicyStream
import IsgConsole.AssistLib.AuxTask
import IsgConsole.Multipler.ImageMultipler
import IsgConsole.Multipler.ImageHistory
import IsgConsole.Multipler.ImageSettlement
import IsgConsole.Theory.Json.Splice
import IsgConsole.Multipler.ImageJson
import IsgConsole.IasCore.BaseAiInference
import IsgConsole.IasCore.YoloResNetInference
import IsgConsole.IasAgent.BatchInfer
import IsgConsole.IasCore.DragLineInference
import IsgConsole.IasCore.MixBrandInference
import IsgConsole.IasCore.PatchCoreInference
import IsgConsole.IasAgent.DefectEntries
import IsgConsole.IasAgent.KickCoordinate
import IsgConsole.Multipler.AbstractObject
import IsgConsole.Multipler.PacketResult
import IsgConsole.Multipler.PacketHistory
import IsgConsole.Multipler.PacketIds
import IsgConsole.Multipler.OneProduct
import IsgConsole.Multipler.PacketVerdict
import IsgConsole.Multipler.PacketAccounts
import IsgConsole.BaseLib.EngineProject
import IsgConsole.IasAgent.ImageGroup
import IsgConsole.Theory.Delimited
import IsgConsole.Sensor.BarCoder
import IsgConsole.Theory.ClearOnRead
import IsgConsole.Multipler.Statistics
import IsgConsole.IasAgent.ChannelInfer
import IsgConsole.IasAgent.ChannelVerdict
import IsgConsole.IasAgent.ChannelReferences
import IsgConsole.IasAgent.BatchOperate
import IsgConsole.IopAgent.IasSet
import IsgConsole.ImgSrc.SoftCamera
import IsgConsole.IopAgent.SpotDetect
import IsgConsole.IopAgent.TcpConnection
import IsgConsole.Multipler.Timeouts
import IsgConsole.Multipler.PacketJoin
import IsgConsole.IasAgent.InferFailure
import IsgConsole.Multipler.ImageVerdict
import IsgConsole.Multipler.BoxHistory
import IsgConsole.Multipler.BoxQueue
import IsgConsole.Multipler.BoxNg
import IsgConsole.IopAgent.AlgorithmFiles
import IsgConsole.BaseLib.Attribute
import IsgConsole.BaseLib.ObjectAttributes
import IsgConsole.IasCore.PatchCorePt
import IsgConsole.IasCore.InPolygon
import IsgConsole.IasCore.DefectArea
import IsgConsole.IasCore.MixBrandVerdict
import IsgConsole.IasCore.DragLineArea
import IsgConsole.IasCore.Dt.Detector
import IsgConsole.IasCore.Dt.Locator
import IsgConsole.IasCore.Dt.DetectionRegion
import IsgConsole.IasCore.Dt.FailedUpdate
import IsgConsole.IasAgent.BatchRetry
import IsgConsole.IasAgent.GroupComplete
import IsgConsole.ImgSrc.ImageSrcDev
import IsgConsole.ImgSrc.DahuaCamera
import IsgConsole.ImgSrc.BaslerCCDCamera
import IsgConsole.ImgSrc.SerialNumber
import IsgConsole.AssistLib.AccessCode
import IsgConsole.Theory.Buffer
import IsgConsole.IOCtrl.PCPSerialCtrl
import IsgConsole.IasCore.Dt.LineNms
import IsgConsole.IasCore.PatchCoreCameras
import IsgConsole.Multipler.ImageIds
import IsgConsole.Multipler.ReportRates
import IsgConsole.IopAgent.ConfigSet
import IsgConsole.IopAgent.ConfigSetEffects
import IsgConsole.IopAgent.ConfigSetExact
import IsgConsole.IopAgent.ConfigSetProbes
import IsgConsole.AssistLib.Matrix
import IsgConsole.AssistLib.CoordinateTransform
import IsgConsole.IasCore.HeatThreshold
import IsgConsole.IOCtrl.ModbusCtrl
import IsgConsole.AssistLib.CleanImages
import IsgConsole.IopAgent.RealAlarm
import IsgConsole.Theory.Simulation
import IsgConsole.Theory.Threads
import IsgConsole.Theory.Admission
import IsgConsole.IopAgent.ImageReport
import IsgConsole.IopAgent.MediaChannel
import IsgConsole.Theory.Grouping
import IsgConsole.IasCore.Yolov5
import IsgConsole.IasCore.Yolov5TensorRt
import IsgConsole.BaseLib.Definition
import IsgConsole.BaseLib.Restart
import IsgConsole.Theory.Date
import IsgConsole.AssistLib.CleanExpired
import IsgConsole.Theory.Json.Line
import IsgConsole.Theory.Regex
import IsgConsole.BaseLib.CommandLine
import IsgConsole.AssistLib.OutPutLog
