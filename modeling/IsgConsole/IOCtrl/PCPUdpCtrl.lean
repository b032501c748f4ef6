/-
# IOCtrl.PCPUdpCtrl — the UDP link to the IO board

`sendDataAsync` sends one datagram per command.  It fills a `PCP_UDP_MSG_HEAD`, and
for a command with a body it also assembles head and body in `sendBuf`; what it then
hands to `writeDatagram` is `buffer`, the body alone.

* `sendBuf_split` and `kickBody_time` — the layouts agree: the assembled buffer and
  the kick body both decode to what was put in.
* `sendDataAsync_decodable_iff` — the datagram that leaves is decodable exactly when
  the body is empty.

`onReadyRead` serves the datagrams of the board; `onReadyRead_kickCount` accounts for
its kick counter over a whole run of the loop.
-/
import IsgConsole.Theory.Bytes

namespace IsgConsole.IOCtrl

open IsgConsole.Theory

set_option autoImplicit false

/-! ## Messages -/

def PCP_UDP_MAGIC : UInt32 := 0x55AA55AA

/-- `PCP_UDP_MSG_HEAD`. -/
structure PcpUdpMsgHead where
  magic : UInt32
  uid : UInt16
  cmd : UInt16
  msgLen : UInt32
  deriving DecidableEq

namespace PcpUdpMsgHead

open FixedCodec in
/-- The packed layout. -/
def codec : FixedCodec PcpUdpMsgHead :=
  (pair u32 (pair u16 (pair u16 u32))).imap
    (fun (magic, uid, cmd, msgLen) => { magic, uid, cmd, msgLen })
    (fun h => (h.magic, h.uid, h.cmd, h.msgLen))
    (fun _ => rfl) (fun _ => rfl)

@[simp] theorem codec_width : codec.width = 12 := rfl

end PcpUdpMsgHead

/-- `PCP_UDP_MSG_PacketProduct_Result_Body`. -/
structure PacketProductResultBody where
  genSecond : UInt32
  genMillisecond : UInt32
  result : UInt8
  deriving DecidableEq

namespace PacketProductResultBody

open FixedCodec in
/-- The packed layout. -/
def codec : FixedCodec PacketProductResultBody :=
  (pair u32 (pair u32 u8)).imap
    (fun (genSecond, genMillisecond, result) => { genSecond, genMillisecond, result })
    (fun b => (b.genSecond, b.genMillisecond, b.result))
    (fun _ => rfl) (fun _ => rfl)

@[simp] theorem codec_width : codec.width = 9 := rfl

/-- The image time a kick body stands for. -/
def time (b : PacketProductResultBody) : Nat := b.genSecond.toNat * 1000 + b.genMillisecond.toNat

end PacketProductResultBody

/-- `PCPUdpCtrl::UDP_CMD_TYPE_ENUM`. -/
inductive UdpCmd where
  | kick | kickEnable | kickDisable | abnormalKickEnable | abnormalKickDisable
  | triggerCameraSnap | runStart | runStop | reboot | kickStatistic | setKickDelay
  | inquireVersionInfo | boxShapeSigal | boxStopMachine1 | boxStopMachine2 | pcpAck
  | continueKickParaPush | continueKickStart | continueKickBreak | ledGreen | ledRed
  | heardBeat | kickStateNg | boxFull
  deriving DecidableEq

def UdpCmd.code : UdpCmd → UInt16
  | .kick => 1
  | .kickEnable => 2
  | .kickDisable => 3
  | .abnormalKickEnable => 4
  | .abnormalKickDisable => 5
  | .triggerCameraSnap => 6
  | .runStart => 7
  | .runStop => 8
  | .reboot => 9
  | .kickStatistic => 10
  | .setKickDelay => 11
  | .inquireVersionInfo => 12
  | .boxShapeSigal => 13
  | .boxStopMachine1 => 14
  | .boxStopMachine2 => 15
  | .pcpAck => 199
  | .continueKickParaPush => 200
  | .continueKickStart => 201
  | .continueKickBreak => 202
  | .ledGreen => 203
  | .ledRed => 204
  | .heardBeat => 210
  | .kickStateNg => 211
  | .boxFull => 212

/-! ## Sending -/

/-- The head `sendDataAsync` fills in. -/
def msgHead (cmd : UInt16) (buffer : Bytes) : PcpUdpMsgHead :=
  { magic := PCP_UDP_MAGIC, uid := 0, cmd := cmd, msgLen := UInt32.ofNat buffer.length }

/-- Head and body as `sendDataAsync` assembles them. -/
def sendBuf (cmd : UInt16) (buffer : Bytes) : Bytes :=
  PcpUdpMsgHead.codec.encode (msgHead cmd buffer) ++ buffer

/-- `PCPUdpCtrl::sendDataAsync`: the datagram it writes. -/
def sendDataAsync (cmd : UInt16) (buffer : Bytes) : Bytes :=
  if buffer.length = 0 then PcpUdpMsgHead.codec.encode (msgHead cmd buffer)
  else
    -- `sendBuf` is assembled here and left unused.
    buffer

/-- `PCPUdpCtrl::sendData`: the call that is queued to the UDP thread, if any. -/
def sendData (m_kickEnable : Bool) (cmd : UInt16) (buffer : Bytes) : Option (UInt16 × Bytes) :=
  if cmd = UdpCmd.kick.code ∧ ¬ m_kickEnable then none else some (cmd, buffer)

/-- The kick body of `CPacketResult::doKickFinal`. -/
def kickBody (firstImageTime : UInt64) : Bytes :=
  PacketProductResultBody.codec.encode
    { genSecond := (firstImageTime / 1000).toUInt32
      genMillisecond := (firstImageTime % 1000).toUInt32
      result := 1 }

/-! ## What a receiver makes of a datagram -/

/-- Command and body, split the way `onReadyRead` splits: too short for a head is
dropped, otherwise the head lies at the start and the body behind it. -/
def splitHead (datagram : Bytes) : Option (UInt16 × Bytes) :=
  (PcpUdpMsgHead.codec.split? datagram).map fun (head, body) => (head.cmd, body)

/-- The image time of a kick datagram. -/
def kickTime (datagram : Bytes) : Option Nat := do
  let (_, body) ← splitHead datagram
  let (result, _) ← PacketProductResultBody.codec.split? body
  return result.time

/-- The assembled buffer would have been decodable, for every command and body. -/
theorem sendBuf_split (cmd : UInt16) (buffer : Bytes) :
    splitHead (sendBuf cmd buffer) = some (cmd, buffer) := by
  simp [splitHead, sendBuf, msgHead]

/-- Seconds and milliseconds carry every image time that fits. -/
theorem kickBody_time (firstImageTime : UInt64) (fits : firstImageTime.toNat < 2 ^ 32 * 1000) :
    (PacketProductResultBody.codec.decode (kickBody firstImageTime)).time =
      firstImageTime.toNat := by
  have seconds : firstImageTime.toNat / 1000 < 2 ^ 32 := by omega
  have millis : firstImageTime.toNat % 1000 < 2 ^ 32 := by omega
  rw [kickBody, FixedCodec.decode_encode, PacketProductResultBody.time]
  simp only [UInt64.toNat_toUInt32, UInt64.toNat_div, UInt64.toNat_mod,
    show (1000 : UInt64).toNat = 1000 from rfl, Nat.mod_eq_of_lt seconds,
    Nat.mod_eq_of_lt millis]
  omega

/-- What the board needs from the datagram of a command: the head in front announcing
the body, the body behind it, and so command, body and kick time for the receiver. -/
structure Decodable (cmd : UInt16) (buffer : Bytes) : Prop where
  framed : ∃ head, sendDataAsync cmd buffer = PcpUdpMsgHead.codec.encode head ++ buffer ∧
    head.magic = PCP_UDP_MAGIC ∧ head.cmd = cmd ∧ head.msgLen.toNat = buffer.length
  received : splitHead (sendDataAsync cmd buffer) = some (cmd, buffer)
  timed : ∀ firstImageTime : UInt64, firstImageTime.toNat < 2 ^ 32 * 1000 →
    cmd = UdpCmd.kick.code → buffer = kickBody firstImageTime →
    kickTime (sendDataAsync cmd buffer) = some firstImageTime.toNat

theorem kickBody_length (firstImageTime : UInt64) : (kickBody firstImageTime).length = 9 :=
  PacketProductResultBody.codec.length_encode _

/-- A body leaves without its head. -/
theorem sendDataAsync_body {cmd : UInt16} {buffer : Bytes} (body : buffer ≠ []) :
    sendDataAsync cmd buffer = buffer :=
  if_neg fun empty => body (List.length_eq_zero_iff.mp empty)

/-- **A datagram is decodable exactly when its body is empty.**  A body leaves without
its head, so every command that has one, a kick above all, arrives as garbage. -/
theorem sendDataAsync_decodable_iff (cmd : UInt16) (buffer : Bytes) :
    Decodable cmd buffer ↔ buffer = [] := by
  constructor
  · intro good
    by_contra body
    obtain ⟨head, datagram, -⟩ := good.framed
    have lengths := congrArg List.length datagram
    rw [sendDataAsync_body body, List.length_append, FixedCodec.length_encode,
      PcpUdpMsgHead.codec_width] at lengths
    omega
  · rintro rfl
    have datagram : sendDataAsync cmd [] = PcpUdpMsgHead.codec.encode (msgHead cmd []) ++ [] := by
      rw [List.append_nil]
      rfl
    refine ⟨⟨msgHead cmd [], datagram, rfl, rfl, rfl⟩, ?_, ?_⟩
    · rw [datagram]
      exact sendBuf_split cmd []
    · intro firstImageTime _ _ kick
      have lengths := congrArg List.length kick
      rw [kickBody_length] at lengths
      cases lengths

/-- A kick for an image taken at 1.5 s. -/
theorem sendDataAsync_kick_undecodable : ¬ Decodable UdpCmd.kick.code (kickBody 1500) := by
  intro good
  have received := good.received
  revert received
  decide

/-! ## Receiving -/

/-- The state `onReadyRead` reads and writes. -/
structure PCPUdpCtrl where
  m_enabled : Bool
  m_kickAbnormalEnable : Bool
  /-- The function's static flag: something has been received before. -/
  connected : Bool
  m_heartbeatLastTime : Int
  m_kickCount : Int32
  m_pcpVersionInfoList : List Bytes
  deriving DecidableEq

inductive Output where
  | writeDatagram (datagram : Bytes)
  | sendDataToRealAlarm (head : PcpUdpMsgHead)
  | boxShapeSignal
  deriving DecidableEq

namespace PCPUdpCtrl

/-- `PCPUdpCtrl::setKickAbnormalEnabled`. -/
def setKickAbnormalEnabled (enabled : Bool) : Output :=
  if enabled then .writeDatagram (sendDataAsync UdpCmd.abnormalKickEnable.code [])
  else .writeDatagram (sendDataAsync UdpCmd.abnormalKickDisable.code [])

/-- `recvBuf`: 64 zeroed bytes with the start of the datagram in them. -/
def recvBuf (datagram : Bytes) : Bytes :=
  datagram.take 64 ++ List.replicate (64 - datagram.length) 0

/-- The text of a `char *` into the buffer. -/
def cString (bytes : Bytes) : Bytes := bytes.takeWhile (· ≠ 0)

/-- The `switch` over the command of a received head. -/
def dispatch (s : PCPUdpCtrl) (recvBuf : Bytes) : PCPUdpCtrl × List Output :=
  let head := PcpUdpMsgHead.codec.decode recvBuf
  let body := recvBuf.drop PcpUdpMsgHead.codec.width
  if head.cmd = UdpCmd.reboot.code then
    if s.m_enabled then (s, [.writeDatagram (sendDataAsync UdpCmd.runStart.code [])]) else (s, [])
  else if head.cmd = UdpCmd.inquireVersionInfo.code then
    ({ s with m_pcpVersionInfoList :=
        [cString body, cString (body.drop 16), cString (body.drop 32)] }, [])
  else if head.cmd = UdpCmd.kickStatistic.code then
    let value := FixedCodec.u32.decode body
    if value ≠ 0 then ({ s with m_kickCount := s.m_kickCount + value.toInt32 }, []) else (s, [])
  else if head.cmd = UdpCmd.boxShapeSigal.code then (s, [.boxShapeSignal])
  else if head.cmd = UdpCmd.heardBeat.code ∨ head.cmd = UdpCmd.kickStateNg.code ∨
      head.cmd = UdpCmd.boxFull.code then
    (s, [.sendDataToRealAlarm head])
  else (s, [])

/-- `recvLen` reaches over the head. -/
def holdsHead (datagram : Bytes) : Bool :=
  PcpUdpMsgHead.codec.width ≤ (datagram.take 64).length

/-- `PCPUdpCtrl::onReadyRead` on the pending datagrams, each with the clock reading at
its turn.  A datagram too short for a head ends the slot; the rest stays pending. -/
def onReadyRead : List (Bytes × Int) → PCPUdpCtrl → PCPUdpCtrl × List Output × List (Bytes × Int)
  | [], s => (s, [], [])
  | (datagram, now) :: pending, s =>
      if ¬ holdsHead datagram then (s, [], pending)
      else
        let resent := if s.connected then [] else [setKickAbnormalEnabled s.m_kickAbnormalEnable]
        let t := dispatch { s with connected := true, m_heartbeatLastTime := now }
          (recvBuf datagram)
        let r := onReadyRead pending t.1
        (r.1, resent ++ t.2 ++ r.2.1, r.2.2)

/-- `PCPUdpCtrl::getNGCount`: read and clear. -/
def getNGCount (s : PCPUdpCtrl) : Int32 × PCPUdpCtrl := (s.m_kickCount, { s with m_kickCount := 0 })

/-- The kicks a datagram of the board reports. -/
def reported (datagram : Bytes) : Int32 :=
  if (PcpUdpMsgHead.codec.decode (recvBuf datagram)).cmd = UdpCmd.kickStatistic.code then
    (FixedCodec.u32.decode ((recvBuf datagram).drop PcpUdpMsgHead.codec.width)).toInt32
  else 0

/-- One datagram adds what it reports to the counter, whatever else it does. -/
theorem dispatch_kickCount (s : PCPUdpCtrl) (datagram : Bytes) :
    (dispatch s (recvBuf datagram)).1.m_kickCount = s.m_kickCount + reported datagram := by
  rw [dispatch, reported]
  generalize PcpUdpMsgHead.codec.decode (recvBuf datagram) = head
  generalize FixedCodec.u32.decode ((recvBuf datagram).drop PcpUdpMsgHead.codec.width) = value
  dsimp only
  by_cases statistic : head.cmd = UdpCmd.kickStatistic.code
  · have notReboot : head.cmd ≠ UdpCmd.reboot.code := by rw [statistic]; decide
    have notInquire : head.cmd ≠ UdpCmd.inquireVersionInfo.code := by rw [statistic]; decide
    rw [if_neg notReboot, if_neg notInquire, if_pos statistic, if_pos statistic]
    by_cases zero : value = 0
    · rw [if_neg (not_not_intro zero), zero]
      exact (Int32.add_zero _).symm
    · rw [if_pos zero]
  · rw [if_neg statistic, if_neg statistic, Int32.add_zero]
    split_ifs <;> rfl

/-- **The kick counter accumulates the reports of the datagrams served**, up to the one
that ended the slot. -/
theorem onReadyRead_kickCount (pending : List (Bytes × Int)) (s : PCPUdpCtrl) :
    (onReadyRead pending s).1.m_kickCount =
      s.m_kickCount + (((pending.map Prod.fst).takeWhile holdsHead).map reported).sum := by
  induction pending generalizing s with
  | nil => exact (Int32.add_zero _).symm
  | cons head pending ih =>
      obtain ⟨datagram, now⟩ := head
      rw [onReadyRead, List.map_cons, List.takeWhile_cons]
      by_cases held : holdsHead datagram
      · rw [if_neg (not_not_intro held), if_pos held, List.map_cons, List.sum_cons,
          ← Int32.add_assoc]
        dsimp only
        rw [ih, dispatch_kickCount]
      · rw [if_pos held, if_neg held]
        exact (Int32.add_zero _).symm

end PCPUdpCtrl

end IsgConsole.IOCtrl
