/-
# IopAgent.RealAlarm — alarms and heartbeats

`RealAlarm` tells the policy store that the console is alive.  A device that fails is reported at
every turn of a timer; otherwise a heartbeat goes out after the interval that the policy store has
set, in seconds.  The timer fires every two seconds and `m_reportControlCnt` counts its turns, but it
is the number of seconds that the count is compared with, cut to 16 bits.

* `step_beat` — what a moment does in a healthy run, by the counter alone;
* `heartbeats_apart` — **heartbeats of a healthy run are `n mod 2^16` turns of the timer apart**, and
  one turn at least;
* `honours_iff` — the interval is honoured only when it is one second.
-/
import IsgConsole.IOCtrl.PCPUdpCtrl
import IsgConsole.IasAgent.IasJsonParser
import IsgConsole.IopAgent.TcpClient

namespace IsgConsole.IopAgent

open IsgConsole.Theory IsgConsole.BaseLib IsgConsole.Theory.Json IsgConsole.IOCtrl
open IsgConsole.IasAgent (toIntOr)

set_option autoImplicit false

def STATE_ABNORMAL : Int := 0
def STATE_NORMAL : Int := 1

def IOP_LED_STATE_GREEN : Int := 1

/-- `m_timer->setInterval(2000)`, in milliseconds. -/
def timerInterval : Nat := 2000

/-- `RealAlarm`. -/
structure RealAlarm where
  m_udpIoLedStateCmd : UInt16
  m_reportInterval : UInt16
  /-- An `int`; it stays below `2^16` (`reached_count`). -/
  m_reportControlCnt : Int
  m_continueKickEnable : UInt8
  m_continueKickCount : UInt8
  m_isContinueKickSet : Bool
  m_isUdpIoOnline : Bool
  m_boxStatus : Int
  m_kickAckStatus : Int
  deriving DecidableEq

namespace RealAlarm

/-- A camera as a heartbeat reports it. -/
structure Camera where
  id : Int
  isSpotCamera : Bool
  isOnline : Bool
  deriving DecidableEq

inductive Event where
  | tcpAlarm (head : PolicyInfoMsgHeader) (body : Bytes)
  | udpIoAlarm (head : PcpUdpMsgHead)
  | timeout
  | triggerReport
  deriving DecidableEq

/-- A slot runs; what it reads of the clock and of the rest of the console. -/
structure Moment where
  event : Event
  currentMSecsSinceEpoch : Nat
  getRegistaredState : Bool
  onlineCameraCount : Int
  devices : List Camera
  enabled : Bool
  /-- `PCPUdpCtrl::getInstance()`. -/
  getInstance : Option PCPUdpCtrl
  deriving DecidableEq

inductive Output where
  | sendData (cmd : UInt16) (buffer : Bytes)
  | respondToPolicyStore (head : PolicyInfoMsgHeader) (jsonObj : JsonObject)
  | sendToPolicyStore (tranId : UInt64) (command : UInt16) (jsonObj : JsonObject)

/-- The constructor. -/
def constructed : RealAlarm :=
  { m_udpIoLedStateCmd := UdpCmd.ledGreen.code
    m_reportInterval := 300
    m_reportControlCnt := 0
    m_continueKickEnable := 0
    m_continueKickCount := 0
    m_isContinueKickSet := false
    m_isUdpIoOnline := false
    m_boxStatus := STATE_NORMAL
    m_kickAckStatus := STATE_NORMAL }

/-- A command for the IO board, if there is one. -/
def toBoard (m : Moment) (cmd : UInt16) (buffer : Bytes) : List Output :=
  if m.getInstance.isSome then [.sendData cmd buffer] else []

def sendContinueKickPara (m : Moment) (continueKickEnable continueKickCount : UInt8) :
    List Output :=
  toBoard m UdpCmd.continueKickParaPush.code [continueKickEnable, continueKickCount]

def respondToPolicyStore (msgHead : PolicyInfoMsgHeader) (isSuccess : Bool) : Output :=
  if isSuccess then
    .respondToPolicyStore msgHead (JsonObject.ofInserts
      [(utf8 "code", int CTRL_SUCCESS), (utf8 "message", .string (utf8 "Success"))])
  else
    .respondToPolicyStore msgHead (JsonObject.ofInserts
      [(utf8 "code", int CTRL_ERROR), (utf8 "message", .string (utf8 "error"))])

/-! ## The heartbeat -/

/-- A camera in the body of a heartbeat. -/
def cameraObj (camera : Camera) : Json :=
  objectOf [(utf8 "id", int camera.id), (utf8 "state", int camera.isOnline.toInt)]

def ackBody (s : RealAlarm) (m : Moment) : JsonObject :=
  JsonObject.ofInserts
    [(utf8 "camera", .array ((m.devices.filter fun camera => !camera.isSpotCamera).map cameraObj)),
      (utf8 "io", objectOf
        [(utf8 "connect_state", int s.m_isUdpIoOnline.toInt),
          (utf8 "kick_state", int s.m_kickAckStatus), (utf8 "box_state", int s.m_boxStatus)]),
      (utf8 "run_state", .bool m.enabled)]

/-- Something is wrong with a device, or the count has reached the interval. -/
def needReport (s : RealAlarm) (m : Moment) : Bool :=
  m.onlineCameraCount ≠ m.devices.length ∨ ¬ s.m_isUdpIoOnline ∨
    s.m_kickAckStatus = STATE_ABNORMAL ∨ s.m_boxStatus = STATE_ABNORMAL ∨
    (s.m_reportInterval.toNat : Int) ≤ s.m_reportControlCnt

/-- `heartbeatToPolicyStore`. -/
def heartbeatToPolicyStore (s : RealAlarm) (m : Moment) (bNeedReport : Bool) :
    RealAlarm × List Output :=
  if ¬ m.getRegistaredState then ({ s with m_udpIoLedStateCmd := UdpCmd.ledRed.code }, [])
  else
    let s := { s with m_reportControlCnt := s.m_reportControlCnt + 1 }
    if bNeedReport ∨ s.needReport m then
      ({ s with
          m_reportControlCnt := 0
          m_kickAckStatus :=
            if s.m_kickAckStatus = STATE_ABNORMAL then STATE_NORMAL else s.m_kickAckStatus },
        [.sendToPolicyStore (UInt64.ofNat m.currentMSecsSinceEpoch) PsCmd.Heartbeat.code
          (s.ackBody m)])
    else (s, [])

/-! ## The slots -/

variable (qt : QtJson)

/-- `onTcpAlarm`. -/
def onTcpAlarm (s : RealAlarm) (m : Moment) (head : PolicyInfoMsgHeader) (body : Bytes) :
    RealAlarm × List Output :=
  let jsonObj := qt.object body
  if head.command = PsCmd.ConfigSet.code then
    let s :=
      { s with
        m_reportInterval := UInt16.ofInt (toIntOr 300 (jsonObj.get (utf8 "report_interval")))
        m_continueKickEnable := (jsonObj.get (utf8 "consecutive_kick_enable")).toBool.toUInt8
        m_continueKickCount :=
          UInt8.ofInt (toIntOr 0 (jsonObj.get (utf8 "consecutive_kick_count")))
        m_isContinueKickSet := true }
    (s, sendContinueKickPara m s.m_continueKickEnable s.m_continueKickCount)
  else if head.command = PsCmd.AlarmLedSet.code then
    let led_state := toIntOr IOP_LED_STATE_GREEN (jsonObj.get (utf8 "led_state"))
    let s :=
      { s with
        m_udpIoLedStateCmd :=
          if led_state = IOP_LED_STATE_GREEN then UdpCmd.ledGreen.code else UdpCmd.ledRed.code }
    (s, toBoard m s.m_udpIoLedStateCmd [] ++ [respondToPolicyStore head true])
  else if head.command = PsCmd.ContinueKickStart.code then
    let pcpCmd :=
      if (jsonObj.get (utf8 "kick")).toBool then UdpCmd.continueKickStart.code
      else UdpCmd.continueKickBreak.code
    (s, toBoard m pcpCmd [] ++ [respondToPolicyStore head true])
  else (s, [])

/-- `onUdpIoAlarm`: what the IO board reports. -/
def onUdpIoAlarm (s : RealAlarm) (m : Moment) (head : PcpUdpMsgHead) : RealAlarm × List Output :=
  if head.cmd = UdpCmd.heardBeat.code then
    ({ s with m_kickAckStatus := STATE_NORMAL, m_boxStatus := STATE_NORMAL }, [])
  else if head.cmd = UdpCmd.kickStateNg.code then
    { s with m_kickAckStatus := STATE_ABNORMAL }.heartbeatToPolicyStore m true
  else if head.cmd = UdpCmd.boxFull.code then
    { s with m_boxStatus := STATE_ABNORMAL }.heartbeatToPolicyStore m true
  else (s, [])

/-- `checkUdpIoConnection`: the board is offline three seconds after its last message. -/
def checkUdpIoConnection (s : RealAlarm) (m : Moment) (board : PCPUdpCtrl) :
    RealAlarm × List Output :=
  if 3000 ≤ (m.currentMSecsSinceEpoch : Int) - board.m_heartbeatLastTime then
    ({ s with m_isUdpIoOnline := false }, [])
  else if s.m_isUdpIoOnline then (s, [])
  else
    ({ s with m_isUdpIoOnline := true },
      if s.m_isContinueKickSet then
        sendContinueKickPara m s.m_continueKickEnable s.m_continueKickCount
      else [])

/-- `heartbeatToUdpIo`. -/
def heartbeatToUdpIo (s : RealAlarm) (m : Moment) (board : PCPUdpCtrl) : List Output :=
  toBoard m
    (if board.m_pcpVersionInfoList.isEmpty then UdpCmd.inquireVersionInfo.code
      else s.m_udpIoLedStateCmd) []

/-- `onTimeout`: without a board its first check reads through a null pointer. -/
def onTimeout (s : RealAlarm) (m : Moment) : Option (RealAlarm × List Output) := do
  let board ← m.getInstance
  let (s, resent) := s.checkUdpIoConnection m board
  let (s', sent) := s.heartbeatToPolicyStore m false
  return (s', resent ++ s.heartbeatToUdpIo m board ++ sent)

/-- One slot; `none` when the process is gone. -/
def step (s : RealAlarm) (m : Moment) : Option (RealAlarm × List Output) :=
  match m.event with
  | .tcpAlarm head body => some (s.onTcpAlarm qt m head body)
  | .udpIoAlarm head => some (s.onUdpIoAlarm m head)
  | .timeout => s.onTimeout m
  | .triggerReport => some (s.heartbeatToPolicyStore m true)

/-! ## Runs -/

/-- The state after a run; `none` when the process is gone. -/
def reached (s : RealAlarm) : List Moment → Option RealAlarm
  | [] => some s
  | m :: ms => do
      let (s', _) ← s.step qt m
      reached s' ms

/-- A moment and what it sends. -/
structure Turn where
  moment : Moment
  outputs : List Output

/-- The turns of a run. -/
def turns (s : RealAlarm) : List Moment → List Turn
  | [] => []
  | m :: ms =>
      match s.step qt m with
      | some (s', outputs) => ⟨m, outputs⟩ :: turns s' ms
      | none => []

def Output.isHeartbeat : Output → Bool
  | .sendToPolicyStore _ command _ => command = PsCmd.Heartbeat.code
  | _ => false

/-- A heartbeat goes to the policy store. -/
def Turn.beats (t : Turn) : Bool := t.outputs.any Output.isHeartbeat

/-- The timer fires at `due` and every two seconds after it; everything else happens in between, in
the order of time. -/
def OnTime : Nat → Nat → List Moment → Prop
  | _, _, [] => True
  | last, due, m :: ms =>
      if m.event = .timeout then
        m.currentMSecsSinceEpoch = due ∧ OnTime due (due + timerInterval) ms
      else
        last ≤ m.currentMSecsSinceEpoch ∧ m.currentMSecsSinceEpoch ≤ due ∧
          OnTime m.currentMSecsSinceEpoch due ms

/-- The policy store sets an interval. -/
def Sets (n : Nat) (e : Event) : Prop :=
  ∃ head body, e = .tcpAlarm head body ∧ head.command = PsCmd.ConfigSet.code ∧
    (qt.object body).get (utf8 "report_interval") = int n

/-- The console is registered, its cameras and the board are online, and there is no alarm.  The
interval is set to `n` only. -/
structure Healthy (n : Nat) (m : Moment) : Prop where
  registered : m.getRegistaredState = true
  cameras : m.onlineCameraCount = m.devices.length ∧ ∀ camera ∈ m.devices, camera.isOnline
  board : ∃ board, m.getInstance = some board ∧
    (m.currentMSecsSinceEpoch : Int) - board.m_heartbeatLastTime < 3000
  noAlarm : ∀ head, m.event = .udpIoAlarm head →
    head.cmd ≠ UdpCmd.kickStateNg.code ∧ head.cmd ≠ UdpCmd.boxFull.code
  interval : ∀ head body, m.event = .tcpAlarm head body → head.command = PsCmd.ConfigSet.code →
    Sets qt n m.event

/-- A healthy run behind any history at whose end the policy store sets the interval; `due` is when
the timer fires next. -/
structure HealthyRun (n : Nat) (history : List Moment) (setting : Moment) (s : RealAlarm)
    (due : Nat) (run : List Moment) : Prop where
  sets : Sets qt n setting.event
  start : reached qt constructed (history ++ [setting]) = some s
  noAlarm : s.m_kickAckStatus = STATE_NORMAL ∧ s.m_boxStatus = STATE_NORMAL
  next : setting.currentMSecsSinceEpoch ≤ due ∧
    due ≤ setting.currentMSecsSinceEpoch + timerInterval
  onTime : OnTime setting.currentMSecsSinceEpoch due run
  healthy : ∀ m ∈ run, Healthy qt n m

/-- `n` seconds, two at least, rounded up to a turn of the timer; in milliseconds. -/
def period (n : Nat) : Nat := timerInterval * ((max n 2 + 1) / 2)

/-- From a heartbeat to the next it is not more than the interval, so nothing happens later without
one; and it is not less unless one of them is forced by an event. -/
def Honours (n : Nat) (ts : List Turn) : Prop :=
  ∀ (first : Turn) (between : List Turn) (next : Turn), first :: between ++ [next] <:+: ts →
    first.beats → (∀ t ∈ between, ¬ t.beats) →
    next.moment.currentMSecsSinceEpoch ≤ first.moment.currentMSecsSinceEpoch + period n ∧
      (next.beats → first.moment.event = .timeout → next.moment.event = .timeout →
        first.moment.currentMSecsSinceEpoch + period n ≤ next.moment.currentMSecsSinceEpoch)

/-! ## One moment -/

theorem heartbeat_forced {s : RealAlarm} {m : Moment} (registered : m.getRegistaredState = true) :
    s.heartbeatToPolicyStore m true =
      ({ s with
          m_reportControlCnt := 0
          m_kickAckStatus :=
            if s.m_kickAckStatus = STATE_ABNORMAL then STATE_NORMAL else s.m_kickAckStatus },
        [.sendToPolicyStore (UInt64.ofNat m.currentMSecsSinceEpoch) PsCmd.Heartbeat.code
          (s.ackBody m)]) := by
  rw [heartbeatToPolicyStore, if_neg (not_not_intro registered)]
  exact if_pos (.inl rfl)

theorem heartbeat_regular {s : RealAlarm} {m : Moment} (registered : m.getRegistaredState = true)
    (cameras : m.onlineCameraCount = m.devices.length) (online : s.m_isUdpIoOnline = true)
    (kick : s.m_kickAckStatus = STATE_NORMAL) (box : s.m_boxStatus = STATE_NORMAL) :
    s.heartbeatToPolicyStore m false =
      if (s.m_reportInterval.toNat : Int) ≤ s.m_reportControlCnt + 1 then
        ({ s with m_reportControlCnt := 0 },
          [.sendToPolicyStore (UInt64.ofNat m.currentMSecsSinceEpoch) PsCmd.Heartbeat.code
            (s.ackBody m)])
      else ({ s with m_reportControlCnt := s.m_reportControlCnt + 1 }, []) := by
  have normal : STATE_NORMAL ≠ STATE_ABNORMAL := by decide
  have need : needReport { s with m_reportControlCnt := s.m_reportControlCnt + 1 } m =
      decide ((s.m_reportInterval.toNat : Int) ≤ s.m_reportControlCnt + 1) := by
    simp only [needReport, cameras, online, kick, box, normal, ne_eq, not_true_eq_false, false_or]
  have same : (if s.m_kickAckStatus = STATE_ABNORMAL then STATE_NORMAL else s.m_kickAckStatus) =
      s.m_kickAckStatus := if_neg (kick ▸ normal)
  rw [heartbeatToPolicyStore, if_neg (not_not_intro registered)]
  dsimp only
  rw [need, same]
  by_cases full : (s.m_reportInterval.toNat : Int) ≤ s.m_reportControlCnt + 1
  · rw [if_pos full, if_pos (.inr (decide_eq_true full))]
    rfl
  · rw [if_neg full, if_neg (by simp [full])]

/-- What is kept in a healthy run. -/
structure Running (n : Nat) (s : RealAlarm) : Prop where
  interval : s.m_reportInterval.toNat = n % 2 ^ 16
  kick : s.m_kickAckStatus = STATE_NORMAL
  box : s.m_boxStatus = STATE_NORMAL
  count : 0 ≤ s.m_reportControlCnt

/-- The counter in a healthy run, and whether a heartbeat goes out. -/
def beat (interval : Nat) (count : Int) : Event → Int × Bool
  | .timeout => if (interval : Int) ≤ count + 1 then (0, true) else (count + 1, false)
  | .triggerReport => (0, true)
  | _ => (count, false)

/-- A heartbeat clears the counter. -/
theorem beat_clears {interval : Nat} {count : Int} {e : Event}
    (sent : (beat interval count e).2 = true) : (beat interval count e).1 = 0 := by
  cases e with
  | timeout =>
      rw [beat] at sent ⊢
      split at sent
      next full => rw [if_pos full]
      next => cases sent
  | triggerReport => rfl
  | tcpAlarm head body => cases sent
  | udpIoAlarm head => cases sent

/-- Without a heartbeat the turns of the timer count, below the interval. -/
theorem beat_silent {interval : Nat} {count : Int} {e : Event}
    (silent : (beat interval count e).2 = false) :
    (e = .timeout ∧ count + 1 < interval ∧ (beat interval count e).1 = count + 1) ∨
      (e ≠ .timeout ∧ (beat interval count e).1 = count) := by
  cases e with
  | timeout =>
      left
      rw [beat] at silent ⊢
      split at silent
      next => cases silent
      next short => exact ⟨rfl, not_le.mp short, by rw [if_neg short]⟩
  | triggerReport => cases silent
  | tcpAlarm head body => exact .inr ⟨nofun, rfl⟩
  | udpIoAlarm head => exact .inr ⟨nofun, rfl⟩

@[simp] theorem toBoard_beats (m : Moment) (cmd : UInt16) (buffer : Bytes) :
    (toBoard m cmd buffer).any Output.isHeartbeat = false := by
  unfold toBoard
  split <;> rfl

@[simp] theorem respond_beats (head : PolicyInfoMsgHeader) (isSuccess : Bool) :
    (respondToPolicyStore head isSuccess).isHeartbeat = false := by
  unfold respondToPolicyStore
  split <;> rfl

/-- An interval that is set is cut to 16 bits. -/
theorem interval_of_int {n : Nat} (range : n ≤ 86400) :
    (UInt16.ofInt (toIntOr 300 (int n))).toNat = n % 2 ^ 16 := by
  have read : toIntOr 300 (int n) = n := by
    rw [int, toIntOr, Decimal.toInt?, Decimal.ofInt, if_pos ⟨rfl, by simp only; omega⟩]
    rfl
  rw [read, UInt16.ofInt, UInt16.toNat_ofNat']
  omega

/-- A message of the policy store leaves the alarms and the count. -/
theorem onTcpAlarm_running {n : Nat} {s : RealAlarm} {m : Moment} {head : PolicyInfoMsgHeader}
    {body : Bytes} (range : n ≤ 86400) (running : Running n s)
    (interval : head.command = PsCmd.ConfigSet.code → Sets qt n (.tcpAlarm head body)) :
    Running n (s.onTcpAlarm qt m head body).1 ∧
      (s.onTcpAlarm qt m head body).1.m_reportControlCnt = s.m_reportControlCnt ∧
      (s.onTcpAlarm qt m head body).2.any Output.isHeartbeat = false := by
  obtain ⟨kept, kick, box, count⟩ := running
  rw [onTcpAlarm]
  dsimp only
  split
  next config =>
      obtain ⟨_, _, same, -, value⟩ := interval config
      cases same
      refine ⟨⟨?_, kick, box, count⟩, rfl, toBoard_beats _ _ _⟩
      rw [value]
      exact interval_of_int range
  next =>
      split
      next => exact ⟨⟨kept, kick, box, count⟩, rfl, by simp⟩
      next =>
          split
          next => exact ⟨⟨kept, kick, box, count⟩, rfl, by simp⟩
          next => exact ⟨⟨kept, kick, box, count⟩, rfl, rfl⟩

/-- Without an alarm the board only clears them. -/
theorem onUdpIoAlarm_running {n : Nat} {s : RealAlarm} {m : Moment} {head : PcpUdpMsgHead}
    (running : Running n s)
    (noAlarm : head.cmd ≠ UdpCmd.kickStateNg.code ∧ head.cmd ≠ UdpCmd.boxFull.code) :
    Running n (s.onUdpIoAlarm m head).1 ∧
      (s.onUdpIoAlarm m head).1.m_reportControlCnt = s.m_reportControlCnt ∧
      (s.onUdpIoAlarm m head).2.any Output.isHeartbeat = false := by
  rw [onUdpIoAlarm, if_neg noAlarm.1, if_neg noAlarm.2]
  split
  next => exact ⟨⟨running.interval, rfl, rfl, running.count⟩, rfl, rfl⟩
  next => exact ⟨running, rfl, rfl⟩

/-- A board that is heard of is online. -/
theorem check_online {s : RealAlarm} {m : Moment} {board : PCPUdpCtrl}
    (recent : (m.currentMSecsSinceEpoch : Int) - board.m_heartbeatLastTime < 3000) :
    (s.checkUdpIoConnection m board).1 = { s with m_isUdpIoOnline := true } ∧
      (s.checkUdpIoConnection m board).2.any Output.isHeartbeat = false := by
  rw [checkUdpIoConnection, if_neg (not_le.mpr recent)]
  split
  next online =>
      refine ⟨?_, rfl⟩
      rw [← online]
  next =>
      refine ⟨rfl, ?_⟩
      dsimp only
      split
      next => exact toBoard_beats _ _ _
      next => rfl

theorem onTimeout_eq {s : RealAlarm} {m : Moment} {board : PCPUdpCtrl}
    (there : m.getInstance = some board) :
    s.onTimeout m =
      some (((s.checkUdpIoConnection m board).1.heartbeatToPolicyStore m false).1,
        (s.checkUdpIoConnection m board).2 ++
          (s.checkUdpIoConnection m board).1.heartbeatToUdpIo m board ++
          ((s.checkUdpIoConnection m board).1.heartbeatToPolicyStore m false).2) := by
  rw [onTimeout, there]
  rfl

/-- **What a moment of a healthy run does**: the counter decides. -/
theorem step_beat {n : Nat} {s : RealAlarm} {m : Moment} (range : n ≤ 86400)
    (running : Running n s) (healthy : Healthy qt n m) :
    ∃ s' outputs, s.step qt m = some (s', outputs) ∧ Running n s' ∧
      s'.m_reportControlCnt = (beat (n % 2 ^ 16) s.m_reportControlCnt m.event).1 ∧
      (⟨m, outputs⟩ : Turn).beats = (beat (n % 2 ^ 16) s.m_reportControlCnt m.event).2 := by
  obtain ⟨registered, ⟨cameras, -⟩, ⟨board, there, recent⟩, noAlarm, interval⟩ := healthy
  unfold step
  cases event : m.event with
  | tcpAlarm head body =>
      obtain ⟨kept, count, silent⟩ := onTcpAlarm_running qt (m := m) range running
        fun config => event ▸ interval head body event config
      exact ⟨(s.onTcpAlarm qt m head body).1, (s.onTcpAlarm qt m head body).2, rfl, kept, count,
        silent⟩
  | udpIoAlarm head =>
      obtain ⟨kept, count, silent⟩ := onUdpIoAlarm_running (m := m) running (noAlarm head event)
      exact ⟨(s.onUdpIoAlarm m head).1, (s.onUdpIoAlarm m head).2, rfl, kept, count, silent⟩
  | triggerReport =>
      dsimp only
      rw [heartbeat_forced registered]
      refine ⟨_, _, rfl, ⟨running.interval, ?_, running.box, le_refl _⟩, rfl, rfl⟩
      dsimp only
      rw [running.kick]
      rfl
  | timeout =>
      obtain ⟨online, silent⟩ := check_online (s := s) recent
      have turn := heartbeat_regular (s := { s with m_isUdpIoOnline := true }) registered cameras
        rfl running.kick running.box
      dsimp only at turn ⊢
      rw [onTimeout_eq there, online, turn]
      rw [running.interval]
      by_cases full : ((n % 2 ^ 16 : Nat) : Int) ≤ s.m_reportControlCnt + 1
      · rw [if_pos full, beat, if_pos full]
        refine ⟨_, _, rfl, ⟨running.interval, running.kick, running.box, le_refl _⟩, rfl, ?_⟩
        rw [Turn.beats, List.any_append]
        exact Bool.or_true _
      · rw [if_neg full, beat, if_neg full]
        have count := running.count
        refine ⟨_, _, rfl, ⟨running.interval, running.kick, running.box, ?_⟩, rfl, ?_⟩
        · dsimp only
          omega
        · rw [Turn.beats, List.append_nil, List.any_append, silent, heartbeatToUdpIo]
          exact toBoard_beats _ _ _

/-! ## The count -/

/-- The count stays below every interval there can be. -/
def Counted (s : RealAlarm) : Prop := 0 ≤ s.m_reportControlCnt ∧ s.m_reportControlCnt < 2 ^ 16

theorem heartbeat_counted {s : RealAlarm} (m : Moment) (bNeedReport : Bool) (counted : Counted s) :
    Counted (s.heartbeatToPolicyStore m bNeedReport).1 := by
  unfold heartbeatToPolicyStore
  split
  next => exact counted
  next =>
      dsimp only
      split
      next => exact ⟨le_refl 0, Int.pow_pos (by decide)⟩
      next quiet =>
          have short : ¬ (s.m_reportInterval.toNat : Int) ≤ s.m_reportControlCnt + 1 := by
            intro full
            exact quiet (.inr (by simp [needReport, full]))
          have bound := s.m_reportInterval.toNat_lt
          have count := counted.1
          constructor <;> dsimp only <;> omega

theorem step_counted {s s' : RealAlarm} {m : Moment} {outputs : List Output} (counted : Counted s)
    (step : s.step qt m = some (s', outputs)) : Counted s' := by
  unfold RealAlarm.step at step
  cases event : m.event with
  | tcpAlarm head body =>
      rw [event] at step
      have same : (s.onTcpAlarm qt m head body).1 = s' := congrArg Prod.fst (Option.some.inj step)
      have count : (s.onTcpAlarm qt m head body).1.m_reportControlCnt = s.m_reportControlCnt := by
        rw [onTcpAlarm]
        dsimp only
        split_ifs <;> rfl
      rwa [← same, Counted, count]
  | udpIoAlarm head =>
      rw [event] at step
      have same : (s.onUdpIoAlarm m head).1 = s' := congrArg Prod.fst (Option.some.inj step)
      rw [← same, onUdpIoAlarm]
      split_ifs
      · exact counted
      · exact heartbeat_counted _ _ counted
      · exact heartbeat_counted _ _ counted
      · exact counted
  | triggerReport =>
      rw [event] at step
      have same : (s.heartbeatToPolicyStore m true).1 = s' :=
        congrArg Prod.fst (Option.some.inj step)
      exact same ▸ heartbeat_counted m true counted
  | timeout =>
      rw [event] at step
      dsimp only at step
      cases there : m.getInstance with
      | none =>
          rw [onTimeout, there] at step
          cases step
      | some board =>
          rw [onTimeout_eq there] at step
          have checked : Counted (s.checkUdpIoConnection m board).1 := by
            unfold checkUdpIoConnection
            split_ifs <;> exact counted
          have same : ((s.checkUdpIoConnection m board).1.heartbeatToPolicyStore m false).1 = s' :=
            congrArg Prod.fst (Option.some.inj step)
          exact same ▸ heartbeat_counted m false checked

theorem reached_append {s s' : RealAlarm} {history : List Moment} {m : Moment}
    (start : reached qt s (history ++ [m]) = some s') :
    ∃ before outputs, reached qt s history = some before ∧
      before.step qt m = some (s', outputs) := by
  induction history generalizing s with
  | nil =>
      obtain ⟨⟨after, outputs⟩, step, same⟩ := Option.bind_eq_some_iff.mp start
      cases same
      exact ⟨s, outputs, rfl, step⟩
  | cons m' history ih =>
      obtain ⟨⟨after, outputs⟩, step, rest⟩ := Option.bind_eq_some_iff.mp start
      obtain ⟨before, sent, way, last⟩ := ih rest
      exact ⟨before, sent, Option.bind_eq_some_iff.mpr ⟨_, step, way⟩, last⟩

/-- The counter never gets beyond 16 bits. -/
theorem reached_count {s s' : RealAlarm} {history : List Moment} (counted : Counted s)
    (start : reached qt s history = some s') : Counted s' := by
  induction history generalizing s with
  | nil =>
      cases start
      exact counted
  | cons m history ih =>
      obtain ⟨⟨after, outputs⟩, step, rest⟩ := Option.bind_eq_some_iff.mp start
      exact ih (step_counted qt counted step) rest

/-! ## A healthy run -/

/-- A healthy run goes on from a state; the timer fires next at `due`. -/
structure Going (n : Nat) (s : RealAlarm) (last due : Nat) (run : List Moment) : Prop where
  running : Running n s
  next : last ≤ due ∧ due ≤ last + timerInterval
  onTime : OnTime last due run
  healthy : ∀ m ∈ run, Healthy qt n m

/-- When the timer fires behind an event. -/
def dueAfter (due : Nat) (e : Event) : Nat := if e = .timeout then due + timerInterval else due

/-- The timer is never more than one turn away. -/
theorem onTime_cons {last due : Nat} {m : Moment} {ms : List Moment}
    (next : due ≤ last + timerInterval) (onTime : OnTime last due (m :: ms)) :
    OnTime m.currentMSecsSinceEpoch (dueAfter due m.event) ms ∧
      (m.currentMSecsSinceEpoch ≤ dueAfter due m.event ∧
        dueAfter due m.event ≤ m.currentMSecsSinceEpoch + timerInterval) ∧
      m.currentMSecsSinceEpoch ≤ due ∧ (m.event = .timeout → m.currentMSecsSinceEpoch = due) := by
  unfold OnTime at onTime
  unfold dueAfter
  by_cases fires : m.event = .timeout
  · rw [if_pos fires] at onTime ⊢
    obtain ⟨now, rest⟩ := onTime
    rw [now]
    exact ⟨rest, ⟨Nat.le_add_right _ _, le_refl _⟩, le_refl _, fun _ => rfl⟩
  · rw [if_neg fires] at onTime ⊢
    obtain ⟨later, before, rest⟩ := onTime
    exact ⟨rest, ⟨before, by omega⟩, before, fun timeout => absurd timeout fires⟩

variable {qt}

/-- One turn of it. -/
theorem going_cons {n : Nat} {s : RealAlarm} {last due : Nat} {m : Moment} {ms : List Moment}
    (range : n ≤ 86400) (going : Going qt n s last due (m :: ms)) :
    ∃ s' outputs, turns qt s (m :: ms) = ⟨m, outputs⟩ :: turns qt s' ms ∧
      Going qt n s' m.currentMSecsSinceEpoch (dueAfter due m.event) ms ∧
      (m.currentMSecsSinceEpoch ≤ due ∧ (m.event = .timeout → m.currentMSecsSinceEpoch = due)) ∧
      s'.m_reportControlCnt = (beat (n % 2 ^ 16) s.m_reportControlCnt m.event).1 ∧
      (⟨m, outputs⟩ : Turn).beats = (beat (n % 2 ^ 16) s.m_reportControlCnt m.event).2 := by
  obtain ⟨s', outputs, step, running, count, beats⟩ :=
    step_beat qt range going.running (going.healthy m List.mem_cons_self)
  obtain ⟨rest, next, meets⟩ := onTime_cons going.next.2 going.onTime
  have healthy : ∀ m' ∈ ms, Healthy qt n m' := fun m' there =>
    going.healthy m' (List.mem_cons_of_mem _ there)
  refine ⟨s', outputs, ?_, ⟨running, next, rest, healthy⟩, meets, count, beats⟩
  rw [turns, step]

/-- What is left of it behind some turns. -/
theorem going_behind {n : Nat} {s : RealAlarm} {last due : Nat} {run : List Moment}
    {before later : List Turn} (range : n ≤ 86400) (going : Going qt n s last due run)
    (split : turns qt s run = before ++ later) :
    ∃ s' last' due' run', Going qt n s' last' due' run' ∧ turns qt s' run' = later := by
  induction before generalizing s last due run with
  | nil => exact ⟨s, last, due, run, going, split⟩
  | cons t before ih =>
      cases run with
      | nil => cases split
      | cons m ms =>
          obtain ⟨s', outputs, turn, going', -⟩ := going_cons range going
          rw [turn] at split
          exact ih going' (List.cons.inj split).2

/-- **From a moment to the next heartbeat**: the turns of the timer in between count, and there are
fewer than the interval. -/
theorem until_next {n : Nat} {s : RealAlarm} {last due : Nat} {run : List Moment}
    {between after : List Turn} {next : Turn} (range : n ≤ 86400)
    (going : Going qt n s last due run) (split : turns qt s run = between ++ next :: after)
    (silent : ∀ t ∈ between, ¬ t.beats) :
    ∃ fired : Nat,
      next.moment.currentMSecsSinceEpoch ≤ due + timerInterval * fired ∧
      (next.moment.event = .timeout →
        next.moment.currentMSecsSinceEpoch = due + timerInterval * fired) ∧
      (fired = 0 ∨ s.m_reportControlCnt + fired < (n % 2 ^ 16 : Nat)) ∧
      (next.beats → next.moment.event = .timeout →
        ((n % 2 ^ 16 : Nat) : Int) ≤ s.m_reportControlCnt + fired + 1) := by
  induction between generalizing s last due run with
  | nil =>
      cases run with
      | nil => cases split
      | cons m ms =>
          obtain ⟨s', outputs, turn, -, ⟨before, exact'⟩, -, beats⟩ := going_cons range going
          rw [turn] at split
          obtain ⟨rfl, -⟩ := List.cons.inj split
          refine ⟨0, by rwa [Nat.mul_zero, Nat.add_zero],
            fun timeout => by rw [Nat.mul_zero, Nat.add_zero, exact' timeout], .inl rfl, ?_⟩
          intro sent timeout
          rw [beats, timeout, beat] at sent
          by_contra short
          rw [if_neg (by simpa using short)] at sent
          cases sent
  | cons t between ih =>
      cases run with
      | nil => cases split
      | cons m ms =>
          obtain ⟨s', outputs, turn, going', -, count, beats⟩ := going_cons range going
          rw [turn] at split
          obtain ⟨rfl, rest⟩ := List.cons.inj split
          have quiet := silent _ List.mem_cons_self
          rw [beats, Bool.not_eq_true] at quiet
          obtain ⟨fired, bound, exact', few, many⟩ :=
            ih going' rest fun t there => silent t (List.mem_cons_of_mem _ there)
          rw [count] at few many
          unfold dueAfter at bound exact'
          rcases beat_silent quiet with ⟨fires, short, counted⟩ | ⟨other, counted⟩
          · rw [if_pos fires] at bound exact'
            rw [counted] at few many
            refine ⟨fired + 1, ?_, fun timeout => ?_, .inr (by omega), fun sent timeout => ?_⟩
            · rw [Nat.mul_add]
              omega
            · rw [exact' timeout, Nat.mul_add]
              omega
            · have enough := many sent timeout
              omega
          · rw [if_neg other] at bound exact'
            rw [counted] at few many
            exact ⟨fired, bound, exact', few, many⟩

/-- What the setting leaves. -/
theorem HealthyRun.going {n : Nat} {history : List Moment} {setting : Moment} {s : RealAlarm}
    {due : Nat} {run : List Moment} (range : n ≤ 86400)
    (whole : HealthyRun qt n history setting s due run) :
    Going qt n s setting.currentMSecsSinceEpoch due run := by
  obtain ⟨sets, start, ⟨kick, box⟩, next, onTime, healthy⟩ := whole
  have counted : Counted constructed := ⟨le_refl 0, Int.pow_pos (by decide)⟩
  have count := (reached_count qt counted start).1
  refine ⟨⟨?_, kick, box, count⟩, next, onTime, healthy⟩
  obtain ⟨before, outputs, -, step⟩ := reached_append qt start
  obtain ⟨head, body, event, config, value⟩ := sets
  rw [RealAlarm.step, event] at step
  have same : (before.onTcpAlarm qt setting head body).1 = s :=
    congrArg Prod.fst (Option.some.inj step)
  rw [← same, onTcpAlarm, if_pos config]
  dsimp only
  rw [value]
  exact interval_of_int range

/-- **Heartbeats of a healthy run** are at most `n mod 2^16` turns of the timer apart, or one turn if
that is nothing; those that no event forces are exactly that far apart. -/
theorem heartbeats_apart {n : Nat} {history : List Moment} {setting : Moment} {s : RealAlarm}
    {due : Nat} {run : List Moment} {first next : Turn} {between : List Turn} (range : n ≤ 86400)
    (whole : HealthyRun qt n history setting s due run)
    (part : first :: between ++ [next] <:+: turns qt s run) (sent : first.beats)
    (silent : ∀ t ∈ between, ¬ t.beats) :
    next.moment.currentMSecsSinceEpoch ≤
        first.moment.currentMSecsSinceEpoch + timerInterval * max 1 (n % 2 ^ 16) ∧
      (next.beats → first.moment.event = .timeout → next.moment.event = .timeout →
        next.moment.currentMSecsSinceEpoch =
          first.moment.currentMSecsSinceEpoch + timerInterval * max 1 (n % 2 ^ 16)) := by
  obtain ⟨before, after, split⟩ := part
  have split' : turns qt s run = before ++ (first :: (between ++ next :: after)) := by
    rw [← split]
    simp
  obtain ⟨s', last', due', run', going, later⟩ := going_behind range (whole.going range) split'
  cases run' with
  | nil => cases later
  | cons m ms =>
      obtain ⟨s'', outputs, turn, going', ⟨-, exact'⟩, count, beats⟩ := going_cons range going
      rw [turn] at later
      obtain ⟨rfl, rest⟩ := List.cons.inj later
      have clear : s''.m_reportControlCnt = 0 := count.trans (beat_clears (beats ▸ sent))
      obtain ⟨fired, bound, meets, few, many⟩ := until_next range going' rest silent
      rw [clear] at few many
      have soon := going'.next.2
      have turns : fired + 1 ≤ max 1 (n % 2 ^ 16) := by omega
      constructor
      · have time := Nat.mul_le_mul_left timerInterval turns
        rw [Nat.mul_add, Nat.mul_one] at time
        dsimp only
        omega
      · intro sent' timeout timeout'
        have enough := many sent' timeout'
        have whole' : max 1 (n % 2 ^ 16) = fired + 1 := by omega
        have now : m.currentMSecsSinceEpoch = due' := exact' timeout
        rw [meets timeout', whole', dueAfter, if_pos timeout, Nat.mul_add, Nat.mul_one]
        dsimp only
        omega

/-! ## The timer alone -/

/-- The timer fires while everything is well. -/
def tick (now : Nat) : Moment :=
  { event := .timeout
    currentMSecsSinceEpoch := now
    getRegistaredState := true
    onlineCameraCount := 1
    devices := [{ id := 1, isSpotCamera := false, isOnline := true }]
    enabled := true
    getInstance := some
      { m_enabled := true, m_kickAbnormalEnable := false, connected := true,
        m_heartbeatLastTime := now, m_kickCount := 0, m_pcpVersionInfoList := [] } }

theorem tick_event (now : Nat) : (tick now).event = .timeout := rfl

/-- It fires `count` times. -/
def ticks (due : Nat) : Nat → List Moment
  | 0 => []
  | count + 1 => tick due :: ticks (due + timerInterval) count

theorem tick_healthy (n now : Nat) : Healthy qt n (tick now) where
  registered := rfl
  cameras := ⟨rfl, by simp [tick]⟩
  board := ⟨_, rfl, by simp [tick]⟩
  noAlarm := fun _ this => by cases this
  interval := fun _ _ this => by cases this

theorem ticks_healthy (n due count : Nat) : ∀ m ∈ ticks due count, Healthy qt n m := by
  induction count generalizing due with
  | zero => exact fun m this => by cases this
  | succ count ih =>
      intro m here
      rcases List.mem_cons.mp here with rfl | later
      · exact tick_healthy n due
      · exact ih _ m later

theorem ticks_onTime (last due count : Nat) : OnTime last due (ticks due count) := by
  induction count generalizing last due with
  | zero => trivial
  | succ count ih =>
      rw [ticks, OnTime, if_pos (tick_event due)]
      exact ⟨rfl, ih due _⟩

/-- Below the interval the turns of the timer count on. -/
theorem ticks_silent {n : Nat} {s : RealAlarm} {last due count more : Nat} (range : n ≤ 86400)
    (going : Going qt n s last due (ticks due (count + more)))
    (short : s.m_reportControlCnt + count < (n % 2 ^ 16 : Nat) ∨ count = 0) :
    ∃ s' last' quiet, turns qt s (ticks due (count + more)) =
        quiet ++ turns qt s' (ticks (due + timerInterval * count) more) ∧
      (∀ t ∈ quiet, ¬ t.beats) ∧
      Going qt n s' last' (due + timerInterval * count) (ticks (due + timerInterval * count) more) ∧
      s'.m_reportControlCnt = s.m_reportControlCnt + count := by
  induction count generalizing s last due with
  | zero =>
      rw [Nat.zero_add] at going ⊢
      exact ⟨s, last, [], by simp, by simp, by simpa using going, by simp⟩
  | succ count ih =>
      rw [Nat.succ_add] at going ⊢
      have few := short.resolve_right (Nat.succ_ne_zero count)
      obtain ⟨s', outputs, turn, going', -, next, beats⟩ := going_cons range going
      have below : ¬ ((n % 2 ^ 16 : Nat) : Int) ≤ s.m_reportControlCnt + 1 := by omega
      rw [tick_event, beat, if_neg below] at next beats
      dsimp only at next beats
      have due' : dueAfter due (tick due).event = due + timerInterval := if_pos (tick_event due)
      rw [due'] at going'
      obtain ⟨s'', last'', quiet, rest, silent, going'', next'⟩ := ih going' (by omega)
      have place : due + timerInterval + timerInterval * count =
          due + timerInterval * (count + 1) := by
        rw [Nat.mul_add]
        omega
      rw [place] at rest going''
      refine ⟨s'', last'', ⟨tick due, outputs⟩ :: quiet, ?_, ?_, going'', by omega⟩
      · rw [ticks, turn, rest]
        rfl
      · intro t here
        rcases List.mem_cons.mp here with rfl | later
        · rw [beats]
          decide
        · exact silent t later

/-- From the cleared counter to the next heartbeat. -/
theorem ticks_round {n : Nat} {s : RealAlarm} {last due more : Nat} (range : n ≤ 86400)
    (going : Going qt n s last due (ticks due (max 1 (n % 2 ^ 16) + more)))
    (clear : s.m_reportControlCnt = 0) :
    ∃ s' last' due' quiet t, turns qt s (ticks due (max 1 (n % 2 ^ 16) + more)) =
        quiet ++ t :: turns qt s' (ticks due' more) ∧
      (∀ t ∈ quiet, ¬ t.beats) ∧ t.beats ∧ t.moment.event = .timeout ∧
      Going qt n s' last' due' (ticks due' more) ∧ s'.m_reportControlCnt = 0 := by
  obtain ⟨count, whole⟩ : ∃ count, max 1 (n % 2 ^ 16) = count + 1 :=
    ⟨max 1 (n % 2 ^ 16) - 1, by omega⟩
  rw [whole, Nat.add_assoc] at going ⊢
  obtain ⟨s', last', quiet, split, silent, going', next⟩ := ticks_silent range going (by omega)
  rw [Nat.add_comm 1 more] at going' split
  obtain ⟨s'', outputs, turn, going'', -, next', beats⟩ := going_cons range going'
  have full : ((n % 2 ^ 16 : Nat) : Int) ≤ s'.m_reportControlCnt + 1 := by omega
  rw [tick_event, beat, if_pos full] at next' beats
  have due' : dueAfter (due + timerInterval * count) (tick (due + timerInterval * count)).event =
      due + timerInterval * count + timerInterval := if_pos (tick_event _)
  rw [due'] at going''
  rw [Nat.add_comm 1 more, split, ticks, turn]
  exact ⟨s'', _, _, quiet, _, rfl, silent, beats, rfl, going'', next'⟩

/-! ## The interval -/

/-- The policy store sets the interval on a console that has just started. -/
def configSet (qt : QtJson) (n : Nat) : Moment :=
  { tick 0 with
    event := .tcpAlarm
      { tranId := 1, timeStamp := 0, processId := 0, processType := 0,
        command := PsCmd.ConfigSet.code, version := VERSION, len := 0 }
      (qt.toJson .Compact (.object [(utf8 "report_interval", int n)])) }

variable (qt)

theorem configSet_sets {n : Nat} (range : n ≤ 86400) : Sets qt n (configSet qt n).event := by
  have holds : qt.Holds (.objectOf [(utf8 "report_interval", int n)]) :=
    isHeld_objectOf _ (List.forall_mem_singleton.mpr (qt.holds_int (by omega) (by omega)))
  have read : qt.object (qt.toJson .Compact (.object [(utf8 "report_interval", int n)])) =
      [(utf8 "report_interval", int n)] := qt.object_of_holds .Compact holds
  refine ⟨_, _, rfl, rfl, ?_⟩
  rw [read]
  simp [JsonObject.get, JsonObject.value]

/-- Then the timer fires twice the interval, and nothing else happens. -/
theorem ticks_run {n : Nat} (range : n ≤ 86400) :
    ∃ s, HealthyRun qt n [] (configSet qt n) s timerInterval
      (ticks timerInterval (max 1 (n % 2 ^ 16) + max 1 (n % 2 ^ 16))) ∧
      s.m_reportControlCnt = 0 := by
  obtain ⟨head, body, event, config, value⟩ := configSet_sets qt range
  refine ⟨(constructed.onTcpAlarm qt (configSet qt n) head body).1,
    ⟨configSet_sets qt range, ?_, ?_, ⟨Nat.zero_le _, ?_⟩, ticks_onTime _ _ _, ticks_healthy n _ _⟩, ?_⟩
  · rw [List.nil_append, reached, RealAlarm.step, event]
    rfl
  · rw [onTcpAlarm, if_pos config]
    exact ⟨rfl, rfl⟩
  · exact Nat.le_add_left _ _
  · rw [onTcpAlarm, if_pos config]
    rfl

/-- There are always heartbeats that nothing forces. -/
theorem exists_apart {n : Nat} (range : n ≤ 86400) :
    ∃ (s : RealAlarm) (first : Turn) (between : List Turn) (next : Turn),
      HealthyRun qt n [] (configSet qt n) s timerInterval
        (ticks timerInterval (max 1 (n % 2 ^ 16) + max 1 (n % 2 ^ 16))) ∧
      first :: between ++ [next] <:+: turns qt s
        (ticks timerInterval (max 1 (n % 2 ^ 16) + max 1 (n % 2 ^ 16))) ∧
      first.beats ∧ next.beats ∧ (∀ t ∈ between, ¬ t.beats) ∧
      first.moment.event = .timeout ∧ next.moment.event = .timeout := by
  obtain ⟨s, whole, clear⟩ := ticks_run qt range
  obtain ⟨s', last', due', quiet, first, split, -, sent, timeout, going', clear'⟩ :=
    ticks_round range (whole.going range) clear
  rw [← Nat.add_zero (max 1 (n % 2 ^ 16))] at going'
  obtain ⟨s'', -, due'', between, next, split', silent, sent', timeout', -⟩ :=
    ticks_round range going' clear'
  rw [Nat.add_zero] at split'
  refine ⟨s, first, between, next, whole, ⟨quiet, [], ?_⟩, sent, sent', silent, timeout, timeout'⟩
  rw [split, split']
  simp [ticks, turns]

/-- Where the interval is honoured it is what the counter makes of it. -/
theorem honours_period {n : Nat} (range : n ≤ 86400)
    (honours : ∀ history setting s due run, HealthyRun qt n history setting s due run →
      Honours n (turns qt s run)) :
    period n = timerInterval * max 1 (n % 2 ^ 16) := by
  obtain ⟨s, first, between, next, whole, part, sent, sent', silent, timeout, timeout'⟩ :=
    exists_apart qt range
  obtain ⟨above, below⟩ := honours _ _ _ _ _ whole first between next part sent silent
  have far := (heartbeats_apart range whole part sent silent).2 sent' timeout timeout'
  have near := below sent' timeout timeout'
  omega

/-- **The interval is honoured only when it is one second.**  Longer ones last twice as long, and
from `2^16` seconds on they are cut. -/
theorem honours_iff {n : Nat} (range : 1 ≤ n ∧ n ≤ 86400) :
    (∀ history setting s due run, HealthyRun qt n history setting s due run →
      Honours n (turns qt s run)) ↔ n = 1 := by
  constructor
  · intro honours
    have same := honours_period qt range.2 honours
    have turns : (max n 2 + 1) / 2 = max 1 (n % 2 ^ 16) :=
      Nat.eq_of_mul_eq_mul_left (by decide) same
    omega
  · rintro rfl history setting s due run whole first between next part sent silent
    obtain ⟨bound, far⟩ := heartbeats_apart range.2 whole part sent silent
    exact ⟨bound, fun sent' timeout timeout' => (far sent' timeout timeout').ge⟩

/-- Where the counter makes more of it, these ticks show it. -/
theorem exists_dishonoured {n : Nat} (range : n ≤ 86400)
    (longer : period n < timerInterval * max 1 (n % 2 ^ 16)) :
    ∃ s, HealthyRun qt n [] (configSet qt n) s timerInterval
        (ticks timerInterval (max 1 (n % 2 ^ 16) + max 1 (n % 2 ^ 16))) ∧
      ¬ Honours n (turns qt s (ticks timerInterval (max 1 (n % 2 ^ 16) + max 1 (n % 2 ^ 16)))) := by
  obtain ⟨s, first, between, next, whole, part, sent, sent', silent, timeout, timeout'⟩ :=
    exists_apart qt range
  refine ⟨s, whole, fun honours => ?_⟩
  have far := (heartbeats_apart range whole part sent silent).2 sent' timeout timeout'
  have near := (honours first between next part sent silent).1
  omega

/-- Two ticks of a second are honoured; an interval of a minute is not. -/
theorem honours_iff_runs :
    (∃ s, HealthyRun QtJson.reference 1 [] (configSet QtJson.reference 1) s timerInterval
        (ticks timerInterval 2) ∧
      Honours 1 (turns QtJson.reference s (ticks timerInterval 2))) ∧
    ∃ s, HealthyRun QtJson.reference 60 [] (configSet QtJson.reference 60) s timerInterval
        (ticks timerInterval 120) ∧
      ¬ Honours 60 (turns QtJson.reference s (ticks timerInterval 120)) := by
  have range : 1 ≤ 86400 := by decide
  obtain ⟨s, whole, -⟩ := ticks_run QtJson.reference range
  exact ⟨⟨s, whole, (honours_iff QtJson.reference ⟨le_rfl, range⟩).mpr rfl _ _ _ _ _ whole⟩,
    exists_dishonoured QtJson.reference (by decide) (by decide)⟩

/-- The interval of five minutes, set on a console that has just started, lasts ten. -/
theorem fiveMinutes_dishonoured :
    ∃ s, HealthyRun QtJson.reference 300 [] (configSet QtJson.reference 300) s timerInterval
        (ticks timerInterval 600) ∧
      ¬ Honours 300 (turns QtJson.reference s (ticks timerInterval 600)) :=
  exists_dishonoured QtJson.reference (by decide) (by decide)

end RealAlarm

end IsgConsole.IopAgent
