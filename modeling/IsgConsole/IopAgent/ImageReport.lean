/-
# IopAgent.ImageReport — pictures on their way to the policy store

`TcpImageReport` lives in a thread of its own, with a connection that it makes again whenever it is
lost.  The multiplers and the camera of the box product report pictures from their threads: a caller
looks at the connection, at what the store asked for and at the number of reports that wait, counts
its own and queues it.  The reporter takes the reports one by one and looks again.

A caller is between two of its steps while others run (`Admission`), and so is the client while it
hands over the media server, statement by statement.  The reads of one comparison are one step, and so
are those of one attempt to connect.

* `queued_exact` — the reports that wait are counted, and bounded by the callers;
* `step_invariant` — what each event leaves of the connection and of what the store asked for;
* `reports_exact` — **each report is taken once, in order, and sent as the store asked last, while
  the connection is up**;
* `offline_reconnects` — **an established reporter that is offline is about to connect.**
-/
import IsgConsole.IopAgent.PolicyStream
import IsgConsole.IopAgent.TcpConnection
import IsgConsole.Theory.Admission
import IsgConsole.Theory.Simulation

namespace IsgConsole.IopAgent

open IsgConsole.Theory IsgConsole.BaseLib IsgConsole.Inspector IsgConsole.Theory.Json

set_option autoImplicit false

/-! ## The reporter -/

/-- `MAX_IMG_REPORT_QUEUE_SIZE`. -/
def MAX_IMG_REPORT_QUEUE_SIZE : Int := 10

/-- A queued call: `sendImageResultToPolicyStoreAsync` or `sendImageDataToPolicyStoreAsync`. -/
inductive Report where
  | imageResult (imageRecord : ImageResultRecord)
  | imageData (picture : ImageData)
  deriving DecidableEq

/-- What a queued call sends, by what it reads when it runs. -/
def Report.sending (now : UInt64) (m_mediaReportType : Int) (connectedState : Bool) :
    Report → Sending
  | .imageResult imageRecord =>
      .sendImageResultToPolicyStoreAsync now m_mediaReportType connectedState imageRecord
  | .imageData picture => .sendImageDataToPolicyStoreAsync now connectedState picture

/-- `TcpImageReport`, with the calls that are queued for its thread; `ι` are the threads that call
it. -/
structure TcpImageReport (ι : Type) where
  m_hostName : Bytes
  m_hostPort : UInt16
  m_socket : SocketState
  /-- `m_timer` runs; and its interval. -/
  m_timer : Bool
  interval : Nat
  m_isOnline : Bool
  m_mediaReportType : Int
  m_createReportMsgTransId : UInt64
  m_bCleaned : Bool
  /-- Queued calls of `m_timer->start()`. -/
  starts : Nat
  /-- `s_reportQueuedCount`, the queued reports and the callers. -/
  reports : Admission.State ι Report

namespace TcpImageReport

variable {ι : Type}

inductive Output where
  | connectToHost (hostName : Bytes) (hostPort : UInt16)
  | sendMessage (message : Message)
  | queue (output : Admission.Output Report)
  deriving DecidableEq

/-- `TcpImageReport` as it is constructed; nothing sets `m_createReportMsgTransId`. -/
def constructed (ι : Type) (m_createReportMsgTransId : UInt64) : TcpImageReport ι :=
  { m_hostName := [], m_hostPort := 0, m_socket := .UnconnectedState, m_timer := false,
    interval := 1000, m_isOnline := false, m_mediaReportType := IMAGE_REPORT_NULL,
    m_createReportMsgTransId := m_createReportMsgTransId, m_bCleaned := false, starts := 0,
    reports := Admission.start ι Report }

/-- `TcpImageReport::onTimeout`. -/
def onTimeout (s : TcpImageReport ι) : TcpImageReport ι × List Output :=
  if ¬ s.m_isOnline then
    ({ s with m_socket := s.m_socket.connectToHost, interval := 5000, m_timer := true },
      [.connectToHost s.m_hostName s.m_hostPort])
  else (s, [])

/-- `TcpImageReport::onDisconnected`, which also answers `error`. -/
def onDisconnected (s : TcpImageReport ι) : TcpImageReport ι :=
  let s := { s with m_isOnline := false }
  if ¬ s.m_bCleaned then
    { s with m_socket := s.m_socket.disconnectFromHost, m_timer := true }
  else s

/-- The condition of `sendImageResultToPolicyStore` and of `sendImageDataToPolicyStore` in front of
the comparison of the count. -/
def mayReport (s : TcpImageReport ι) : Report → Bool
  | .imageResult imageRecord =>
      s.m_isOnline ∧
        ¬ (s.m_mediaReportType < IMAGE_REPORT_ORIGINAL ∨ IMAGE_REPORT_BOTH < s.m_mediaReportType) ∧
        (imageRecord.imageData.bReportOrignal ∨ imageRecord.imageData.bReportBinning)
  | .imageData _ => s.m_isOnline

section Step

variable (qt : QtJson) (scaled : QImage → Int → Int → QImage)

/-- A message goes out through `m_stream`. -/
def sent (c : Sending) : List Output := (c.written qt scaled).toList.map .sendMessage

/-- `TcpImageReport::onConnected`; `sendCreateImageReport` keeps its transaction. -/
def onConnected (s : TcpImageReport ι) (now : UInt64) : TcpImageReport ι × List Output :=
  ({ s with m_isOnline := true, m_createReportMsgTransId := now },
    sent qt scaled (.sendCreateImageReport now))

/-- The body of the answer to `PsCmd_ImageReportMediaType`. -/
def mediaTypeAck : JsonObject :=
  JsonObject.ofInserts [(utf8 "code", int CTRL_SUCCESS), (utf8 "message", .string (utf8 "Success"))]

/-- `TcpImageReport::onMessageCTRL`. -/
def onMessageCTRL (s : TcpImageReport ι) (now : UInt64) (head : PolicyInfoMsgHeader)
    (body : Bytes) : TcpImageReport ι × List Output :=
  let mediaType := ((qt.object body).get (utf8 "mediaType")).toInt
  if head.command = PsCmd.ACK.code then
    if s.m_createReportMsgTransId = head.tranId then
      ({ s with m_mediaReportType := mediaType }, [])
    else (s, [])
  else if head.command = PsCmd.ImageReportMediaType.code then
    ({ s with m_mediaReportType := mediaType }, sent qt scaled (.sendResponse now head mediaTypeAck))
  else (s, [])

/-! ## Events -/

/-- What a thread does next.  `now` is the clock. -/
inductive Event (ι : Type) where
  /-- The client stores the host; the port; and queues `m_timer->start()`. -/
  | hostName (hostName : Bytes)
  | hostPort (hostPort : UInt16)
  | invokeStart
  /-- A queued `m_timer->start()` runs. -/
  | started
  | timeout
  | connected (now : UInt64)
  | disconnected
  | error
  | messageCTRL (now : UInt64) (head : PolicyInfoMsgHeader) (body : Bytes)
  /-- A caller compares; counts; queues. -/
  | report (i : ι) (r : Report)
  | count (i : ι)
  | post (i : ι)
  /-- The next queued report runs. -/
  | sendAsync (now : UInt64)

/-- `TcpImageReport::establisthTcpReport`, which the client's thread runs. -/
def establisthTcpReport (hostName : Bytes) (hostPort : UInt16) : List (Event ι) :=
  [.hostName hostName, .hostPort hostPort, .invokeStart]

variable [DecidableEq ι]

/-- The queue takes a step. -/
def queueStep (s : TcpImageReport ι) (e : Admission.Event ι Report) :
    TcpImageReport ι × List Output :=
  let (reports, outputs) := Admission.step MAX_IMG_REPORT_QUEUE_SIZE s.reports e
  ({ s with reports := reports }, outputs.map .queue)

/-- The next queued report: it is uncounted, and sent if the store wants it and can be reached. -/
def sendAsync (s : TcpImageReport ι) (now : UInt64) : TcpImageReport ι × List Output :=
  let (s, taken) := s.queueStep .serve
  (s, taken ++ taken.flatMap fun
    | .queue (.served r) =>
        sent qt scaled (r.sending now s.m_mediaReportType (s.m_socket = .ConnectedState))
    | _ => [])

/-- One step of a thread.  What the socket or the timer does not report in a state changes
nothing. -/
def step (s : TcpImageReport ι) : Event ι → TcpImageReport ι × List Output
  | .hostName hostName => ({ s with m_hostName := hostName }, [])
  | .hostPort hostPort => ({ s with m_hostPort := hostPort }, [])
  | .invokeStart => ({ s with starts := s.starts + 1 }, [])
  | .started =>
      if 0 < s.starts then ({ s with starts := s.starts - 1, m_timer := true }, []) else (s, [])
  | .timeout => if s.m_timer then { s with m_timer := false }.onTimeout else (s, [])
  | .connected now =>
      if s.m_socket = .ConnectingState then
        { s with m_socket := .ConnectedState }.onConnected qt scaled now
      else (s, [])
  | .disconnected =>
      if s.m_socket = .ConnectedState ∨ s.m_socket = .ClosingState then
        ({ s with m_socket := .UnconnectedState }.onDisconnected, [])
      else (s, [])
  | .error => ({ s with m_socket := s.m_socket.failed }.onDisconnected, [])
  | .messageCTRL now head body =>
      if s.m_socket = .ConnectedState then s.onMessageCTRL qt scaled now head body else (s, [])
  | .report i r => if s.mayReport r then s.queueStep (.call i r) else (s, [])
  | .count i => s.queueStep (.count i)
  | .post i => s.queueStep (.post i)
  | .sendAsync now => s.sendAsync qt scaled now

end Step

/-! ## The queue -/

section Queue

variable [DecidableEq ι]

/-- What a step is for the queue. -/
def queueEvents (s : TcpImageReport ι) : Event ι → List (Admission.Event ι Report)
  | .report i r => if s.mayReport r then [.call i r] else []
  | .count i => [.count i]
  | .post i => [.post i]
  | .sendAsync _ => [.serve]
  | _ => []

def Output.queue? : Output → Option (Admission.Output Report)
  | .queue output => some output
  | _ => none

variable (qt : QtJson) (scaled : QImage → Int → Int → QImage)

@[simp] theorem queue?_sent (c : Sending) : (sent qt scaled c).filterMap Output.queue? = [] := by
  simp [sent, List.filterMap_eq_nil_iff, Output.queue?]

theorem queue?_map (outputs : List (Admission.Output Report)) :
    (outputs.map Output.queue).filterMap Output.queue? = outputs := by
  simp [List.filterMap_map, Function.comp_def, Output.queue?]

/-- What a step of the queue is. -/
theorem queueStep_eq (s : TcpImageReport ι) (e : Admission.Event ι Report) :
    s.queueStep e =
      ({ s with reports := (Admission.step MAX_IMG_REPORT_QUEUE_SIZE s.reports e).1 },
        (Admission.step MAX_IMG_REPORT_QUEUE_SIZE s.reports e).2.map .queue) := rfl

/-- A queued report runs, or there is none. -/
theorem sendAsync_cases (s : TcpImageReport ι) (now : UInt64) :
    (s.reports.queue = [] ∧ s.sendAsync qt scaled now = (s, [])) ∨
    ∃ r rest, s.reports.queue = r :: rest ∧
      s.sendAsync qt scaled now =
        ({ s with reports := { s.reports with count := s.reports.count - 1, queue := rest } },
          .queue (.served r) ::
            sent qt scaled (r.sending now s.m_mediaReportType (s.m_socket = .ConnectedState))) := by
  cases waiting : s.reports.queue with
  | nil => exact .inl ⟨rfl, by simp [sendAsync, queueStep_eq, Admission.step, waiting]⟩
  | cons r rest =>
      exact .inr ⟨r, rest, rfl, by simp [sendAsync, queueStep_eq, Admission.step, waiting]⟩

theorem queueStep_queue (s : TcpImageReport ι) (e : Admission.Event ι Report) :
    (s.queueStep e).1.reports =
        Machine.final (Admission.step MAX_IMG_REPORT_QUEUE_SIZE) s.reports [e] ∧
      (s.queueStep e).2.filterMap Output.queue? =
        Machine.outputs (Admission.step MAX_IMG_REPORT_QUEUE_SIZE) s.reports [e] := by
  have one : Machine.outputs (Admission.step MAX_IMG_REPORT_QUEUE_SIZE) s.reports [e] =
      (Admission.step MAX_IMG_REPORT_QUEUE_SIZE s.reports e).2 := Machine.outputs_snoc _ _ [] e
  rw [queueStep_eq, one]
  exact ⟨rfl, queue?_map _⟩

/-- An event that a reporter in this state does not act on. -/
def Ignored (s : TcpImageReport ι) : Event ι → Prop
  | .started => s.starts = 0
  | .timeout => s.m_timer = false
  | .connected _ => s.m_socket ≠ .ConnectingState
  | .disconnected => s.m_socket ≠ .ConnectedState ∧ s.m_socket ≠ .ClosingState
  | .messageCTRL _ head _ =>
      ¬ (s.m_socket = .ConnectedState ∧
        (head.command = PsCmd.ACK.code ∧ s.m_createReportMsgTransId = head.tranId ∨
          head.command = PsCmd.ImageReportMediaType.code))
  | .report _ r => s.mayReport r = false
  | .sendAsync _ => s.reports.queue = []
  | _ => False

/-- What an event does that is not ignored. -/
inductive Moves (s : TcpImageReport ι) : Event ι → TcpImageReport ι × List Output → Prop
  | hostName (hostName : Bytes) : Moves s (.hostName hostName) ({ s with m_hostName := hostName }, [])
  | hostPort (hostPort : UInt16) : Moves s (.hostPort hostPort) ({ s with m_hostPort := hostPort }, [])
  | invokeStart : Moves s .invokeStart ({ s with starts := s.starts + 1 }, [])
  | started (waiting : 0 < s.starts) :
      Moves s .started ({ s with starts := s.starts - 1, m_timer := true }, [])
  | expired (runs : s.m_timer = true) (online : s.m_isOnline = true) :
      Moves s .timeout ({ s with m_timer := false }, [])
  | attempt (runs : s.m_timer = true) (offline : s.m_isOnline = false) :
      Moves s .timeout
        ({ s with m_socket := s.m_socket.connectToHost, interval := 5000, m_timer := true },
          [.connectToHost s.m_hostName s.m_hostPort])
  | connected (now : UInt64) (connecting : s.m_socket = .ConnectingState) :
      Moves s (.connected now)
        ({ s with m_socket := .ConnectedState, m_isOnline := true, m_createReportMsgTransId := now },
          sent qt scaled (.sendCreateImageReport now))
  | disconnected (ends : s.m_socket = .ConnectedState ∨ s.m_socket = .ClosingState) :
      Moves s .disconnected ({ s with m_socket := .UnconnectedState }.onDisconnected, [])
  | error : Moves s .error ({ s with m_socket := s.m_socket.failed }.onDisconnected, [])
  | answered (now : UInt64) (head : PolicyInfoMsgHeader) (body : Bytes)
      (up : s.m_socket = .ConnectedState) (ack : head.command = PsCmd.ACK.code)
      (own : s.m_createReportMsgTransId = head.tranId) :
      Moves s (.messageCTRL now head body)
        ({ s with m_mediaReportType := ((qt.object body).get (utf8 "mediaType")).toInt }, [])
  | commanded (now : UInt64) (head : PolicyInfoMsgHeader) (body : Bytes)
      (up : s.m_socket = .ConnectedState)
      (command : head.command = PsCmd.ImageReportMediaType.code) :
      Moves s (.messageCTRL now head body)
        ({ s with m_mediaReportType := ((qt.object body).get (utf8 "mediaType")).toInt },
          sent qt scaled (.sendResponse now head mediaTypeAck))
  | report (i : ι) (r : Report) (may : s.mayReport r = true) :
      Moves s (.report i r) (s.queueStep (.call i r))
  | count (i : ι) : Moves s (.count i) (s.queueStep (.count i))
  | post (i : ι) : Moves s (.post i) (s.queueStep (.post i))
  | served (now : UInt64) {r : Report} {rest : List Report} (waiting : s.reports.queue = r :: rest) :
      Moves s (.sendAsync now)
        ({ s with reports := { s.reports with count := s.reports.count - 1, queue := rest } },
          .queue (.served r) ::
            sent qt scaled (r.sending now s.m_mediaReportType (s.m_socket = .ConnectedState)))

/-- What a message of the store does. -/
theorem message_cases (s : TcpImageReport ι) (now : UInt64) (head : PolicyInfoMsgHeader)
    (body : Bytes) (up : s.m_socket = .ConnectedState) :
    (s.Ignored (.messageCTRL now head body) ∧ s.onMessageCTRL qt scaled now head body = (s, [])) ∨
      Moves qt scaled s (.messageCTRL now head body) (s.onMessageCTRL qt scaled now head body) := by
  unfold onMessageCTRL
  dsimp only
  split
  next ack =>
    split
    next own => exact .inr (.answered now head body up ack own)
    next foreign =>
      refine .inl ⟨?_, rfl⟩
      rintro ⟨-, ⟨-, own⟩ | command⟩
      · exact foreign own
      · rw [ack] at command
        exact absurd command (by decide)
  next other =>
    split
    next command => exact .inr (.commanded now head body up command)
    next unknown => exact .inl ⟨by simp [Ignored, other, unknown], rfl⟩

/-- **What a step can do.** -/
theorem step_cases (s : TcpImageReport ι) (e : Event ι) :
    (s.Ignored e ∧ step qt scaled s e = (s, [])) ∨ Moves qt scaled s e (step qt scaled s e) := by
  cases e with
  | hostName hostName => exact .inr (.hostName hostName)
  | hostPort hostPort => exact .inr (.hostPort hostPort)
  | invokeStart => exact .inr .invokeStart
  | started =>
      unfold step
      dsimp only
      split
      next waiting => exact .inr (.started waiting)
      next none => exact .inl ⟨Nat.eq_zero_of_not_pos none, rfl⟩
  | timeout =>
      unfold step
      dsimp only
      split
      next runs =>
        right
        unfold onTimeout
        dsimp only
        split
        next down => exact .attempt runs (by simpa using down)
        next up => exact .expired runs (by simpa using up)
      next stopped => exact .inl ⟨by simpa [Ignored] using stopped, rfl⟩
  | connected now =>
      unfold step
      dsimp only
      split
      next connecting => exact .inr (.connected now connecting)
      next other => exact .inl ⟨other, rfl⟩
  | disconnected =>
      unfold step
      dsimp only
      split
      next there => exact .inr (.disconnected there)
      next closed => exact .inl ⟨not_or.mp closed, rfl⟩
  | error => exact .inr .error
  | messageCTRL now head body =>
      unfold step
      dsimp only
      split
      next up => exact message_cases qt scaled s now head body up
      next down => exact .inl ⟨fun heard => down heard.1, rfl⟩
  | report i r =>
      unfold step
      dsimp only
      split
      next may => exact .inr (.report i r may)
      next no => exact .inl ⟨by simpa [Ignored] using no, rfl⟩
  | count i => exact .inr (.count i)
  | post i => exact .inr (.post i)
  | sendAsync now =>
      rcases sendAsync_cases qt scaled s now with ⟨empty, same⟩ | ⟨r, rest, waiting, taken⟩
      · exact .inl ⟨empty, same⟩
      · right
        rw [step, taken]
        exact .served now waiting

omit [DecidableEq ι] in
/-- What a lost connection leaves. -/
theorem onDisconnected_keeps (s : TcpImageReport ι) :
    s.onDisconnected.m_isOnline = false ∧ s.onDisconnected.reports = s.reports ∧
      s.onDisconnected.m_hostName = s.m_hostName ∧ s.onDisconnected.m_hostPort = s.m_hostPort := by
  unfold onDisconnected
  dsimp only
  split <;> exact ⟨rfl, rfl, rfl, rfl⟩

/-- What a step does to the queue. -/
theorem step_queue (s : TcpImageReport ι) (e : Event ι) :
    (step qt scaled s e).1.reports =
        Machine.final (Admission.step MAX_IMG_REPORT_QUEUE_SIZE) s.reports (queueEvents s e) ∧
      (step qt scaled s e).2.filterMap Output.queue? =
        Machine.outputs (Admission.step MAX_IMG_REPORT_QUEUE_SIZE) s.reports (queueEvents s e) := by
  have acted := step_cases qt scaled s e
  generalize step qt scaled s e = result at acted
  rcases acted with ⟨ignored, rfl⟩ | moves
  · cases e with
    | report i r =>
        rw [queueEvents, if_neg (by simpa [Ignored] using ignored)]
        exact ⟨rfl, rfl⟩
    | sendAsync now =>
        have empty : s.reports.queue = [] := ignored
        rw [queueEvents, ← (queueStep_queue s .serve).1, ← (queueStep_queue s .serve).2]
        simp [queueStep_eq, Admission.step, empty]
    | count i => exact ignored.elim
    | post i => exact ignored.elim
    | _ => exact ⟨rfl, rfl⟩
  · cases moves with
    | report i r may =>
        rw [queueEvents, if_pos may]
        exact queueStep_queue s _
    | count i => exact queueStep_queue s _
    | post i => exact queueStep_queue s _
    | served now waiting =>
        rw [queueEvents, ← (queueStep_queue s .serve).1, ← (queueStep_queue s .serve).2]
        simp [queueStep_eq, Admission.step, waiting, Output.queue?]
    | connected now connecting => exact ⟨rfl, queue?_sent ..⟩
    | commanded now head body up command => exact ⟨rfl, queue?_sent ..⟩
    | disconnected there => exact ⟨(onDisconnected_keeps _).2.1, rfl⟩
    | error => exact ⟨(onDisconnected_keeps _).2.1, rfl⟩
    | _ => exact ⟨rfl, rfl⟩

/-- **The queue is a part of the reporter.** -/
def queuePart : Machine.Part (step (ι := ι) qt scaled)
    (Admission.step (ι := ι) (α := Report) MAX_IMG_REPORT_QUEUE_SIZE) where
  state s := s.reports
  events := queueEvents
  outputs := Output.queue?
  after s e := (step_queue qt scaled s e).1
  emitted s e := (step_queue qt scaled s e).2

/-- The reporter after a run. -/
abbrev after (garbage : UInt64) (events : List (Event ι)) : TcpImageReport ι :=
  Machine.final (step qt scaled) (constructed ι garbage) events

/-- **The reports that wait are counted, and bounded.**  Every caller but one may have found the
room that another takes. -/
theorem queued_exact [Fintype ι] [Nonempty ι] (garbage : UInt64) (events : List (Event ι)) :
    let reports := (after qt scaled garbage events).reports
    reports.count =
        reports.queue.length + Threads.total Admission.Stage.ahead reports.stages ∧
      (reports.queue.length : Int) ≤ reports.count ∧
      reports.count ≤ MAX_IMG_REPORT_QUEUE_SIZE + (Fintype.card ι - 1) := by
  refine (queuePart (ι := ι) qt scaled).always (s := constructed ι garbage)
    (I := fun reports => reports.count =
        reports.queue.length + Threads.total Admission.Stage.ahead reports.stages ∧
      (reports.queue.length : Int) ≤ reports.count ∧
      reports.count ≤ MAX_IMG_REPORT_QUEUE_SIZE + (Fintype.card ι - 1)) (fun fs => ?_) events
  exact ⟨Admission.run_exact _ fs, Admission.length_le_count _ fs,
    Admission.run_le (by decide) fs⟩

end Queue

/-! ## The connection and what the store asks for -/

section Connection

variable [DecidableEq ι] (qt : QtJson) (scaled : QImage → Int → Int → QImage)

/-- One step of a run. -/
abbrev Turn (ι : Type) := Machine.Transition (TcpImageReport ι) (Event ι) Output

/-- The connection comes up. -/
def connects (t : Turn ι) : Prop :=
  ∃ now, t.event = .connected now ∧ t.before.m_socket = .ConnectingState

/-- It is lost. -/
def drops (t : Turn ι) : Prop := t.event = .disconnected ∨ t.event = .error

/-- The pictures the store asks for in a message: in the answer to the last request for the media
channel, or in a command. -/
def asks (t : Turn ι) : Option Int :=
  match t.event with
  | .messageCTRL _ head body =>
      if t.before.m_socket = .ConnectedState ∧
          (head.command = PsCmd.ACK.code ∧ t.before.m_createReportMsgTransId = head.tranId ∨
            head.command = PsCmd.ImageReportMediaType.code) then
        some ((qt.object body).get (utf8 "mediaType")).toInt
      else none
  | _ => none

/-- The connection has come up and was not lost. -/
def Up (h : List (Turn ι)) : Prop := Machine.Since connects (fun t => ¬ drops t) h

/-- The store has asked for these pictures, and for no others since. -/
def Asked (mediaType : Int) (h : List (Turn ι)) : Prop :=
  Machine.Since (fun t => asks qt t = some mediaType) (fun t => asks qt t = none) h

/-- The client has run `establisthTcpReport` to its end. -/
def Established (h : List (Turn ι)) : Prop := ∃ t ∈ h, t.event = .invokeStart

/-- What the fields say of the history. -/
structure Invariant (h : List (Turn ι)) (s : TcpImageReport ι) : Prop where
  running : s.m_bCleaned = false
  online : s.m_isOnline = true ↔ s.m_socket = .ConnectedState
  up : s.m_isOnline = true → Up h
  asked : s.m_mediaReportType = IMAGE_REPORT_NULL ∨ Asked qt s.m_mediaReportType h
  armed : Established h → s.m_isOnline = false → s.m_timer = true ∨ 0 < s.starts

variable {qt scaled} {h : List (Turn ι)} {s : TcpImageReport ι}

omit [DecidableEq ι] in
/-- A step behind which the connection and the wish of the store are as they were. -/
theorem Invariant.keep (inv : Invariant qt h s) {t : Turn ι} {s' : TcpImageReport ι}
    (quiet : ¬ drops t ∧ asks qt t = none)
    (same : s'.m_bCleaned = s.m_bCleaned ∧ s'.m_isOnline = s.m_isOnline ∧
      s'.m_mediaReportType = s.m_mediaReportType)
    (socket : s.m_isOnline = true ∧ s'.m_socket = .ConnectedState ∨
      s.m_isOnline = false ∧ s'.m_socket ≠ .ConnectedState)
    (armed : s'.m_isOnline = false → s'.m_timer = true ∨ 0 < s'.starts ∨
      ¬ Established [t] ∧ s'.m_timer = s.m_timer ∧ s'.starts = s.starts) :
    Invariant qt (h ++ [t]) s' := by
  obtain ⟨cleaned, online, mediaType⟩ := same
  refine ⟨cleaned.trans inv.running, ?_, ?_, ?_, ?_⟩
  · rcases socket with ⟨up, connected⟩ | ⟨down, other⟩
    · simp [online, up, connected]
    · simp [online, down, other]
  · intro up
    exact Machine.since_snoc.mpr (.inr ⟨quiet.1, inv.up (online ▸ up)⟩)
  · rw [mediaType]
    exact inv.asked.imp_right fun asked => Machine.since_snoc.mpr (.inr ⟨quiet.2, asked⟩)
  · rintro ⟨t', there, established⟩ down
    rcases armed down with timer | starts | ⟨other, timer, starts⟩
    · exact .inl timer
    · exact .inr starts
    · rw [timer, starts]
      refine inv.armed ?_ (online ▸ down)
      rcases List.mem_append.mp there with before | this
      · exact ⟨t', before, established⟩
      · exact absurd ⟨t', this, established⟩ other

omit [DecidableEq ι] in
/-- A connection that is lost. -/
theorem Invariant.drop (inv : Invariant qt h s) {t : Turn ι} (quiet : asks qt t = none)
    (state : SocketState) :
    Invariant qt (h ++ [t]) { s with m_socket := state }.onDisconnected := by
  have offline := TcpClient.disconnectFromHost_offline state
  unfold onDisconnected
  dsimp only
  rw [if_pos (by simp [inv.running])]
  refine ⟨inv.running, ⟨nofun, fun this => absurd this offline⟩, nofun, ?_, fun _ _ => .inl rfl⟩
  exact inv.asked.imp_right fun asked => Machine.since_snoc.mpr (.inr ⟨quiet, asked⟩)

omit [DecidableEq ι] in
/-- The store asks for pictures. -/
theorem Invariant.ask (inv : Invariant qt h s) (up : s.m_socket = .ConnectedState)
    {t : Turn ι} (still : ¬ drops t) {mediaType : Int} (asked : asks qt t = some mediaType) :
    Invariant qt (h ++ [t]) { s with m_mediaReportType := mediaType } := by
  have online := inv.online.mpr up
  refine ⟨inv.running, inv.online, fun _ => ?_, .inr ?_, fun _ down => by simp [online] at down⟩
  · exact Machine.since_snoc.mpr (.inr ⟨still, inv.up online⟩)
  · exact Machine.since_snoc.mpr (.inl asked)

omit [DecidableEq ι] in
theorem Invariant.sockets (inv : Invariant qt h s) :
    s.m_isOnline = true ∧ s.m_socket = .ConnectedState ∨
      s.m_isOnline = false ∧ s.m_socket ≠ .ConnectedState := by
  rcases Bool.eq_false_or_eq_true s.m_isOnline with up | down
  · exact .inl ⟨up, inv.online.mp up⟩
  · exact .inr ⟨down, fun connected => by simp [inv.online.mpr connected] at down⟩

/-- Neither the network nor the store says anything. -/
def Event.silent : Event ι → Prop
  | .disconnected | .error | .messageCTRL .. => False
  | _ => True

omit [DecidableEq ι] in
theorem quiet_of_silent {t : Turn ι} (silent : t.event.silent) : ¬ drops t ∧ asks qt t = none := by
  obtain ⟨before, e, outputs, after⟩ := t
  cases e <;> simp_all [Event.silent, drops, asks]

omit [DecidableEq ι] in
/-- A step of the queue, or one that is not taken. -/
theorem Invariant.idle (inv : Invariant qt h s) {t : Turn ι} (silent : t.event.silent)
    (other : ¬ Established [t]) (reports : Admission.State ι Report) :
    Invariant qt (h ++ [t]) { s with reports := reports } :=
  inv.keep (quiet_of_silent silent) ⟨rfl, rfl, rfl⟩ inv.sockets
    fun _ => .inr (.inr ⟨other, rfl, rfl⟩)

omit [DecidableEq ι] in
theorem not_established {t : Turn ι} (other : t.event ≠ .invokeStart) : ¬ Established [t] := by
  rintro ⟨t', there, this⟩
  rw [List.mem_singleton.mp there] at this
  exact other this

omit [DecidableEq ι] in
theorem Invariant.connect (inv : Invariant qt h s) {t : Turn ι} (comes : connects t)
    (now : UInt64) :
    Invariant qt (h ++ [t])
      { s with m_socket := .ConnectedState, m_isOnline := true, m_createReportMsgTransId := now } := by
  refine ⟨inv.running, ⟨fun _ => rfl, fun _ => rfl⟩, fun _ => ?_, ?_, fun _ => nofun⟩
  · exact Machine.since_snoc.mpr (.inl comes)
  · obtain ⟨now', event, -⟩ := comes
    exact inv.asked.imp_right fun asked =>
      Machine.since_snoc.mpr (.inr ⟨by simp [asks, event], asked⟩)

omit [DecidableEq ι] in
/-- The end of a connection that was lost before. -/
theorem Invariant.gone (inv : Invariant qt h s) (closed : s.m_socket ≠ .ConnectedState)
    {t : Turn ι} (event : t.event = .disconnected) : Invariant qt (h ++ [t]) s := by
  refine ⟨inv.running, inv.online, fun up => absurd (inv.online.mp up) closed, ?_, ?_⟩
  · exact inv.asked.imp_right fun asked =>
      Machine.since_snoc.mpr (.inr ⟨by simp [asks, event], asked⟩)
  · rintro ⟨t', there, established⟩
    rcases List.mem_append.mp there with before | this
    · exact inv.armed ⟨t', before, established⟩
    · rw [List.mem_singleton.mp this, event] at established
      cases established

omit [DecidableEq ι] in
/-- An event that is ignored. -/
theorem Invariant.ignore (inv : Invariant qt h s) {t : Turn ι} (before : t.before = s)
    (ignored : s.Ignored t.event) : Invariant qt (h ++ [t]) s := by
  cases event : t.event with
  | disconnected =>
      rw [event] at ignored
      exact inv.gone ignored.1 event
  | messageCTRL now head body =>
      rw [event] at ignored
      refine inv.keep ⟨by simp [drops, event], ?_⟩ ⟨rfl, rfl, rfl⟩ inv.sockets
        fun _ => .inr (.inr ⟨not_established (by simp [event]), rfl, rfl⟩)
      simp only [asks, event, before]
      exact if_neg ignored
  | invokeStart =>
      rw [event] at ignored
      exact ignored.elim
  | error =>
      rw [event] at ignored
      exact ignored.elim
  | _ => exact inv.idle (by rw [event]; trivial) (not_established (by simp [event])) s.reports

/-- **One step keeps the fields true to the history.** -/
theorem step_invariant (inv : Invariant qt h s) (t : Turn ι) (before : t.before = s) :
    Invariant qt (h ++ [t]) (step qt scaled s t.event).1 := by
  have acted := step_cases qt scaled s t.event
  generalize step qt scaled s t.event = result at acted ⊢
  rcases acted with ⟨ignored, rfl⟩ | moves
  · exact inv.ignore before ignored
  generalize event : t.event = e at moves
  cases moves with
  | hostName hostName =>
      exact inv.keep (quiet_of_silent (by rw [event]; trivial)) ⟨rfl, rfl, rfl⟩ inv.sockets
        fun _ => .inr (.inr ⟨not_established (by simp [event]), rfl, rfl⟩)
  | hostPort hostPort =>
      exact inv.keep (quiet_of_silent (by rw [event]; trivial)) ⟨rfl, rfl, rfl⟩ inv.sockets
        fun _ => .inr (.inr ⟨not_established (by simp [event]), rfl, rfl⟩)
  | invokeStart =>
      exact inv.keep (quiet_of_silent (by rw [event]; trivial)) ⟨rfl, rfl, rfl⟩ inv.sockets
        fun _ => .inr (.inl (Nat.succ_pos _))
  | started waiting =>
      exact inv.keep (quiet_of_silent (by rw [event]; trivial)) ⟨rfl, rfl, rfl⟩ inv.sockets
        fun _ => .inl rfl
  | expired runs online =>
      exact inv.keep (quiet_of_silent (by rw [event]; trivial)) ⟨rfl, rfl, rfl⟩ inv.sockets
        fun down => by simp [online] at down
  | attempt runs offline =>
      have closed : s.m_socket ≠ .ConnectedState := by
        intro connected
        simp [inv.online.mpr connected] at offline
      exact inv.keep (quiet_of_silent (by rw [event]; trivial)) ⟨rfl, rfl, rfl⟩
        (.inr ⟨offline, TcpClient.connectToHost_offline closed⟩) fun _ => .inl rfl
  | connected now connecting => exact inv.connect ⟨now, event, before ▸ connecting⟩ now
  | disconnected ends => exact inv.drop (by simp [asks, event]) _
  | error => exact inv.drop (by simp [asks, event]) _
  | answered now head body up ack own =>
      exact inv.ask up (by simp [drops, event]) (by simp [asks, before, event, up, ack, own])
  | commanded now head body up command =>
      exact inv.ask up (by simp [drops, event]) (by simp [asks, before, event, up, command])
  | report i r may => exact inv.idle (by rw [event]; trivial) (not_established (by simp [event])) _
  | count i => exact inv.idle (by rw [event]; trivial) (not_established (by simp [event])) _
  | post i => exact inv.idle (by rw [event]; trivial) (not_established (by simp [event])) _
  | served now waiting =>
      exact inv.idle (by rw [event]; trivial) (not_established (by simp [event])) _

variable (qt scaled) in
theorem invariant_run (garbage : UInt64) (events : List (Event ι)) :
    Invariant qt (Machine.trace (step qt scaled) (constructed ι garbage) events)
      (after qt scaled garbage events) := by
  refine Machine.run_induction (step qt scaled) (P := Invariant qt) ?_ ?_ events
  · refine ⟨rfl, by simp [constructed], nofun, .inl rfl, ?_⟩
    rintro ⟨t, there, -⟩
    cases there
  · intro es e inv
    exact step_invariant inv _ rfl

end Connection

/-! ## Pictures -/

section Pictures

variable (qt : QtJson) (scaled : QImage → Int → Int → QImage)

/-- The commands of the picture reports. -/
def pictureCommands : List UInt16 :=
  [PsCmd.ImageResultReport.code, PsCmd.ImageResultReportBinning.code, rawImageCommand]

def Output.picture? : Output → Option Message
  | .sendMessage message => if message.1.command ∈ pictureCommands then some message else none
  | _ => none

/-- A queued report that runs, with what it reads. -/
structure Serving where
  now : UInt64
  m_mediaReportType : Int
  connectedState : Bool
  report : Report

def Serving.message (v : Serving) : Option Message :=
  (v.report.sending v.now v.m_mediaReportType v.connectedState).written qt scaled

/-- The report that a step runs. -/
def serving? (t : Turn ι) : Option Serving :=
  match t.event with
  | .sendAsync now => t.before.reports.queue.head?.map fun r =>
      ⟨now, t.before.m_mediaReportType, t.before.m_socket = .ConnectedState, r⟩
  | _ => none

/-- The reports that a run has run, in order. -/
def servings (h : List (Turn ι)) : List Serving := h.filterMap serving?

/-- What a report sends is a picture. -/
theorem sending_picture (v : Serving) {m : Message} (sent : v.message qt scaled = some m) :
    m.1.command ∈ pictureCommands := by
  obtain ⟨message, -⟩ := Sending.written_eq qt scaled sent
  obtain ⟨now, mediaType, connected, r⟩ := v
  cases r with
  | imageResult imageRecord =>
      simp only [Report.sending, Sending.message, sendImageResultToPolicyStoreAsync] at message
      split_ifs at message
      all_goals
        obtain rfl := Option.some.inj message
        simp [pictureCommands]
  | imageData picture =>
      simp only [Report.sending, Sending.message, sendImageDataToPolicyStoreAsync] at message
      split_ifs at message
      obtain rfl := Option.some.inj message
      simp [pictureCommands]

theorem sent_serving (v : Serving) :
    (sent qt scaled (v.report.sending v.now v.m_mediaReportType v.connectedState)).filterMap
      Output.picture? = (v.message qt scaled).toList := by
  unfold sent
  rw [← Serving.message]
  cases written : v.message qt scaled with
  | none => rfl
  | some m => simp [Output.picture?, sending_picture qt scaled v written]

/-- The request for the channel and the answer to a command are no pictures. -/
theorem sent_create (now : UInt64) :
    (sent qt scaled (.sendCreateImageReport now)).filterMap Output.picture? = [] := by
  rw [sent, List.filterMap_eq_nil_iff]
  intro output there
  obtain ⟨m, written, rfl⟩ := List.mem_map.mp there
  obtain ⟨message, -⟩ := Sending.written_eq qt scaled (Option.mem_toList.mp written)
  obtain rfl := Option.some.inj message
  rfl

theorem sent_response (now : UInt64) (head : PolicyInfoMsgHeader) (jsonObj : JsonObject) :
    (sent qt scaled (.sendResponse now head jsonObj)).filterMap Output.picture? = [] := by
  rw [sent, List.filterMap_eq_nil_iff]
  intro output there
  obtain ⟨m, written, rfl⟩ := List.mem_map.mp there
  obtain ⟨message, -⟩ := Sending.written_eq qt scaled (Option.mem_toList.mp written)
  obtain rfl := Option.some.inj message
  rfl

variable [DecidableEq ι]

theorem queueStep_pictures (s : TcpImageReport ι) (e : Admission.Event ι Report) :
    (s.queueStep e).2.filterMap Output.picture? = [] := by
  rw [queueStep_eq, List.filterMap_eq_nil_iff]
  intro output there
  obtain ⟨other, -, rfl⟩ := List.mem_map.mp there
  rfl

/-- **The pictures of a step are those of the report it runs.** -/
theorem step_pictures (s : TcpImageReport ι) (e : Event ι) :
    (step qt scaled s e).2.filterMap Output.picture? =
      ((serving? (Machine.transition (step qt scaled) s e)).bind
        (Serving.message qt scaled)).toList := by
  have acted := step_cases qt scaled s e
  unfold Machine.transition
  generalize step qt scaled s e = result at acted ⊢
  rcases acted with ⟨ignored, rfl⟩ | moves
  · cases e with
    | sendAsync now =>
        have empty : s.reports.queue = [] := ignored
        simp [serving?, empty]
    | _ => rfl
  · cases moves with
    | served now waiting =>
        simp only [serving?, waiting, List.head?_cons, Option.map_some, Option.bind_some]
        rw [List.filterMap_cons_none rfl]
        exact sent_serving qt scaled ⟨now, s.m_mediaReportType, s.m_socket = .ConnectedState, _⟩
    | connected now connecting => exact sent_create qt scaled now
    | commanded now head body up command => exact sent_response qt scaled now head _
    | report i r may => exact queueStep_pictures s _
    | count i => exact queueStep_pictures s _
    | post i => exact queueStep_pictures s _
    | _ => rfl

/-- What a step takes from the queue is what it runs. -/
theorem step_served (s : TcpImageReport ι) (e : Event ι) :
    ((step qt scaled s e).2.filterMap Output.queue?).filterMap Admission.Output.served? =
      ((serving? (Machine.transition (step qt scaled) s e)).map Serving.report).toList := by
  rw [(step_queue qt scaled s e).2]
  cases e with
  | sendAsync now =>
      rw [queueEvents, ← (queueStep_queue s _).2, queueStep_eq, queue?_map]
      cases waiting : s.reports.queue with
      | nil => simp [Admission.step, serving?, Machine.transition, waiting]
      | cons r rest =>
          simp [Admission.step, serving?, Machine.transition, waiting, Admission.Output.served?]
  | report i r =>
      unfold queueEvents
      dsimp only
      split
      next =>
        rw [← (queueStep_queue s _).2, queueStep_eq, queue?_map]
        unfold Admission.step
        dsimp only
        split
        next => split <;> rfl
        next => rfl
      next => rfl
  | count i =>
      rw [queueEvents, ← (queueStep_queue s _).2, queueStep_eq, queue?_map]
      unfold Admission.step
      dsimp only
      split <;> rfl
  | post i =>
      rw [queueEvents, ← (queueStep_queue s _).2, queueStep_eq, queue?_map]
      unfold Admission.step
      dsimp only
      split <;> rfl
  | _ => rfl

/-- The reports the callers have queued in a run, in order. -/
def posted (garbage : UInt64) (events : List (Event ι)) : List Report :=
  ((Machine.outputs (step qt scaled) (constructed ι garbage) events).filterMap
    Output.queue?).filterMap Admission.Output.posted?

/-- The pictures it has sent. -/
def pictures (garbage : UInt64) (events : List (Event ι)) : List Message :=
  (Machine.outputs (step qt scaled) (constructed ι garbage) events).filterMap Output.picture?

/-- The steps of a run. -/
abbrev turns (garbage : UInt64) (events : List (Event ι)) : List (Turn ι) :=
  Machine.trace (step qt scaled) (constructed ι garbage) events

/-- **Each report is run once, in order, and sends the picture it finds wanted then.** -/
theorem reports_exact (garbage : UInt64) (events : List (Event ι)) :
    posted qt scaled garbage events =
        (servings (turns qt scaled garbage events)).map Serving.report ++
          (after qt scaled garbage events).reports.queue ∧
      pictures qt scaled garbage events =
        (servings (turns qt scaled garbage events)).filterMap (Serving.message qt scaled) := by
  constructor
  · obtain ⟨reached, emitted⟩ := (queuePart qt scaled).run (constructed ι garbage) events
    have fifo := Admission.run_fifo MAX_IMG_REPORT_QUEUE_SIZE
      ((queuePart qt scaled).history (constructed ι garbage) events)
    have served : ((Machine.outputs (step qt scaled) (constructed ι garbage) events).filterMap
        Output.queue?).filterMap Admission.Output.served? =
          (servings (turns qt scaled garbage events)).map Serving.report := by
      rw [List.filterMap_filterMap, servings, List.map_filterMap]
      refine Machine.outputs_observed (fun s e => ?_) _ _
      rw [← List.filterMap_filterMap, step_served]
    have queue : (after qt scaled garbage events).reports =
        Machine.final (Admission.step MAX_IMG_REPORT_QUEUE_SIZE) (Admission.start ι Report)
          ((queuePart qt scaled).history (constructed ι garbage) events) := reached
    have outputs : (Machine.outputs (step qt scaled) (constructed ι garbage) events).filterMap
        Output.queue? = _ := emitted
    rw [← served, posted, queue, outputs]
    exact fifo
  · rw [servings, List.filterMap_filterMap]
    exact Machine.outputs_observed (step_pictures qt scaled) _ _

/-- The store has asked last for a kind of picture that the message is one of.  The raw pictures of
the box product are not asked for. -/
def Wanted (h : List (Turn ι)) (m : Message) : Report → Prop
  | .imageResult imageRecord => ∃ mediaType, Asked qt mediaType h ∧
      (m.1.command = PsCmd.ImageResultReport.code ∧ orignalReport mediaType imageRecord ∨
        m.1.command = PsCmd.ImageResultReportBinning.code ∧
          binningReport mediaType imageRecord ∧ ¬ orignalReport mediaType imageRecord)
  | .imageData _ => m.1.command = rawImageCommand

omit [DecidableEq ι] in
/-- A report that sends finds the connection up and the picture wanted. -/
theorem sending_wanted {h : List (Turn ι)} {s : TcpImageReport ι} (inv : Invariant qt h s)
    {now : UInt64} {r : Report} {m : Message}
    (sent : (r.sending now s.m_mediaReportType (s.m_socket = .ConnectedState)).written qt scaled =
      some m) : Up h ∧ Wanted qt h m r := by
  obtain ⟨message, -⟩ := Sending.written_eq qt scaled sent
  cases r with
  | imageResult imageRecord =>
      simp only [Report.sending, Sending.message, sendImageResultToPolicyStoreAsync] at message
      split at message
      next unwanted => cases message
      next wanted =>
        split at message
        next down => cases message
        next connected =>
          have online := inv.online.mpr (of_decide_eq_true (not_not.mp connected))
          refine ⟨inv.up online, s.m_mediaReportType, ?_, ?_⟩
          · rcases inv.asked with never | asked
            · simp [orignalReport, binningReport, never, IMAGE_REPORT_NULL, IMAGE_REPORT_ORIGINAL,
                IMAGE_REPORT_BINNING, IMAGE_REPORT_BOTH] at wanted
            · exact asked
          · obtain rfl := Option.some.inj message
            dsimp only
            by_cases orignal : orignalReport s.m_mediaReportType imageRecord = true
            · exact .inl ⟨by simp [orignal], orignal⟩
            · have binning : binningReport s.m_mediaReportType imageRecord = true := by
                by_contra no
                exact wanted ⟨orignal, no⟩
              exact .inr ⟨by simp [orignal, binning], binning, orignal⟩
  | imageData picture =>
      simp only [Report.sending, Sending.message, sendImageDataToPolicyStoreAsync] at message
      split at message
      next down => cases message
      next connected =>
        have online := inv.online.mpr (of_decide_eq_true (not_not.mp connected))
        obtain rfl := Option.some.inj message
        exact ⟨inv.up online, rfl⟩

/-- **No picture goes out but over a connection that is up, from the front of the queue, and as the
store asked last.** -/
theorem picture_wanted (garbage : UInt64) (events : List (Event ι)) (e : Event ι) {m : Message}
    (sent : .sendMessage m ∈ (step qt scaled (after qt scaled garbage events) e).2)
    (picture : m.1.command ∈ pictureCommands) :
    Up (turns qt scaled garbage events) ∧
      ∃ r rest, (after qt scaled garbage events).reports.queue = r :: rest ∧
        Wanted qt (turns qt scaled garbage events) m r := by
  have inv := invariant_run qt scaled garbage events
  have seen : m ∈ (step qt scaled (after qt scaled garbage events) e).2.filterMap
      Output.picture? :=
    List.mem_filterMap.mpr ⟨_, sent, if_pos picture⟩
  rw [step_pictures, Option.mem_toList, Option.bind_eq_some_iff] at seen
  obtain ⟨v, running, written⟩ := seen
  cases e with
  | sendAsync now =>
      cases waiting : (after qt scaled garbage events).reports.queue with
      | nil => simp [serving?, Machine.transition, waiting] at running
      | cons r rest =>
          simp only [serving?, Machine.transition, waiting, List.head?_cons, Option.map_some,
            Option.some.injEq] at running
          subst running
          obtain ⟨up, wanted⟩ := sending_wanted qt scaled inv written
          exact ⟨up, r, rest, rfl, wanted⟩
  | _ => cases running

end Pictures

/-! ## Reconnection -/

section Reconnection

variable [DecidableEq ι] (qt : QtJson) (scaled : QImage → Int → Int → QImage)

/-- What the reporter's own thread does next without the network's help: a queued start, the end of
a connection that is closing, the timer. -/
def Event.own : Event ι → Prop
  | .started | .disconnected | .timeout => True
  | _ => False

/-- A timer that runs makes an attempt when the socket is free. -/
theorem timeout_connects {s : TcpImageReport ι} (runs : s.m_timer = true)
    (offline : s.m_isOnline = false) (free : s.m_socket = .UnconnectedState) :
    (step qt scaled s .timeout).1.m_socket = .ConnectingState ∧
      (step qt scaled s .timeout).2 = [.connectToHost s.m_hostName s.m_hostPort] := by
  simp [step, runs, onTimeout, offline, free, SocketState.connectToHost]

/-- The timer runs or is about to, and unless an attempt to connect is under way the next one, to the
host of the reporter, is at most two steps of its own away. -/
structure AboutToConnect (s : TcpImageReport ι) : Prop where
  armed : s.m_timer = true ∨ 0 < s.starts
  attempt : s.m_socket = .ConnectingState ∨
    ∃ more : List (Event ι), more.length ≤ 2 ∧ (∀ e ∈ more, e.own) ∧
      (Machine.final (step qt scaled) s more).m_socket = .ConnectingState ∧
      .connectToHost s.m_hostName s.m_hostPort ∈ Machine.outputs (step qt scaled) s more

variable {qt} in
/-- The reporter behind a history in which it was established. -/
theorem Invariant.aboutToConnect {h : List (Turn ι)} {s : TcpImageReport ι}
    (inv : Invariant qt h s) (established : Established h) (offline : s.m_isOnline = false) :
    AboutToConnect qt scaled s := by
  have armed := inv.armed established offline
  have running := inv.running
  have closed : s.m_socket ≠ .ConnectedState := by
    intro connected
    simp [inv.online.mpr connected] at offline
  refine ⟨armed, ?_⟩
  -- behind some steps of its own the timer runs, the socket is free, and the host is the same
  have soon (more : List (Event ι)) (few : more.length ≤ 1) (own : ∀ e ∈ more, e.own)
      (runs : (Machine.final (step qt scaled) s more).m_timer = true)
      (down : (Machine.final (step qt scaled) s more).m_isOnline = false)
      (free : (Machine.final (step qt scaled) s more).m_socket = .UnconnectedState)
      (host : (Machine.final (step qt scaled) s more).m_hostName = s.m_hostName ∧
        (Machine.final (step qt scaled) s more).m_hostPort = s.m_hostPort) :
      ∃ more : List (Event ι), more.length ≤ 2 ∧ (∀ e ∈ more, e.own) ∧
        (Machine.final (step qt scaled) s more).m_socket = .ConnectingState ∧
        .connectToHost s.m_hostName s.m_hostPort ∈ Machine.outputs (step qt scaled) s more := by
    obtain ⟨connecting, attempt⟩ := timeout_connects qt scaled runs down free
    refine ⟨more ++ [.timeout], by simpa using few, ?_, ?_, ?_⟩
    · intro e there
      rcases List.mem_append.mp there with before | this
      · exact own e before
      · rw [List.mem_singleton.mp this]
        trivial
    · rw [Machine.final_snoc]
      exact connecting
    · rw [Machine.outputs_snoc, attempt, host.1, host.2]
      simp
  cases socket : s.m_socket with
  | ConnectingState => exact .inl rfl
  | ConnectedState => exact absurd socket closed
  | UnconnectedState =>
      right
      rcases armed with runs | waiting
      · exact soon [] (by simp) nofun runs offline socket ⟨rfl, rfl⟩
      · refine soon [.started] (by simp) (by simp [Event.own]) ?_ ?_ ?_ ?_ <;>
          simp [Machine.final, step, waiting, offline, socket]
  | ClosingState =>
      right
      refine soon [.disconnected] (by simp) (by simp [Event.own]) ?_ ?_ ?_ ?_ <;>
        simp [Machine.final, step, socket, onDisconnected, running, SocketState.disconnectFromHost]

theorem established_of_mem (garbage : UInt64) {events : List (Event ι)}
    (there : .invokeStart ∈ events) : Established (turns qt scaled garbage events) := by
  rw [← Machine.events_trace (step qt scaled) (constructed ι garbage) events] at there
  exact List.mem_map.mp there

/-- **A reporter that was established and is offline is about to connect**, whatever else the client
has stored or is about to. -/
theorem offline_reconnects (garbage : UInt64) (events : List (Event ι))
    (established : .invokeStart ∈ events)
    (offline : (after qt scaled garbage events).m_isOnline = false) :
    AboutToConnect qt scaled (after qt scaled garbage events) :=
  (invariant_run qt scaled garbage events).aboutToConnect scaled
    (established_of_mem qt scaled garbage established) offline

/-! ## A run -/

/-- A picture with its result. -/
def reported : ImageResultRecord :=
  { imageData := { objectId := 1, bReportOrignal := true, bReportBinning := false, cameraId := 1,
                   imageId := 1, imageData := { depth := 8, width := 1, height := 1, jpg := [0xFF] },
                   genTimeStamp := 7 }
    result := RESULT_OK
    jsonData := [] }

/-- The store answers the request for the channel: it wants original pictures. -/
def channelAnswer (tranId : UInt64) : Event ι :=
  let body := QtJson.reference.toJson .Compact
    (.object [(utf8 "mediaType", int IMAGE_REPORT_ORIGINAL)])
  .messageCTRL 6
    { tranId := tranId, timeStamp := 6, processId := 0, processType := 0
      command := PsCmd.ACK.code, version := VERSION, len := UInt32.ofNat body.length } body

/-- The channel comes up and the store asks for pictures. -/
def opened (ι : Type) : List (Event ι) :=
  establisthTcpReport (utf8 "media") 9000 ++ [.started, .timeout, .connected 5, channelAnswer 5]

/-- Two callers find the last room for a report. -/
def crowded : List (Event Bool) :=
  let alone : List (Event Bool) :=
    [.report false (.imageResult reported), .count false, .post false]
  let together : List (Event Bool) :=
    [.report false (.imageResult reported), .report true (.imageResult reported), .count false,
      .count true]
  opened Bool ++ (List.replicate 9 alone).flatten ++ together

theorem crowded_queued :
    (after QtJson.reference (fun image _ _ => image) 0 crowded).reports.count = 11 ∧
      (after QtJson.reference (fun image _ _ => image) 0 crowded).reports.count ≤
        MAX_IMG_REPORT_QUEUE_SIZE + (Fintype.card Bool - 1) :=
  ⟨by decide +kernel, (queued_exact QtJson.reference (fun image _ _ => image) 0 crowded).2.2⟩

/-- One report is queued. -/
def oneReport : List (Event Unit) :=
  opened Unit ++ [.report () (.imageResult reported), .count (), .post ()]

/-- What it sends. -/
def oneMessage : Message :=
  let tcpMsg := ImageDataInfo.codec.encode
    { objectId := 1, cameraId := 1, imageId := 1, genTimeStamp := 7, imageType := 8
      imageWidth := 1, imageHeight := 1, result := 1, imageSize := 1, jsonSize := 0 } ++ [0xFF]
  ({ tranId := 8, timeStamp := 8, processId := 0, processType := PROCESS_TYPE_ISG
     command := PsCmd.ImageResultReport.code, version := VERSION, len := 47 }, tcpMsg)

theorem oneReport_wanted :
    Up (turns QtJson.reference (fun image _ _ => image) 0 oneReport) ∧
      ∃ r rest, (after QtJson.reference (fun image _ _ => image) 0 oneReport).reports.queue =
          r :: rest ∧
        Wanted QtJson.reference (turns QtJson.reference (fun image _ _ => image) 0 oneReport)
          oneMessage r :=
  picture_wanted QtJson.reference (fun image _ _ => image) 0 oneReport (.sendAsync 8)
    (by decide +kernel) (by decide)

/-- The channel is lost. -/
def lost : List (Event Unit) := opened Unit ++ [.error]

theorem lost_reconnects :
    AboutToConnect QtJson.reference (fun image _ _ => image)
      (after QtJson.reference (fun image _ _ => image) 0 lost) :=
  offline_reconnects QtJson.reference (fun image _ _ => image) 0 lost
    (by simp [lost, opened, establisthTcpReport]) (by decide +kernel)

end Reconnection

end TcpImageReport

end IsgConsole.IopAgent
