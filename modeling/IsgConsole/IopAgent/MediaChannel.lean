/-
# IopAgent.MediaChannel — the media channel of a registered console

`TcpClient` registers with the policy store and hands the media server of the accepted answer to
`TcpImageReport`, which connects there and reports pictures.  `Agent` is the two of them, each in its
thread.

* `session_received` — **whatever chunks the bytes of a connection arrive in, the media server gets
  back the messages of the connection, the request for the channel first**, as long as no raw picture
  is among the reports;
* `media_host` — **the reporter connects to the media server of the last accepted answer**, and while
  the client stores it to that of the answer before, or to the new host at the old port;
* `registered_channel` — **the channel of a registered console is up or about to connect.**
-/
import IsgConsole.BaseLib.ProtocolStream
import IsgConsole.IopAgent.ImageReport

namespace IsgConsole.IopAgent

open IsgConsole.Theory IsgConsole.Theory.Framing IsgConsole.BaseLib IsgConsole.Inspector
open IsgConsole.Theory.Json

set_option autoImplicit false

/-! ## The bytes of a connection -/

namespace TcpImageReport

variable {ι : Type} (qt : QtJson) (scaled : QImage → Int → Int → QImage)

def Output.message? : Output → Option Message
  | .sendMessage message => some message
  | _ => none

/-- What a step sends. -/
def messages (t : Turn ι) : List Message := t.outputs.filterMap Output.message?

/-- One more step of a connection, or the first of the next one. -/
def sessionStep (sent : List Message) (t : Turn ι) : List Message :=
  match t.event with
  | .connected _ => if t.before.m_socket = .ConnectingState then messages t else sent ++ messages t
  | _ => sent ++ messages t

/-- What was sent since the connection came up. -/
def session (h : List (Turn ι)) : List Message := h.foldl sessionStep []

theorem mem_sent {c : Sending} {m : Message} :
    m ∈ (sent qt scaled c).filterMap Output.message? ↔ c.written qt scaled = some m := by
  simp [sent, Output.message?]

theorem create_written (now : UInt64) :
    (Sending.sendCreateImageReport now).written qt scaled = some (sendCreateImageReport now) := rfl

theorem queue_message? (outputs : List (Admission.Output Report)) :
    (outputs.map Output.queue).filterMap Output.message? = [] := by
  simp [List.filterMap_eq_nil_iff, Output.message?]

/-- A message that says how long it is, and does not ask for the channel. -/
def Regular (m : Message) : Prop :=
  m.1.bodyLen = m.2.length ∧ m.1.command ≠ PsCmd.ImageReportCreat.code

theorem response_regular {now : UInt64} {head : PolicyInfoMsgHeader} {m : Message}
    (written : (Sending.sendResponse now head mediaTypeAck).written qt scaled = some m) :
    Regular m := by
  refine ⟨Sending.written_announced qt scaled (by simp [Sending.isRawImage]) written, ?_⟩
  obtain ⟨message, -⟩ := Sending.written_eq qt scaled written
  obtain rfl := Option.some.inj message
  show PsCmd.ACK.code ≠ PsCmd.ImageReportCreat.code
  decide

theorem picture_regular {now : UInt64} {mediaType : Int} {up : Bool} {r : Report} {m : Message}
    (plain : ∀ picture, r ≠ .imageData picture)
    (written : (r.sending now mediaType up).written qt scaled = some m) : Regular m := by
  have picture := sending_picture qt scaled ⟨now, mediaType, up, r⟩ written
  refine ⟨?_, fun creates => ?_⟩
  · refine Sending.written_announced qt scaled ?_ written
    cases r with
    | imageResult imageRecord => simp [Report.sending, Sending.isRawImage]
    | imageData picture => exact absurd rfl (plain picture)
  · rw [creates] at picture
    exact absurd picture (by decide)

/-- What was sent on a connection: the request for the channel, and messages behind it. -/
def Opened (sent : List Message) : Prop :=
  ∃ now rest, sent = sendCreateImageReport now :: rest ∧ ∀ m ∈ rest, Regular m

theorem session_snoc (h : List (Turn ι)) (t : Turn ι) :
    session (h ++ [t]) = sessionStep (session h) t := List.foldl_concat ..

variable [DecidableEq ι]

/-- No raw picture is on its way. -/
structure Plain (reports : Admission.State ι Report) : Prop where
  queue : ∀ picture, .imageData picture ∉ reports.queue
  stages : ∀ i picture, reports.stages i ≠ .admitted (.imageData picture) ∧
    reports.stages i ≠ .counted (.imageData picture)

/-- A caller at another stage. -/
theorem Plain.update {reports : Admission.State ι Report} (plain : Plain reports) (i : ι)
    {stage : Admission.Stage Report}
    (other : ∀ picture, stage ≠ .admitted (.imageData picture) ∧
      stage ≠ .counted (.imageData picture)) (j : ι) (picture : ImageData) :
    Function.update reports.stages i stage j ≠ .admitted (.imageData picture) ∧
      Function.update reports.stages i stage j ≠ .counted (.imageData picture) := by
  by_cases this : j = i
  · subst this
    simpa using other picture
  · simpa [this] using plain.stages j picture

theorem Plain.step {reports : Admission.State ι Report} (plain : Plain reports)
    {e : Admission.Event ι Report} (other : ∀ i picture, e ≠ .call i (.imageData picture)) :
    Plain (Admission.step MAX_IMG_REPORT_QUEUE_SIZE reports e).1 := by
  cases e with
  | call i r =>
      unfold Admission.step
      dsimp only
      split
      next idle =>
        split
        next room =>
          refine ⟨plain.queue, plain.update i fun picture => ⟨?_, nofun⟩⟩
          rintro ⟨⟩
          exact other i picture rfl
        next full => exact plain
      next busy => exact plain
  | count i =>
      unfold Admission.step
      dsimp only
      split
      next r admitted =>
        refine ⟨plain.queue, plain.update i fun picture => ⟨nofun, ?_⟩⟩
        rintro ⟨⟩
        exact (plain.stages i picture).1 admitted
      next other => exact plain
  | post i =>
      unfold Admission.step
      dsimp only
      split
      next r counted =>
        refine ⟨fun picture there => ?_, plain.update i fun picture => ⟨nofun, nofun⟩⟩
        rcases List.mem_append.mp there with before | this
        · exact plain.queue picture before
        · obtain rfl := List.mem_singleton.mp this
          exact (plain.stages i picture).2 counted
      next other => exact plain
  | serve =>
      unfold Admission.step
      dsimp only
      split
      next empty => exact plain
      next r rest waiting =>
        refine ⟨fun picture there => plain.queue picture ?_, plain.stages⟩
        rw [waiting]
        exact List.mem_cons_of_mem r there

/-- One step leaves no raw picture on its way, if none is reported in it. -/
theorem step_plain {s : TcpImageReport ι} (plain : Plain s.reports) {e : Event ι}
    (other : ∀ i picture, e ≠ .report i (.imageData picture)) :
    Plain (step qt scaled s e).1.reports := by
  rw [(step_queue qt scaled s e).1]
  cases e with
  | report i r =>
      unfold queueEvents
      dsimp only
      split
      next =>
        refine plain.step fun j picture same => ?_
        obtain ⟨rfl, rfl⟩ := Admission.Event.call.inj same
        exact other i picture rfl
      next => exact plain
  | count i => exact plain.step nofun
  | post i => exact plain.step nofun
  | sendAsync now => exact plain.step nofun
  | _ => exact plain

/-- **What a step sends**: the request for the channel as the connection comes up, an answer, or the
picture of the report it runs. -/
theorem step_messages (s : TcpImageReport ι) (e : Event ι) :
    (∃ now, e = .connected now ∧ s.m_socket = .ConnectingState ∧
      messages (Machine.transition (step qt scaled) s e) = [sendCreateImageReport now]) ∨
    ((∀ now, e = .connected now → s.m_socket ≠ .ConnectingState) ∧
      ∀ m ∈ messages (Machine.transition (step qt scaled) s e), ∃ c : Sending,
        c.written qt scaled = some m ∧
          ((∃ now head, c = .sendResponse now head mediaTypeAck) ∨
            ∃ now r up, r ∈ s.reports.queue ∧ c = r.sending now s.m_mediaReportType up)) := by
  have acted := step_cases qt scaled s e
  unfold messages Machine.transition
  generalize step qt scaled s e = result at acted ⊢
  rcases acted with ⟨ignored, rfl⟩ | moves
  · refine .inr ⟨?_, by simp⟩
    rintro now rfl
    exact ignored
  cases moves with
  | connected now connecting =>
      exact .inl ⟨now, rfl, connecting, by simp [sent, create_written, Output.message?]⟩
  | commanded now head body up command =>
      exact .inr ⟨by simp, fun m there => ⟨_, (mem_sent qt scaled).mp there, .inl ⟨now, head, rfl⟩⟩⟩
  | @served now r rest waiting =>
      refine .inr ⟨by simp, fun m there => ?_⟩
      dsimp only at there
      rw [List.filterMap_cons_none rfl] at there
      exact ⟨_, (mem_sent qt scaled).mp there, .inr ⟨now, r, _, by simp [waiting], rfl⟩⟩
  | report i r may =>
      refine .inr ⟨by simp, fun m there => ?_⟩
      rw [queueStep_eq, queue_message?] at there
      cases there
  | count i =>
      refine .inr ⟨by simp, fun m there => ?_⟩
      rw [queueStep_eq, queue_message?] at there
      cases there
  | post i =>
      refine .inr ⟨by simp, fun m there => ?_⟩
      rw [queueStep_eq, queue_message?] at there
      cases there
  | _ => exact .inr ⟨by simp, by simp [Output.message?]⟩

/-- The reporter goes online as its connection comes up. -/
theorem online_of_step {s : TcpImageReport ι} {e : Event ι}
    (up : (step qt scaled s e).1.m_isOnline = true) :
    s.m_isOnline = true ∨ ∃ now, e = .connected now ∧ s.m_socket = .ConnectingState := by
  have acted := step_cases qt scaled s e
  generalize step qt scaled s e = result at acted up
  rcases acted with ⟨-, rfl⟩ | moves
  · exact .inl up
  cases moves with
  | connected now connecting => exact .inr ⟨now, rfl, connecting⟩
  | disconnected ends => simp [(onDisconnected_keeps _).1] at up
  | error => simp [(onDisconnected_keeps _).1] at up
  | _ => exact .inl up

/-- One step of a connection. -/
theorem step_opened {h : List (Turn ι)} {s : TcpImageReport ι} (plain : Plain s.reports)
    (opened : s.m_isOnline = true → Opened (session h)) (e : Event ι)
    (up : (step qt scaled s e).1.m_isOnline = true) :
    Opened (session (h ++ [Machine.transition (step qt scaled) s e])) := by
  rw [session_snoc]
  rcases step_messages qt scaled s e with ⟨now, rfl, connecting, first⟩ | ⟨other, later⟩
  · refine ⟨now, [], ?_, nofun⟩
    rw [← first]
    exact if_pos connecting
  · have regular : ∀ m ∈ messages (Machine.transition (step qt scaled) s e), Regular m := by
      intro m there
      obtain ⟨c, written, ⟨now, head, rfl⟩ | ⟨now, r, connected, waiting, rfl⟩⟩ := later m there
      · exact response_regular qt scaled written
      · refine picture_regular qt scaled (fun picture same => ?_) written
        rw [same] at waiting
        exact plain.queue picture waiting
    have more : sessionStep (session h) (Machine.transition (step qt scaled) s e) =
        session h ++ messages (Machine.transition (step qt scaled) s e) := by
      unfold sessionStep
      split
      next now event => exact if_neg (other now event)
      next => rfl
    have online : s.m_isOnline = true := by
      rcases online_of_step qt scaled up with before | ⟨now, event, connecting⟩
      · exact before
      · exact absurd connecting (other now event)
    obtain ⟨now, rest, split, before⟩ := opened online
    refine ⟨now, rest ++ messages (Machine.transition (step qt scaled) s e), ?_, ?_⟩
    · rw [more, split, List.cons_append]
    · intro m there
      rcases List.mem_append.mp there with early | this
      · exact before m early
      · exact regular m this

/-- A run without raw pictures. -/
def NoRaw (events : List (Event ι)) : Prop := ∀ i picture, .report i (.imageData picture) ∉ events

theorem run_opened (garbage : UInt64) (events : List (Event ι)) (plain : NoRaw events) :
    Plain (after qt scaled garbage events).reports ∧
      ((after qt scaled garbage events).m_isOnline = true →
        Opened (session (turns qt scaled garbage events))) := by
  induction events using List.reverseRecOn with
  | nil => exact ⟨⟨nofun, fun _ _ => ⟨nofun, nofun⟩⟩, nofun⟩
  | append_singleton events e ih =>
      obtain ⟨queue, opened⟩ := ih fun i picture there => plain i picture (by simp [there])
      have other : ∀ i picture, e ≠ .report i (.imageData picture) := by
        rintro i picture rfl
        exact plain i picture (by simp)
      rw [after, Machine.final_snoc, turns, Machine.trace_snoc]
      exact ⟨step_plain qt scaled queue other, step_opened qt scaled queue opened e⟩

/-- **The media server gets back what was sent**, whatever chunks the bytes of the connection arrive
in: the request for the channel first, and no other behind it. -/
theorem session_received (garbage : UInt64) (events : List (Event ι)) (plain : NoRaw events)
    (online : (after qt scaled garbage events).m_isOnline = true) (wcpHead : PolicyInfoMsgHeader)
    (chunks : List Bytes)
    (whole : chunks.flatten = encodeFrames PolicyInfoMsgHeader.codec
      (session (turns qt scaled garbage events))) :
    (ProtocolStream.receive chunks (ProtocolStream.start wcpHead)).1 =
        session (turns qt scaled garbage events) ∧
      ∃ now rest, session (turns qt scaled garbage events) = sendCreateImageReport now :: rest ∧
        ∀ m ∈ rest, m.1.command ≠ PsCmd.ImageReportCreat.code := by
  obtain ⟨now, rest, split, regular⟩ := (run_opened qt scaled garbage events plain).2 online
  refine ⟨?_, now, rest, split, fun m there => (regular m there).2⟩
  have announced : ∀ m ∈ session (turns qt scaled garbage events), m.1.bodyLen = m.2.length := by
    intro m there
    rw [split] at there
    rcases List.mem_cons.mp there with rfl | later
    · rfl
    · exact (regular m later).1
  have empty : next? PolicyInfoMsgHeader.codec PolicyInfoMsgHeader.bodyLen [] = none :=
    next?_of_short _ _ (fun held => absurd held (by decide))
  have parsed := ProtocolStream.receive_parsed chunks (ProtocolStream.start wcpHead) rfl empty
  rw [show (ProtocolStream.start wcpHead).m_device.buffer = [] from rfl, List.nil_append, whole]
    at parsed
  have cut := (frames_encodeFrames_iff PolicyInfoMsgHeader.codec PolicyInfoMsgHeader.bodyLen
    (by decide) (session (turns qt scaled garbage events))).mpr announced
  have same := ((frames_eq_iff _ _ (by decide)).mpr parsed).symm.trans cut
  exact congrArg Prod.fst same

/-- The channel comes up and a picture goes out; the bytes arrive in two chunks. -/
theorem oneReport_received :
    let h := turns QtJson.reference (fun image _ _ => image) 0 (oneReport ++ [.sendAsync 8])
    let bytes := encodeFrames PolicyInfoMsgHeader.codec (session h)
    (ProtocolStream.receive [bytes.take 40, bytes.drop 40]
      (ProtocolStream.start (sendCreateImageReport 0).1)).1 = session h ∧
      ∃ now rest, session h = sendCreateImageReport now :: rest ∧
        ∀ m ∈ rest, m.1.command ≠ PsCmd.ImageReportCreat.code :=
  session_received QtJson.reference (fun image _ _ => image) 0 (oneReport ++ [.sendAsync 8])
    (by simp [NoRaw, oneReport, opened, establisthTcpReport, channelAnswer]) (by decide +kernel)
    _ _ (by simp)

/-- A step leaves the host alone, but for those that store it. -/
theorem step_host (s : TcpImageReport ι) {e : Event ι} (name : ∀ hostName, e ≠ .hostName hostName)
    (port : ∀ hostPort, e ≠ .hostPort hostPort) :
    (step qt scaled s e).1.m_hostName = s.m_hostName ∧
      (step qt scaled s e).1.m_hostPort = s.m_hostPort := by
  have acted := step_cases qt scaled s e
  generalize step qt scaled s e = result at acted ⊢
  rcases acted with ⟨-, rfl⟩ | moves
  · exact ⟨rfl, rfl⟩
  cases moves with
  | hostName hostName => exact absurd rfl (name hostName)
  | hostPort hostPort => exact absurd rfl (port hostPort)
  | disconnected ends => exact (onDisconnected_keeps _).2.2
  | error => exact (onDisconnected_keeps _).2.2
  | _ => exact ⟨rfl, rfl⟩

omit [DecidableEq ι] in
theorem not_attempt_of_sent {c : Sending} {hostName : Bytes} {hostPort : UInt16} :
    .connectToHost hostName hostPort ∉ sent qt scaled c := by
  simp [sent]

/-- Only the timer makes attempts to connect, to the host of the reporter. -/
theorem connectToHost_mem {s : TcpImageReport ι} {e : Event ι} {hostName : Bytes}
    {hostPort : UInt16} (attempt : .connectToHost hostName hostPort ∈ (step qt scaled s e).2) :
    s.m_timer = true ∧ hostName = s.m_hostName ∧ hostPort = s.m_hostPort := by
  have acted := step_cases qt scaled s e
  have queued : ∀ e, .connectToHost hostName hostPort ∉ (s.queueStep e).2 := by
    simp [queueStep_eq]
  generalize step qt scaled s e = result at acted attempt
  rcases acted with ⟨-, rfl⟩ | moves
  · cases attempt
  cases moves with
  | attempt runs offline => exact ⟨runs, by simpa using attempt⟩
  | connected now connecting => exact absurd attempt (not_attempt_of_sent qt scaled)
  | commanded now head body up command => exact absurd attempt (not_attempt_of_sent qt scaled)
  | served now waiting =>
      rcases List.mem_cons.mp attempt with this | this
      · cases this
      · exact absurd this (not_attempt_of_sent qt scaled)
  | report i r may => exact absurd attempt (queued _)
  | count i => exact absurd attempt (queued _)
  | post i => exact absurd attempt (queued _)
  | _ => cases attempt

/-- Nothing was ever asked of the reporter. -/
structure Dormant (s : TcpImageReport ι) : Prop where
  timer : s.m_timer = false
  starts : s.starts = 0
  socket : s.m_socket = .UnconnectedState

/-- The reporter is asked, or its socket fails. -/
def Event.wakes : Event ι → Prop
  | .invokeStart | .error => True
  | _ => False

theorem Dormant.step {s : TcpImageReport ι} (dormant : Dormant s) {e : Event ι}
    (asleep : ¬ e.wakes) : Dormant (step qt scaled s e).1 := by
  obtain ⟨timer, starts, socket⟩ := dormant
  have acted := step_cases qt scaled s e
  generalize TcpImageReport.step qt scaled s e = result at acted ⊢
  rcases acted with ⟨-, rfl⟩ | moves
  · exact ⟨timer, starts, socket⟩
  cases moves with
  | invokeStart => exact absurd trivial asleep
  | error => exact absurd trivial asleep
  | hostName hostName => exact ⟨timer, starts, socket⟩
  | hostPort hostPort => exact ⟨timer, starts, socket⟩
  | report i r may => exact ⟨timer, starts, socket⟩
  | count i => exact ⟨timer, starts, socket⟩
  | post i => exact ⟨timer, starts, socket⟩
  | served now waiting => exact ⟨timer, starts, socket⟩
  | _ => simp_all

end TcpImageReport

/-! ## The client and the reporter -/

/-- A call of `establisthTcpReport`: the statements that are left of it, and the client behind it. -/
structure Call (ι : Type) where
  statements : List (TcpImageReport.Event ι)
  returns : TcpClient

/-- `TcpClient` and `TcpImageReport`; `ι` are the threads that report pictures. -/
structure Agent (ι : Type) where
  client : TcpClient
  report : TcpImageReport ι
  /-- The call that the client's thread is in. -/
  call : Option (Call ι)

namespace Agent

variable {ι : Type} [DecidableEq ι] (qt : QtJson) (scaled : QImage → Int → Int → QImage)

inductive Event (ι : Type) where
  | client (e : TcpClient.Event)
  /-- The client's thread runs the next statement of its call, or returns from it. -/
  | call
  | report (e : TcpImageReport.Event ι)

inductive Output where
  | client (output : TcpClient.Output)
  | report (output : TcpImageReport.Output)

def constructed (ι : Type) (m_registerMsgTransId m_createReportMsgTransId : UInt64) : Agent ι :=
  { client := TcpClient.constructed m_registerMsgTransId
    report := TcpImageReport.constructed ι m_createReportMsgTransId
    call := none }

/-- The media server that the client hands over. -/
def handedOver : TcpClient.Output → Option (Bytes × UInt16)
  | .establisthTcpReport media_ip media_port => some (media_ip, media_port)
  | _ => none

/-- What the reporter's thread may do: only the client runs `establisthTcpReport`, and a socket that
was never used does not fail. -/
def happens (s : TcpImageReport ι) : TcpImageReport.Event ι → Bool
  | .hostName _ | .hostPort _ | .invokeStart => false
  | .error => s.m_socket ≠ .UnconnectedState
  | _ => true

/-- The client's thread is free: what it does next is a step of `TcpClient`, all of it behind the call
where there is one. -/
def clientStep (s : Agent ι) (e : TcpClient.Event) : Agent ι × List Output :=
  let (client, outputs) := TcpClient.step qt s.client e
  match outputs.filterMap handedOver with
  | [] => ({ s with client := client }, outputs.map .client)
  | media :: _ =>
      ({ s with call := some ⟨TcpImageReport.establisthTcpReport media.1 media.2, client⟩ },
        outputs.map .client)

/-- One step of one of the threads. -/
def step (s : Agent ι) : Event ι → Agent ι × List Output
  | .client e => if s.call.isNone then clientStep qt s e else (s, [])
  | .call =>
      match s.call with
      | none => (s, [])
      | some ⟨[], client⟩ => ({ s with client := client, call := none }, [])
      | some ⟨e :: statements, client⟩ =>
          let (report, outputs) := TcpImageReport.step qt scaled s.report e
          ({ s with report := report, call := some ⟨statements, client⟩ }, outputs.map .report)
  | .report e =>
      if happens s.report e then
        let (report, outputs) := TcpImageReport.step qt scaled s.report e
        ({ s with report := report }, outputs.map .report)
      else (s, [])

/-- The statements that are left of the call. -/
def statements (s : Agent ι) : List (TcpImageReport.Event ι) := s.call.elim [] Call.statements

/-- What a step is for the reporter. -/
def reportEvents (s : Agent ι) : Event ι → List (TcpImageReport.Event ι)
  | .client _ => []
  | .call => s.statements.head?.toList
  | .report e => if happens s.report e then [e] else []

def Output.report? : Output → Option TcpImageReport.Output
  | .report output => some output
  | _ => none

theorem mem_report? {outputs : List Output} {output : TcpImageReport.Output} :
    output ∈ outputs.filterMap Output.report? ↔ .report output ∈ outputs := by
  rw [List.mem_filterMap]
  constructor
  · rintro ⟨_ | other, there, same⟩
    · cases same
    · obtain rfl := Option.some.inj same
      exact there
  · exact fun there => ⟨_, there, rfl⟩

theorem report?_client (outputs : List TcpClient.Output) :
    (outputs.map Output.client).filterMap Output.report? = [] := by
  simp [Output.report?]

theorem report?_report (outputs : List TcpImageReport.Output) :
    (outputs.map Output.report).filterMap Output.report? = outputs := by
  simp [Output.report?, Function.comp_def]

omit [DecidableEq ι] in
/-- A step of a free client leaves the reporter alone. -/
theorem clientStep_report (s : Agent ι) (e : TcpClient.Event) :
    (clientStep qt s e).1.report = s.report ∧
      (clientStep qt s e).2 = (TcpClient.step qt s.client e).2.map .client := by
  unfold clientStep
  dsimp only
  split <;> exact ⟨rfl, rfl⟩

/-- **The reporter is a part of the agent.** -/
def reportPart : Machine.Part (step (ι := ι) qt scaled) (TcpImageReport.step (ι := ι) qt scaled) where
  state s := s.report
  events := reportEvents
  outputs := Output.report?
  after s e := by
    cases e with
    | client e =>
        unfold step reportEvents
        dsimp only
        split
        next => exact (clientStep_report qt s e).1
        next => rfl
    | call =>
        unfold step reportEvents statements
        dsimp only
        split
        next idle => rw [idle]; rfl
        next client ended => rw [ended]; rfl
        next e statements client left => rw [left]; rfl
    | report e =>
        unfold step reportEvents
        dsimp only
        split <;> rfl
  emitted s e := by
    cases e with
    | client e =>
        unfold step reportEvents
        dsimp only
        split
        next => rw [(clientStep_report qt s e).2, report?_client]; rfl
        next => rfl
    | call =>
        unfold step reportEvents statements
        dsimp only
        split
        next idle => rw [idle]; rfl
        next client ended => rw [ended]; rfl
        next e statements client left =>
          rw [left, report?_report]
          exact (List.append_nil _).symm
    | report e =>
        unfold step reportEvents
        dsimp only
        split
        next =>
          rw [report?_report]
          exact (List.append_nil _).symm
        next => rfl

/-- The agent after a run, and its steps. -/
abbrev after (garbage garbage' : UInt64) (events : List (Event ι)) : Agent ι :=
  Machine.final (step qt scaled) (constructed ι garbage garbage') events

abbrev Turn (ι : Type) := Machine.Transition (Agent ι) (Event ι) Output

abbrev turns (garbage garbage' : UInt64) (events : List (Event ι)) : List (Turn ι) :=
  Machine.trace (step qt scaled) (constructed ι garbage garbage') events

/-- The media server of the answer that accepts the client's last registration. -/
def accepts (t : Turn ι) : Option (Bytes × UInt16) :=
  match t.event with
  | .client (.messageCTRL _ head body) =>
      let jsonObj := qt.object body
      if t.before.call.isNone ∧ t.before.client.m_socket = .ConnectedState ∧
          head.command = PsCmd.ACK.code ∧ head.tranId = t.before.client.m_registerMsgTransId ∧
          (jsonObj.get (utf8 "code")).toInt = CTRL_SUCCESS then
        some ((jsonObj.get (utf8 "media_ip")).toString [],
          UInt16.ofInt (jsonObj.get (utf8 "media_port")).toInt)
      else none
  | _ => none

/-- A text that is no JSON has no code. -/
theorem fromJson_of_success {body : Bytes}
    (success : ((qt.object body).get (utf8 "code")).toInt = CTRL_SUCCESS) :
    qt.fromJson body ≠ none := by
  intro none
  rw [QtJson.object, none] at success
  exact absurd success (by decide)

/-- What an answer does. -/
theorem onAck_hands (s : TcpClient) (head : PolicyInfoMsgHeader) (jsonObj : JsonObject) :
    (head.tranId = s.m_registerMsgTransId ∧ (jsonObj.get (utf8 "code")).toInt = CTRL_SUCCESS ∧
      (s.onAck head jsonObj).2.filterMap handedOver =
        [((jsonObj.get (utf8 "media_ip")).toString [],
          UInt16.ofInt (jsonObj.get (utf8 "media_port")).toInt)]) ∨
    (¬ (head.tranId = s.m_registerMsgTransId ∧
        (jsonObj.get (utf8 "code")).toInt = CTRL_SUCCESS) ∧ s.onAck head jsonObj = (s, [])) := by
  unfold TcpClient.onAck
  split
  next own =>
    split
    next refused => exact .inr ⟨fun accepted => refused accepted.2, rfl⟩
    next success => exact .inl ⟨own.symm, not_not.mp success, rfl⟩
  next foreign => exact .inr ⟨fun accepted => foreign accepted.1.symm, rfl⟩

/-- **The client hands over the media server of an accepted answer, and no other**, and is registered
by nothing else. -/
theorem client_hands {s : Agent ι} (free : s.call = none) (e : TcpClient.Event) :
    (∃ media, accepts qt (Machine.transition (step qt scaled) s (.client e)) = some media ∧
      (TcpClient.step qt s.client e).2.filterMap handedOver = [media]) ∨
    (accepts qt (Machine.transition (step qt scaled) s (.client e)) = none ∧
      (TcpClient.step qt s.client e).2.filterMap handedOver = [] ∧
      ((TcpClient.step qt s.client e).1.m_isRegistaredFlag = true →
        s.client.m_isRegistaredFlag = true)) := by
  cases e with
  | start now r =>
      refine .inr ⟨rfl, ?_⟩
      unfold TcpClient.step TcpClient.onTimeout
      dsimp only
      split
      next => split <;> exact ⟨rfl, id⟩
      next => exact ⟨rfl, id⟩
  | timeout now r =>
      refine .inr ⟨rfl, ?_⟩
      unfold TcpClient.step TcpClient.onTimeout
      dsimp only
      split
      next =>
        split
        next => split <;> exact ⟨rfl, id⟩
        next => exact ⟨rfl, id⟩
      next => exact ⟨rfl, id⟩
  | connected now r =>
      refine .inr ⟨rfl, ?_⟩
      unfold TcpClient.step
      dsimp only
      split <;> exact ⟨rfl, id⟩
  | disconnected =>
      refine .inr ⟨rfl, ?_⟩
      unfold TcpClient.step TcpClient.onDisconnected
      dsimp only
      split
      next => split <;> exact ⟨rfl, nofun⟩
      next => exact ⟨rfl, id⟩
  | error =>
      refine .inr ⟨rfl, ?_⟩
      unfold TcpClient.step TcpClient.onDisconnected
      dsimp only
      split <;> exact ⟨rfl, nofun⟩
  | messageCTRL now head body =>
      by_cases up : s.client.m_socket = .ConnectedState
      case neg => exact .inr ⟨by simp [accepts, Machine.transition, up],
        by simp [TcpClient.step, up], by simp [TcpClient.step, up]⟩
      have served : TcpClient.step qt s.client (.messageCTRL now head body) =
          s.client.onMessageCTRL qt now head body := if_pos up
      rw [served]
      by_cases ack : head.command = PsCmd.ACK.code
      · by_cases unreadable : qt.fromJson body = none ∧ head.len ≠ 0
        · refine .inr ⟨?_, ?_⟩
          · have other : ((qt.object body).get (utf8 "code")).toInt ≠ CTRL_SUCCESS :=
              fun success => fromJson_of_success qt success unreadable.1
            simp [accepts, Machine.transition, other]
          · unfold TcpClient.onMessageCTRL
            dsimp only
            rw [if_pos unreadable]
            exact ⟨rfl, id⟩
        · have answered : s.client.onMessageCTRL qt now head body =
              s.client.onAck head (qt.object body) := by
            unfold TcpClient.onMessageCTRL
            dsimp only
            rw [if_neg unreadable, if_pos ack]
          rw [answered]
          rcases onAck_hands s.client head (qt.object body) with ⟨own, success, hands⟩ | ⟨other, still⟩
          · exact .inl
              ⟨_, by simp [accepts, Machine.transition, free, up, ack, own, success], hands⟩
          · refine .inr ⟨?_, by rw [still]; rfl, by rw [still]; exact id⟩
            unfold accepts
            exact if_neg fun accepted => other accepted.2.2.2
      · refine .inr ⟨by simp [accepts, Machine.transition, ack], ?_⟩
        unfold TcpClient.onMessageCTRL TcpClient.onConfigSet
        dsimp only
        split
        next => exact ⟨rfl, id⟩
        next =>
          split
          next => split <;> exact ⟨rfl, id⟩
          next =>
            split
            next => exact ⟨rfl, id⟩
            next => split <;> exact ⟨rfl, id⟩

omit [DecidableEq ι] in
/-- A free client goes on, or calls the reporter with the media server it was handed. -/
theorem clientStep_cases (s : Agent ι) (e : TcpClient.Event) :
    ((TcpClient.step qt s.client e).2.filterMap handedOver = [] ∧
      (clientStep qt s e).1 = { s with client := (TcpClient.step qt s.client e).1 }) ∨
    ∃ media more, (TcpClient.step qt s.client e).2.filterMap handedOver = media :: more ∧
      (clientStep qt s e).1 =
        { s with call := some ⟨TcpImageReport.establisthTcpReport media.1 media.2,
          (TcpClient.step qt s.client e).1⟩ } := by
  unfold clientStep
  dsimp only
  split
  next none => exact .inl ⟨none, rfl⟩
  next media more handed => exact .inr ⟨media, more, handed, rfl⟩

/-- The media servers of the accepted answers, in order. -/
def answers (h : List (Turn ι)) : List (Bytes × UInt16) := h.filterMap (accepts qt)

/-- The media server that is stored, by those that were answered and by what is left of the call. -/
inductive Stored : List (Bytes × UInt16) → List (TcpImageReport.Event ι) → Bytes → UInt16 → Prop
  | called (earlier : List (Bytes × UInt16)) (previous last : Bytes × UInt16) :
      Stored (earlier ++ [previous, last]) (TcpImageReport.establisthTcpReport last.1 last.2)
        previous.1 previous.2
  | hostName (earlier : List (Bytes × UInt16)) (previous last : Bytes × UInt16) :
      Stored (earlier ++ [previous, last]) [.hostPort last.2, .invokeStart] last.1 previous.2
  | hostPort (earlier : List (Bytes × UInt16)) (previous last : Bytes × UInt16) :
      Stored (earlier ++ [previous, last]) [.invokeStart] last.1 last.2
  | invoked (earlier : List (Bytes × UInt16)) (last : Bytes × UInt16) :
      Stored (earlier ++ [last]) [] last.1 last.2

/-- A call was run to its end. -/
def Started (servers : List (Bytes × UInt16)) (statements : List (TcpImageReport.Event ι)) : Prop :=
  2 ≤ servers.length ∨ servers ≠ [] ∧ statements = []

omit [DecidableEq ι] in
/-- Behind a call that was run to its end, nothing is left of what was stored first. -/
theorem Stored.tail {first : Bytes × UInt16} {servers : List (Bytes × UInt16)}
    {statements : List (TcpImageReport.Event ι)} {hostName : Bytes} {hostPort : UInt16}
    (stored : Stored (first :: servers) statements hostName hostPort)
    (started : Started servers statements) : Stored servers statements hostName hostPort := by
  generalize all : first :: servers = l at stored
  cases stored with
  | called earlier previous last =>
      cases earlier with
      | nil => simp_all [Started, TcpImageReport.establisthTcpReport]
      | cons _ earlier =>
          obtain ⟨-, rfl⟩ := List.cons.inj all
          exact .called earlier previous last
  | hostName earlier previous last =>
      cases earlier with
      | nil => simp_all [Started]
      | cons _ earlier =>
          obtain ⟨-, rfl⟩ := List.cons.inj all
          exact .hostName earlier previous last
  | hostPort earlier previous last =>
      cases earlier with
      | nil => simp_all [Started]
      | cons _ earlier =>
          obtain ⟨-, rfl⟩ := List.cons.inj all
          exact .hostPort earlier previous last
  | invoked earlier last =>
      cases earlier with
      | nil => simp_all [Started]
      | cons _ earlier =>
          obtain ⟨-, rfl⟩ := List.cons.inj all
          exact .invoked earlier last

/-- What the agent's history says of its reporter and of its client. -/
structure Invariant (h : List (Turn ι)) (s : Agent ι) : Prop where
  stored : Stored (([], 0) :: answers qt h) s.statements s.report.m_hostName s.report.m_hostPort
  started : s.report.Dormant ∨ Started (answers qt h) s.statements
  registered : s.client.m_isRegistaredFlag = true ∨ s.call.map Call.statements = some [] →
    ∃ t ∈ h, .invokeStart ∈ reportEvents t.before t.event

omit [DecidableEq ι] in
theorem answers_snoc (h : List (Turn ι)) (t : Turn ι) :
    answers qt (h ++ [t]) = answers qt h ++ (accepts qt t).toList :=
  Machine.observe_snoc _ h t

section Step

variable {qt} {h : List (Turn ι)} {s : Agent ι}

omit [DecidableEq ι] in
/-- A step behind which the call and what is stored are as they were. -/
theorem Invariant.keep (inv : Invariant qt h s) {t : Turn ι} (none : accepts qt t = none)
    {s' : Agent ι} (left : s'.statements = s.statements)
    (host : s'.report.m_hostName = s.report.m_hostName ∧ s'.report.m_hostPort = s.report.m_hostPort)
    (dormant : s.report.Dormant → s'.report.Dormant)
    (registered : s'.client.m_isRegistaredFlag = true ∨ s'.call.map Call.statements = some [] →
      s.client.m_isRegistaredFlag = true ∨ s.call.map Call.statements = some []) :
    Invariant qt (h ++ [t]) s' := by
  have same : answers qt (h ++ [t]) = answers qt h := by
    rw [answers_snoc, none]
    exact List.append_nil _
  constructor
  · rw [same, left, host.1, host.2]
    exact inv.stored
  · rw [same, left]
    exact inv.started.imp_left dormant
  · intro up
    obtain ⟨t', there, started⟩ := inv.registered (registered up)
    exact ⟨t', List.mem_append_left _ there, started⟩

omit [DecidableEq ι] in
/-- The client is handed a media server. -/
theorem Invariant.hand (inv : Invariant qt h s) (free : s.call = none) {t : Turn ι}
    {media : Bytes × UInt16} (accepted : accepts qt t = some media) (client : TcpClient) :
    Invariant qt (h ++ [t])
      { s with call := some ⟨TcpImageReport.establisthTcpReport media.1 media.2, client⟩ } := by
  have more : answers qt (h ++ [t]) = answers qt h ++ [media] := by
    rw [answers_snoc, accepted]
    rfl
  have idle : s.statements = [] := by rw [statements, free]; rfl
  obtain ⟨stored, started, registered⟩ := inv
  rw [idle] at stored started
  constructor
  · rw [more, ← List.cons_append]
    generalize ([], 0) :: answers qt h = servers at stored
    dsimp only
    generalize s.report.m_hostName = hostName at stored ⊢
    generalize s.report.m_hostPort = hostPort at stored ⊢
    cases stored with
    | invoked earlier last =>
        rw [List.append_assoc]
        exact .called earlier last media
  · refine started.imp_right fun started => .inl ?_
    rw [more, List.length_append]
    rcases started with many | ⟨some, -⟩
    · exact many.trans (Nat.le_add_right _ _)
    · exact Nat.succ_le_succ (List.length_pos_of_ne_nil some)
  · rintro (up | ended)
    · obtain ⟨t', there, begun⟩ := registered (.inl up)
      exact ⟨t', List.mem_append_left _ there, begun⟩
    · simp [TcpImageReport.establisthTcpReport] at ended

/-- The next statement of a call. -/
theorem Invariant.statement (inv : Invariant qt h s) {e : TcpImageReport.Event ι}
    {left : List (TcpImageReport.Event ι)} {client : TcpClient}
    (calling : s.call = some ⟨e :: left, client⟩) :
    Invariant qt (h ++ [Machine.transition (step qt scaled) s .call])
      { s with report := (TcpImageReport.step qt scaled s.report e).1
               call := some ⟨left, client⟩ } := by
  have same : answers qt (h ++ [Machine.transition (step qt scaled) s .call]) = answers qt h := by
    rw [answers_snoc]
    exact List.append_nil _
  have ahead : s.statements = e :: left := by rw [statements, calling]; rfl
  obtain ⟨stored, started, registered⟩ := inv
  rw [ahead] at stored started
  have before (later : left ≠ []) (up : s.client.m_isRegistaredFlag = true ∨ some left = some []) :
      ∃ t ∈ h ++ [Machine.transition (step qt scaled) s .call],
        .invokeStart ∈ reportEvents t.before t.event := by
    obtain ⟨t', there, begun⟩ :=
      registered (up.imp_right fun ended => absurd (Option.some.inj ended) later)
    exact ⟨t', List.mem_append_left _ there, begun⟩
  have still (asleep : ¬ e.wakes) : (TcpImageReport.step qt scaled s.report e).1.Dormant ∨
      Started (answers qt h) left := by
    refine started.imp (fun dormant => dormant.step qt scaled asleep) fun started => .inl ?_
    exact started.resolve_right fun ended => nomatch ended.2
  rw [← same] at stored still
  generalize all : ([], 0) :: answers qt (h ++ [Machine.transition (step qt scaled) s .call]) =
    servers at stored
  generalize name : s.report.m_hostName = hostName at stored
  generalize port : s.report.m_hostPort = hostPort at stored
  cases stored with
  | called earlier previous last =>
      refine ⟨?_, still not_false, before (List.cons_ne_nil _ _)⟩
      rw [all]
      show Stored _ [.hostPort last.2, .invokeStart] last.1 s.report.m_hostPort
      rw [port]
      exact .hostName earlier previous last
  | hostName earlier previous last =>
      refine ⟨?_, still not_false, before (List.cons_ne_nil _ _)⟩
      rw [all]
      show Stored _ [.invokeStart] s.report.m_hostName last.2
      rw [name]
      exact .hostPort earlier previous last
  | hostPort earlier previous last =>
      refine ⟨?_, .inr (.inr ⟨?_, rfl⟩), fun _ => ?_⟩
      · rw [all]
        show Stored _ [] s.report.m_hostName s.report.m_hostPort
        rw [name, port, List.append_cons]
        exact .invoked (earlier ++ [previous]) last
      · intro none
        rw [none] at all
        have length := congrArg List.length all
        simp at length
      · refine ⟨_, List.mem_append_right _ (List.mem_singleton_self _), ?_⟩
        show .invokeStart ∈ s.statements.head?.toList
        rw [ahead]
        exact List.mem_singleton_self _

omit [DecidableEq ι] in
/-- The client returns from its call. -/
theorem Invariant.return (inv : Invariant qt h s) {client : TcpClient}
    (ended : s.call = some ⟨[], client⟩) {t : Turn ι} (unanswered : accepts qt t = none) :
    Invariant qt (h ++ [t]) { s with client := client, call := none } := by
  refine inv.keep unanswered ?_ ⟨rfl, rfl⟩ id fun _ => .inr ?_
  · rw [statements, statements, ended]
    rfl
  · rw [ended]
    rfl

end Step

/-- **One step keeps it.** -/
theorem step_invariant {h : List (Turn ι)} {s : Agent ι} (inv : Invariant qt h s) (e : Event ι) :
    Invariant qt (h ++ [Machine.transition (step qt scaled) s e]) (step qt scaled s e).1 := by
  cases e with
  | client e =>
      cases free : s.call with
      | some busy =>
          have idle : step qt scaled s (.client e) = (s, []) := by simp [step, free]
          rw [idle]
          refine inv.keep ?_ rfl ⟨rfl, rfl⟩ id id
          cases e <;> simp [accepts, Machine.transition, free]
      | none =>
          have served : step qt scaled s (.client e) = clientStep qt s e := by simp [step, free]
          have moved := clientStep_cases qt s e
          rcases client_hands qt scaled free e with
            ⟨media, accepted, hands⟩ | ⟨unanswered, hands, registers⟩
          · rcases moved with ⟨nothing, -⟩ | ⟨media', more, same, moved⟩
            · rw [hands] at nothing
              cases nothing
            · rw [hands] at same
              obtain ⟨rfl, -⟩ := List.cons.inj same
              rw [served, moved]
              exact inv.hand free accepted _
          · rcases moved with ⟨-, moved⟩ | ⟨media, more, same, -⟩
            · rw [served, moved]
              exact inv.keep unanswered rfl ⟨rfl, rfl⟩ id (Or.imp_left registers)
            · rw [hands] at same
              cases same
  | call =>
      cases calling : s.call with
      | none =>
          have idle : step qt scaled s .call = (s, []) := by simp [step, calling]
          rw [idle]
          exact inv.keep rfl rfl ⟨rfl, rfl⟩ id id
      | some call =>
          obtain ⟨left, client⟩ := call
          cases left with
          | nil =>
              have returned : step qt scaled s .call =
                  ({ s with client := client, call := none }, []) := by simp [step, calling]
              rw [returned]
              exact inv.return calling rfl
          | cons e left =>
              have run : (step qt scaled s .call).1 =
                  { s with report := (TcpImageReport.step qt scaled s.report e).1
                           call := some ⟨left, client⟩ } := by simp [step, calling]
              rw [run]
              exact inv.statement scaled calling
  | report e =>
      by_cases may : happens s.report e = true
      case neg =>
        have idle : step qt scaled s (.report e) = (s, []) := by simp [step, may]
        rw [idle]
        exact inv.keep rfl rfl ⟨rfl, rfl⟩ id id
      have run : (step qt scaled s (.report e)).1 =
          { s with report := (TcpImageReport.step qt scaled s.report e).1 } := by simp [step, may]
      rw [run]
      refine inv.keep rfl rfl ?_ (fun dormant => dormant.step qt scaled ?_) id
      · refine TcpImageReport.step_host qt scaled s.report ?_ ?_
        · rintro hostName rfl
          cases may
        · rintro hostPort rfl
          cases may
      · cases e <;> simp_all [happens, TcpImageReport.Event.wakes, dormant.socket]

theorem invariant_run (garbage garbage' : UInt64) (events : List (Event ι)) :
    Invariant qt (turns qt scaled garbage garbage' events)
      (after qt scaled garbage garbage' events) := by
  refine Machine.run_induction (step qt scaled) (P := Invariant qt) ?_ ?_ events
  · exact ⟨.invoked [] ([], 0), .inl ⟨rfl, rfl, rfl⟩, by simp [constructed, TcpClient.constructed]⟩
  · exact fun es e inv => step_invariant qt scaled inv e

/-- What the agent does as the reporter, the reporter does. -/
theorem step_reported {s : Agent ι} {e : Event ι} {output : TcpImageReport.Output}
    (there : .report output ∈ (step qt scaled s e).2) :
    ∃ e', output ∈ (TcpImageReport.step qt scaled s.report e').2 := by
  unfold step at there
  cases e with
  | client e =>
      dsimp only at there
      split at there
      next =>
        rw [(clientStep_report qt s e).2] at there
        simp at there
      next => cases there
  | call =>
      dsimp only at there
      split at there
      next => cases there
      next => cases there
      next e left client calling => exact ⟨e, by simpa using there⟩
  | report e =>
      dsimp only at there
      split at there
      next => exact ⟨e, by simpa using there⟩
      next => cases there

/-- **The reporter connects to the media server of the last accepted answer**; while that is being
stored, to that of the answer before, or to the new host at the old port. -/
theorem media_host (garbage garbage' : UInt64) (events : List (Event ι)) (e : Event ι)
    {hostName : Bytes} {hostPort : UInt16}
    (attempt : .report (.connectToHost hostName hostPort) ∈
      (step qt scaled (after qt scaled garbage garbage' events) e).2) :
    Stored (answers qt (turns qt scaled garbage garbage' events))
      (after qt scaled garbage garbage' events).statements hostName hostPort := by
  have inv := invariant_run qt scaled garbage garbage' events
  revert attempt inv
  generalize after qt scaled garbage garbage' events = s
  intro attempt inv
  obtain ⟨e, there⟩ := step_reported qt scaled attempt
  obtain ⟨runs, rfl, rfl⟩ := TcpImageReport.connectToHost_mem qt scaled there
  rcases inv.started with dormant | started
  · rw [dormant.timer] at runs
    cases runs
  · exact inv.stored.tail started

/-- The store answers the registration and names a media server. -/
def answer (tranId : UInt64) (media_ip : Bytes) (media_port : Int) : Event Unit :=
  let body := QtJson.reference.toJson .Compact (.object
    [(utf8 "code", int CTRL_SUCCESS), (utf8 "media_ip", .string media_ip),
      (utf8 "media_port", int media_port)])
  .client (.messageCTRL 6
    { tranId := tranId, timeStamp := 6, processId := 0, processType := 0
      command := PsCmd.ACK.code, version := VERSION, len := UInt32.ofNat body.length } body)

/-- What is registered. -/
def registration : TcpClient.Registration :=
  { applicationDirPath := [], AICtrls := [], channelInfers := [], brandId := [] }

/-- The policy store accepts the registration, and the client hands the media server over. -/
def accepted : List (Event Unit) :=
  [.client (.start 1 registration), .client (.connected 5 registration),
    answer 5 (utf8 "media") 9000, .call, .call, .call, .call, .report .started]

/-- The media server is not reached; the console registers again, and is named another.  Of that
the client has stored the host. -/
def torn : List (Event Unit) :=
  accepted ++ [.report .timeout, .report .error, .client .disconnected,
    .client (.timeout 11 registration), .client (.connected 15 registration),
    answer 15 (utf8 "other") 9100, .call]

/-- The reporter's timer fires: it connects to the other host, at the port of the first. -/
theorem torn_host :
    Stored (answers QtJson.reference (turns QtJson.reference (fun image _ _ => image) 0 0 torn))
        (after QtJson.reference (fun image _ _ => image) 0 0 torn).statements (utf8 "other") 9000 ∧
      (utf8 "other", 9000) ∉
        answers QtJson.reference (turns QtJson.reference (fun image _ _ => image) 0 0 torn) :=
  ⟨media_host QtJson.reference (fun image _ _ => image) 0 0 torn (.report .timeout)
    (mem_report?.mp (by decide +kernel)), by decide +kernel⟩

/-- **The channel of a registered console is up or about to connect.** -/
theorem registered_channel (garbage garbage' : UInt64) (events : List (Event ι))
    (registered : (after qt scaled garbage garbage' events).client.m_isRegistaredFlag = true) :
    (after qt scaled garbage garbage' events).report.m_isOnline = true ∨
      TcpImageReport.AboutToConnect qt scaled (after qt scaled garbage garbage' events).report := by
  rcases Bool.eq_false_or_eq_true
    (after qt scaled garbage garbage' events).report.m_isOnline with up | down
  · exact .inl up
  right
  obtain ⟨t, there, begun⟩ :=
    (invariant_run qt scaled garbage garbage' events).registered (.inl registered)
  have established : .invokeStart ∈
      (reportPart qt scaled).history (constructed ι garbage garbage') events :=
    List.mem_flatMap.mpr ⟨t, there, begun⟩
  -- the reporter has run on its own, and was established in that run
  have reached : (after qt scaled garbage garbage' events).report =
      TcpImageReport.after qt scaled garbage'
        ((reportPart qt scaled).history (constructed ι garbage garbage') events) :=
    ((reportPart qt scaled).run (constructed ι garbage garbage') events).1
  rw [reached] at down ⊢
  exact (TcpImageReport.invariant_run qt scaled garbage' _).aboutToConnect scaled
    (TcpImageReport.established_of_mem qt scaled garbage' established) down

theorem accepted_channel :
    (after QtJson.reference (fun image _ _ => image) 0 0 accepted).report.m_isOnline = true ∨
      TcpImageReport.AboutToConnect QtJson.reference (fun image _ _ => image)
        (after QtJson.reference (fun image _ _ => image) 0 0 accepted).report :=
  registered_channel QtJson.reference (fun image _ _ => image) 0 0 accepted (by decide +kernel)

end Agent

end IsgConsole.IopAgent
