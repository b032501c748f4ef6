/-
# IopAgent.TcpConnection — registration over a connection that comes and goes

`TcpClient` keeps one connection to the policy store.  When the connection is up it registers,
and again every five seconds until the server acknowledges; when the connection is lost it tries
to reconnect.  One single-shot timer serves both.

The socket is Qt's: `SocketState` is what the client sees of it.  A socket delivers messages only
while it is connected, and reports `connected` only of an attempt that is under way.

* `step_invariant` — what each event leaves of the connection and of its history;
* `registered_answered` — **a registered console has its last request answered, on the connection
  that is up.**
-/
import IsgConsole.IopAgent.TcpClient
import IsgConsole.Theory.Machine

namespace IsgConsole.IopAgent

open IsgConsole.Theory IsgConsole.BaseLib IsgConsole.Theory.Json

set_option autoImplicit false

/-! ## The client -/

/-- `QAbstractSocket::SocketState`; looking the host up counts as connecting. -/
inductive SocketState where
  | UnconnectedState
  | ConnectingState
  | ConnectedState
  | ClosingState
  deriving DecidableEq

namespace SocketState

/-- `connectToHost`: a socket in use refuses. -/
def connectToHost : SocketState → SocketState
  | .UnconnectedState => .ConnectingState
  | state => state

/-- `disconnectFromHost`: a connected socket stops reading and waits for what is unsent. -/
def disconnectFromHost : SocketState → SocketState
  | .ConnectedState => .ClosingState
  | state => state

/-- The state in which `error` is reported: an attempt to connect is over. -/
def failed : SocketState → SocketState
  | .ConnectingState => .UnconnectedState
  | state => state

end SocketState

/-- `TcpClient`, with the two flags of the project that it alone writes. -/
structure TcpClient where
  m_socket : SocketState
  /-- `m_timer` and `m_statisticReportTimer` run. -/
  m_timer : Bool
  m_statisticReportTimer : Bool
  m_registerMsgTransId : UInt64
  m_bCleaned : Bool
  m_isPolicyStoreOnline : Bool
  m_isRegistaredFlag : Bool
  deriving DecidableEq

namespace TcpClient

inductive Output where
  | sendMessage (message : Message)
  | establisthTcpReport (media_ip : Bytes) (media_port : UInt16)
  | setParam (head : PolicyInfoMsgHeader) (jsonObj : JsonObject)
  | sendDataToRealAlarm (head : PolicyInfoMsgHeader) (body : Bytes)
  /-- A command that leaves the connection alone. -/
  | serve (command : PsCmd) (head : PolicyInfoMsgHeader) (jsonObj : JsonObject)

/-- `TcpClient` as it is constructed; nothing sets `m_registerMsgTransId` before the first
registration. -/
def constructed (m_registerMsgTransId : UInt64) : TcpClient :=
  { m_socket := .UnconnectedState, m_timer := false, m_statisticReportTimer := false,
    m_registerMsgTransId := m_registerMsgTransId, m_bCleaned := false,
    m_isPolicyStoreOnline := false, m_isRegistaredFlag := false }

variable (qt : QtJson)

/-- `registerToPolicyStore`: the request is sent and its transaction remembered. -/
def register (s : TcpClient) (now : UInt64) (r : Registration) : TcpClient × List Output :=
  ({ s with m_registerMsgTransId := now }, [.sendMessage (registerToPolicyStore qt now r)])

/-- `TcpClient::onTimeout`. -/
def onTimeout (s : TcpClient) (now : UInt64) (r : Registration) : TcpClient × List Output :=
  if s.m_isPolicyStoreOnline then
    if s.m_isRegistaredFlag then (s, [])
    else
      let (s, sent) := s.register qt now r
      ({ s with m_timer := true }, sent)
  else ({ s with m_socket := s.m_socket.connectToHost }, [])

/-- `TcpClient::onConnected`. -/
def onConnected (s : TcpClient) (now : UInt64) (r : Registration) : TcpClient × List Output :=
  let (s, sent) := { s with m_isPolicyStoreOnline := true }.register qt now r
  ({ s with m_timer := true, m_statisticReportTimer := true }, sent)

/-- `TcpClient::onDisconnected`, which also answers `error`. -/
def onDisconnected (s : TcpClient) : TcpClient :=
  let s := { s with m_isPolicyStoreOnline := false, m_isRegistaredFlag := false }
  if s.m_bCleaned then s
  else
    { s with
      m_socket := s.m_socket.disconnectFromHost
      m_timer := true
      m_statisticReportTimer := false }

/-- A request that cannot be read or served. -/
def badRequest : JsonObject :=
  JsonObject.ofInserts [(utf8 "code", int CTRL_ERROR), (utf8 "message", .string (utf8 "Bad Request"))]

/-- `PsCmd_ACK`: the answer to a registration. -/
def onAck (s : TcpClient) (head : PolicyInfoMsgHeader) (jsonObj : JsonObject) :
    TcpClient × List Output :=
  if s.m_registerMsgTransId = head.tranId then
    if (jsonObj.get (utf8 "code")).toInt ≠ CTRL_SUCCESS then (s, [])
    else
      ({ s with m_isRegistaredFlag := true },
        [.establisthTcpReport ((jsonObj.get (utf8 "media_ip")).toString [])
          (UInt16.ofInt (jsonObj.get (utf8 "media_port")).toInt)])
  else (s, [])

/-- `PsCmd_ConfigSet`: a message older than ten seconds is dropped.  The age is computed in
unsigned 64-bit arithmetic. -/
def onConfigSet (s : TcpClient) (now : UInt64) (head : PolicyInfoMsgHeader) (jsonObj : JsonObject) :
    TcpClient × List Output :=
  if 10000 < now - head.timeStamp then (s, [])
  else (s, [.setParam head jsonObj])

/-- The commands that have a case of their own and leave the connection alone. -/
def served : List PsCmd :=
  [.IasSet, .SetWorkMode, .SpotEnable, .InquireSpotDetectStatus, .Enable, .InquireVersionInfo,
    .CHANGE_BRANDID, .REBOOT]

/-- `TcpClient::onMessageCTRL`. -/
def onMessageCTRL (s : TcpClient) (now : UInt64) (head : PolicyInfoMsgHeader) (body : Bytes) :
    TcpClient × List Output :=
  let jsonObj := qt.object body
  if qt.fromJson body = none ∧ head.len ≠ 0 then
    (s, [.sendMessage (respondToPolicyStore qt now head badRequest)])
  else if head.command = PsCmd.ACK.code then s.onAck head jsonObj
  else if head.command = PsCmd.ConfigSet.code then s.onConfigSet now head jsonObj
  else if head.command = PsCmd.AlarmLedSet.code ∨ head.command = PsCmd.ContinueKickStart.code then
    (s, [.sendDataToRealAlarm head body])
  else
    match served.find? fun command => command.code = head.command with
    | some command => (s, [.serve command head jsonObj])
    | none => (s, [.sendMessage (respondToPolicyStore qt now head badRequest)])

/-! ## Events -/

/-- A signal the client serves.  `now` is the clock and `r` what a registration reads meanwhile. -/
inductive Event where
  | start (now : UInt64) (r : Registration)
  | connected (now : UInt64) (r : Registration)
  | disconnected
  | error
  | timeout (now : UInt64) (r : Registration)
  | messageCTRL (now : UInt64) (head : PolicyInfoMsgHeader) (body : Bytes)
  deriving DecidableEq

/-- One signal.  What the socket or the timer does not report in a state changes nothing. -/
def step (s : TcpClient) : Event → TcpClient × List Output
  | .start now r => s.onTimeout qt now r
  | .connected now r =>
      if s.m_socket = .ConnectingState then
        { s with m_socket := .ConnectedState }.onConnected qt now r
      else (s, [])
  | .disconnected =>
      if s.m_socket = .ConnectedState ∨ s.m_socket = .ClosingState then
        ({ s with m_socket := .UnconnectedState }.onDisconnected, [])
      else (s, [])
  | .error => ({ s with m_socket := s.m_socket.failed }.onDisconnected, [])
  | .timeout now r =>
      if s.m_timer then { s with m_timer := false }.onTimeout qt now r else (s, [])
  | .messageCTRL now head body =>
      if s.m_socket = .ConnectedState then s.onMessageCTRL qt now head body else (s, [])

/-! ## Histories -/

/-- What happens on the connection, as both ends see it. -/
inductive Happening where
  | connected
  | disconnected
  | request (tranId : UInt64)
  | answer (tranId : UInt64) (code : Int)
  deriving DecidableEq

/-- The transaction of a registration that is sent. -/
def requested : Output → Option Happening
  | .sendMessage message =>
      if message.1.command = PsCmd.RegisterToPolicy.code then some (.request message.1.tranId)
      else none
  | _ => none

/-- What the network does in a step. -/
def arrived (s : TcpClient) : Event → List Happening
  | .connected _ _ => if s.m_socket = .ConnectingState then [.connected] else []
  | .disconnected => [.disconnected]
  | .error => [.disconnected]
  | .messageCTRL _ head body =>
      if s.m_socket = .ConnectedState ∧ head.command = PsCmd.ACK.code then
        [.answer head.tranId ((qt.object body).get (utf8 "code")).toInt]
      else []
  | _ => []

def happenings (t : Machine.Transition TcpClient Event Output) : List Happening :=
  arrived qt t.before t.event ++ t.outputs.filterMap requested

/-- The client after a run, and what happened. -/
abbrev after (s : TcpClient) (events : List Event) : TcpClient :=
  Machine.final (step qt) s events

abbrev history (s : TcpClient) (events : List Event) : List Happening :=
  (Machine.trace (step qt) s events).flatMap (happenings qt)

/-- Neither end of a connection. -/
def Happening.inside : Happening → Prop
  | .connected => False
  | .disconnected => False
  | _ => True

/-- The connection is up, `tranId` is the last request sent on it, and `rest` is what came since. -/
def LastRequest (history : List Happening) (tranId : UInt64) (rest : List Happening) : Prop :=
  ∃ earlier first, history = earlier ++ .connected :: (first ++ .request tranId :: rest) ∧
    (∀ h ∈ first ++ rest, h.inside) ∧ ∀ other, .request other ∉ rest

theorem LastRequest.mem {history rest : List Happening} {tranId : UInt64}
    (last : LastRequest history tranId rest) : .request tranId ∈ history := by
  obtain ⟨earlier, first, rfl, -, -⟩ := last
  simp

/-- A new request takes the place of the last one. -/
theorem LastRequest.request {history rest : List Happening} {tranId : UInt64}
    (last : LastRequest history tranId rest) (now : UInt64) :
    LastRequest (history ++ [.request now]) now [] := by
  obtain ⟨earlier, first, rfl, inside, -⟩ := last
  refine ⟨earlier, first ++ .request tranId :: rest, by simp, ?_, nofun⟩
  intro h there
  rw [List.append_nil, List.mem_append, List.mem_cons] at there
  rcases there with before | rfl | behind
  · exact inside h (List.mem_append_left _ before)
  · exact trivial
  · exact inside h (List.mem_append_right _ behind)

theorem LastRequest.answer {history rest : List Happening} {tranId : UInt64}
    (last : LastRequest history tranId rest) (other : UInt64) (code : Int) :
    LastRequest (history ++ [.answer other code]) tranId (rest ++ [.answer other code]) := by
  obtain ⟨earlier, first, rfl, inside, newest⟩ := last
  refine ⟨earlier, first, by simp, ?_, ?_⟩
  · intro h there
    rw [← List.append_assoc, List.mem_append, List.mem_singleton] at there
    rcases there with before | rfl
    · exact inside h before
    · exact trivial
  · intro id there
    rw [List.mem_append, List.mem_singleton] at there
    rcases there with before | this
    · exact newest id before
    · cases this

/-- A connection starts with a request. -/
theorem lastRequest_connected (history : List Happening) (now : UInt64) :
    LastRequest (history ++ [.connected, .request now]) now [] :=
  ⟨history, [], by simp, nofun, nofun⟩

/-! ## Steps -/

section Steps

variable {qt} {s : TcpClient} {h : List Happening}

/-- What the flags say of the history. -/
structure Invariant (h : List Happening) (s : TcpClient) : Prop where
  running : s.m_bCleaned = false
  online : s.m_isPolicyStoreOnline = true ↔ s.m_socket = .ConnectedState
  registered : s.m_isRegistaredFlag = true → s.m_isPolicyStoreOnline = true
  session : s.m_isPolicyStoreOnline = true →
    ∃ rest, LastRequest h s.m_registerMsgTransId rest ∧
      (s.m_isRegistaredFlag = true → .answer s.m_registerMsgTransId CTRL_SUCCESS ∈ rest)

theorem invariant_constructed (garbage : UInt64) : Invariant [] (constructed garbage) :=
  ⟨rfl, by simp [constructed], nofun, nofun⟩

/-- `connectToHost` of a client that is offline leaves it offline. -/
theorem connectToHost_offline {state : SocketState} (down : state ≠ .ConnectedState) :
    state.connectToHost ≠ .ConnectedState := by
  cases state <;> simp_all [SocketState.connectToHost]

theorem disconnectFromHost_offline (state : SocketState) :
    state.disconnectFromHost ≠ .ConnectedState := by
  cases state <;> simp [SocketState.disconnectFromHost]

/-- Another timer does not matter. -/
theorem Invariant.timer (inv : Invariant h s) (m_timer : Bool) :
    Invariant h { s with m_timer := m_timer } :=
  ⟨inv.running, inv.online, inv.registered, inv.session⟩

theorem onTimeout_invariant (inv : Invariant h s) (now : UInt64) (r : Registration) :
    Invariant (h ++ (s.onTimeout qt now r).2.filterMap requested) (s.onTimeout qt now r).1 := by
  unfold onTimeout
  split
  case isTrue up =>
    split
    case isTrue registered => simpa using inv
    case isFalse unregistered =>
      obtain ⟨rest, last, -⟩ := inv.session up
      refine ⟨inv.running, inv.online, inv.registered, fun _ => ⟨[], last.request now, ?_⟩⟩
      intro registered
      exact absurd registered unregistered
  case isFalse down =>
    have offline := connectToHost_offline fun this => down (inv.online.mpr this)
    rw [List.filterMap_nil, List.append_nil]
    refine ⟨inv.running, ⟨fun up => absurd up down, fun this => absurd this offline⟩,
      inv.registered, fun up => absurd up down⟩

theorem onConnected_invariant (inv : Invariant h s) (fresh : s.m_isRegistaredFlag = false)
    (now : UInt64) (r : Registration) :
    Invariant (h ++ [.connected, .request now])
      ({ s with m_socket := .ConnectedState }.onConnected qt now r).1 := by
  refine ⟨inv.running, ⟨fun _ => rfl, fun _ => rfl⟩, fun _ => rfl, ?_⟩
  refine fun _ => ⟨[], lastRequest_connected h now, ?_⟩
  intro registered
  exact absurd registered (by simp [onConnected, register, fresh])

theorem onDisconnected_invariant (running : s.m_bCleaned = false) (h : List Happening) :
    Invariant h s.onDisconnected := by
  have offline := disconnectFromHost_offline s.m_socket
  unfold onDisconnected
  rw [if_neg (by simp [running])]
  exact ⟨running, ⟨nofun, fun this => absurd this offline⟩, nofun, nofun⟩

/-- The success answer to the last request, the one message that counts. -/
def Acknowledges (qt : QtJson) (s : TcpClient) (head : PolicyInfoMsgHeader) (body : Bytes) : Prop :=
  head.command = PsCmd.ACK.code ∧ head.tranId = s.m_registerMsgTransId ∧
    ((qt.object body).get (utf8 "code")).toInt = CTRL_SUCCESS

theorem onAck_cases (head : PolicyInfoMsgHeader) (jsonObj : JsonObject) :
    (s.onAck head jsonObj).2.filterMap requested = [] ∧
      ((s.onAck head jsonObj).1 = s ∨
        (s.onAck head jsonObj).1 = { s with m_isRegistaredFlag := true } ∧
          head.tranId = s.m_registerMsgTransId ∧
          (jsonObj.get (utf8 "code")).toInt = CTRL_SUCCESS) := by
  unfold onAck
  split
  case isTrue own =>
    split
    case isTrue refused => exact ⟨rfl, .inl rfl⟩
    case isFalse success => exact ⟨rfl, .inr ⟨rfl, own.symm, not_not.mp success⟩⟩
  case isFalse foreign => exact ⟨rfl, .inl rfl⟩

/-- Everything a message can do to the connection. -/
theorem onMessageCTRL_cases (qt : QtJson) (s : TcpClient) (now : UInt64)
    (head : PolicyInfoMsgHeader) (body : Bytes) :
    (s.onMessageCTRL qt now head body).2.filterMap requested = [] ∧
      ((s.onMessageCTRL qt now head body).1 = s ∨
        (s.onMessageCTRL qt now head body).1 = { s with m_isRegistaredFlag := true } ∧
          Acknowledges qt s head body) := by
  unfold onMessageCTRL
  dsimp only
  split
  case isTrue unreadable => exact ⟨rfl, .inl rfl⟩
  case isFalse readable =>
    split
    case isTrue ack =>
      obtain ⟨silent, cases⟩ := onAck_cases (s := s) head (qt.object body)
      refine ⟨silent, cases.imp_right ?_⟩
      rintro ⟨after, own, success⟩
      exact ⟨after, ack, own, success⟩
    case isFalse other =>
      split
      case isTrue set =>
        unfold onConfigSet
        split
        case isTrue old => exact ⟨rfl, .inl rfl⟩
        case isFalse fresh => exact ⟨rfl, .inl rfl⟩
      case isFalse other =>
        split
        case isTrue alarm => exact ⟨rfl, .inl rfl⟩
        case isFalse other =>
          split
          case h_1 command known => exact ⟨rfl, .inl rfl⟩
          case h_2 unknown => exact ⟨rfl, .inl rfl⟩

/-- The history of a message, whatever it is. -/
theorem onMessageCTRL_invariant (inv : Invariant h s) (up : s.m_socket = .ConnectedState)
    (now : UInt64) (head : PolicyInfoMsgHeader) (body : Bytes) :
    Invariant (h ++ arrived qt s (.messageCTRL now head body))
      (s.onMessageCTRL qt now head body).1 := by
  have online := inv.online.mpr up
  obtain ⟨rest, last, answered⟩ := inv.session online
  have heard : ∃ rest', LastRequest (h ++ arrived qt s (.messageCTRL now head body))
      s.m_registerMsgTransId rest' ∧
      (s.m_isRegistaredFlag = true → .answer s.m_registerMsgTransId CTRL_SUCCESS ∈ rest') ∧
      (Acknowledges qt s head body →
        .answer s.m_registerMsgTransId CTRL_SUCCESS ∈ rest') := by
    by_cases ack : s.m_socket = .ConnectedState ∧ head.command = PsCmd.ACK.code
    · simp only [arrived, if_pos ack]
      refine ⟨_, last.answer _ _, ?_, ?_⟩
      · intro registered
        exact List.mem_append_left _ (answered registered)
      · rintro ⟨-, own, success⟩
        rw [own, success]
        exact List.mem_append_right _ (List.mem_singleton_self _)
    · simp only [arrived, if_neg ack, List.append_nil]
      refine ⟨rest, last, answered, ?_⟩
      rintro ⟨command, -, -⟩
      exact absurd ⟨up, command⟩ ack
  obtain ⟨rest', last', before, now'⟩ := heard
  obtain ⟨-, same | ⟨changed, acknowledges⟩⟩ := onMessageCTRL_cases qt s now head body
  · rw [same]
    exact ⟨inv.running, inv.online, inv.registered, fun _ => ⟨rest', last', before⟩⟩
  · rw [changed]
    exact ⟨inv.running, inv.online, fun _ => online,
      fun _ => ⟨rest', last', fun _ => now' acknowledges⟩⟩

/-- What happens otherwise does not touch a connection that is down. -/
theorem Invariant.offline (inv : Invariant h s) (down : s.m_socket ≠ .ConnectedState)
    (h' : List Happening) : Invariant h' s :=
  ⟨inv.running, inv.online, inv.registered, fun up => absurd (inv.online.mp up) down⟩

/-- **One event keeps the flags true to the history.** -/
theorem step_invariant (inv : Invariant h s) (e : Event) :
    Invariant (h ++ happenings qt (Machine.transition (step qt) s e)) (step qt s e).1 := by
  show Invariant (h ++ (arrived qt s e ++ (step qt s e).2.filterMap requested)) _
  cases e with
  | start now r => exact onTimeout_invariant inv now r
  | connected now r =>
      unfold step arrived
      dsimp only
      split
      case isTrue connecting =>
        have fresh : s.m_isRegistaredFlag = false := by
          by_contra registered
          have up := inv.online.mp (inv.registered (by simpa using registered))
          simp [up] at connecting
        exact onConnected_invariant inv fresh now r
      case isFalse other => simpa using inv
  | disconnected =>
      unfold step
      dsimp only
      split
      case isTrue there =>
        exact onDisconnected_invariant (s := { s with m_socket := .UnconnectedState }) inv.running _
      case isFalse gone =>
        rw [not_or] at gone
        exact inv.offline gone.1 _
  | error =>
      exact onDisconnected_invariant (s := { s with m_socket := s.m_socket.failed }) inv.running _
  | timeout now r =>
      unfold step arrived
      dsimp only
      split
      case isTrue runs => exact onTimeout_invariant (inv.timer false) now r
      case isFalse stopped => simpa using inv
  | messageCTRL now head body =>
      unfold step
      dsimp only
      split
      case isTrue up =>
        rw [(onMessageCTRL_cases qt s now head body).1, List.append_nil]
        exact onMessageCTRL_invariant inv up now head body
      case isFalse down => exact inv.offline down _

end Steps

/-! ## Registration -/

section Run

variable {qt}

theorem invariant_run (qt : QtJson) (garbage : UInt64) (events : List Event) :
    Invariant (history qt (constructed garbage) events) (after qt (constructed garbage) events) := by
  refine Machine.run_induction (step qt)
    (P := fun h s => Invariant (h.flatMap (happenings qt)) s) ?_ ?_ events
  · exact invariant_constructed garbage
  · intro es e inv
    rw [List.flatMap_append, List.flatMap_singleton]
    exact step_invariant inv e

/-- The transactions of the registrations sent, in order. -/
def requests (h : List Happening) : List UInt64 :=
  h.filterMap fun | .request tranId => some tranId | _ => none

theorem mem_requests {h : List Happening} {tranId : UInt64} :
    tranId ∈ requests h ↔ .request tranId ∈ h := by
  rw [requests, List.mem_filterMap]
  constructor
  · rintro ⟨happening, there, this⟩
    cases happening with
    | request other =>
        obtain rfl := Option.some.inj this
        exact there
    | _ => cases this
  · intro there
    exact ⟨_, there, rfl⟩

theorem requests_append (h h' : List Happening) : requests (h ++ h') = requests h ++ requests h' :=
  List.filterMap_append

theorem requests_cons (tranId : UInt64) (h : List Happening) :
    requests (.request tranId :: h) = tranId :: requests h := rfl

theorem LastRequest.requests {h rest : List Happening} {tranId : UInt64}
    (last : LastRequest h tranId rest) : ∃ ids, requests h = ids ++ [tranId] := by
  obtain ⟨earlier, first, rfl, -, newest⟩ := last
  have none : TcpClient.requests rest = [] := by
    rw [List.eq_nil_iff_forall_not_mem]
    intro id there
    exact newest id (mem_requests.mp there)
  refine ⟨TcpClient.requests (earlier ++ .connected :: first), ?_⟩
  rw [← List.cons_append, ← List.append_assoc, requests_append, requests_cons, none]

/-- Under distinct transactions an earlier request is not the last one. -/
theorem LastRequest.ne_earlier {before later rest : List Happening} {tranId id : UInt64}
    (last : LastRequest (before ++ .request id :: later) tranId rest)
    (distinct : (TcpClient.requests (before ++ .request id :: later)).Nodup)
    (renewed : TcpClient.requests later ≠ []) : id ≠ tranId := by
  rintro rfl
  obtain ⟨ids, ends⟩ := last.requests
  rw [requests_append, requests_cons] at distinct ends
  obtain ⟨front, newest, split⟩ := (List.eq_nil_or_concat _).resolve_left renewed
  rw [List.concat_eq_append] at split
  have fresh : id ∉ TcpClient.requests later :=
    (List.nodup_cons.mp (List.nodup_append.mp distinct).2.1).1
  rw [split, ← List.cons_append, ← List.append_assoc] at ends
  obtain ⟨-, same⟩ := List.append_inj' ends rfl
  obtain rfl : newest = id := by simpa using same
  exact fresh (by simp [split])

/-- A message registers the console, or leaves the client as it is. -/
theorem message_cases (s : TcpClient) (now : UInt64) (head : PolicyInfoMsgHeader) (body : Bytes) :
    (step qt s (.messageCTRL now head body)).1 = s ∨
      s.m_socket = .ConnectedState ∧ Acknowledges qt s head body := by
  unfold step
  dsimp only
  split
  case isTrue up =>
    obtain ⟨-, cases⟩ := onMessageCTRL_cases qt s now head body
    exact cases.imp_right fun acknowledges => ⟨up, acknowledges.2⟩
  case isFalse down => exact .inl rfl

/-- What holds of the registration after a run. -/
structure Safe (qt : QtJson) (s : TcpClient) (events : List Event) : Prop where
  /-- A registered console is online, and its last request on this connection is answered. -/
  answered : (after qt s events).m_isRegistaredFlag = true →
    (after qt s events).m_isPolicyStoreOnline = true ∧
    (after qt s events).m_socket = .ConnectedState ∧
    ∃ tranId rest, LastRequest (history qt s events) tranId rest ∧
      .answer tranId CTRL_SUCCESS ∈ rest
  /-- Only a success answer to the last request registers. -/
  registers : ∀ now head body,
    (step qt (after qt s events) (.messageCTRL now head body)).1.m_isRegistaredFlag = true →
    (after qt s events).m_isRegistaredFlag = true ∨
      (after qt s events).m_socket = .ConnectedState ∧ head.command = PsCmd.ACK.code ∧
      ((qt.object body).get (utf8 "code")).toInt = CTRL_SUCCESS ∧
      ∃ rest, LastRequest (history qt s events) head.tranId rest
  /-- The answer to an earlier request does nothing. -/
  late : ∀ before later now head body,
    history qt s events = before ++ .request head.tranId :: later → requests later ≠ [] →
    (step qt (after qt s events) (.messageCTRL now head body)).1 = after qt s events

/-- **A registered console has its last request answered, on the connection that is up.** -/
theorem registered_answered (garbage : UInt64) (events : List Event)
    (distinct : (requests (history qt (constructed garbage) events)).Nodup) :
    Safe qt (constructed garbage) events := by
  have inv := invariant_run qt garbage events
  constructor
  case answered =>
    intro registered
    have online := inv.registered registered
    obtain ⟨rest, last, acknowledged⟩ := inv.session online
    exact ⟨online, inv.online.mp online, _, rest, last, acknowledged registered⟩
  case registers =>
    intro now head body registered
    rcases message_cases (after qt (constructed garbage) events) now head body with
      same | ⟨up, ack, own, success⟩
    · exact .inl (same ▸ registered)
    · obtain ⟨rest, last, -⟩ := inv.session (inv.online.mpr up)
      exact .inr ⟨up, ack, success, rest, own ▸ last⟩
  case late =>
    intro before later now head body split renewed
    rcases message_cases (after qt (constructed garbage) events) now head body with
      same | ⟨up, -, own, -⟩
    · exact same
    · obtain ⟨rest, last, -⟩ := inv.session (inv.online.mpr up)
      rw [split] at last distinct
      exact absurd own (last.ne_earlier distinct renewed)

/-! ## A reconnect -/

/-- An acknowledgement of a registration. -/
def acknowledgement (tranId : UInt64) : Event :=
  let body := QtJson.reference.toJson .Compact (.object [(utf8 "code", int CTRL_SUCCESS)])
  .messageCTRL 10
    { tranId := tranId, timeStamp := 10, processId := 0, processType := 0
      command := PsCmd.ACK.code, version := VERSION, len := UInt32.ofNat body.length } body

/-- The connection is lost before the first registration is acknowledged; both acknowledgements
arrive on the second one. -/
def reconnects : List Event :=
  let r : Registration :=
    { applicationDirPath := [], AICtrls := [], channelInfers := [], brandId := [] }
  [.start 1 r, .connected 5 r, .error, .disconnected, .timeout 8 r, .connected 9 r,
    acknowledgement 5, acknowledgement 9]

theorem reconnects_registered :
    (after QtJson.reference (constructed 0) reconnects).m_isRegistaredFlag = true ∧
      (requests (history QtJson.reference (constructed 0) reconnects)).Nodup ∧
      Safe QtJson.reference (constructed 0) reconnects := by
  have distinct : (requests (history QtJson.reference (constructed 0) reconnects)).Nodup := by
    decide
  exact ⟨by decide, distinct, registered_answered 0 reconnects distinct⟩

end Run

end TcpClient

end IsgConsole.IopAgent
