/-
# BaseLib.ProtocolStream — cutting the policy-store byte stream into messages

`ProtocolStream::onReadyRead` runs whenever bytes have arrived.  It reads a header
inside a device transaction, emits `messageCTRL` when the announced body is there
as well and commits, or rolls the transaction back and waits.

The device is `QIODevice` as far as the loop uses it: a buffer of bytes not yet
dropped and, inside a transaction, how many of them have been read.  `rollback`
un-reads everything read since the start (`read_rollback`), `commit` drops it.

`onReadyRead_parsed` ties one run of the loop to the greedy reading of
`Theory.Framing`; `receive_parsed` carries it over every way of cutting the
stream into arriving chunks.
-/
import IsgConsole.BaseLib.Protocol
import IsgConsole.Theory.Framing

namespace IsgConsole.BaseLib

open IsgConsole.Theory IsgConsole.Theory.Framing

set_option autoImplicit false

/-! ## The device -/

/-- The read side of a `QIODevice`. -/
structure QIODevice where
  buffer : Bytes
  /-- Inside a transaction, the number of buffered bytes already read. -/
  transaction : Option Nat
  deriving DecidableEq

namespace QIODevice

def bytesAvailable (d : QIODevice) : Nat := d.buffer.length - d.transaction.getD 0

def startTransaction (d : QIODevice) : QIODevice := { d with transaction := some 0 }

/-- `read(maxSize)`: at most `maxSize` of the available bytes.  Outside a transaction
they are dropped from the buffer at once. -/
def read (d : QIODevice) (maxSize : Nat) : Bytes × QIODevice :=
  match d.transaction with
  | none => (d.buffer.take maxSize, { d with buffer := d.buffer.drop maxSize })
  | some p =>
      let bytes := (d.buffer.drop p).take maxSize
      (bytes, { d with transaction := some (p + bytes.length) })

def commitTransaction (d : QIODevice) : QIODevice :=
  { buffer := d.buffer.drop (d.transaction.getD 0), transaction := none }

def rollbackTransaction (d : QIODevice) : QIODevice := { d with transaction := none }

/-- Bytes arrive from the peer. -/
def arrive (d : QIODevice) (chunk : Bytes) : QIODevice := { d with buffer := d.buffer ++ chunk }

/-- Rollback restores every byte read since `startTransaction`. -/
theorem read_rollback (d : QIODevice) (n : Nat) :
    (d.startTransaction.read n).2.rollbackTransaction = d.rollbackTransaction := rfl

end QIODevice

/-! ## The receiver -/

structure ProtocolStream where
  m_device : QIODevice
  m_wcpHead : PolicyInfoMsgHeader
  deriving DecidableEq

/-- What `messageCTRL` carries. -/
abbrev MessageCTRL := Frame PolicyInfoMsgHeader

namespace ProtocolStream

/-- One turn of the `while` loop: the message emitted before `continue`, or `none`
for `break`. -/
def turn (s : ProtocolStream) : Option MessageCTRL × ProtocolStream :=
  let bytesAvailable := s.m_device.bytesAvailable
  if PolicyInfoMsgHeader.codec.width ≤ bytesAvailable then
    let header := s.m_device.startTransaction.read PolicyInfoMsgHeader.codec.width
    let head := PolicyInfoMsgHeader.codec.decode header.1
    let bytesAvailable := bytesAvailable - PolicyInfoMsgHeader.codec.width
    if head.bodyLen ≤ bytesAvailable then
      if 0 < head.bodyLen then
        let body := header.2.read head.bodyLen
        (some (head, body.1), { m_device := body.2.commitTransaction, m_wcpHead := head })
      else
        (some (head, []), { m_device := header.2.commitTransaction, m_wcpHead := head })
    else (none, { m_device := header.2.rollbackTransaction, m_wcpHead := head })
  else (none, s)

/-- Everything a turn can do outside a transaction, guards included. -/
theorem turn_cases (s : ProtocolStream) (idle : s.m_device.transaction = none) :
    (∃ m rest, next? PolicyInfoMsgHeader.codec PolicyInfoMsgHeader.bodyLen s.m_device.buffer =
        some (m, rest) ∧
      s.turn = (some m, { m_device := ⟨rest, none⟩, m_wcpHead := m.1 })) ∨
    (next? PolicyInfoMsgHeader.codec PolicyInfoMsgHeader.bodyLen s.m_device.buffer = none ∧
      s.turn.1 = none ∧ s.turn.2.m_device = s.m_device) := by
  obtain ⟨⟨buffer, transaction⟩, wcpHead⟩ := s
  simp only at idle
  subst idle
  by_cases enough : 30 ≤ buffer.length
  · -- What the loop read into `m_wcpHead` is what the greedy reading splits off.
    have rawRead : PolicyInfoMsgHeader.codec.decode (buffer.take 30) =
        PolicyInfoMsgHeader.codec.decode buffer := by
      conv => rhs; rw [← List.take_append_drop 30 buffer]
      rw [PolicyInfoMsgHeader.codec.decode_append _ _ (by simp [enough])]
    by_cases fits : (PolicyInfoMsgHeader.codec.decode buffer).bodyLen ≤ buffer.length - 30
    · refine Or.inl ⟨_, _, next?_of_fits _ _ enough fits, ?_⟩
      by_cases empty : 0 < (PolicyInfoMsgHeader.codec.decode buffer).bodyLen
      · simp [turn, QIODevice.bytesAvailable, QIODevice.startTransaction, QIODevice.read,
          QIODevice.commitTransaction, enough, rawRead, fits, empty]
      · have zero : (PolicyInfoMsgHeader.codec.decode buffer).bodyLen = 0 := by omega
        simp [turn, QIODevice.bytesAvailable, QIODevice.startTransaction, QIODevice.read,
          QIODevice.commitTransaction, enough, rawRead, zero]
    · refine Or.inr ⟨next?_of_short _ _ (fun _ => Nat.not_le.mp fits), ?_, ?_⟩
      · simp [turn, QIODevice.bytesAvailable, QIODevice.startTransaction, QIODevice.read,
          enough, rawRead, fits]
      · simp [turn, QIODevice.bytesAvailable, QIODevice.startTransaction, QIODevice.read,
          QIODevice.rollbackTransaction, enough, rawRead, fits]
  · refine Or.inr ⟨next?_of_short _ _ (fun held => absurd held enough), ?_, ?_⟩ <;>
      simp [turn, QIODevice.bytesAvailable, enough]

/-- A turn that emits drops at least the header it read. -/
theorem turn_shrinks {s s' : ProtocolStream} {m : MessageCTRL} (emitted : s.turn = (some m, s')) :
    s'.m_device.buffer.length < s.m_device.buffer.length := by
  have held : PolicyInfoMsgHeader.codec.width ≤ s.m_device.bytesAvailable := by
    by_contra short
    rw [turn, if_neg short] at emitted
    cases emitted
  have whole : s.m_device.bytesAvailable ≤ s.m_device.buffer.length := Nat.sub_le _ _
  rw [turn, if_pos held] at emitted
  dsimp only at emitted
  split at emitted
  · split at emitted
    all_goals
      rw [Prod.mk.injEq] at emitted
      obtain ⟨-, rfl⟩ := emitted
      rw [PolicyInfoMsgHeader.codec_width] at held
      simp only [QIODevice.commitTransaction, QIODevice.read, QIODevice.startTransaction,
        Option.getD_some, List.length_drop, List.length_take, PolicyInfoMsgHeader.codec_width]
      omega
  · cases emitted

/-- `ProtocolStream::onReadyRead`: the messages emitted and the receiver afterwards. -/
def onReadyRead (s : ProtocolStream) : List MessageCTRL × ProtocolStream :=
  match _turned : s.turn with
  | (some m, s') =>
      let r := onReadyRead s'
      (m :: r.1, r.2)
  | (none, s') => ([], s')
termination_by s.m_device.buffer.length
decreasing_by exact turn_shrinks _turned

/-- **One run of the loop is the greedy reading of the buffered bytes**, and leaves the
incomplete tail in the device, outside any transaction. -/
theorem onReadyRead_parsed (s : ProtocolStream) (idle : s.m_device.transaction = none) :
    Parsed PolicyInfoMsgHeader.codec PolicyInfoMsgHeader.bodyLen s.m_device.buffer
        (onReadyRead s).1 (onReadyRead s).2.m_device.buffer ∧
      (onReadyRead s).2.m_device.transaction = none := by
  induction s using onReadyRead.induct with
  | case1 s m s' turned ih =>
      rw [onReadyRead, turned]
      rcases turn_cases s idle with ⟨m', rest, found, turned'⟩ | ⟨-, quiet, -⟩
      · rw [turned] at turned'
        simp only [Prod.mk.injEq, Option.some.injEq] at turned'
        obtain ⟨rfl, rfl⟩ := turned'
        obtain ⟨later, idle'⟩ := ih rfl
        exact ⟨.frame found later, idle'⟩
      · rw [turned] at quiet
        cases quiet
  | case2 s s' turned =>
      rw [onReadyRead, turned]
      rcases turn_cases s idle with ⟨m', rest, -, turned'⟩ | ⟨short, -, kept⟩
      · rw [turned] at turned'
        cases turned'
      · rw [turned] at kept
        simp only at kept ⊢
        rw [kept]
        exact ⟨.tail short, idle⟩

/-! ## Streams that arrive in chunks -/

/-- Every chunk arrives in the device and triggers `onReadyRead`. -/
def receive : List Bytes → ProtocolStream → List MessageCTRL × ProtocolStream
  | [], s => ([], s)
  | chunk :: chunks, s =>
      let r := onReadyRead { s with m_device := s.m_device.arrive chunk }
      let t := receive chunks r.2
      (r.1 ++ t.1, t.2)

/-- The step and the run in one: what a device that holds the tail `t` of a reading
emits next is the reading of `t` and the chunks behind it. -/
theorem receive_parsed (chunks : List Bytes) (s : ProtocolStream)
    (idle : s.m_device.transaction = none)
    (short : next? PolicyInfoMsgHeader.codec PolicyInfoMsgHeader.bodyLen s.m_device.buffer = none) :
    Parsed PolicyInfoMsgHeader.codec PolicyInfoMsgHeader.bodyLen
      (s.m_device.buffer ++ chunks.flatten) (receive chunks s).1
      (receive chunks s).2.m_device.buffer := by
  induction chunks generalizing s with
  | nil =>
      simp only [receive, List.flatten_nil, List.append_nil]
      exact .tail short
  | cons chunk chunks ih =>
      obtain ⟨parsed, idle'⟩ :=
        onReadyRead_parsed { s with m_device := s.m_device.arrive chunk } idle
      have later := ih _ idle' parsed.tail_short
      have whole := parsed.trans later
      simpa [receive, QIODevice.arrive] using whole

/-- A receiver on a connection that has not delivered anything yet. -/
def start (wcpHead : PolicyInfoMsgHeader) : ProtocolStream :=
  { m_device := ⟨[], none⟩, m_wcpHead := wcpHead }

/-- **Framing does not depend on chunking.**  However a stream is cut into arriving
chunks, the messages emitted are the complete frames of the stream read greedily from
its start, and the device keeps exactly the incomplete tail. -/
theorem receive_chunking (wcpHead : PolicyInfoMsgHeader) (chunks : List Bytes) :
    ((receive chunks (start wcpHead)).1, (receive chunks (start wcpHead)).2.m_device.buffer) =
        frames PolicyInfoMsgHeader.codec PolicyInfoMsgHeader.bodyLen chunks.flatten ∧
      encodeFrames PolicyInfoMsgHeader.codec (receive chunks (start wcpHead)).1 ++
        (receive chunks (start wcpHead)).2.m_device.buffer = chunks.flatten ∧
      next? PolicyInfoMsgHeader.codec PolicyInfoMsgHeader.bodyLen
        (receive chunks (start wcpHead)).2.m_device.buffer = none := by
  have empty : next? PolicyInfoMsgHeader.codec PolicyInfoMsgHeader.bodyLen [] = none :=
    next?_of_short _ _ (fun held => absurd held (by decide))
  have parsed := receive_parsed chunks (start wcpHead) rfl empty
  rw [show (start wcpHead).m_device.buffer = [] from rfl, List.nil_append] at parsed
  refine ⟨?_, parsed.concat, parsed.tail_short⟩
  exact ((frames_eq_iff _ _ (by decide)).mpr parsed).symm

/-! ## Sending -/

/-- `ProtocolStream::sendMessage`, driven by what each `write` call reports: `none` for an
error, `some n` when `n` bytes were taken.  The result is the return value, `none` while
the loop still waits for a `write`, and the bytes the device has taken. -/
def sendMessage : List (Option Nat) → Bytes → Option Bool × Bytes
  | _, [] => (some true, [])
  | [], _ :: _ => (none, [])
  | none :: _, _ :: _ => (some false, [])
  | some bytes :: writes, b :: msg =>
      let r := sendMessage writes ((b :: msg).drop bytes)
      (r.1, (b :: msg).take bytes ++ r.2)

/-- The device has always taken a prefix of the message, and all of it on success. -/
theorem sendMessage_taken (writes : List (Option Nat)) (msg : Bytes) :
    (sendMessage writes msg).2 <+: msg ∧
      ((sendMessage writes msg).1 = some true → (sendMessage writes msg).2 = msg) := by
  induction writes, msg using sendMessage.induct with
  | case1 writes => simp [sendMessage]
  | case2 b msg => simp [sendMessage]
  | case3 writes b msg => simp [sendMessage]
  | case4 bytes writes b msg ih =>
      obtain ⟨⟨rest, taken⟩, whole⟩ := ih
      have cut := List.take_append_drop bytes (b :: msg)
      simp only [sendMessage]
      refine ⟨⟨rest, by rw [List.append_assoc, taken, cut]⟩, ?_⟩
      intro sent
      rw [whole sent, cut]

end ProtocolStream

end IsgConsole.BaseLib
