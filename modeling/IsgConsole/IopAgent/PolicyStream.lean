/-
# IopAgent.PolicyStream — the byte streams of the policy-store connections

Seven senders write on the policy-store connections.  `Sending` is one call of a sender
with what it reads, `written` the message it hands to `ProtocolStream::sendMessage`.

`selfDelimiting_iff`: cut by the framing rule of the receiver, a stream gives back the
messages that were written exactly when no raw picture is among them.
-/
import IsgConsole.IopAgent.TcpImageReport

namespace IsgConsole.IopAgent

open IsgConsole.Theory IsgConsole.Theory.Framing IsgConsole.BaseLib IsgConsole.Inspector
open IsgConsole.Theory.Json

set_option autoImplicit false

/-- A call of one of the senders. -/
inductive Sending where
  | registerToPolicyStore (now : UInt64) (registration : TcpClient.Registration)
  | sendToPolicyStoreAsync (now tranId : UInt64) (command : UInt16) (jsonObj : JsonObject)
  | onStatisticReportTimeout (now : UInt64) (registaredState : Bool) (TotalCount NgCount : Int)
      (imageMultiplers : List TcpClient.Statistic)
  | sendCreateImageReport (now : UInt64)
  | sendResponse (now : UInt64) (head : PolicyInfoMsgHeader) (jsonObj : JsonObject)
  | sendImageResultToPolicyStoreAsync (now : UInt64) (m_mediaReportType : Int)
      (connectedState : Bool) (imageRecord : ImageResultRecord)
  | sendImageDataToPolicyStoreAsync (now : UInt64) (connectedState : Bool) (imageData : ImageData)

namespace Sending

variable (qt : QtJson) (scaled : QImage → Int → Int → QImage)

/-- The message a call assembles, if it gets that far. -/
def message : Sending → Option Message
  | registerToPolicyStore now registration =>
      some (TcpClient.registerToPolicyStore qt now registration)
  | sendToPolicyStoreAsync now tranId command jsonObj =>
      some (TcpClient.sendToPolicyStoreAsync qt now tranId command jsonObj)
  | onStatisticReportTimeout now registaredState TotalCount NgCount imageMultiplers =>
      TcpClient.onStatisticReportTimeout qt now registaredState TotalCount NgCount imageMultiplers
  | sendCreateImageReport now => some (TcpImageReport.sendCreateImageReport now)
  | sendResponse now head jsonObj => some (TcpImageReport.sendResponse qt now head jsonObj)
  | sendImageResultToPolicyStoreAsync now m_mediaReportType connectedState imageRecord =>
      TcpImageReport.sendImageResultToPolicyStoreAsync scaled now m_mediaReportType connectedState
        imageRecord
  | sendImageDataToPolicyStoreAsync now connectedState imageData =>
      TcpImageReport.sendImageDataToPolicyStoreAsync now connectedState imageData

/-- The size of a `QByteArray` is an `int`: appending past it throws. -/
def fits (m : Message) : Bool := PolicyInfoMsgHeader.codec.width + m.2.length < 2 ^ 31

/-- The message a call writes. -/
def written (c : Sending) : Option Message := (c.message qt scaled).filter fits

/-- The messages a sequence of calls writes, and the bytes that go out. -/
def messages (calls : List Sending) : List Message := calls.filterMap (written qt scaled)

def stream (calls : List Sending) : Bytes :=
  encodeFrames PolicyInfoMsgHeader.codec (messages qt scaled calls)

/-- The call reports a picture. -/
def isImage : Sending → Bool
  | sendImageResultToPolicyStoreAsync .. | sendImageDataToPolicyStoreAsync .. => true
  | _ => false

/-- The call writes a raw picture: the connection is up and the picture fits. -/
def isRawImage : Sending → Bool
  | sendImageDataToPolicyStoreAsync _ connectedState imageData =>
      connectedState ∧ 76 + imageData.imageData.jpg.length < 2 ^ 31
  | _ => false

/-- The receiver gets back what was written: cut by its framing rule the stream is exactly
the messages, every header announces the bytes behind it, and a picture report announces
its info, picture and JSON. -/
structure SelfDelimiting (calls : List Sending) : Prop where
  recovered : frames PolicyInfoMsgHeader.codec PolicyInfoMsgHeader.bodyLen
    (stream qt scaled calls) = (messages qt scaled calls, [])
  announced : ∀ m ∈ messages qt scaled calls, m.1.bodyLen = m.2.length
  pictures : ∀ c ∈ calls, c.isImage → ∀ m, c.written qt scaled = some m →
    m.1.bodyLen = ImageDataInfo.codec.width +
      (ImageDataInfo.codec.decode m.2).imageSize.toNat +
      (ImageDataInfo.codec.decode m.2).jsonSize.toNat

/-- A length that was taken of a body that fits is the length of the body. -/
theorem bodyLen_of_fits {m : Message} (taken : m.1.len = UInt32.ofNat m.2.length)
    (small : fits m) : m.1.bodyLen = m.2.length := by
  have bound : PolicyInfoMsgHeader.codec.width + m.2.length < 2 ^ 31 := of_decide_eq_true small
  have small' : m.2.length < UInt32.size := by
    rw [PolicyInfoMsgHeader.codec_width] at bound
    exact lt_trans (by omega : m.2.length < 2 ^ 31) (by decide)
  rw [PolicyInfoMsgHeader.bodyLen, taken, UInt32.toNat_ofNat_of_lt' small']

/-- Every sender but that of the raw pictures takes the length of its body. -/
theorem message_len {c : Sending} {m : Message} (sent : c.message qt scaled = some m)
    (regular : ∀ now up imageData, c ≠ sendImageDataToPolicyStoreAsync now up imageData) :
    m.1.len = UInt32.ofNat m.2.length := by
  cases c with
  | registerToPolicyStore | sendToPolicyStoreAsync | sendCreateImageReport | sendResponse =>
      obtain rfl := Option.some.inj sent
      rfl
  | onStatisticReportTimeout =>
      simp only [message, TcpClient.onStatisticReportTimeout] at sent
      split at sent
      · obtain rfl := Option.some.inj sent
        rfl
      · cases sent
  | sendImageResultToPolicyStoreAsync =>
      simp only [message, TcpImageReport.sendImageResultToPolicyStoreAsync] at sent
      split_ifs at sent <;>
        · obtain rfl := Option.some.inj sent
          rfl
  | sendImageDataToPolicyStoreAsync now up imageData => exact absurd rfl (regular now up imageData)

theorem written_eq {c : Sending} {m : Message} (written : c.written qt scaled = some m) :
    c.message qt scaled = some m ∧ fits m :=
  Option.filter_eq_some_iff.mp written

/-- A raw picture that is written announces no body. -/
theorem rawImage_written {c : Sending} (raw : c.isRawImage) :
    ∃ m, c.written qt scaled = some m ∧ m.1.bodyLen ≠ m.2.length := by
  cases c with
  | sendImageDataToPolicyStoreAsync now connectedState imageData =>
      obtain ⟨up, small⟩ : connectedState = true ∧ 76 + imageData.imageData.jpg.length < 2 ^ 31 :=
        of_decide_eq_true raw
      subst up
      refine ⟨_, Option.filter_eq_some_iff.mpr ⟨rfl, ?_⟩, ?_⟩
      · simp only [fits, FixedCodec.length_encode, List.length_append,
          PolicyInfoMsgHeader.codec_width, ImageDataInfo.codec_width, decide_eq_true_eq]
        omega
      · show (0 : Nat) ≠ _
        rw [List.length_append, FixedCodec.length_encode, ImageDataInfo.codec_width]
        omega
  | _ => cases raw

/-- The raw sender writes only while connected, and what fits. -/
theorem isRawImage_of_written {now : UInt64} {connectedState : Bool} {imageData : ImageData}
    {m : Message} (written : (sendImageDataToPolicyStoreAsync now connectedState
      imageData).written qt scaled = some m) :
    (sendImageDataToPolicyStoreAsync now connectedState imageData).isRawImage := by
  obtain ⟨sent, small⟩ := written_eq qt scaled written
  simp only [message, TcpImageReport.sendImageDataToPolicyStoreAsync] at sent
  split at sent
  next => cases sent
  next connected =>
      obtain rfl := Option.some.inj sent
      simp only [fits, FixedCodec.length_encode, List.length_append,
        PolicyInfoMsgHeader.codec_width, ImageDataInfo.codec_width, decide_eq_true_eq] at small
      simp only [isRawImage, decide_eq_true_eq]
      exact ⟨not_not.mp connected, by omega⟩

/-- A call that writes no raw picture announces what it writes. -/
theorem written_announced {c : Sending} (regular : ¬ c.isRawImage) {m : Message}
    (written : c.written qt scaled = some m) : m.1.bodyLen = m.2.length := by
  obtain ⟨sent, small⟩ := written_eq qt scaled written
  refine bodyLen_of_fits (message_len qt scaled sent ?_) small
  rintro now up imageData rfl
  exact regular (isRawImage_of_written qt scaled written)

/-- A picture with its result announces its info, picture and JSON. -/
theorem imageResult_pictures {now : UInt64} {m_mediaReportType : Int} {connectedState : Bool}
    {imageRecord : ImageResultRecord} {m : Message}
    (written : (sendImageResultToPolicyStoreAsync now m_mediaReportType connectedState
      imageRecord).written qt scaled = some m) :
    m.1.bodyLen = ImageDataInfo.codec.width +
      (ImageDataInfo.codec.decode m.2).imageSize.toNat +
      (ImageDataInfo.codec.decode m.2).jsonSize.toNat := by
  have announced := written_announced qt scaled (by simp [isRawImage]) written
  obtain ⟨sent, small⟩ := written_eq qt scaled written
  rw [announced]
  simp only [message, TcpImageReport.sendImageResultToPolicyStoreAsync] at sent
  split_ifs at sent
  all_goals
    obtain rfl := Option.some.inj sent
    simp only [fits, FixedCodec.length_encode, List.length_append,
      PolicyInfoMsgHeader.codec_width, ImageDataInfo.codec_width, decide_eq_true_eq] at small
    simp only [List.append_assoc, FixedCodec.decode_encode_append, List.length_append,
      FixedCodec.length_encode]
    rw [UInt32.toNat_ofNat_of_lt' (lt_trans (by omega) (by decide : 2 ^ 31 < UInt32.size)),
      UInt32.toNat_ofNat_of_lt' (lt_trans (by omega) (by decide : 2 ^ 31 < UInt32.size)),
      Nat.add_assoc]

/-- **The streams are self-delimiting exactly when no raw picture is written.**  A raw
picture announces a body of length zero, and the receiver takes its bytes for headers. -/
theorem selfDelimiting_iff (calls : List Sending) :
    SelfDelimiting qt scaled calls ↔ ∀ c ∈ calls, ¬ c.isRawImage := by
  constructor
  · intro good c member raw
    obtain ⟨m, written, silent⟩ := rawImage_written qt scaled raw
    exact silent (good.announced m (List.mem_filterMap.mpr ⟨c, member, written⟩))
  · intro regular
    have announced : ∀ m ∈ messages qt scaled calls, m.1.bodyLen = m.2.length := by
      intro m there
      obtain ⟨c, member, written⟩ := List.mem_filterMap.mp there
      exact written_announced qt scaled (regular c member) written
    refine ⟨?_, announced, ?_⟩
    · rw [stream, frames_encodeFrames_iff _ _ (by decide)]
      exact announced
    · intro c member image m written
      cases c with
      | sendImageResultToPolicyStoreAsync => exact imageResult_pictures qt scaled written
      | sendImageDataToPolicyStoreAsync =>
          exact absurd (isRawImage_of_written qt scaled written) (regular _ member)
      | _ => cases image

/-- A one-byte raw picture, sent in front of a channel request. -/
theorem rawImage_not_selfDelimiting :
    ¬ SelfDelimiting QtJson.reference (fun image _ _ => image)
      [sendImageDataToPolicyStoreAsync 7 true
        { objectId := 0, bReportOrignal := true, bReportBinning := false, cameraId := 1,
          imageId := 1, imageData := { depth := 8, width := 1, height := 1, jpg := [0xFF] },
          genTimeStamp := 7 },
       sendCreateImageReport 8] := by
  intro good
  have announced := good.announced
  revert announced
  decide

end Sending

end IsgConsole.IopAgent
