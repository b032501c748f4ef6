/-
# IOCtrl.PCPSerialCtrl — an attribute is set over the serial line

A kick is a message that sets one attribute of the board: a head, the name and the value, each with
a zero byte behind it.  `PCP_SendDataAsync` puts it together in a buffer of 128 bytes, and
`IoSendData` sends it in a frame with its length and the sum of its bytes.

The length is checked in characters of the two strings, and what is copied are the bytes the local
codec encodes them in, up to a zero byte.  `main` installs GBK, which has two bytes for a Chinese
character (`LocalCodec`).

* `PCP_SendDataAsync_exact` — **which messages reach the line as they are meant**;
* `chinese_name_overflows` — a name that passes the check and not the buffer.
-/
import Mathlib.Algebra.Order.BigOperators.Group.List
import IsgConsole.Theory.Buffer
import Mathlib.Data.UInt

namespace IsgConsole.IOCtrl.PCPSerialCtrl

open IsgConsole.Theory

set_option autoImplicit false

/-! ## Messages -/

def MAX_PCP_MSG_BUFFER_SIZE : Nat := 128
def COMAND_SET_BATCH_ATTRIBUTE_VAL : UInt8 := 19
def UART_PREAMBLE_CODE : UInt16 := 0x55AA

/-- `UART_FRAME_HEAD` in front of `Data`. -/
structure UartFrameHead where
  preamble : UInt16
  len : UInt16
  CRC : UInt8
  reserve : UInt8
  deriving DecidableEq

namespace UartFrameHead

open FixedCodec in
/-- The packed layout. -/
def codec : FixedCodec UartFrameHead :=
  (pair u16 (pair u16 (pair u8 u8))).imap
    (fun (preamble, len, CRC, reserve) => { preamble, len, CRC, reserve })
    (fun h => (h.preamble, h.len, h.CRC, h.reserve))
    (fun _ => rfl) (fun _ => rfl)

@[simp] theorem codec_width : codec.width = 6 := rfl

/-- `sizeof(UART_FRAME_HEAD)`, with `Data[2]`. -/
def size : Nat := 8

end UartFrameHead

/-- `PCP_MSG_HEAD`, with the union as `iVal`. -/
structure PcpMsgHead where
  MsgLen : UInt32
  FrameLen : UInt16
  MsgCode : UInt8
  DataSegNum : UInt8
  iVal : UInt32
  deriving DecidableEq

namespace PcpMsgHead

open FixedCodec in
/-- The packed layout. -/
def codec : FixedCodec PcpMsgHead :=
  (pair u32 (pair u16 (pair u8 (pair u8 u32)))).imap
    (fun (MsgLen, FrameLen, MsgCode, DataSegNum, iVal) =>
      { MsgLen, FrameLen, MsgCode, DataSegNum, iVal })
    (fun h => (h.MsgLen, h.FrameLen, h.MsgCode, h.DataSegNum, h.iVal))
    (fun _ => rfl) (fun _ => rfl)

@[simp] theorem codec_width : codec.width = 12 := rfl

/-- The head of a message that sets one attribute, as long as it is by now. -/
def setAttribute (MsgLen : Nat) : PcpMsgHead :=
  { MsgLen := UInt32.ofNat MsgLen, FrameLen := 0, MsgCode := COMAND_SET_BATCH_ATTRIBUTE_VAL
    DataSegNum := 1, iVal := 1 }

end PcpMsgHead

/-- A string of UTF-16 characters. -/
abbrev QString := List UInt16

/-- A codec with one or two bytes for a character. -/
structure LocalCodec where
  encode : UInt16 → Bytes
  narrow : ∀ c, (encode c).length = 1 ∨ (encode c).length = 2

/-- `QString::toLocal8Bit`. -/
def LocalCodec.toLocal8Bit (codec : LocalCodec) (s : QString) : Bytes := s.flatMap codec.encode

/-- The characters with two bytes. -/
def LocalCodec.wide (codec : LocalCodec) (s : QString) : Nat :=
  s.countP fun c => (codec.encode c).length = 2

theorem LocalCodec.length_toLocal8Bit (codec : LocalCodec) (s : QString) :
    (codec.toLocal8Bit s).length = s.length + codec.wide s := by
  induction s with
  | nil => rfl
  | cons c s ih =>
      have split : codec.toLocal8Bit (c :: s) = codec.encode c ++ codec.toLocal8Bit s := rfl
      rw [split, List.length_append, ih]
      simp only [LocalCodec.wide, List.countP_cons, List.length_cons]
      rcases codec.narrow c with one | two
      · simp [one]
        omega
      · simp [two]
        omega

/-! ## Sending -/

/-- A C string with its terminator. -/
def terminated (s : Bytes) : Bytes := cString s ++ [0]

variable (codec : LocalCodec) (comName valString : QString)

/-- `CommandBuff` and the length of its message as `IoSendData` receives them; `none` where a string
is copied over the end of the buffer. -/
def commandBuff : Option (Bytes × Nat) := do
  let MsgLen := PcpMsgHead.codec.width
  let CommandBuff ← Buffer.write (List.replicate MAX_PCP_MSG_BUFFER_SIZE 0) 0
    (PcpMsgHead.codec.encode (.setAttribute MsgLen))
  let szAttrNames := codec.toLocal8Bit comName
  let CommandBuff ← Buffer.write CommandBuff MsgLen (terminated szAttrNames)
  let MsgLen := MsgLen + ((cString szAttrNames).length + 1)
  let CommandBuff ← Buffer.write CommandBuff 0 (PcpMsgHead.codec.encode (.setAttribute MsgLen))
  let AttrVals := codec.toLocal8Bit valString
  let CommandBuff ← Buffer.write CommandBuff MsgLen (terminated AttrVals)
  let MsgLen := MsgLen + ((cString AttrVals).length + 1)
  let CommandBuff ← Buffer.write CommandBuff 0 (PcpMsgHead.codec.encode (.setAttribute MsgLen))
  return (CommandBuff, MsgLen)

/-- Whether the serial port is open, and whether it opens where it is not. -/
structure SerialPort where
  isOpen : Bool
  opens : Bool
  deriving DecidableEq

def SerialPort.ready (port : SerialPort) : Bool := port.isOpen || port.opens

/-- `IoSendData`: what it writes, if anything; `none` where it reads or copies over an end. -/
def IoSendData (port : SerialPort) (buf : Bytes) (len : Nat) : Option (Option Bytes) :=
  if ¬ port.ready then some none
  else do
    let pFrame : UartFrameHead :=
      { preamble := UART_PREAMBLE_CODE, len := UInt16.ofNat len, CRC := 0, reserve := 0 }
    let sendBuf ← Buffer.write (List.replicate (MAX_PCP_MSG_BUFFER_SIZE + UartFrameHead.size) 0) 0
      (UartFrameHead.codec.encode pFrame)
    if buf.length < len then none
    else
      let sendBuf ← Buffer.write sendBuf UartFrameHead.codec.width (buf.take len)
      let sum := (buf.take len).foldl (· + ·) 0
      let sendBuf ← Buffer.write sendBuf 0 (UartFrameHead.codec.encode { pFrame with CRC := sum })
      return some (sendBuf.take (UInt16.ofNat (len + UartFrameHead.size - 2)).toNat)

/-- The check in front of a message. -/
def Checked : Prop :=
  PcpMsgHead.codec.width + comName.length + 1 + valString.length + 1 ≤ MAX_PCP_MSG_BUFFER_SIZE

instance : Decidable (Checked comName valString) := by unfold Checked; infer_instance

/-- `PCP_SendDataAsync`: what is written to the line, if anything. -/
def PCP_SendDataAsync (port : SerialPort) : Option (Option Bytes) :=
  if ¬ Checked comName valString then some none
  else do
    let (CommandBuff, MsgLen) ← commandBuff codec comName valString
    IoSendData port CommandBuff MsgLen

/-! ## What is meant -/

/-- The head and both strings with their terminators. -/
def messageSize : Nat :=
  PcpMsgHead.codec.width + ((codec.toLocal8Bit comName).length + 1) +
    ((codec.toLocal8Bit valString).length + 1)

def message : Bytes :=
  PcpMsgHead.codec.encode (.setAttribute (messageSize codec comName valString)) ++
    (codec.toLocal8Bit comName ++ [0]) ++ (codec.toLocal8Bit valString ++ [0])

/-- The frame of some bytes: their number and their sum. -/
def uartFrame (body : Bytes) : Bytes :=
  UartFrameHead.codec.encode
    { preamble := UART_PREAMBLE_CODE, len := UInt16.ofNat body.length, CRC := body.sum
      reserve := 0 } ++ body

/-- The message fits, it has its length in its head, and the line carries it. -/
structure Carried (port : SerialPort) : Prop where
  fits : messageSize codec comName valString ≤ MAX_PCP_MSG_BUFFER_SIZE
  msgLen : ∃ CommandBuff,
    commandBuff codec comName valString = some (CommandBuff, messageSize codec comName valString) ∧
      (PcpMsgHead.codec.decode CommandBuff).MsgLen.toNat = messageSize codec comName valString
  frame : port.ready = true → PCP_SendDataAsync codec comName valString port =
    some (some (uartFrame (message codec comName valString)))

/-! ## Which messages are carried -/

section Carried

variable {codec : LocalCodec} {comName valString : QString}

/-- The length counts every string up to its first zero byte. -/
theorem length_of_commandBuff {CommandBuff : Bytes} {MsgLen : Nat}
    (built : commandBuff codec comName valString = some (CommandBuff, MsgLen)) :
    MsgLen = PcpMsgHead.codec.width + ((cString (codec.toLocal8Bit comName)).length + 1) +
      ((cString (codec.toLocal8Bit valString)).length + 1) := by
  simp only [commandBuff, Option.bind_eq_bind, Option.bind_eq_some_iff] at built
  obtain ⟨_, -, _, -, _, -, _, -, _, -, last⟩ := built
  exact (congrArg Prod.snd (Option.some.inj last)).symm

/-- What is in the buffer in the end. -/
theorem commandBuff_eq (fits : messageSize codec comName valString ≤ MAX_PCP_MSG_BUFFER_SIZE)
    (name : cString (codec.toLocal8Bit comName) = codec.toLocal8Bit comName)
    (value : cString (codec.toLocal8Bit valString) = codec.toLocal8Bit valString) :
    commandBuff codec comName valString =
      some (Buffer.filled (message codec comName valString)
        (MAX_PCP_MSG_BUFFER_SIZE - messageSize codec comName valString),
        messageSize codec comName valString) := by
  have heads : ∀ m n, (PcpMsgHead.codec.encode (.setAttribute m)).length =
      (PcpMsgHead.codec.encode (.setAttribute n)).length := fun m n => by
    rw [FixedCodec.length_encode, FixedCodec.length_encode]
  unfold messageSize MAX_PCP_MSG_BUFFER_SIZE at fits
  rw [PcpMsgHead.codec_width] at fits
  have zeros : List.replicate MAX_PCP_MSG_BUFFER_SIZE 0 =
      Buffer.filled (List.replicate 12 0 ++ []) 116 := rfl
  have first : ∀ MsgLen, Buffer.write (List.replicate MAX_PCP_MSG_BUFFER_SIZE 0) 0
      (PcpMsgHead.codec.encode (.setAttribute MsgLen)) =
        some (Buffer.filled (PcpMsgHead.codec.encode (.setAttribute MsgLen)) 116) := fun MsgLen => by
    rw [zeros, Buffer.write_front (by rw [FixedCodec.length_encode]; rfl), List.append_nil]
  have second : ∀ {front bytes : Bytes} {free place : Nat}, place = front.length →
      bytes.length ≤ free → Buffer.write (Buffer.filled front free) place bytes =
        some (Buffer.filled (front ++ bytes) (free - bytes.length)) := fun {_ _ _ _} at' room => by
    rw [at', Buffer.write_behind room]
  unfold commandBuff terminated
  simp only [name, value, first, Option.bind_eq_bind, Option.bind_some]
  rw [second (by rw [FixedCodec.length_encode]) (by simp; omega), Option.bind_some,
    Buffer.write_front (heads _ _), Option.bind_some,
    second (by simp) (by simp; omega), Option.bind_some, List.append_assoc,
    Buffer.write_front (heads _ _), Option.bind_some, ← List.append_assoc]
  refine congrArg some (Prod.ext ?_ rfl)
  refine congrArg (Buffer.filled _) ?_
  simp only [List.length_append, List.length_singleton, messageSize, PcpMsgHead.codec_width,
    MAX_PCP_MSG_BUFFER_SIZE]
  omega

theorem length_message : (message codec comName valString).length =
    messageSize codec comName valString := by
  simp [message, messageSize]
  omega

/-- A message in front of a buffer is sent in a frame. -/
theorem IoSendData_eq {port : SerialPort} (ready : port.ready = true) {body : Bytes} {free : Nat}
    (whole : body.length + free = MAX_PCP_MSG_BUFFER_SIZE) :
    IoSendData port (Buffer.filled body free) body.length = some (some (uartFrame body)) := by
  unfold MAX_PCP_MSG_BUFFER_SIZE at whole
  have front : (Buffer.filled body free).take body.length = body := List.take_left
  have enough : ¬ (Buffer.filled body free).length < body.length := by
    rw [Buffer.length_filled]
    omega
  have zeros : List.replicate (MAX_PCP_MSG_BUFFER_SIZE + UartFrameHead.size) 0 =
      Buffer.filled (List.replicate 6 0 ++ []) 130 := rfl
  have place : ∀ h, UartFrameHead.codec.width = (UartFrameHead.codec.encode h).length :=
    fun h => (UartFrameHead.codec.length_encode h).symm
  have sum : body.foldl (· + ·) 0 = body.sum := List.sum_eq_foldl.symm
  have written : (UInt16.ofNat (body.length + UartFrameHead.size - 2)).toNat =
      6 + body.length := by
    rw [UInt16.toNat_ofNat', UartFrameHead.size]
    omega
  unfold IoSendData
  simp only [ready, not_true_eq_false, if_false, zeros, Option.bind_eq_bind]
  rw [Buffer.write_front (by rw [FixedCodec.length_encode]; rfl), Option.bind_some, if_neg enough,
    front, List.append_nil, place, Buffer.write_behind (by omega), Option.bind_some,
    Buffer.write_front (by rw [FixedCodec.length_encode, FixedCodec.length_encode]),
    Option.bind_some, written, sum]
  refine congrArg (fun bytes => some (some bytes)) ?_
  exact List.take_left' (by rw [List.length_append, FixedCodec.length_encode]; rfl)

/-- The codec has no zero byte for a string. -/
def ZeroFree (codec : LocalCodec) (s : QString) : Prop := ∀ b ∈ codec.toLocal8Bit s, b ≠ 0

instance (codec : LocalCodec) (s : QString) : Decidable (ZeroFree codec s) :=
  List.decidableBAll (fun b => b ≠ 0) _

/-- **Which messages reach the line as they are meant.**  A message that passes the check is carried
exactly where neither string has a zero byte in it and its characters, those with two bytes counted
twice, fit behind the head. -/
theorem PCP_SendDataAsync_exact (port : SerialPort) (checked : Checked comName valString) :
    Carried codec comName valString port ↔
      (ZeroFree codec comName ∧ ZeroFree codec valString) ∧
        14 + (comName.length + codec.wide comName) + (valString.length + codec.wide valString) ≤
          MAX_PCP_MSG_BUFFER_SIZE := by
  have size : messageSize codec comName valString = 14 + (comName.length + codec.wide comName) +
      (valString.length + codec.wide valString) := by
    rw [messageSize, PcpMsgHead.codec_width, LocalCodec.length_toLocal8Bit,
      LocalCodec.length_toLocal8Bit]
    omega
  rw [← size]
  constructor
  · intro carried
    obtain ⟨CommandBuff, built, -⟩ := carried.msgLen
    have length := length_of_commandBuff built
    have shortName := length_cString_le (codec.toLocal8Bit comName)
    have shortValue := length_cString_le (codec.toLocal8Bit valString)
    unfold messageSize at length
    exact ⟨⟨cString_eq_iff.mp (cString_eq_of_length (by omega)),
      cString_eq_iff.mp (cString_eq_of_length (by omega))⟩, carried.fits⟩
  · rintro ⟨⟨name, value⟩, fits⟩
    have built := commandBuff_eq fits (cString_eq_iff.mpr name) (cString_eq_iff.mpr value)
    refine ⟨fits, ⟨_, built, ?_⟩, fun ready => ?_⟩
    · rw [Buffer.filled, message, List.append_assoc, List.append_assoc,
        FixedCodec.decode_encode_append, PcpMsgHead.setAttribute]
      unfold MAX_PCP_MSG_BUFFER_SIZE at fits
      exact UInt32.toNat_ofNat_of_lt' (fits.trans_lt (by decide))
    · have whole : (message codec comName valString).length +
          (MAX_PCP_MSG_BUFFER_SIZE - messageSize codec comName valString) =
            MAX_PCP_MSG_BUFFER_SIZE := by
        rw [length_message]
        omega
      have sent := IoSendData_eq ready whole
      rw [length_message] at sent
      simp only [PCP_SendDataAsync, checked, not_true_eq_false, if_false, built,
        Option.bind_eq_bind, Option.bind_some, sent]

end Carried

/-- What GBK has for ASCII and for one Chinese character; a question mark for what it does not
have. -/
def gbk : LocalCodec where
  encode c := if c < 0x80 then [c.toUInt8] else if c = 0x4E2D then [0xD6, 0xD0] else [0x3F]
  narrow c := by
    split
    · exact .inl rfl
    · split
      · exact .inr rfl
      · exact .inl rfl

/-- `kick` and `true`. -/
theorem PCP_SendDataAsync_ascii :
    Carried gbk [0x6B, 0x69, 0x63, 0x6B] [0x74, 0x72, 0x75, 0x65]
      { isOpen := true, opens := true } :=
  (PCP_SendDataAsync_exact _ (by decide)).mpr (by decide)

/-- A name of sixty Chinese characters passes the check and is copied over the end. -/
theorem chinese_name_overflows :
    Checked (List.replicate 60 0x4E2D) [0x74] ∧
      commandBuff gbk (List.replicate 60 0x4E2D) [0x74] = none := by
  decide +kernel

end IsgConsole.IOCtrl.PCPSerialCtrl
