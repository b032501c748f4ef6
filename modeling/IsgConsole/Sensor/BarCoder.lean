/-
# Sensor.BarCoder — bar codes from the serial port

The reader sends every code between STX and ETX.  `BarCoderReceiveBytes` appends each chunk
it reads to its buffer, looks for a frame there and emits its code.

Of a chunk only the bytes in front of its first NUL are appended, at most one frame is taken
with each chunk, and the code is cut out at the index STX had before the noise in front of
it was dropped.  `bar_codes_iff` says for which streams and chunks none of this matters.
-/
import IsgConsole.Theory.Bytes
import IsgConsole.Theory.Delimited
import IsgConsole.Theory.Machine

namespace IsgConsole.Sensor

open IsgConsole.Theory

set_option autoImplicit false

/-! ## Byte arrays -/

namespace QByteArray

/-- `QByteArray::indexOf(ch)`. -/
def indexOf (bs : Bytes) (ch : UInt8) : Int :=
  if ch ∈ bs then bs.idxOf ch else -1

/-- `QByteArray::mid(pos, len)`: a negative length reaches to the end. -/
def mid (bs : Bytes) (pos len : Int) : Bytes :=
  if bs.length < pos then []
  else if pos < 0 then
    if len < 0 ∨ bs.length ≤ len + pos then bs else bs.take (len + pos).toNat
  else if len < 0 then bs.drop pos.toNat
  else (bs.drop pos.toNat).take len.toNat

/-- `QByteArray::append(const char *)`. -/
def append (bs : Bytes) (str : Bytes) : Bytes := bs ++ str.takeWhile (· ≠ 0)

end QByteArray

/-! ## The model -/

def STX : UInt8 := 0x02
def ETX : UInt8 := 0x03

/-- What one `readAll()` returns, when bytes are available. -/
structure Chunk where
  bytes : Bytes
  available : bytes ≠ []

namespace BarCoder

/-- A turn of the loop of `BarCoder::BarCoderReceiveBytes`, and the codes it emits. -/
def receiveBytes (m_readData : Bytes) (chunk : Chunk) : Bytes × List Bytes :=
  let m_readData := QByteArray.append m_readData chunk.bytes
  let startIndex := QByteArray.indexOf m_readData STX
  let m_readData :=
    if startIndex = -1 then []
    else if startIndex > 0 then QByteArray.mid m_readData startIndex (-1)
    else m_readData
  let endIndex := QByteArray.indexOf m_readData ETX
  if endIndex < 0 then (m_readData, [])
  else
    (QByteArray.mid m_readData (endIndex + 1) (-1),
      [QByteArray.mid m_readData (startIndex + 1) (endIndex - startIndex - 1)])

/-- The codes emitted for the chunks the port delivers. -/
abbrev receiveCoder (chunks : List Chunk) : List Bytes := Machine.outputs receiveBytes [] chunks

/-- The buffer behind the chunks. -/
abbrev readData (chunks : List Chunk) : Bytes := Machine.final receiveBytes [] chunks

/-! ## One chunk -/

/-- The bytes of a chunk that get into the buffer. -/
def kept (chunk : Chunk) : Bytes := chunk.bytes.takeWhile (· ≠ 0)

/-- What is cut out of the buffer for a code with `before` bytes of noise in front of its
STX. -/
def cutOut (before : Nat) (code rest : Bytes) : Bytes :=
  QByteArray.mid (STX :: (code ++ ETX :: rest)) (before + 1) (code.length - before)

theorem indexOf_append {front : Bytes} {ch : UInt8} (absent : ch ∉ front) (rest : Bytes) :
    QByteArray.indexOf (front ++ ch :: rest) ch = front.length := by
  unfold QByteArray.indexOf
  rw [if_pos (by simp), List.idxOf_append_of_notMem absent, List.idxOf_cons_self, Nat.add_zero]

theorem indexOf_absent {bs : Bytes} {ch : UInt8} (absent : ch ∉ bs) :
    QByteArray.indexOf bs ch = -1 :=
  if_neg absent

theorem mid_rest (front rest : Bytes) :
    QByteArray.mid (front ++ rest) front.length (-1) = rest := by
  unfold QByteArray.mid
  rw [if_neg (by simp), if_neg (by omega), if_pos (by omega)]
  simp

/-- The buffer once everything in front of the first STX is dropped. -/
theorem trimmed {noise : Bytes} (silent : STX ∉ noise) (behind : Bytes) :
    (if QByteArray.indexOf (noise ++ STX :: behind) STX = -1 then []
      else if QByteArray.indexOf (noise ++ STX :: behind) STX > 0 then
        QByteArray.mid (noise ++ STX :: behind)
          (QByteArray.indexOf (noise ++ STX :: behind) STX) (-1)
      else noise ++ STX :: behind) = STX :: behind := by
  rw [indexOf_append silent, if_neg (by omega), mid_rest]
  cases noise with
  | nil => rfl
  | cons b noise => exact if_pos (by simp)

theorem stx_then {code : Bytes} (clean : ETX ∉ code) : ETX ∉ STX :: code := by
  intro there
  rcases List.mem_cons.mp there with this | there
  · exact absurd this (by decide)
  · exact clean there

/-- What a chunk does to the text it completes. -/
inductive Receives (text : Bytes) : Bytes × List Bytes → Prop where
  | silent (silent : STX ∉ text) : Receives text ([], [])
  | begun (noise behind : Bytes) (split : text = noise ++ STX :: behind) (silent : STX ∉ noise)
      (unfinished : ETX ∉ behind) : Receives text (STX :: behind, [])
  | whole (noise code rest : Bytes) (split : text = noise ++ STX :: (code ++ ETX :: rest))
      (silent : STX ∉ noise) (clean : ETX ∉ code) :
      Receives text (rest, [cutOut noise.length code rest])

theorem receiveBytes_spec (m_readData : Bytes) (chunk : Chunk) :
    Receives (m_readData ++ kept chunk) (receiveBytes m_readData chunk) := by
  unfold receiveBytes QByteArray.append
  rw [← kept]
  generalize m_readData ++ kept chunk = text
  cases Delimited.reading STX ETX text with
  | silent silent =>
      dsimp only
      rw [if_pos (indexOf_absent silent)]
      exact .silent silent
  | begun noise behind split silent unfinished =>
      subst split
      dsimp only
      rw [trimmed silent, indexOf_absent (stx_then unfinished)]
      exact .begun noise behind rfl silent unfinished
  | whole noise code rest split silent clean =>
      subst split
      dsimp only
      have front : STX :: (code ++ ETX :: rest) = (STX :: code) ++ ETX :: rest := rfl
      have all : STX :: (code ++ ETX :: rest) = (STX :: (code ++ [ETX])) ++ rest := by simp
      have endIndex : QByteArray.indexOf (STX :: (code ++ ETX :: rest)) ETX = code.length + 1 := by
        rw [front, indexOf_append (stx_then clean)]
        simp
      have behind : QByteArray.mid (STX :: (code ++ ETX :: rest)) (code.length + 1 + 1) (-1) =
          rest := by
        rw [all]
        have long : ((STX :: (code ++ [ETX])).length : Int) = code.length + 1 + 1 := by simp
        rw [← long, mid_rest]
      rw [trimmed silent, indexOf_append silent, endIndex, if_neg (by omega), behind]
      have length : (code.length + 1 - noise.length - 1 : Int) = code.length - noise.length := by
        omega
      rw [length]
      exact .whole noise code rest rfl silent clean

/-- Behind noise the code is cut out right only where bytes like it follow. -/
theorem cutOut_eq_iff (before : Nat) (code rest : Bytes) :
    cutOut before code rest = code ↔
      before = 0 ∨ code.length < before ∧ rest.drop (before - code.length - 1) = code := by
  unfold cutOut QByteArray.mid
  have long : (STX :: (code ++ ETX :: rest)).length = code.length + 2 + rest.length := by
    simp
    omega
  rw [if_neg (show ¬ (before + 1 : Int) < 0 by omega)]
  have position : ((before + 1 : Int)).toNat = before + 1 := by omega
  rw [position, List.drop_succ_cons]
  rcases Nat.lt_or_ge code.length before with behind | inside
  · have dropped : (code ++ ETX :: rest).drop before = rest.drop (before - code.length - 1) := by
      have past : before = (code ++ [ETX]).length + (before - code.length - 1) := by
        simp
        omega
      rw [show code ++ ETX :: rest = (code ++ [ETX]) ++ rest by simp]
      conv_lhs => rw [past]
      rw [List.drop_length_add_append]
    rw [if_pos (show (code.length - before : Int) < 0 by omega), dropped]
    have shape : (if ((STX :: (code ++ ETX :: rest)).length : Int) < before + 1 then []
        else rest.drop (before - code.length - 1)) = rest.drop (before - code.length - 1) := by
      split
      · refine (List.drop_eq_nil_of_le ?_).symm
        omega
      · rfl
    rw [shape]
    constructor
    · intro same
      exact .inr ⟨behind, same⟩
    · rintro (none | ⟨-, same⟩)
      · omega
      · exact same
  · rw [if_neg (by omega), if_neg (by omega)]
    have length : ((code.length : Int) - before).toNat = code.length - before := by omega
    rw [length]
    constructor
    · intro same
      have shorter := congrArg List.length same
      rw [List.length_take] at shorter
      left
      omega
    · rintro (rfl | ⟨behind, -⟩)
      · simp
      · omega

/-! ## The chunks of a stream -/

/-- The bytes that get into the buffer. -/
def keptBytes (chunks : List Chunk) : Bytes := chunks.flatMap kept

/-- The code of a frame in the buffer is cut out right: no noise is dropped in front of it,
or the bytes that are cut out behind the frame happen to be the same. -/
def CutsRight (m_readData : Bytes) (chunk : Chunk) : Prop :=
  ∀ noise code rest, m_readData ++ kept chunk = noise ++ STX :: (code ++ ETX :: rest) →
    STX ∉ noise → ETX ∉ code →
    noise = [] ∨ code.length < noise.length ∧ rest.drop (noise.length - code.length - 1) = code

/-- Every chunk finds a buffer in which codes are cut out right. -/
def AllRight (m_readData : Bytes) (chunks : List Chunk) : Prop :=
  Machine.Always
    (fun first chunk => CutsRight (Machine.final receiveBytes m_readData first) chunk) chunks

theorem cutsRight_whole {m_readData noise code rest : Bytes} {chunk : Chunk}
    (split : m_readData ++ kept chunk = noise ++ STX :: (code ++ ETX :: rest))
    (silent : STX ∉ noise) (clean : ETX ∉ code) :
    CutsRight m_readData chunk ↔ cutOut noise.length code rest = code := by
  rw [cutOut_eq_iff, List.length_eq_zero_iff]
  constructor
  · intro right
    exact right noise code rest split silent clean
  · intro right noise' code' rest' split' silent' clean'
    obtain ⟨rfl, behind⟩ := Delimited.split_unique silent silent' (split.symm.trans split')
    obtain ⟨rfl, rfl⟩ := Delimited.split_unique clean clean' behind
    exact right

theorem cutsRight_of_none {m_readData : Bytes} {chunk : Chunk}
    (none : ∀ noise code rest, STX ∉ noise →
      m_readData ++ kept chunk ≠ noise ++ STX :: (code ++ ETX :: rest)) :
    CutsRight m_readData chunk := by
  intro noise code rest split silent
  exact absurd split (none noise code rest silent)

/-- A chunk takes at most one frame of the buffer, and the others stay. -/
theorem frames_step (m_readData : Bytes) (chunk : Chunk) (more : Bytes) :
    ∃ taken,
      Delimited.frames STX ETX (m_readData ++ kept chunk ++ more) =
        taken ++ Delimited.frames STX ETX ((receiveBytes m_readData chunk).1 ++ more) ∧
      (receiveBytes m_readData chunk).2.length = taken.length ∧
      ((receiveBytes m_readData chunk).2 = taken ↔ CutsRight m_readData chunk) := by
  have received := receiveBytes_spec m_readData chunk
  generalize receiveBytes m_readData chunk = r at received ⊢
  generalize buffer : m_readData ++ kept chunk = text at received ⊢
  cases received with
  | silent silent =>
      refine ⟨[], Delimited.scan_silent silent _, rfl, iff_of_true rfl ?_⟩
      refine cutsRight_of_none fun noise code rest _ split => silent ?_
      rw [← buffer, split]
      simp
  | begun noise behind split silent unfinished =>
      refine ⟨[], ?_, rfl, iff_of_true rfl ?_⟩
      · rw [split, List.append_assoc]
        exact Delimited.scan_silent silent _
      · refine cutsRight_of_none fun noise' code rest silent' split' => unfinished ?_
        have same := split.symm.trans (buffer.symm.trans split')
        rw [(Delimited.split_unique silent silent' same).2]
        simp
  | whole noise code rest split silent clean =>
      refine ⟨[code], ?_, rfl, ?_⟩
      · rw [split, List.singleton_append, ← Delimited.frames_whole silent clean]
        simp
      · rw [cutsRight_whole (buffer.trans split) silent clean]
        exact List.singleton_inj

/-- The frames of the buffer and the chunks are taken one by one, and the others stay. -/
theorem frames_run (chunks : List Chunk) (m_readData : Bytes) :
    ∃ taken,
      Delimited.frames STX ETX (m_readData ++ keptBytes chunks) =
        taken ++ Delimited.frames STX ETX (Machine.final receiveBytes m_readData chunks) ∧
      (Machine.outputs receiveBytes m_readData chunks).length = taken.length ∧
      (Machine.outputs receiveBytes m_readData chunks = taken ↔ AllRight m_readData chunks) := by
  induction chunks generalizing m_readData with
  | nil =>
      refine ⟨[], ?_, rfl, iff_of_true rfl Machine.always_nil⟩
      rw [keptBytes, List.flatMap_nil, List.append_nil]
      rfl
  | cons chunk chunks ih =>
      obtain ⟨first, frames, length, same⟩ := frames_step m_readData chunk (keptBytes chunks)
      obtain ⟨later, frames', length', same'⟩ := ih (receiveBytes m_readData chunk).1
      have right : AllRight m_readData (chunk :: chunks) ↔
          CutsRight m_readData chunk ∧ AllRight (receiveBytes m_readData chunk).1 chunks :=
        Machine.always_cons
      have outputs : Machine.outputs receiveBytes m_readData (chunk :: chunks) =
          (receiveBytes m_readData chunk).2 ++
            Machine.outputs receiveBytes (receiveBytes m_readData chunk).1 chunks := rfl
      refine ⟨first ++ later, ?_, ?_, ?_⟩
      · rw [frames', ← List.append_assoc] at frames
        rw [keptBytes, List.flatMap_cons, ← List.append_assoc]
        exact frames
      · rw [outputs, List.length_append, List.length_append, length, length']
      · rw [outputs, right, ← same, ← same']
        constructor
        · exact fun all => List.append_inj all length
        · rintro ⟨now, behind⟩
          rw [now, behind]

/-! ## Streams of the reader -/

/-- A code is free of marks and NULs. -/
def IsCode (code : Bytes) : Prop := ∀ b ∈ code, b ≠ STX ∧ b ≠ ETX ∧ b ≠ 0

/-- Streams of frames with noise between them, which may end within a frame, and the codes
of their complete frames. -/
inductive IsStream : Bytes → List Bytes → Prop where
  | noise (noise : Bytes) (silent : STX ∉ noise) : IsStream noise []
  | begun (noise code : Bytes) (silent : STX ∉ noise) (isCode : IsCode code) :
      IsStream (noise ++ STX :: code) []
  | frame (noise code rest : Bytes) (codes : List Bytes) (silent : STX ∉ noise)
      (isCode : IsCode code) (more : IsStream rest codes) :
      IsStream (noise ++ STX :: (code ++ ETX :: rest)) (code :: codes)

theorem IsCode.clean {code : Bytes} (isCode : IsCode code) : ETX ∉ code := by
  intro there
  exact (isCode ETX there).2.1 rfl

/-- The codes are those of the reference reading. -/
theorem IsStream.frames {bs : Bytes} {codes : List Bytes} (stream : IsStream bs codes) :
    Delimited.frames STX ETX bs = codes := by
  induction stream with
  | noise noise silent => exact Delimited.frames_silent silent
  | begun noise code silent isCode => exact Delimited.frames_begun silent isCode.clean
  | frame noise code rest codes silent isCode more ih =>
      rw [Delimited.frames_whole silent isCode.clean, ih]

/-- No STX and no NUL stands in a code, from within a code or between frames. -/
def InStream : Option Bytes → Bytes → Prop
  | _, [] => True
  | none, b :: bs => if b = STX then InStream (some []) bs else InStream none bs
  | some code, b :: bs =>
      if b = ETX then InStream none bs else b ≠ STX ∧ b ≠ 0 ∧ InStream (some (code ++ [b])) bs

theorem inStream_silent {noise : Bytes} (silent : STX ∉ noise) {bs : Bytes}
    (more : InStream none bs) : InStream none (noise ++ bs) := by
  induction noise with
  | nil => exact more
  | cons b noise ih =>
      obtain ⟨other, silent⟩ := List.ne_and_not_mem_of_not_mem_cons silent
      rw [List.cons_append, InStream, if_neg (Ne.symm other)]
      exact ih silent

theorem inStream_code {code : Bytes} (isCode : IsCode code) {bs : Bytes}
    (more : ∀ got, InStream (some got) bs) (got : Bytes) : InStream (some got) (code ++ bs) := by
  induction code generalizing got with
  | nil => exact more got
  | cons b code ih =>
      obtain ⟨noStart, noStop, noNul⟩ := isCode b List.mem_cons_self
      rw [List.cons_append, InStream, if_neg noStop]
      exact ⟨noStart, noNul, ih (fun c there => isCode c (List.mem_cons_of_mem _ there)) _⟩

theorem IsStream.inStream {bs : Bytes} {codes : List Bytes} (stream : IsStream bs codes) :
    InStream none bs := by
  induction stream with
  | noise noise silent =>
      rw [← List.append_nil noise]
      exact inStream_silent silent trivial
  | begun noise code silent isCode =>
      refine inStream_silent silent ?_
      rw [InStream, if_pos rfl]
      rw [← List.append_nil code]
      exact inStream_code isCode (fun got => show InStream (some got) [] from trivial) []
  | frame noise code rest codes silent isCode more ih =>
      refine inStream_silent silent ?_
      rw [InStream, if_pos rfl]
      refine inStream_code isCode (fun got => ?_) []
      rw [InStream, if_pos rfl]
      exact ih

/-! ## Cut chunks -/

/-- The reading of the bytes that are kept is that of the stream, or it is between frames
because the front of the frame was lost. -/
def Behind (state state' : Option Bytes) : Prop := state = none ∨ state = state'

/-- Bytes that are lost between frames take frames away and add none. -/
theorem lost_sublist {lost bs bs' : Bytes}
    (rest : ∀ state, InStream state bs → (Delimited.scan STX ETX none bs').Sublist
      (Delimited.scan STX ETX state bs)) (state : Option Bytes)
    (stream : InStream state (lost ++ bs)) :
    (Delimited.scan STX ETX none bs').Sublist (Delimited.scan STX ETX state (lost ++ bs)) := by
  induction lost generalizing state with
  | nil => exact rest state stream
  | cons b lost ih =>
      rw [List.cons_append] at stream ⊢
      cases state with
      | none =>
          rw [Delimited.scan]
          rw [InStream] at stream
          by_cases first : b = STX
          · rw [if_pos first] at stream ⊢
            exact ih _ stream
          · rw [if_neg first] at stream ⊢
            exact ih _ stream
      | some code =>
          rw [Delimited.scan]
          rw [InStream] at stream
          by_cases last : b = ETX
          · rw [if_pos last] at stream ⊢
            exact (ih _ stream).cons _
          · rw [if_neg last] at stream ⊢
            exact ih _ stream.2.2

/-- A byte that is read on both sides keeps the one behind the other. -/
theorem byte_sublist {b : UInt8} {bs bs' : Bytes}
    (rest : ∀ state state', Behind state state' → InStream state' bs →
      (Delimited.scan STX ETX state bs').Sublist (Delimited.scan STX ETX state' bs))
    {state state' : Option Bytes} (behind : Behind state state')
    (stream : InStream state' (b :: bs)) :
    (Delimited.scan STX ETX state (b :: bs')).Sublist
      (Delimited.scan STX ETX state' (b :: bs)) := by
  cases state' with
  | none =>
      obtain rfl : state = none := behind.elim id id
      rw [InStream] at stream
      rw [Delimited.scan, Delimited.scan]
      by_cases first : b = STX
      · rw [if_pos first] at stream ⊢
        rw [if_pos first]
        exact rest _ _ (.inr rfl) stream
      · rw [if_neg first] at stream ⊢
        rw [if_neg first]
        exact rest _ _ (.inr rfl) stream
  | some code =>
      rw [InStream] at stream
      by_cases last : b = ETX
      · rw [if_pos last] at stream
        have other : b ≠ STX := by
          rw [last]
          decide
        rcases behind with rfl | rfl
        · rw [Delimited.scan, if_neg other, Delimited.scan, if_pos last]
          exact (rest _ _ (.inr rfl) stream).cons _
        · rw [Delimited.scan, if_pos last, Delimited.scan, if_pos last]
          exact (rest _ _ (.inr rfl) stream).cons_cons _
      · rw [if_neg last] at stream
        obtain ⟨noStart, -, stream⟩ := stream
        rcases behind with rfl | rfl
        · rw [Delimited.scan, if_neg noStart, Delimited.scan, if_neg last]
          exact rest _ _ (.inl rfl) stream
        · rw [Delimited.scan, if_neg last, Delimited.scan, if_neg last]
          exact rest _ _ (.inr rfl) stream

/-- A chunk that is cut at a NUL loses frames and adds none. -/
theorem chunk_sublist {bytes bs bs' : Bytes}
    (rest : ∀ state state', Behind state state' → InStream state' bs →
      (Delimited.scan STX ETX state bs').Sublist (Delimited.scan STX ETX state' bs))
    {state state' : Option Bytes} (behind : Behind state state')
    (stream : InStream state' (bytes ++ bs)) :
    (Delimited.scan STX ETX state (bytes.takeWhile (· ≠ 0) ++ bs')).Sublist
      (Delimited.scan STX ETX state' (bytes ++ bs)) := by
  induction bytes generalizing state state' with
  | nil => exact rest state state' behind stream
  | cons b bytes ih =>
      rw [List.cons_append] at stream ⊢
      by_cases nul : b = 0
      · -- the rest of the chunk is lost, and the NUL is not in a code
        rw [List.takeWhile_cons_of_neg (by simp [nul]), List.nil_append]
        cases state' with
        | none =>
            obtain rfl : state = none := behind.elim id id
            rw [← List.cons_append] at stream ⊢
            exact lost_sublist (fun state stream => rest none state (.inl rfl) stream) none stream
        | some code =>
            rw [InStream, if_neg (by rw [nul]; decide)] at stream
            exact absurd nul stream.2.1
      · rw [List.takeWhile_cons_of_pos (by simp [nul]), List.cons_append]
        exact byte_sublist (fun _ _ behind stream => ih behind stream) behind stream

/-- The bytes that arrive. -/
def streamOf (chunks : List Chunk) : Bytes := chunks.flatMap Chunk.bytes

theorem kept_sublist {chunks : List Chunk} {state state' : Option Bytes}
    (behind : Behind state state') (stream : InStream state' (streamOf chunks)) :
    (Delimited.scan STX ETX state (keptBytes chunks)).Sublist
      (Delimited.scan STX ETX state' (streamOf chunks)) := by
  induction chunks generalizing state state' with
  | nil => cases state <;> cases state' <;> exact .slnil
  | cons chunk chunks ih =>
      rw [streamOf, List.flatMap_cons] at stream ⊢
      rw [keptBytes, List.flatMap_cons]
      exact chunk_sublist (fun state state' => ih) behind stream

/-! ## The frames that wait -/

theorem received_le {text : Bytes} {r : Bytes × List Bytes} (received : Receives text r) :
    r.2.length ≤ 1 := by
  cases received with
  | silent | begun => exact Nat.zero_le 1
  | whole => exact le_rfl

/-- What is emitted against the frames that are taken. -/
theorem frames_taken (chunks : List Chunk) :
    ∃ taken,
      Delimited.frames STX ETX (keptBytes chunks) =
        taken ++ Delimited.frames STX ETX (readData chunks) ∧
      (receiveCoder chunks).length = taken.length ∧
      (receiveCoder chunks = taken ↔ AllRight [] chunks) :=
  frames_run chunks []

/-- With every chunk at most one code is emitted. -/
theorem emitted_le (m_readData : Bytes) (chunks : List Chunk) :
    (Machine.outputs receiveBytes m_readData chunks).length ≤ chunks.length := by
  induction chunks generalizing m_readData with
  | nil => exact le_rfl
  | cons chunk chunks ih =>
      have one := received_le (receiveBytes_spec m_readData chunk)
      have others := ih (receiveBytes m_readData chunk).1
      show ((receiveBytes m_readData chunk).2 ++
        Machine.outputs receiveBytes (receiveBytes m_readData chunk).1 chunks).length ≤ _
      rw [List.length_append, List.length_cons]
      omega

/-- Since some chunk behind which no frame was waiting, a code has been emitted with every
chunk. -/
theorem busy_since (chunks : List Chunk) :
    ∃ front back, chunks = front ++ back ∧ Delimited.frames STX ETX (readData front) = [] ∧
      (receiveCoder chunks).length = (receiveCoder front).length + back.length := by
  induction chunks using List.reverseRecOn with
  | nil => exact ⟨[], [], rfl, rfl, rfl⟩
  | append_singleton chunks chunk ih =>
      have received := receiveBytes_spec (readData chunks) chunk
      have last : readData (chunks ++ [chunk]) = (receiveBytes (readData chunks) chunk).1 :=
        Machine.final_snoc receiveBytes [] chunks chunk
      have more : receiveCoder (chunks ++ [chunk]) =
          receiveCoder chunks ++ (receiveBytes (readData chunks) chunk).2 :=
        Machine.outputs_snoc receiveBytes [] chunks chunk
      generalize receiveBytes (readData chunks) chunk = r at received last more
      cases received with
      | silent silent =>
          refine ⟨chunks ++ [chunk], [], (List.append_nil _).symm, ?_, rfl⟩
          rw [last]
          rfl
      | begun noise behind split silent unfinished =>
          refine ⟨chunks ++ [chunk], [], (List.append_nil _).symm, ?_, rfl⟩
          rw [last]
          exact Delimited.frames_begun (List.not_mem_nil (a := STX)) unfinished
      | whole noise code rest split silent clean =>
          obtain ⟨front, back, parts, idle, busy⟩ := ih
          refine ⟨front, back ++ [chunk], ?_, idle, ?_⟩
          · rw [parts, List.append_assoc]
          · rw [more, List.length_append, busy, List.length_append]
            exact Nat.add_assoc _ _ _

/-- The last chunks complete at most one frame each, however many of them are taken. -/
def Enough (chunks : List Chunk) : Prop :=
  ∀ front back, chunks = front ++ back →
    (Delimited.frames STX ETX (keptBytes chunks)).length ≤
      (Delimited.frames STX ETX (keptBytes front)).length + back.length

/-- No frame waits behind the last chunk exactly if the last chunks were enough for the
frames they completed. -/
theorem nothing_waits_iff (chunks : List Chunk) :
    Delimited.frames STX ETX (readData chunks) = [] ↔ Enough chunks := by
  have counted : ∀ chunks, (Delimited.frames STX ETX (keptBytes chunks)).length =
      (receiveCoder chunks).length + (Delimited.frames STX ETX (readData chunks)).length := by
    intro chunks
    obtain ⟨taken, frames, length, -⟩ := frames_taken chunks
    rw [frames, List.length_append, length]
  constructor
  · rintro idle front back rfl
    have emitted : (receiveCoder (front ++ back)).length ≤
        (receiveCoder front).length + back.length := by
      have later := emitted_le (readData front) back
      rw [receiveCoder, Machine.outputs, Machine.trace_append, List.flatMap_append,
        List.length_append]
      exact Nat.add_le_add_left later _
    have whole := counted (front ++ back)
    rw [idle, List.length_nil] at whole
    have first := counted front
    omega
  · intro enough
    obtain ⟨front, back, parts, idle, busy⟩ := busy_since chunks
    have most := enough front back parts
    have first := counted front
    rw [idle, List.length_nil] at first
    have whole := counted chunks
    exact List.eq_nil_of_length_eq_zero (by omega)

/-! ## Chunking -/

/-- The NULs take no frame away, the chunks are enough for the frames, and no noise is
dropped with the chunk a frame is taken with. -/
structure Undisturbed (chunks : List Chunk) : Prop where
  whole : Delimited.frames STX ETX (keptBytes chunks) =
    Delimited.frames STX ETX (streamOf chunks)
  enough : Enough chunks
  right : AllRight [] chunks

/-- **Which chunks the codes come out of right.** -/
theorem bar_codes_iff {chunks : List Chunk} {codes : List Bytes}
    (stream : IsStream (streamOf chunks) codes) :
    receiveCoder chunks = codes ↔ Undisturbed chunks := by
  obtain ⟨taken, frames, length, right⟩ := frames_taken chunks
  have lost : (Delimited.frames STX ETX (keptBytes chunks)).Sublist codes := by
    rw [← stream.frames]
    exact kept_sublist (.inl rfl) stream.inStream
  constructor
  · intro same
    have most := lost.length_le
    rw [frames, List.length_append, ← length, same] at most
    have idle : Delimited.frames STX ETX (readData chunks) = [] :=
      List.eq_nil_of_length_eq_zero (by omega)
    have whole : Delimited.frames STX ETX (keptBytes chunks) = codes := by
      apply lost.eq_of_length_le
      rw [frames, List.length_append, ← length, same]
      exact Nat.le_add_right _ _
    refine ⟨whole.trans stream.frames.symm, (nothing_waits_iff chunks).mp idle, right.mp ?_⟩
    rw [same, ← whole, frames, idle, List.append_nil]
  · intro undisturbed
    have idle := (nothing_waits_iff chunks).mpr undisturbed.enough
    rw [right.mpr undisturbed.right, ← stream.frames, ← undisturbed.whole, frames, idle,
      List.append_nil]

/-! ## A frame behind a line feed -/

/-- A frame with code `A` behind a line feed, in one chunk. -/
def lineFeedFirst : Chunk := { bytes := [0x0A, STX, 0x41, ETX], available := nofun }

theorem lineFeedFirst_stream : IsStream (streamOf [lineFeedFirst]) [[0x41]] := by
  refine IsStream.frame [0x0A] [0x41] [] [] ?_ ?_ (.noise [] List.not_mem_nil)
  · decide
  · intro b there
    obtain rfl := List.mem_singleton.mp there
    decide

theorem lineFeedFirst_iff :
    receiveCoder [lineFeedFirst] = [[0x41]] ↔ Undisturbed [lineFeedFirst] :=
  bar_codes_iff lineFeedFirst_stream

/-- The line feed costs the code. -/
theorem lineFeedFirst_empty :
    IsStream (streamOf [lineFeedFirst]) [[0x41]] ∧ receiveCoder [lineFeedFirst] ≠ [[0x41]] :=
  ⟨lineFeedFirst_stream, by decide⟩

end BarCoder

end IsgConsole.Sensor
