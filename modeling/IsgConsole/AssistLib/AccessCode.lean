/-
# AssistLib.AccessCode — the code that unlocks a camera

The access code of a camera is the encryption of its serial number, as hexadecimal digits.
`verifyEncryptCode` wraps the serial number into eight tokens, encrypts the bytes they stand for, and
compares them with the bytes of the code, whose spaces do not count.

Two things it reads are not digits.  `hexCharToInt` has a number for every character, and a code ends
for it at its first zero byte; `verifyEncryptCode_exact` says which codes it takes for others.  A
serial number has 8 to 16 characters, and `wrapString` puts single characters into the tokens in
front, which then read as if a `0` stood behind them; `wrapString_exact` says which serial numbers
share their code.  The text `bytesToHexString` makes of bytes is read as these bytes again.
-/
import IsgConsole.AssistLib.Tea
import IsgConsole.Theory.Json.Value
import IsgConsole.Theory.Loop

namespace IsgConsole.AssistLib

open IsgConsole.Theory

set_option autoImplicit false

/-! ## Characters -/

def space : UInt8 := 0x20

/-- `toupper`, `isdigit` and `isalpha`, which leave alone what is not ASCII. -/
def toupper (c : UInt8) : UInt8 := if 0x61 ≤ c ∧ c ≤ 0x7A then c - 0x20 else c

def isdigit (c : UInt8) : Bool := 0x30 ≤ c ∧ c ≤ 0x39

def isalpha (c : UInt8) : Bool := (0x41 ≤ c ∧ c ≤ 0x5A) ∨ (0x61 ≤ c ∧ c ≤ 0x7A)

/-- `TEA::intToHexChar`. -/
def intToHexChar (x : Nat) : UInt8 := (utf8 "0123456789ABCDEF").getD x 0

/-- `TEA::hexCharToInt`. -/
def hexCharToInt (hex : UInt8) : Nat :=
  let hex := toupper hex
  if isdigit hex then hex.toNat - 0x30
  else if isalpha hex then hex.toNat - 0x41 + 10
  else 0

/-- The byte of two characters. -/
def byteOf (a b : UInt8) : UInt8 := UInt8.ofNat (hexCharToInt a * 16 + hexCharToInt b)

/-! ## Texts -/

/-- The tokens of a text, behind the front of one: a space ends it, and so does the end of the text
unless it is empty. -/
def tokens : Bytes → Bytes → List Bytes
  | token, [] => if token = [] then [] else [token]
  | token, c :: rest => if c = space then token :: tokens [] rest else tokens (token ++ [c]) rest

/-- `input.at(i)`, which throws out of the range. -/
def at? (input : Bytes) (i : Int) : Option UInt8 := if 0 ≤ i then input[i.toNat]? else none

/-- `TEA::wrapString`: single characters first, then pairs; `none` where it throws. -/
def wrapString (input : Bytes) : Option Bytes := do
  let n1 : Int := 16 - input.length
  let singles ← (List.range n1.toNat).mapM fun (i : Nat) => do
    let c ← at? input i
    return [c, space]
  let pairs ← (List.range (8 - n1).toNat).mapM fun (j : Nat) => do
    let c ← at? input (n1 + 2 * j)
    let d ← at? input (n1 + 2 * j + 1)
    return [c, d, space]
  return cString (singles.flatten ++ pairs.flatten)

/-- `TEA::bytesToHexString`. -/
def bytesToHexString : Bytes → Bytes
  | [] => []
  | [b] => [intToHexChar (b.toNat / 16), intToHexChar (b.toNat % 16)]
  | b :: bs =>
      intToHexChar (b.toNat / 16) :: intToHexChar (b.toNat % 16) :: space :: bytesToHexString bs

/-- `delStringSpace`, with what is in the buffer already; `none` where the buffer is too small. -/
def delStringSpace (iBufferSize : Nat) (DestBuffer : Bytes) : Bytes → Option Bytes
  | [] => some DestBuffer
  | c :: SrcStr =>
      if c = 0 then some DestBuffer
      else if c = space then delStringSpace iBufferSize DestBuffer SrcStr
      else if iBufferSize ≤ DestBuffer.length + 1 then none
      else delStringSpace iBufferSize (DestBuffer ++ [c]) SrcStr

section Verify

-- what lies in memory behind the terminator of an empty token
variable (behind : Nat → UInt8)

/-- `vec[i][at]`: the character behind the last one is the terminator. -/
def charAt (i : Nat) (token : Bytes) (place : Nat) : UInt8 :=
  match token[place]? with
  | some c => c
  | none => if place = token.length then 0 else behind i

/-- `TEA::hexStringToBytes`. -/
def hexStringToBytes (str : Bytes) : Bytes :=
  (tokens [] str).mapIdx fun i token => byteOf (charAt behind i token 0) (charAt behind i token 1)

def MAX_NAME_LEN : Nat := 256

/-- `keyStr`. -/
def keyStr : Bytes := utf8 "BA DA 7D 21 DB E2 DB B3 11 B4 55 01 A5 C6 EA DF"

/-- `TEA tea(key, SIZE_KEY, true)`: sixteen rounds. -/
def tea : TEA where
  m_round := 16
  m_isNetByte := true
  m_key := hexStringToBytes behind keyStr
  sized := by
    rw [hexStringToBytes, List.length_mapIdx]
    decide

/-- The code with a space behind every two characters. -/
def spaced (szPureEncryptCode : Bytes) : Bytes :=
  (List.range 8).flatMap fun i =>
    [szPureEncryptCode.getD (2 * i) 0, szPureEncryptCode.getD (2 * i + 1) 0, space]

/-- `verifyEncryptCode`; `none` where `wrapString` throws or the buffer for the code is too small. -/
def verifyEncryptCode (szPlainCode szEncryptCode : Bytes) : Option Bool := do
  let szPureEncryptCode ← delStringSpace MAX_NAME_LEN [] szEncryptCode
  if szPureEncryptCode.length ≠ 16 then return false
  let strPlainCode ← wrapString (cString szPlainCode)
  let plain := hexStringToBytes behind strPlainCode
  let crypt := (tea behind).encrypt plain
  let enterCodeBytes := hexStringToBytes behind (cString (spaced szPureEncryptCode))
  return crypt = enterCodeBytes

end Verify

/-! ## What the pieces compute -/

/-- The characters, two and two. -/
def pairs : Bytes → List Bytes
  | a :: b :: rest => [a, b] :: pairs rest
  | _ => []

/-- The bytes of the characters, two for each. -/
def pairBytes : Bytes → Bytes
  | a :: b :: rest => byteOf a b :: pairBytes rest
  | _ => []

/-- A text without its spaces. -/
def withoutSpaces (bs : Bytes) : Bytes := bs.filter (· ≠ space)

theorem cString_clean {bs : Bytes} {c : UInt8} (there : c ∈ cString bs) : c ≠ 0 := by
  unfold cString at there
  simpa using List.mem_takeWhile_imp there

/-- A token and the space behind it. -/
theorem tokens_word {word : Bytes} (clean : ∀ c ∈ word, c ≠ space) (token rest : Bytes) :
    tokens token (word ++ space :: rest) = (token ++ word) :: tokens [] rest := by
  induction word generalizing token with
  | nil => rw [List.nil_append, tokens, if_pos rfl, List.append_nil]
  | cons c word ih =>
      have here : c ≠ space := clean c List.mem_cons_self
      rw [List.cons_append, tokens, if_neg here,
        ih fun c there => clean c (List.mem_cons_of_mem _ there), List.append_assoc]
      rfl

/-- Words with a space behind each. -/
theorem tokens_words {words : List Bytes} (clean : ∀ word ∈ words, ∀ c ∈ word, c ≠ space) :
    tokens [] (words.flatMap fun word => word ++ [space]) = words := by
  induction words with
  | nil => rfl
  | cons word words ih =>
      rw [List.flatMap_cons, List.append_assoc, List.singleton_append,
        tokens_word (clean word List.mem_cons_self), List.nil_append,
        ih fun word there => clean word (List.mem_cons_of_mem _ there)]

/-- What is left in the buffer where it is large enough. -/
theorem delStringSpace_eq {iBufferSize : Nat} {DestBuffer SrcStr : Bytes}
    (fits : DestBuffer.length + (withoutSpaces (cString SrcStr)).length < iBufferSize) :
    delStringSpace iBufferSize DestBuffer SrcStr =
      some (DestBuffer ++ withoutSpaces (cString SrcStr)) := by
  induction SrcStr generalizing DestBuffer with
  | nil => simp [delStringSpace, cString, withoutSpaces]
  | cons c rest ih =>
      unfold delStringSpace
      by_cases zero : c = 0
      · simp [zero, cString, withoutSpaces]
      · have on : cString (c :: rest) = c :: cString rest := by simp [cString, zero]
        rw [on] at fits ⊢
        by_cases blank : c = space
        · have skip : withoutSpaces (c :: cString rest) = withoutSpaces (cString rest) := by
            simp [withoutSpaces, blank]
          rw [skip] at fits ⊢
          rw [if_neg zero, if_pos blank, ih fits]
        · have keep : withoutSpaces (c :: cString rest) = c :: withoutSpaces (cString rest) := by
            simp [withoutSpaces, blank]
          rw [keep] at fits ⊢
          rw [List.length_cons] at fits
          rw [if_neg zero, if_neg blank, if_neg (by omega), ih (by simp; omega),
            List.append_assoc]
          rfl

/-- The buffer is too small for all others. -/
theorem delStringSpace_none {iBufferSize : Nat} {DestBuffer SrcStr : Bytes}
    (room : DestBuffer.length < iBufferSize)
    (long : iBufferSize ≤ DestBuffer.length + (withoutSpaces (cString SrcStr)).length) :
    delStringSpace iBufferSize DestBuffer SrcStr = none := by
  induction SrcStr generalizing DestBuffer with
  | nil =>
      simp [cString, withoutSpaces] at long
      omega
  | cons c rest ih =>
      unfold delStringSpace
      by_cases zero : c = 0
      · simp [zero, cString, withoutSpaces] at long
        omega
      · have on : cString (c :: rest) = c :: cString rest := by simp [cString, zero]
        rw [on] at long
        by_cases blank : c = space
        · have skip : withoutSpaces (c :: cString rest) = withoutSpaces (cString rest) := by
            simp [withoutSpaces, blank]
          rw [skip] at long
          rw [if_neg zero, if_pos blank, ih room long]
        · have keep : withoutSpaces (c :: cString rest) = c :: withoutSpaces (cString rest) := by
            simp [withoutSpaces, blank]
          rw [keep, List.length_cons] at long
          rw [if_neg zero, if_neg blank]
          by_cases full : iBufferSize ≤ DestBuffer.length + 1
          · rw [if_pos full]
          · rw [if_neg full, ih (by simp; omega) (by simp; omega)]

/-- Words of one or two characters, and what stands for their bytes. -/
theorem hexStringToBytes_words (behind : Nat → UInt8) {words : List Bytes}
    (clean : ∀ word ∈ words, ∀ c ∈ word, c ≠ space) (some' : ∀ word ∈ words, word ≠ []) :
    hexStringToBytes behind (words.flatMap fun word => word ++ [space]) =
      words.map fun word => byteOf (word.getD 0 0) (word.getD 1 0) := by
  rw [hexStringToBytes, tokens_words clean]
  apply List.ext_getElem (by simp)
  intro i here there
  simp only [List.getElem_mapIdx, List.getElem_map]
  have known : i < words.length := by simpa using here
  have word := some' _ (List.getElem_mem known)
  cases split : words[i] with
  | nil => exact absurd split word
  | cons a rest =>
      cases rest with
      | nil => rfl
      | cons b rest => rfl

theorem pairs_eq {n : Nat} {bs : Bytes} (even : bs.length = 2 * n) :
    (List.range n).map (fun i => [bs.getD (2 * i) 0, bs.getD (2 * i + 1) 0]) = pairs bs := by
  induction n generalizing bs with
  | zero =>
      obtain rfl := List.eq_nil_of_length_eq_zero even
      rfl
  | succ n ih =>
      obtain ⟨a, b, rest, rfl⟩ : ∃ a b rest, bs = a :: b :: rest := by
        match bs, even with
        | a :: b :: rest, _ => exact ⟨a, b, rest, rfl⟩
      have rest' : rest.length = 2 * n := by
        simp only [List.length_cons] at even
        omega
      rw [pairs, ← ih rest', List.range_succ_eq_map, List.map_cons, List.map_map]
      rfl

theorem pairBytes_eq (bs : Bytes) :
    (pairs bs).map (fun word => byteOf (word.getD 0 0) (word.getD 1 0)) = pairBytes bs := by
  induction bs using pairs.induct with
  | case1 a b rest ih => rw [pairs, pairBytes, List.map_cons, ih]; rfl
  | case2 bs short =>
      rcases bs with _ | ⟨a, _ | ⟨b, rest⟩⟩
      · rfl
      · rfl
      · exact (short a b rest rfl).elim

theorem mem_pairs {bs word : Bytes} (there : word ∈ pairs bs) :
    word ≠ [] ∧ ∀ c ∈ word, c ∈ bs := by
  induction bs using pairs.induct with
  | case1 a b rest ih =>
      rw [pairs, List.mem_cons] at there
      rcases there with rfl | later
      · exact ⟨List.cons_ne_nil a [b], fun c here => by
          rcases List.mem_pair.mp here with rfl | rfl <;> simp⟩
      · obtain ⟨some', inside⟩ := ih later
        exact ⟨some', fun c here =>
          List.mem_cons_of_mem a (List.mem_cons_of_mem b (inside c here))⟩
  | case2 bs short =>
      rcases bs with _ | ⟨a, _ | ⟨b, rest⟩⟩
      · cases there
      · cases there
      · exact (short a b rest rfl).elim

/-- Characters that are neither a space nor the end of a string. -/
def Clean (bs : Bytes) : Prop := ∀ c ∈ bs, c ≠ space ∧ c ≠ 0

/-- Clean words with a space behind each are read as they are. -/
theorem hexStringToBytes_clean (behind : Nat → UInt8) {words : List Bytes}
    (clean : ∀ word ∈ words, word ≠ [] ∧ Clean word) :
    hexStringToBytes behind (cString (words.flatMap fun word => word ++ [space])) =
      words.map fun word => byteOf (word.getD 0 0) (word.getD 1 0) := by
  have whole : cString (words.flatMap fun word => word ++ [space]) =
      words.flatMap fun word => word ++ [space] := by
    apply cString_eq_iff.mpr
    intro c there
    obtain ⟨word, known, inside⟩ := List.mem_flatMap.mp there
    rcases List.mem_append.mp inside with here | blank
    · exact ((clean word known).2 c here).2
    · rw [List.mem_singleton.mp blank]
      decide
  rw [whole]
  exact hexStringToBytes_words behind (fun word known c here => ((clean word known).2 c here).1)
    fun word known => (clean word known).1

/-- The bytes of a code with two characters for each. -/
theorem hexStringToBytes_spaced (behind : Nat → UInt8) {szPureEncryptCode : Bytes}
    (sized : szPureEncryptCode.length = 16) (clean : Clean szPureEncryptCode) :
    hexStringToBytes behind (cString (spaced szPureEncryptCode)) = pairBytes szPureEncryptCode := by
  have words : spaced szPureEncryptCode =
      (pairs szPureEncryptCode).flatMap fun word => word ++ [space] := by
    rw [← pairs_eq (n := 8) sized, List.flatMap_map]
    rfl
  rw [words, hexStringToBytes_clean behind fun word there => ?_, pairBytes_eq]
  obtain ⟨some', inside⟩ := mem_pairs there
  exact ⟨some', fun c here => clean c (inside c here)⟩

/-! ## Wrapping -/

/-- `wrapString` finds the characters it looks for. -/
def Wraps (input : Bytes) : Prop := 8 ≤ input.length ∧ input.length ≤ 16

instance (input : Bytes) : Decidable (Wraps input) := inferInstanceAs (Decidable (_ ∧ _))

/-- The single characters and the pairs of a serial number. -/
def words (input : Bytes) : List Bytes :=
  (input.take (16 - input.length)).map (fun c => [c]) ++ pairs (input.drop (16 - input.length))

theorem at?_natCast (input : Bytes) {i : Nat} (inside : i < input.length) :
    at? input i = some (input.getD i 0) := by
  simp [at?, inside]

theorem at?_eq_none {input : Bytes} {i : Int} (outside : i < 0 ∨ input.length ≤ i) :
    at? input i = none := by
  unfold at?
  split
  case isTrue positive =>
    have behind : input.length ≤ i.toNat := by omega
    exact List.getElem?_eq_none behind
  case isFalse => rfl

/-- The first loop of `wrapString`, over single characters. -/
theorem wrapString_singles {input : Bytes} {n : Nat} (short : n ≤ input.length) :
    ((List.range n).mapM fun (i : Nat) => do
      let c ← at? input i
      return [c, space]) = some ((input.take n).map fun c => [c, space]) := by
  rw [Loop.mapM_eq_map (g := fun i => [input.getD i 0, space]) fun i here => by
    rw [at?_natCast input (by have := List.mem_range.mp here; omega)]
    rfl]
  congr 1
  apply List.ext_getElem (by simp; omega)
  intro i here there
  have inside : i < input.length := by simp at there; omega
  simp [inside]

/-- Its second loop, over pairs behind them. -/
theorem wrapString_pairs {input : Bytes} {n k : Nat} (even : (input.drop n).length = 2 * k) :
    ((List.range k).mapM fun (j : Nat) => do
      let c ← at? input ((n : Int) + 2 * j)
      let d ← at? input ((n : Int) + 2 * j + 1)
      return [c, d, space]) = some ((pairs (input.drop n)).map fun word => word ++ [space]) := by
  rw [← pairs_eq even, List.map_map]
  apply Loop.mapM_eq_map
  intro j here
  have inside : n + 2 * j + 1 < input.length := by
    have turn := List.mem_range.mp here
    rw [List.length_drop] at even
    omega
  have left : at? input ((n : Int) + 2 * j) = some ((input.drop n).getD (2 * j) 0) := by
    have found := at?_natCast input (i := n + 2 * j) (by omega)
    rw [Int.natCast_add, Int.natCast_mul] at found
    simpa [List.getD_eq_getElem?_getD] using found
  have right : at? input ((n : Int) + 2 * j + 1) = some ((input.drop n).getD (2 * j + 1) 0) := by
    have found := at?_natCast input inside
    rw [Int.natCast_add, Int.natCast_add, Int.natCast_mul] at found
    simpa [List.getD_eq_getElem?_getD, Nat.add_assoc] using found
  rw [left, right]
  rfl

theorem wrapString_eq {input : Bytes} (wraps : Wraps input) :
    wrapString input = some (cString ((words input).flatMap fun word => word ++ [space])) := by
  obtain ⟨long, short⟩ := wraps
  obtain ⟨n1, first⟩ : ∃ n1 : Nat, n1 = 16 - input.length := ⟨_, rfl⟩
  have count : (16 : Int) - input.length = n1 := by omega
  have even : (input.drop n1).length = 2 * (8 - n1) := by
    rw [List.length_drop]
    omega
  have singles := wrapString_singles (show n1 ≤ input.length by omega)
  have rest := wrapString_pairs even
  have back : ((8 : Int) - n1).toNat = 8 - n1 := by omega
  simp only [wrapString, count, Int.toNat_natCast, back, singles, rest]
  refine congrArg (fun text => some (cString text)) ?_
  rw [words, ← first, List.flatMap_append, List.flatMap_map, ← List.flatMap_def,
    ← List.flatMap_def]
  rfl

/-- **`wrapString` throws for every other length.** -/
theorem wrapString_isSome_iff (input : Bytes) : (wrapString input).isSome ↔ Wraps input := by
  constructor
  · intro wrapped
    by_contra other
    have outside : wrapString input = none := by
      by_cases short : input.length < 8
      · have there : input.length ∈ List.range ((16 : Int) - input.length).toNat :=
          List.mem_range.mpr (by omega)
        have throws := Loop.mapM_none (f := fun (i : Nat) => do
          let c ← at? input i
          return [c, space]) there (by rw [at?_eq_none (.inr (by omega))]; rfl)
        simp only [wrapString, throws]
        rfl
      · have long : 16 < input.length := by
          unfold Wraps at other
          omega
        have there : 0 ∈ List.range ((8 : Int) - (16 - input.length)).toNat :=
          List.mem_range.mpr (by omega)
        have throws := Loop.mapM_none (f := fun (j : Nat) => do
          let c ← at? input ((16 : Int) - input.length + 2 * j)
          let d ← at? input ((16 : Int) - input.length + 2 * j + 1)
          return [c, d, space]) there (by rw [at?_eq_none (.inl (by omega))]; rfl)
        simp only [wrapString, throws]
        cases (List.range ((16 : Int) - input.length).toNat).mapM (fun (i : Nat) => do
          let c ← at? input i
          return [c, space]) <;> rfl
    rw [outside] at wrapped
    cases wrapped
  · intro wraps
    rw [wrapString_eq wraps]
    rfl

/-! ## Digits -/

/-- What a hexadecimal digit stands for, in either case. -/
def hexDigit? (c : UInt8) : Option Nat :=
  if 0x30 ≤ c ∧ c ≤ 0x39 then some (c.toNat - 0x30)
  else if 0x41 ≤ c ∧ c ≤ 0x46 then some (c.toNat - 0x37)
  else if 0x61 ≤ c ∧ c ≤ 0x66 then some (c.toNat - 0x57)
  else none

/-- The bytes that digits spell, two for each. -/
def spelled : Bytes → Option Bytes
  | [] => some []
  | [_] => none
  | a :: b :: rest => do
      let high ← hexDigit? a
      let low ← hexDigit? b
      let bytes ← spelled rest
      return UInt8.ofNat (high * 16 + low) :: bytes

/-- Nothing but digits. -/
def Digits (bs : Bytes) : Prop := ∀ c ∈ bs, (hexDigit? c).isSome

instance (bs : Bytes) : Decidable (Digits bs) :=
  List.decidableBAll (fun c => (hexDigit? c).isSome) bs

/-- A digit in upper case. -/
def isUpperHex (c : UInt8) : Bool := (0x30 ≤ c ∧ c ≤ 0x39) ∨ (0x41 ≤ c ∧ c ≤ 0x46)

theorem forall_byte {P : UInt8 → Prop} (all : ∀ n < 256, P (UInt8.ofNat n)) (c : UInt8) : P c := by
  rw [← UInt8.ofNat_toNat (x := c)]
  exact all c.toNat c.toNat_lt

theorem hexDigit?_eq (c : UInt8) :
    hexDigit? c = if (hexDigit? c).isSome then some (hexCharToInt c) else none := by
  apply forall_byte (P := fun c =>
    hexDigit? c = if (hexDigit? c).isSome then some (hexCharToInt c) else none)
  decide +kernel

theorem clean_of_digit {c : UInt8} (digit : (hexDigit? c).isSome) : c ≠ space ∧ c ≠ 0 := by
  constructor
  · rintro rfl
    cases digit
  · rintro rfl
    cases digit

theorem isUpperHex_digit {c : UInt8} (upper : isUpperHex c = true) : (hexDigit? c).isSome := by
  revert upper
  apply forall_byte (P := fun c => isUpperHex c = true → (hexDigit? c).isSome)
  decide +kernel

/-- The digit in upper case of what a digit in upper case stands for. -/
theorem intToHexChar_hexCharToInt {c : UInt8} (upper : isUpperHex c = true) :
    hexCharToInt c < 16 ∧ intToHexChar (hexCharToInt c) = c := by
  revert upper
  apply forall_byte (P := fun c => isUpperHex c = true →
    hexCharToInt c < 16 ∧ intToHexChar (hexCharToInt c) = c)
  decide +kernel

theorem intToHexChar_spec : ∀ x < 16,
    isUpperHex (intToHexChar x) = true ∧ hexCharToInt (intToHexChar x) = x := by
  decide +kernel

/-- What digits spell is the bytes `hexStringToBytes` makes of them. -/
theorem spelled_iff {bs out : Bytes} :
    spelled bs = some out ↔ Digits bs ∧ bs.length % 2 = 0 ∧ pairBytes bs = out := by
  induction bs using spelled.induct generalizing out with
  | case1 => simp [spelled, Digits, pairBytes]
  | case2 c => simp [spelled]
  | case3 a b rest ih =>
      have step : spelled (a :: b :: rest) = (hexDigit? a).bind fun high =>
          (hexDigit? b).bind fun low => (spelled rest).map fun bytes =>
            UInt8.ofNat (high * 16 + low) :: bytes := by
        rw [spelled]
        cases hexDigit? a <;> cases hexDigit? b <;> cases spelled rest <;> rfl
      have digits : Digits (a :: b :: rest) ↔
          (hexDigit? a).isSome ∧ (hexDigit? b).isSome ∧ Digits rest := by
        simp [Digits]
      have even : (a :: b :: rest).length % 2 = 0 ↔ rest.length % 2 = 0 := by
        simp only [List.length_cons]
        omega
      rw [step, digits, even, hexDigit?_eq a, hexDigit?_eq b]
      by_cases first : (hexDigit? a).isSome
      case neg => simp [first]
      by_cases second : (hexDigit? b).isSome
      case neg => simp [second]
      simp only [first, second, if_true, Option.bind_some, Option.isSome_some, true_and,
        Option.map_eq_some_iff, ih, pairBytes]
      constructor
      · rintro ⟨bytes, ⟨others, evenRest, rfl⟩, rfl⟩
        exact ⟨others, evenRest, rfl⟩
      · rintro ⟨others, evenRest, rfl⟩
        exact ⟨pairBytes rest, ⟨others, evenRest, rfl⟩, rfl⟩

/-- The digits of some bytes. -/
def digitsOf (bytes : Bytes) : Bytes :=
  bytes.flatMap fun b => [intToHexChar (b.toNat / 16), intToHexChar (b.toNat % 16)]

theorem digitsOf_upper {bytes : Bytes} {c : UInt8} (there : c ∈ digitsOf bytes) :
    isUpperHex c = true := by
  obtain ⟨b, -, digit⟩ := List.mem_flatMap.mp there
  have byte : b.toNat < 256 := b.toNat_lt
  rcases List.mem_pair.mp digit with rfl | rfl
  · exact (intToHexChar_spec (b.toNat / 16) (by omega)).1
  · exact (intToHexChar_spec (b.toNat % 16) (by omega)).1

theorem length_digitsOf (bytes : Bytes) : (digitsOf bytes).length = 2 * bytes.length := by
  induction bytes with
  | nil => rfl
  | cons b bytes ih =>
      rw [digitsOf, List.flatMap_cons, List.length_append, ← digitsOf, ih, List.length_cons]
      simp only [List.length_cons, List.length_nil]
      omega

theorem pairBytes_digitsOf (bytes : Bytes) : pairBytes (digitsOf bytes) = bytes := by
  induction bytes with
  | nil => rfl
  | cons b bytes ih =>
      have byte : b.toNat < 256 := b.toNat_lt
      have high := (intToHexChar_spec (b.toNat / 16) (by omega)).2
      have low := (intToHexChar_spec (b.toNat % 16) (by omega)).2
      have digits : digitsOf (b :: bytes) = intToHexChar (b.toNat / 16) ::
          intToHexChar (b.toNat % 16) :: digitsOf bytes := rfl
      rw [digits, pairBytes, ih, byteOf, high, low, Nat.div_add_mod', UInt8.ofNat_toNat]

theorem clean_digitsOf (bytes : Bytes) : Clean (digitsOf bytes) := fun _ there =>
  clean_of_digit (isUpperHex_digit (digitsOf_upper there))

theorem length_pairBytes (bs : Bytes) : (pairBytes bs).length = bs.length / 2 := by
  induction bs using pairBytes.induct with
  | case1 a b rest ih =>
      rw [pairBytes, List.length_cons, ih]
      simp only [List.length_cons]
      omega
  | case2 bs short =>
      rcases bs with _ | ⟨a, _ | ⟨b, rest⟩⟩
      · rfl
      · simp [pairBytes]
      · exact (short a b rest rfl).elim

/-! ## Bytes as text -/

/-- The last byte has no space behind it, and is read from the end of the text. -/
theorem tokens_bytesToHexString (bytes : Bytes) :
    tokens [] (bytesToHexString bytes) = bytes.map fun b => digitsOf [b] := by
  have clean : ∀ b : UInt8, ∀ c ∈ digitsOf [b], c ≠ space := fun b c there =>
    (clean_digitsOf [b] c there).1
  induction bytes using bytesToHexString.induct with
  | case1 => rfl
  | case2 b =>
      have high := clean b (intToHexChar (b.toNat / 16)) List.mem_cons_self
      have low := clean b (intToHexChar (b.toNat % 16)) (List.mem_cons_of_mem _ List.mem_cons_self)
      rw [bytesToHexString, tokens, if_neg high, tokens, if_neg low]
      rfl
  | case3 b bs more ih =>
      have text : bytesToHexString (b :: bs) = digitsOf [b] ++ space :: bytesToHexString bs := by
        cases bs with
        | nil => exact (more rfl).elim
        | cons c bs => rfl
      rw [text, tokens_word (clean b), List.nil_append, ih, List.map_cons]

/-- **Bytes come back from their text**: `hexStringToBytes` writes what `bytesToHexString` was given,
and the number of tokens, which it returns, is that of the bytes. -/
theorem hexStringToBytes_bytesToHexString (behind : Nat → UInt8) (bytes : Bytes) :
    hexStringToBytes behind (bytesToHexString bytes) = bytes ∧
      (tokens [] (bytesToHexString bytes)).length = bytes.length := by
  have back : ∀ b : UInt8, byteOf (intToHexChar (b.toNat / 16)) (intToHexChar (b.toNat % 16)) = b :=
    fun b => List.head_eq_of_cons_eq (pairBytes_digitsOf [b])
  constructor
  · rw [hexStringToBytes, tokens_bytesToHexString]
    apply List.ext_getElem (by simp)
    intro i here there
    rw [List.getElem_mapIdx, List.getElem_map]
    exact back bytes[i]
  · rw [tokens_bytesToHexString, List.length_map]

/-! ## Codes -/

section Codes

variable (behind : Nat → UInt8)

theorem tea_sum : decryptSum (tea behind).m_round = encryptSum (tea behind).m_round := by
  show decryptSum 16 = encryptSum 16
  decide

theorem tea_decrypt_encrypt {input : Bytes} (sized : input.length = 8) :
    (tea behind).decrypt ((tea behind).encrypt input) = input :=
  TEA.decrypt_encrypt_of_sum (tea_sum behind) sized

theorem tea_encrypt_decrypt {input : Bytes} (sized : input.length = 8) :
    (tea behind).encrypt ((tea behind).decrypt input) = input :=
  TEA.encrypt_decrypt_of_sum (tea_sum behind) sized

/-- What is compared with the bytes of a code. -/
def cryptOf (wrapped : Bytes) : Bytes := (tea behind).encrypt (hexStringToBytes behind wrapped)

theorem length_cryptOf (wrapped : Bytes) : (cryptOf behind wrapped).length = 8 :=
  TEA.length_store ..

theorem clean_pure (code : Bytes) : Clean (withoutSpaces (cString code)) := by
  intro c there
  obtain ⟨inside, blank⟩ := List.mem_filter.mp there
  exact ⟨of_decide_eq_true blank, cString_clean inside⟩

/-- What `verifyEncryptCode` returns. -/
theorem verifyEncryptCode_eq {szPlainCode szEncryptCode wrapped : Bytes}
    (accepted : wrapString (cString szPlainCode) = some wrapped) :
    verifyEncryptCode behind szPlainCode szEncryptCode = some true ↔
      (withoutSpaces (cString szEncryptCode)).length = 16 ∧
        pairBytes (withoutSpaces (cString szEncryptCode)) = cryptOf behind wrapped := by
  by_cases short : (withoutSpaces (cString szEncryptCode)).length < MAX_NAME_LEN
  case neg =>
    have overflow : delStringSpace MAX_NAME_LEN [] szEncryptCode = none :=
      delStringSpace_none (by decide) (by simp only [List.length_nil]; omega)
    have other : (withoutSpaces (cString szEncryptCode)).length ≠ 16 := by
      unfold MAX_NAME_LEN at short
      omega
    simp [verifyEncryptCode, overflow, other]
  have stripped : delStringSpace MAX_NAME_LEN [] szEncryptCode =
      some (withoutSpaces (cString szEncryptCode)) :=
    delStringSpace_eq (by simp only [List.length_nil]; omega)
  simp only [verifyEncryptCode, stripped, accepted, Option.bind_eq_bind, Option.bind_some]
  by_cases sized : (withoutSpaces (cString szEncryptCode)).length = 16
  · rw [hexStringToBytes_spaced behind sized (clean_pure szEncryptCode)]
    simp [sized, cryptOf, eq_comm]
  · simp [sized]

/-- The code is read as what it is: too short or too long, or nothing but digits. -/
def ReadsRight (szEncryptCode : Bytes) : Prop :=
  (withoutSpaces (cString szEncryptCode)).length ≠ 16 ∨ Digits (withoutSpaces szEncryptCode)

/-- The serial number whose encryption is the bytes of a code. -/
def serialOf (code : Bytes) : Bytes :=
  digitsOf ((tea behind).decrypt (pairBytes (withoutSpaces (cString code))))

/-- A text of digits has no zero byte. -/
theorem cString_of_digits {code : Bytes} (digits : Digits (withoutSpaces code)) :
    cString code = code := by
  apply cString_eq_iff.mpr
  rintro c there rfl
  have inside : (0 : UInt8) ∈ withoutSpaces code := List.mem_filter.mpr ⟨there, by decide⟩
  exact (clean_of_digit (digits 0 inside)).2 rfl

theorem hexStringToBytes_wrapped {input wrapped : Bytes} (clean : Clean input)
    (accepted : wrapString input = some wrapped) :
    hexStringToBytes behind wrapped =
      (words input).map fun word => byteOf (word.getD 0 0) (word.getD 1 0) := by
  have wraps : Wraps input := by
    rw [← wrapString_isSome_iff, accepted]
    rfl
  obtain rfl := Option.some.inj ((wrapString_eq wraps).symm.trans accepted)
  refine hexStringToBytes_clean behind fun word there => ?_
  rcases List.mem_append.mp there with single | pair
  · obtain ⟨c, known, rfl⟩ := List.mem_map.mp single
    refine ⟨List.cons_ne_nil c [], fun d here => ?_⟩
    rw [List.mem_singleton.mp here]
    exact clean c (List.mem_of_mem_take known)
  · obtain ⟨some', inside⟩ := mem_pairs pair
    exact ⟨some', fun c here => clean c (List.mem_of_mem_drop (inside c here))⟩

/-- Sixteen characters are eight pairs. -/
theorem serialOf_spec {code : Bytes} (sized : (withoutSpaces (cString code)).length = 16) :
    ∃ wrapped, wrapString (cString (serialOf behind code)) = some wrapped ∧
      cryptOf behind wrapped = pairBytes (withoutSpaces (cString code)) := by
  have entered : (pairBytes (withoutSpaces (cString code))).length = 8 := by
    rw [length_pairBytes, sized]
  have plain : ((tea behind).decrypt (pairBytes (withoutSpaces (cString code)))).length = 8 :=
    TEA.length_store ..
  have clean : Clean (serialOf behind code) := clean_digitsOf _
  have whole : cString (serialOf behind code) = serialOf behind code :=
    cString_eq_iff.mpr fun c there => (clean c there).2
  have long : (serialOf behind code).length = 16 := by
    rw [serialOf, length_digitsOf, plain]
  have wraps : Wraps (serialOf behind code) := by
    rw [Wraps, long]
    decide
  rw [whole]
  obtain ⟨wrapped, accepted⟩ := Option.isSome_iff_exists.mp ((wrapString_isSome_iff _).mpr wraps)
  refine ⟨wrapped, accepted, ?_⟩
  have bytes : hexStringToBytes behind wrapped =
      (tea behind).decrypt (pairBytes (withoutSpaces (cString code))) := by
    rw [hexStringToBytes_wrapped behind clean accepted, words, long, Nat.sub_self, List.take_zero,
      List.map_nil, List.nil_append, List.drop_zero, pairBytes_eq, serialOf, pairBytes_digitsOf]
  rw [cryptOf, bytes, tea_encrypt_decrypt behind entered]

/-- A code is accepted for a wrapped serial number exactly where its digits spell the encryption. -/
def Exact (szEncryptCode szPlainCode wrapped : Bytes) : Prop :=
  verifyEncryptCode behind szPlainCode szEncryptCode = some true ↔
    spelled (withoutSpaces szEncryptCode) = some (cryptOf behind wrapped)

theorem exact_iff {szEncryptCode szPlainCode wrapped : Bytes}
    (accepted : wrapString (cString szPlainCode) = some wrapped) :
    Exact behind szEncryptCode szPlainCode wrapped ↔ ReadsRight szEncryptCode ∨
      pairBytes (withoutSpaces (cString szEncryptCode)) ≠ cryptOf behind wrapped := by
  rw [Exact, verifyEncryptCode_eq behind accepted, spelled_iff]
  by_cases right : ReadsRight szEncryptCode
  case pos =>
    refine iff_of_true ⟨?_, ?_⟩ (.inl right)
    · rintro ⟨sized, bytes⟩
      have digits := right.resolve_left (not_not.mpr sized)
      rw [cString_of_digits digits] at sized bytes
      exact ⟨digits, by omega, bytes⟩
    · rintro ⟨digits, even, bytes⟩
      have eight := length_pairBytes (withoutSpaces szEncryptCode)
      rw [bytes, length_cryptOf] at eight
      rw [cString_of_digits digits]
      exact ⟨by omega, bytes⟩
  case neg =>
    obtain ⟨sized, other⟩ := not_or.mp right
    have sized := not_not.mp sized
    simp only [right, false_or, sized, other, true_and, false_and, iff_false, ne_eq]

/-- **Which codes are read as what they are**: those with nothing but digits, or with not sixteen
characters in front of the first zero byte.  Every other one is accepted for the serial number its
characters come to, and refused, as it should be, for all that are encrypted to something else. -/
theorem verifyEncryptCode_exact (szEncryptCode : Bytes) :
    ((∀ szPlainCode wrapped, wrapString (cString szPlainCode) = some wrapped →
      Exact behind szEncryptCode szPlainCode wrapped) ↔ ReadsRight szEncryptCode) ∧
    ∀ szPlainCode wrapped, wrapString (cString szPlainCode) = some wrapped →
      (Exact behind szEncryptCode szPlainCode wrapped ↔ ReadsRight szEncryptCode ∨
        pairBytes (withoutSpaces (cString szEncryptCode)) ≠ cryptOf behind wrapped) := by
  refine ⟨⟨fun exact' => ?_, fun right szPlainCode wrapped accepted =>
    (exact_iff behind accepted).mpr (.inl right)⟩,
    fun szPlainCode wrapped accepted => exact_iff behind accepted⟩
  by_contra wrong
  obtain ⟨sized, -⟩ := not_or.mp wrong
  obtain ⟨wrapped, accepted, crypt⟩ := serialOf_spec behind (not_not.mp sized)
  rcases (exact_iff behind accepted).mp (exact' _ wrapped accepted) with right | other
  · exact wrong right
  · exact other crypt.symm

/-- A code in upper case. -/
def goodCode : Bytes := utf8 "5D 0C 42 69 97 B5 D7 9A"

/-- It is the code of the serial numbers with its encryption, and of no others. -/
theorem verifyEncryptCode_good :
    ReadsRight goodCode ∧ ∀ szPlainCode wrapped, wrapString (cString szPlainCode) = some wrapped →
      Exact (fun _ => 0) goodCode szPlainCode wrapped := by
  have right : ReadsRight goodCode := .inr (by decide +kernel)
  exact ⟨right, (verifyEncryptCode_exact (fun _ => 0) goodCode).1.mpr right⟩

/-- A letter for a 21 and a dash for a zero. -/
theorem dashed_code_accepted :
    verifyEncryptCode (fun _ => 0) (utf8 "0123456789AB") goodCode = some true ∧
      verifyEncryptCode (fun _ => 0) (utf8 "0123456789AB") (utf8 "LD -C 42 69 97 B5 D7 9A") =
        some true ∧
      spelled (withoutSpaces (utf8 "LD -C 42 69 97 B5 D7 9A")) = none := by
  decide +kernel

/-! ## Serial numbers -/

/-- Digits in upper case. -/
def UpperHex (bs : Bytes) : Prop := ∀ c ∈ bs, isUpperHex c = true

instance (bs : Bytes) : Decidable (UpperHex bs) :=
  List.decidableBAll (fun c => isUpperHex c = true) bs

/-- The sixteen digits a serial number is read as: a `0` behind each single character. -/
def padded (serial : Bytes) : Bytes :=
  (serial.take (16 - serial.length)).flatMap (fun c => [c, 0x30]) ++
    serial.drop (16 - serial.length)

theorem pairBytes_flatMap (z : UInt8) (singles rest : Bytes) :
    pairBytes (singles.flatMap (fun c => [c, z]) ++ rest) =
      singles.map (fun c => byteOf c z) ++ pairBytes rest := by
  induction singles with
  | nil => rfl
  | cons c singles ih => simp [pairBytes, ih]

/-- The bytes of a serial number are those of its sixteen digits. -/
theorem hexStringToBytes_padded {serial wrapped : Bytes} (clean : Clean serial)
    (accepted : wrapString serial = some wrapped) :
    hexStringToBytes behind wrapped = pairBytes (padded serial) := by
  rw [hexStringToBytes_wrapped behind clean accepted, words, List.map_append, pairBytes_eq,
    List.map_map, padded, pairBytes_flatMap]
  rfl

theorem UpperHex.clean {serial : Bytes} (upper : UpperHex serial) : Clean serial :=
  fun c there => clean_of_digit (isUpperHex_digit (upper c there))

theorem length_padded {serial : Bytes} (wraps : Wraps serial) : (padded serial).length = 16 := by
  obtain ⟨long, short⟩ := wraps
  have twice : ((serial.take (16 - serial.length)).flatMap fun c => [c, (0x30 : UInt8)]).length =
      2 * (16 - serial.length) := by
    rw [List.length_flatMap]
    simp
    omega
  rw [padded, List.length_append, twice, List.length_drop]
  omega

theorem UpperHex.padded {serial : Bytes} (upper : UpperHex serial) : UpperHex (padded serial) := by
  intro c there
  rcases List.mem_append.mp there with single | pair
  · obtain ⟨d, known, digit⟩ := List.mem_flatMap.mp single
    rcases List.mem_pair.mp digit with rfl | rfl
    · exact upper c (List.mem_of_mem_take known)
    · decide
  · exact upper c (List.mem_of_mem_drop pair)

/-- Digits are read back from their bytes. -/
theorem digitsOf_pairBytes {bs : Bytes} (even : bs.length % 2 = 0) (upper : UpperHex bs) :
    digitsOf (pairBytes bs) = bs := by
  induction bs using pairBytes.induct with
  | case1 a b rest ih =>
      obtain ⟨smallA, backA⟩ := intToHexChar_hexCharToInt (upper a (by simp))
      obtain ⟨smallB, backB⟩ := intToHexChar_hexCharToInt (upper b (by simp))
      have others := ih (by simp only [List.length_cons] at even; omega)
        fun c there => upper c (by simp [there])
      have byte : (byteOf a b).toNat = hexCharToInt a * 16 + hexCharToInt b := by
        rw [byteOf, UInt8.toNat_ofNat']
        omega
      have high : (byteOf a b).toNat / 16 = hexCharToInt a := by omega
      have low : (byteOf a b).toNat % 16 = hexCharToInt b := by omega
      rw [pairBytes, digitsOf, List.flatMap_cons, ← digitsOf, others, high, low, backA, backB]
      rfl
  | case2 bs short =>
      rcases bs with _ | ⟨a, _ | ⟨b, rest⟩⟩
      · rfl
      · cases even
      · exact (short a b rest rfl).elim

/-- Blocks agree exactly where the sixteen digits do. -/
theorem block_eq_iff {s t wrapped wrapped' : Bytes} (upper : UpperHex s) (upper' : UpperHex t)
    (accepted : wrapString s = some wrapped) (accepted' : wrapString t = some wrapped') :
    hexStringToBytes behind wrapped = hexStringToBytes behind wrapped' ↔ padded s = padded t := by
  have wraps : ∀ {u w}, wrapString u = some w → Wraps u := fun done => by
    rw [← wrapString_isSome_iff, done]
    rfl
  rw [hexStringToBytes_padded behind upper.clean accepted,
    hexStringToBytes_padded behind upper'.clean accepted']
  constructor
  · intro same
    have digits := congrArg digitsOf same
    rwa [digitsOf_pairBytes (by rw [length_padded (wraps accepted)]) upper.padded,
      digitsOf_pairBytes (by rw [length_padded (wraps accepted')]) upper'.padded] at digits
  · exact congrArg pairBytes

/-- A code unlocks a camera with this serial number. -/
def Unlocks (code serial : Bytes) : Prop := verifyEncryptCode behind serial code = some true

theorem unlocks_iff {code serial wrapped : Bytes} (clean : Clean serial)
    (accepted : wrapString serial = some wrapped) :
    Unlocks behind code serial ↔ (withoutSpaces (cString code)).length = 16 ∧
      pairBytes (withoutSpaces (cString code)) = cryptOf behind wrapped := by
  have whole : cString serial = serial := cString_eq_iff.mpr fun c there => (clean c there).2
  exact verifyEncryptCode_eq behind (whole.symm ▸ accepted)

/-- One code unlocks two cameras exactly where the blocks agree. -/
theorem shared_code_iff {s t wrapped wrapped' : Bytes} (upper : UpperHex s) (upper' : UpperHex t)
    (accepted : wrapString s = some wrapped) (accepted' : wrapString t = some wrapped') :
    (∃ code, Unlocks behind code s ∧ Unlocks behind code t) ↔
      hexStringToBytes behind wrapped = hexStringToBytes behind wrapped' := by
  have sized : ∀ {u w}, UpperHex u → wrapString u = some w →
      (hexStringToBytes behind w).length = 8 := fun upper done => by
    have wraps := (wrapString_isSome_iff _).mp (Option.isSome_of_eq_some done)
    rw [hexStringToBytes_padded behind upper.clean done, length_pairBytes, length_padded wraps]
  simp only [unlocks_iff behind upper.clean accepted, unlocks_iff behind upper'.clean accepted']
  constructor
  · rintro ⟨code, ⟨-, first⟩, ⟨-, second⟩⟩
    have back := congrArg (tea behind).decrypt (first.symm.trans second)
    rwa [cryptOf, cryptOf, tea_decrypt_encrypt behind (sized upper accepted),
      tea_decrypt_encrypt behind (sized upper' accepted')] at back
  · intro same
    have clean := clean_digitsOf (cryptOf behind wrapped)
    have whole : withoutSpaces (cString (digitsOf (cryptOf behind wrapped))) =
        digitsOf (cryptOf behind wrapped) := by
      rw [cString_eq_iff.mpr fun c there => (clean c there).2, withoutSpaces, List.filter_eq_self]
      exact fun c there => decide_eq_true (clean c there).1
    refine ⟨digitsOf (cryptOf behind wrapped), ?_⟩
    rw [whole, length_digitsOf, length_cryptOf, pairBytes_digitsOf, cryptOf, cryptOf, same]
    exact ⟨⟨rfl, rfl⟩, ⟨rfl, rfl⟩⟩

/-- **Which serial numbers can be wrapped, and which of them share a block and a code**: those of 8 to
16 characters, and two of them that are read as the same sixteen digits. -/
theorem wrapString_exact :
    (∀ serial, (wrapString serial).isSome ↔ Wraps serial) ∧
    ∀ s t wrapped wrapped', UpperHex s → UpperHex t →
      wrapString s = some wrapped → wrapString t = some wrapped' →
      (hexStringToBytes behind wrapped ≠ hexStringToBytes behind wrapped' ↔
        padded s ≠ padded t) ∧
      ((¬ ∃ code, Unlocks behind code s ∧ Unlocks behind code t) ↔ padded s ≠ padded t) := by
  refine ⟨wrapString_isSome_iff, fun s t wrapped wrapped' upper upper' accepted accepted' => ?_⟩
  have blocks := block_eq_iff behind upper upper' accepted accepted'
  exact ⟨not_congr blocks,
    not_congr ((shared_code_iff behind upper upper' accepted accepted').trans blocks)⟩

/-- Serial numbers that are too short and too long, and two with one block. -/
theorem serial_numbers_clash :
    wrapString (utf8 "0123456") = none ∧ wrapString (utf8 "0123456789ABCDEF0") = none ∧
      UpperHex (utf8 "12345678") ∧ UpperHex (utf8 "1020304050607080") ∧
      (wrapString (utf8 "12345678")).map (hexStringToBytes fun _ => 0) =
        some [0x10, 0x20, 0x30, 0x40, 0x50, 0x60, 0x70, 0x80] ∧
      (wrapString (utf8 "1020304050607080")).map (hexStringToBytes fun _ => 0) =
        some [0x10, 0x20, 0x30, 0x40, 0x50, 0x60, 0x70, 0x80] := by
  decide +kernel

end Codes

end IsgConsole.AssistLib
