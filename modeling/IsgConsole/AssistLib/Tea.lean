/-
# AssistLib.Tea — the cipher of the access codes

`TEA` mixes two words with each other and with a running sum, for as many rounds as it is told.
`encrypt` adds `delta` to the sum in every round; `decrypt` takes the rounds back, from the sum that
`encrypt` ended with.  It does not multiply to find that sum: it shifts `delta` by the logarithm of
the number of rounds, cut off to an integer.

* `decryptCycle_encryptCycle` — one round is undone by one round;
* `decryptSum_iff` — the shift is the sum exactly where the number of rounds is a power of two;
* `decrypt_encrypt` — **where `decrypt` undoes `encrypt`.**
-/
import Mathlib.Data.Nat.Log
import Mathlib.Data.Nat.ModEq
import Mathlib.Logic.Function.Iterate
import IsgConsole.Theory.Bytes

namespace IsgConsole.AssistLib

open IsgConsole.Theory

set_option autoImplicit false

/-! ## Rounds -/

/-- The four words of a key. -/
structure KeyWords where
  a : UInt32
  b : UInt32
  c : UInt32
  d : UInt32

/-- The registers of a run. -/
@[ext]
structure Registers where
  y : UInt32
  z : UInt32
  sum : UInt32
  deriving DecidableEq

/-- `0x9E3779B9`. -/
def delta : UInt32 := 0x9E3779B9

/-- What one word is moved by, for the other word and two words of the key. -/
def mix (word sum k₁ k₂ : UInt32) : UInt32 :=
  ((word <<< 4) + k₁) ^^^ (word + sum) ^^^ ((word >>> 5) + k₂)

/-- A cycle of `encrypt`. -/
def encryptCycle (k : KeyWords) (r : Registers) : Registers :=
  let sum := r.sum + delta
  let y := r.y + mix r.z sum k.a k.b
  let z := r.z + mix y sum k.c k.d
  { y, z, sum }

/-- A cycle of `decrypt`. -/
def decryptCycle (k : KeyWords) (r : Registers) : Registers :=
  let z := r.z - mix r.y r.sum k.c k.d
  let y := r.y - mix z r.sum k.a k.b
  { y, z, sum := r.sum - delta }

theorem decryptCycle_encryptCycle (k : KeyWords) :
    Function.LeftInverse (decryptCycle k) (encryptCycle k) := by
  intro r
  simp only [decryptCycle, encryptCycle, UInt32.add_sub_cancel]

theorem encryptCycle_decryptCycle (k : KeyWords) :
    Function.RightInverse (decryptCycle k) (encryptCycle k) := by
  intro r
  simp only [decryptCycle, encryptCycle, UInt32.sub_add_cancel]

/-- The sum does not depend on the words. -/
theorem sum_encryptCycles (k : KeyWords) (round : Nat) (r : Registers) :
    ((encryptCycle k)^[round] r).sum = r.sum + delta * UInt32.ofNat round := by
  induction round with
  | zero => simp
  | succ round ih =>
      rw [Function.iterate_succ_apply', encryptCycle, ih, UInt32.ofNat_add, UInt32.mul_add,
        UInt32.add_assoc]
      rfl

/-- The sum after all rounds of `encrypt`. -/
def encryptSum (round : Nat) : UInt32 := delta * UInt32.ofNat round

/-- `TEA::logbase` of a number of rounds, cut off to an integer. -/
def logbase (base round : Nat) : Nat := Nat.log base round

/-- The sum `decrypt` starts from. -/
def decryptSum (round : Nat) : UInt32 :=
  if round = 32 then 0xC6EF3720
  else if round = 16 then 0xE3779B90
  else delta <<< UInt32.ofNat (logbase 2 round)

/-- A shift is a multiplication. -/
theorem delta_shiftLeft {k : Nat} (narrow : k < 32) :
    delta <<< UInt32.ofNat k = delta * UInt32.ofNat (2 ^ k) := by
  apply UInt32.toNat_inj.mp
  have amount : (UInt32.ofNat k).toNat = k := UInt32.toNat_ofNat_of_lt' (narrow.trans (by decide))
  rw [UInt32.toNat_shiftLeft, amount, Nat.mod_eq_of_lt narrow, UInt32.toNat_mul,
    UInt32.toNat_ofNat', Nat.shiftLeft_eq, Nat.mul_mod_mod]

theorem decryptSum_eq {round : Nat} (bound : round < 2 ^ 32) :
    decryptSum round = encryptSum (2 ^ logbase 2 round) := by
  unfold decryptSum encryptSum
  split
  case isTrue thirtyTwo =>
    subst thirtyTwo
    decide
  case isFalse =>
    split
    case isTrue sixteen =>
      subst sixteen
      decide
    case isFalse => exact delta_shiftLeft (Nat.log_lt_of_lt_pow' (by decide) bound)

/-- `delta` is odd, so no two numbers of rounds have one sum. -/
theorem encryptSum_injective {m n : Nat} (small : m < 2 ^ 32) (small' : n < 2 ^ 32)
    (same : encryptSum m = encryptSum n) : m = n := by
  have words := congrArg UInt32.toNat same
  simp only [encryptSum, UInt32.toNat_mul, UInt32.toNat_ofNat', Nat.mul_mod_mod] at words
  have congruent : Nat.ModEq (2 ^ 32) m n :=
    Nat.ModEq.cancel_left_of_coprime (c := delta.toNat) (by decide) words
  exact Nat.ModEq.eq_of_lt_of_lt congruent small small'

/-- The number of rounds is a power of two. -/
def PowerOfTwo (round : Nat) : Prop := ∃ k, round = 2 ^ k

theorem powerOfTwo_iff {round : Nat} (positive : round ≠ 0) :
    PowerOfTwo round ↔ 2 ^ logbase 2 round = round := by
  constructor
  · rintro ⟨k, rfl⟩
    rw [logbase, Nat.log_pow (by decide)]
  · intro exact'
    exact ⟨logbase 2 round, exact'.symm⟩

/-- **The shift is the sum for the powers of two.** -/
theorem decryptSum_iff {round : Nat} (positive : round ≠ 0) (bound : round < 2 ^ 32) :
    decryptSum round = encryptSum round ↔ PowerOfTwo round := by
  rw [decryptSum_eq bound, powerOfTwo_iff positive]
  constructor
  · intro same
    exact encryptSum_injective ((Nat.pow_log_le_self 2 positive).trans_lt bound) bound same
  · exact congrArg encryptSum

/-! ## Blocks -/

/-- `qFromBigEndian` of a little-endian host, and `qToBigEndian`. -/
def qFromBigEndian (word : UInt32) : UInt32 :=
  FixedCodec.u32.decode (FixedCodec.u32.encode word).reverse

theorem qFromBigEndian_involutive : Function.Involutive qFromBigEndian := by
  intro word
  have width : (FixedCodec.u32.encode word).reverse.length = FixedCodec.u32.width := by
    rw [List.length_reverse, FixedCodec.length_encode]
  rw [qFromBigEndian, qFromBigEndian, FixedCodec.u32.encode_decode _ width, List.reverse_reverse,
    FixedCodec.decode_encode]

/-- `TEA`: the number of rounds, whether words are in network order, and a key of 16 bytes. -/
structure TEA where
  m_round : Nat
  m_isNetByte : Bool
  m_key : Bytes
  sized : m_key.length = 16

namespace TEA

/-- Two words of memory. -/
def block : FixedCodec (UInt32 × UInt32) := .pair .u32 .u32

@[simp] theorem block_width : block.width = 8 := rfl

variable (tea : TEA)

def ntoh (netlong : UInt32) : UInt32 :=
  if tea.m_isNetByte then qFromBigEndian netlong else netlong

theorem ntoh_involutive : Function.Involutive tea.ntoh := by
  intro word
  unfold ntoh
  cases tea.m_isNetByte with
  | false => rfl
  | true => exact qFromBigEndian_involutive word

/-- The words of the key, in host order. -/
def keyWords : KeyWords :=
  let (k₀, k₁) := block.decode tea.m_key
  let (k₂, k₃) := block.decode (tea.m_key.drop block.width)
  { a := tea.ntoh k₀, b := tea.ntoh k₁, c := tea.ntoh k₂, d := tea.ntoh k₃ }

/-- The registers a run starts with. -/
def load (input : Bytes) (sum : UInt32) : Registers :=
  let (y, z) := block.decode input
  { y := tea.ntoh y, z := tea.ntoh z, sum }

/-- The block a run ends with. -/
def store (r : Registers) : Bytes := block.encode (tea.ntoh r.y, tea.ntoh r.z)

/-- `TEA::encrypt`: a block of eight bytes for the first eight of the input. -/
def encrypt (input : Bytes) : Bytes :=
  tea.store ((encryptCycle tea.keyWords)^[tea.m_round] (tea.load input 0))

/-- `TEA::decrypt`. -/
def decrypt (input : Bytes) : Bytes :=
  tea.store ((decryptCycle tea.keyWords)^[tea.m_round] (tea.load input (decryptSum tea.m_round)))

@[simp] theorem length_store (r : Registers) : (tea.store r).length = 8 :=
  block.length_encode _

theorem load_store (r : Registers) : tea.load (tea.store r) r.sum = r := by
  simp only [load, store, FixedCodec.decode_encode, tea.ntoh_involutive r.y,
    tea.ntoh_involutive r.z]

theorem store_load {input : Bytes} (sized : input.length = 8) (sum : UInt32) :
    tea.store (tea.load input sum) = input := by
  simp only [load, store, tea.ntoh_involutive (block.decode input).1,
    tea.ntoh_involutive (block.decode input).2, Prod.mk.eta, block.encode_decode input sized]

/-- What undoes the rounds undoes the run, where it starts from the sum the run ends with. -/
theorem undo {forth back : Registers → Registers} (undoes : Function.LeftInverse back forth)
    (round : Nat) {first last : UInt32} {input : Bytes} (sized : input.length = 8)
    (ends : (forth^[round] (tea.load input first)).sum = last) :
    tea.store (back^[round] (tea.load (tea.store (forth^[round] (tea.load input first))) last)) =
      input := by
  rw [← ends, tea.load_store, undoes.iterate round, tea.store_load sized]

theorem decrypt_encrypt_of_sum {tea : TEA}
    (same : decryptSum tea.m_round = encryptSum tea.m_round) {input : Bytes}
    (sized : input.length = 8) : tea.decrypt (tea.encrypt input) = input := by
  apply tea.undo (decryptCycle_encryptCycle tea.keyWords) tea.m_round sized
  rw [sum_encryptCycles, same, encryptSum]
  exact UInt32.zero_add _

/-- So is a block decrypted first and encrypted then. -/
theorem encrypt_decrypt_of_sum {tea : TEA}
    (same : decryptSum tea.m_round = encryptSum tea.m_round) {input : Bytes}
    (sized : input.length = 8) : tea.encrypt (tea.decrypt input) = input := by
  apply tea.undo (encryptCycle_decryptCycle tea.keyWords) tea.m_round sized
  have back := (encryptCycle_decryptCycle tea.keyWords).iterate tea.m_round
    (tea.load input (decryptSum tea.m_round))
  have sum := sum_encryptCycles tea.keyWords tea.m_round
    ((decryptCycle tea.keyWords)^[tea.m_round] (tea.load input (decryptSum tea.m_round)))
  rw [back, ← encryptSum, ← same] at sum
  exact UInt32.right_eq_add.mp sum

/-- Blocks of this number of rounds come back, under every key and in either byte order. -/
def ComesBack (round : Nat) : Prop :=
  ∀ tea : TEA, tea.m_round = round → ∀ input : Bytes, input.length = 8 →
    tea.decrypt (tea.encrypt input) = input

/-- The key of zeros. -/
def zeroKey (round : Nat) : TEA :=
  { m_round := round, m_isNetByte := false, m_key := List.replicate 16 0, sized := rfl }

def zeroBlock : Bytes := List.replicate 8 0

/-- The block of zeros does not come back for these numbers of rounds, by running each of them. -/
theorem zeroBlock_changed :
    ∀ round ∈ List.range 65, ¬ PowerOfTwo round → round ≠ 0 →
      (zeroKey round).decrypt ((zeroKey round).encrypt zeroBlock) ≠ zeroBlock := by
  -- an evaluation, and no argument: sums that differ need not give blocks that do
  have check : ∀ round ∈ List.range 65, 2 ^ logbase 2 round = round ∨ round = 0 ∨
      (zeroKey round).decrypt ((zeroKey round).encrypt zeroBlock) ≠ zeroBlock := by
    decide +kernel
  intro round small other positive
  rcases check round small with power | zero | changed
  · exact absurd ((powerOfTwo_iff positive).mpr power) other
  · exact absurd zero positive
  · exact changed

/-- **Where `decrypt` undoes `encrypt`.**  A power of two is enough; for no other number of rounds
does `decrypt` start from the sum `encrypt` ends with.  That some block is lost then is shown for up
to 64 rounds only, by evaluation. -/
theorem decrypt_encrypt (round : Nat) (positive : 1 ≤ round) (bound : round ≤ 2 ^ 26) :
    (PowerOfTwo round → ComesBack round) ∧
    (decryptSum round = encryptSum round ↔ PowerOfTwo round) ∧
    (round ≤ 64 → ComesBack round → PowerOfTwo round) := by
  have some' : round ≠ 0 := by omega
  have sums : decryptSum round = encryptSum round ↔ PowerOfTwo round :=
    decryptSum_iff some' (by omega)
  refine ⟨fun power => ?_, sums, fun small comesBack => ?_⟩
  · rintro tea rfl input sized
    exact decrypt_encrypt_of_sum (sums.mpr power) sized
  · by_contra other
    have here : round ∈ List.range 65 := List.mem_range.mpr (by omega)
    exact zeroBlock_changed round here other some' (comesBack (zeroKey round) rfl zeroBlock rfl)

/-- Three rounds. -/
theorem decrypt_encrypt_three :
    decryptSum 3 ≠ encryptSum 3 ∧ ¬ ComesBack 3 := by
  obtain ⟨-, sums, exact'⟩ := decrypt_encrypt 3 (by decide) (by decide)
  have other : ¬ PowerOfTwo 3 := by
    rw [powerOfTwo_iff (by decide)]
    decide
  exact ⟨fun same => other (sums.mp same), fun comesBack => other (exact' (by decide) comesBack)⟩

/-- A block that three rounds do not give back. -/
theorem three_rounds_lost :
    ∃ tea : TEA, tea.m_round = 3 ∧ tea.decrypt (tea.encrypt zeroBlock) ≠ zeroBlock :=
  ⟨zeroKey 3, rfl, by decide +kernel⟩

end TEA

end IsgConsole.AssistLib
