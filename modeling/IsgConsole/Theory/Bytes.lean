/-
# Theory.Bytes — little-endian words and fixed-width codecs over byte strings

The sockets of the program carry packed C structs: every field is a
little-endian word of its declared width and the fields follow one another
without padding.  A `FixedCodec` is one such layout.  It carries its own laws,
so a struct assembled from lawful fields is lawful by construction:

* `length_encode` — every value takes exactly `width` bytes;
* `decode_encode`, `encode_decode` — values and `width`-byte strings correspond;
* `decode_append` — reading looks at no byte past the first `width`.

`word`, `pair` and `imap` build the layouts; `split?` is the checked read that a
receiver performs before it looks at a header.
-/
import Mathlib.Data.List.TakeWhile
import Mathlib.Tactic.Ring
import Mathlib.Tactic.Linarith

namespace IsgConsole.Theory

set_option autoImplicit false

abbrev Bytes := List UInt8

/-- What is read of a C string. -/
def cString (bs : Bytes) : Bytes := bs.takeWhile (· ≠ 0)

theorem cString_eq_iff {bs : Bytes} : cString bs = bs ↔ ∀ c ∈ bs, c ≠ 0 := by
  simp [cString, List.takeWhile_eq_self_iff]

theorem length_cString_le (bs : Bytes) : (cString bs).length ≤ bs.length :=
  (List.takeWhile_sublist _).length_le

/-- A string no shorter than its bytes is all of them. -/
theorem cString_eq_of_length {bs : Bytes} (same : (cString bs).length = bs.length) :
    cString bs = bs :=
  (List.takeWhile_sublist _).eq_of_length same

/-! ## Little-endian naturals -/

/-- The low `w` bytes of `n`, least significant first. -/
def le : Nat → Nat → Bytes
  | 0, _ => []
  | w + 1, n => UInt8.ofNat (n % 256) :: le w (n / 256)

/-- A byte string read as a little-endian natural. -/
def ofLE : Bytes → Nat
  | [] => 0
  | b :: bs => b.toNat + 256 * ofLE bs

@[simp] theorem length_le (w n : Nat) : (le w n).length = w := by
  induction w generalizing n with
  | zero => rfl
  | succ w ih => simp [le, ih]

/-- Below `256 ^ w` the `w` bytes determine the number. -/
theorem ofLE_le {w n : Nat} (bound : n < 256 ^ w) : ofLE (le w n) = n := by
  induction w generalizing n with
  | zero =>
      have zero : n = 0 := by simpa using bound
      simp [le, ofLE, zero]
  | succ w ih =>
      have high : n / 256 < 256 ^ w := by
        rw [Nat.div_lt_iff_lt_mul (by decide), ← Nat.pow_succ]
        exact bound
      have low : (UInt8.ofNat (n % 256)).toNat = n % 256 := by
        rw [UInt8.toNat_ofNat']
        exact Nat.mod_eq_of_lt (Nat.mod_lt _ (by decide))
      rw [le, ofLE, low, ih high]
      omega

theorem ofLE_lt (bs : Bytes) : ofLE bs < 256 ^ bs.length := by
  induction bs with
  | nil => simp [ofLE]
  | cons b bs ih =>
      have byte : b.toNat < 256 := b.toNat_lt
      rw [ofLE, List.length_cons, Nat.pow_succ]
      omega

/-- Every byte string is the little-endian form of the number it denotes. -/
theorem le_ofLE (bs : Bytes) : le bs.length (ofLE bs) = bs := by
  induction bs with
  | nil => rfl
  | cons b bs ih =>
      have byte : b.toNat < 256 := b.toNat_lt
      have low : (b.toNat + 256 * ofLE bs) % 256 = b.toNat := by omega
      have high : (b.toNat + 256 * ofLE bs) / 256 = ofLE bs := by omega
      rw [List.length_cons, ofLE, le, low, high, ih, UInt8.ofNat_toNat]

/-! ## Fixed-width codecs -/

/-- A layout of `α` on exactly `width` bytes. -/
structure FixedCodec (α : Type) where
  width : Nat
  encode : α → Bytes
  decode : Bytes → α
  length_encode : ∀ a, (encode a).length = width
  decode_encode : ∀ a, decode (encode a) = a
  encode_decode : ∀ bs, bs.length = width → encode (decode bs) = bs
  decode_append : ∀ bs more, width ≤ bs.length → decode (bs ++ more) = decode bs

attribute [simp] FixedCodec.length_encode FixedCodec.decode_encode

namespace FixedCodec

variable {α β : Type}

@[simp] theorem decode_encode_append (c : FixedCodec α) (a : α) (rest : Bytes) :
    c.decode (c.encode a ++ rest) = a := by
  rw [c.decode_append _ _ (by simp), c.decode_encode]

@[simp] theorem drop_encode_append (c : FixedCodec α) (a : α) (rest : Bytes) :
    (c.encode a ++ rest).drop c.width = rest := by
  rw [List.drop_left' (c.length_encode a)]

/-- A buffer that holds the value is its bytes and what follows them. -/
theorem encode_decode_append (c : FixedCodec α) {bs : Bytes} (enough : c.width ≤ bs.length) :
    c.encode (c.decode bs) ++ bs.drop c.width = bs := by
  have exact : (bs.take c.width).length = c.width := by simp [enough]
  have same : c.decode (bs.take c.width) = c.decode bs := by
    rw [← c.decode_append _ (bs.drop c.width) exact.ge, List.take_append_drop]
  rw [← same, c.encode_decode _ exact, List.take_append_drop]

/-- A little-endian word, given by its two conversions with the naturals. -/
def word (w : Nat) (toNat : α → Nat) (ofNat : Nat → α)
    (bound : ∀ a, toNat a < 256 ^ w) (ofNat_toNat : ∀ a, ofNat (toNat a) = a)
    (toNat_ofNat : ∀ n, n < 256 ^ w → toNat (ofNat n) = n) : FixedCodec α where
  width := w
  encode a := le w (toNat a)
  decode bs := ofNat (ofLE (bs.take w))
  length_encode a := length_le w _
  decode_encode a := by
    rw [List.take_of_length_le (by simp), ofLE_le (bound a), ofNat_toNat]
  encode_decode bs exact := by
    rw [List.take_of_length_le exact.le, toNat_ofNat _ (exact ▸ ofLE_lt bs), ← exact, le_ofLE]
  decode_append bs more enough := by rw [List.take_append_of_le_length enough]

/-- Two fields, one after the other. -/
def pair (c : FixedCodec α) (d : FixedCodec β) : FixedCodec (α × β) where
  width := c.width + d.width
  encode p := c.encode p.1 ++ d.encode p.2
  decode bs := (c.decode bs, d.decode (bs.drop c.width))
  length_encode p := by simp
  decode_encode p := by simp
  encode_decode bs exact := by
    have first : c.width ≤ bs.length := by omega
    have last : (bs.drop c.width).length = d.width := by rw [List.length_drop]; omega
    rw [d.encode_decode _ last, encode_decode_append c first]
  decode_append bs more enough := by
    have first : c.width ≤ bs.length := by omega
    have second : d.width ≤ (bs.drop c.width).length := by rw [List.length_drop]; omega
    rw [c.decode_append _ _ first, List.drop_append_of_le_length first,
      d.decode_append _ _ second]

/-- The same bytes read as another type: a struct from the tuple of its fields. -/
def imap (c : FixedCodec α) (f : α → β) (g : β → α) (fg : ∀ b, f (g b) = b)
    (gf : ∀ a, g (f a) = a) : FixedCodec β where
  width := c.width
  encode b := c.encode (g b)
  decode bs := f (c.decode bs)
  length_encode b := c.length_encode _
  decode_encode b := by rw [c.decode_encode, fg]
  encode_decode bs exact := by rw [gf, c.encode_decode bs exact]
  decode_append bs more enough := by rw [c.decode_append _ _ enough]

def u8 : FixedCodec UInt8 :=
  word 1 UInt8.toNat UInt8.ofNat (fun a => a.toNat_lt) (fun _ => UInt8.ofNat_toNat)
    (fun _ fits => UInt8.toNat_ofNat_of_lt fits)

def u16 : FixedCodec UInt16 :=
  word 2 UInt16.toNat UInt16.ofNat (fun a => a.toNat_lt) (fun _ => UInt16.ofNat_toNat)
    (fun _ fits => UInt16.toNat_ofNat_of_lt fits)

def u32 : FixedCodec UInt32 :=
  word 4 UInt32.toNat UInt32.ofNat (fun a => a.toNat_lt) (fun _ => UInt32.ofNat_toNat)
    (fun _ fits => UInt32.toNat_ofNat_of_lt fits)

def u64 : FixedCodec UInt64 :=
  word 8 UInt64.toNat UInt64.ofNat (fun a => a.toNat_lt) (fun _ => UInt64.ofNat_toNat)
    (fun _ fits => UInt64.toNat_ofNat_of_lt fits)

/-- A signed half word keeps its two's complement bits. -/
def i16 : FixedCodec Int16 :=
  u16.imap UInt16.toInt16 Int16.toUInt16 (fun _ => rfl) (fun _ => rfl)

/-! ## Reading a header off a buffer -/

/-- The leading value and the bytes behind it, once enough bytes are there. -/
def split? (c : FixedCodec α) (bs : Bytes) : Option (α × Bytes) :=
  if c.width ≤ bs.length then some (c.decode bs, bs.drop c.width) else none

@[simp] theorem split?_encode_append (c : FixedCodec α) (a : α) (rest : Bytes) :
    c.split? (c.encode a ++ rest) = some (a, rest) := by
  have enough : c.width ≤ (c.encode a ++ rest).length := by simp
  rw [split?, if_pos enough, decode_encode_append, drop_encode_append]

theorem split?_length {c : FixedCodec α} {bs rest : Bytes} {a : α}
    (read : c.split? bs = some (a, rest)) : bs.length = c.width + rest.length := by
  unfold split? at read
  split at read
  · rename_i enough
    simp only [Option.some.injEq, Prod.mk.injEq] at read
    rw [← read.2, List.length_drop]
    omega
  · cases read

end FixedCodec

end IsgConsole.Theory
