/-
# Theory.Buffer — writing into an array of bytes

A buffer of a fixed size is filled from its front: bytes are written at a place, and a write that
reaches over the end is none (`write`).  A buffer with its front filled and zeros behind it takes the
bytes that fit behind the front (`write_behind`), and a front may be written again (`write_front`).
-/
import IsgConsole.Theory.Bytes

namespace IsgConsole.Theory.Buffer

set_option autoImplicit false

/-- Bytes at a place of a buffer; `none` where they do not fit. -/
def write (buffer : Bytes) (place : Nat) (bytes : Bytes) : Option Bytes :=
  if place + bytes.length ≤ buffer.length then
    some (buffer.take place ++ bytes ++ buffer.drop (place + bytes.length))
  else none

/-- A front with zeros behind it. -/
def filled (front : Bytes) (free : Nat) : Bytes := front ++ List.replicate free 0

@[simp] theorem length_filled (front : Bytes) (free : Nat) :
    (filled front free).length = front.length + free := by
  simp [filled]

theorem write_behind {front bytes : Bytes} {free : Nat} (fits : bytes.length ≤ free) :
    write (filled front free) front.length bytes =
      some (filled (front ++ bytes) (free - bytes.length)) := by
  have room : front.length + bytes.length ≤ (filled front free).length := by
    rw [length_filled]
    omega
  rw [write, if_pos room, filled, filled, List.take_left, List.drop_append, List.drop_replicate,
    Nat.add_sub_cancel_left, List.drop_eq_nil_of_le (by omega), List.nil_append]

theorem write_front {first front rest : Bytes} {free : Nat} (same : first.length = front.length) :
    write (filled (front ++ rest) free) 0 first = some (filled (first ++ rest) free) := by
  have room : 0 + first.length ≤ (filled (front ++ rest) free).length := by
    rw [length_filled, List.length_append]
    omega
  rw [write, if_pos room, Nat.zero_add, same, filled, filled, List.append_assoc front,
    List.drop_left, List.take_zero, List.nil_append, List.append_assoc]

end IsgConsole.Theory.Buffer
