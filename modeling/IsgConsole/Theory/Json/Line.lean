/-
# Theory.Json.Line — compact texts are lines

What is written compactly has no control character: those of strings are escaped.  It does not begin
with white space.

* `print_line` — **a compact text is one line**;
* `print_head` — what it begins with.
-/
import IsgConsole.Theory.Json.Print

namespace IsgConsole.Theory.Json

set_option autoImplicit false

/-- A text without control characters. -/
def Line (bs : Bytes) : Prop := ∀ b ∈ bs, 0x20 ≤ b

instance (bs : Bytes) : Decidable (Line bs) := List.decidableBAll (fun b => 0x20 ≤ b) bs

theorem Line.append {bs cs : Bytes} (left : Line bs) (right : Line cs) : Line (bs ++ cs) := by
  intro b there
  rcases List.mem_append.mp there with first | second
  · exact left b first
  · exact right b second

theorem Line.cons {b : UInt8} {bs : Bytes} (head : 0x20 ≤ b) (tail : Line bs) : Line (b :: bs) :=
  List.forall_mem_cons.mpr ⟨head, tail⟩

theorem digits_line {ds : Bytes} (digits : ∀ b ∈ ds, isDigit b) : Line ds := by
  intro b there
  have bounds := digits b there
  simp only [isDigit, decide_eq_true_eq] at bounds
  exact UInt8.le_trans (by decide) bounds.1

theorem printNumber_line (d : Decimal) : Line (printNumber d) := by
  refine Line.append ?_ ?_
  · split <;> decide
  · split
    · exact digits_line (natDigits_digits _)
    · exact (digits_line (natDigits_digits _)).append
        (Line.cons (by decide) (digits_line (padDigits_digits _ _)))

theorem escape_line (b : UInt8) : Line (escape b) := by
  have each : ∀ n < 256, Line (escape (UInt8.ofNat n)) := by decide +kernel
  have this := each b.toNat b.toNat_lt
  rwa [UInt8.ofNat_toNat] at this

theorem printString_line (s : Bytes) : Line (printString s) := by
  refine Line.cons (by decide) (Line.append ?_ (by decide))
  intro c there
  obtain ⟨b, -, escaped⟩ := List.mem_flatMap.mp there
  exact escape_line b c escaped

mutual

/-- **A compact text is one line.** -/
theorem print_line : ∀ v : Json, Line (print .compact v)
  | .null => by decide
  | .bool true => by decide
  | .bool false => by decide
  | .number d => printNumber_line d
  | .string s => printString_line s
  | .array [] => by decide
  | .array (v :: vs) => Line.cons (by decide) ((print_line v).append (printElements_line vs))
  | .object [] => by decide
  | .object ((key, v) :: ms) => by
      have colon : Line [colon] := by decide
      exact Line.cons (by decide)
        ((((printString_line key).append colon).append (print_line v)).append
          (printMembers_line ms))

theorem printElements_line : ∀ vs : List Json, Line (printElements .compact vs)
  | [] => by decide
  | v :: vs => Line.cons (by decide) ((print_line v).append (printElements_line vs))

theorem printMembers_line : ∀ ms : List (Bytes × Json), Line (printMembers .compact ms)
  | [] => by decide
  | (key, v) :: ms => by
      have colon : Line [colon] := by decide
      exact Line.cons (by decide)
        ((((printString_line key).append colon).append (print_line v)).append
          (printMembers_line ms))

end

/-- A compact text begins with a byte above the space. -/
theorem print_head (v : Json) : ∃ c r, print .compact v = c :: r ∧ 0x20 < c := by
  cases v with
  | null => exact ⟨_, _, rfl, by decide⟩
  | bool b => cases b <;> exact ⟨_, _, rfl, by decide⟩
  | number d =>
      have stops : Stops [] := trivial
      have read := readNumber_print d stops
      rw [List.append_nil] at read
      obtain ⟨c, r, text⟩ := exists_head_of_number read
      rw [text] at read
      refine ⟨c, r, text, ?_⟩
      rcases readNumber_head read with rfl | isDigit
      · decide
      · simp only [Json.isDigit, decide_eq_true_eq] at isDigit
        exact UInt8.lt_of_lt_of_le (by decide) isDigit.1
  | string s => exact ⟨_, _, rfl, by decide⟩
  | array vs => exact ⟨_, _, rfl, by decide⟩
  | object ms => exact ⟨_, _, rfl, by decide⟩

end IsgConsole.Theory.Json
