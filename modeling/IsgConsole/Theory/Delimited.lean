/-
# Theory.Delimited — frames between two marks

A stream carries codes, each between a start mark and a stop mark, with noise in between.
The reference reading looks for a start mark, takes everything up to the next stop mark as
the code, and goes on behind it.

* `scan` reads symbol by symbol, so it may be interrupted anywhere;
* `Reading` is what stands in front of a text: noise, a frame that is not complete, or a
  frame, and `frames_silent`, `frames_begun`, `frames_whole` are what each comes to for the
  frames of the text and whatever follows it.
-/
import Mathlib.Data.List.Basic

namespace IsgConsole.Theory.Delimited

set_option autoImplicit false

variable {α : Type} [DecidableEq α] (start stop : α)

/-- The codes of a stream, from between frames (`none`) or with the front of a code read. -/
def scan : Option (List α) → List α → List (List α)
  | _, [] => []
  | none, b :: bs => if b = start then scan (some []) bs else scan none bs
  | some code, b :: bs => if b = stop then code :: scan none bs else scan (some (code ++ [b])) bs

/-- The codes of a stream. -/
abbrev frames (bs : List α) : List (List α) := scan start stop none bs

/-! ## Reading on -/

variable {start stop}

theorem scan_silent {noise : List α} (silent : start ∉ noise) (bs : List α) :
    scan start stop none (noise ++ bs) = scan start stop none bs := by
  induction noise with
  | nil => rfl
  | cons b noise ih =>
      obtain ⟨other, silent⟩ := List.ne_and_not_mem_of_not_mem_cons silent
      rw [List.cons_append, scan, if_neg (Ne.symm other)]
      exact ih silent

theorem scan_code {code : List α} (clean : stop ∉ code) (got bs : List α) :
    scan start stop (some got) (code ++ stop :: bs) = (got ++ code) :: scan start stop none bs := by
  induction code generalizing got with
  | nil => rw [List.nil_append, scan, if_pos rfl, List.append_nil]
  | cons b code ih =>
      obtain ⟨other, clean⟩ := List.ne_and_not_mem_of_not_mem_cons clean
      rw [List.cons_append, scan, if_neg (Ne.symm other), ih clean, List.append_assoc]
      rfl

theorem scan_unfinished {code : List α} (unfinished : stop ∉ code) (got : List α) :
    scan start stop (some got) code = [] := by
  induction code generalizing got with
  | nil => rfl
  | cons b code ih =>
      obtain ⟨other, unfinished⟩ := List.ne_and_not_mem_of_not_mem_cons unfinished
      rw [scan, if_neg (Ne.symm other)]
      exact ih unfinished _

/-! ## What stands in front -/

/-- A mark that is not in front of it is found in one place only. -/
theorem split_unique {mark : α} {first first' rest rest' : List α} (absent : mark ∉ first)
    (absent' : mark ∉ first') (same : first ++ mark :: rest = first' ++ mark :: rest') :
    first = first' ∧ rest = rest' := by
  have place := congrArg (List.idxOf mark) same
  rw [List.idxOf_append_of_notMem absent, List.idxOf_append_of_notMem absent',
    List.idxOf_cons_self, List.idxOf_cons_self] at place
  obtain ⟨rfl, behind⟩ := List.append_inj same place
  exact ⟨rfl, (List.cons.inj behind).2⟩

variable (start stop)

/-- What stands in front of a text. -/
inductive Reading (text : List α) : Prop where
  | silent (silent : start ∉ text)
  | begun (noise behind : List α) (split : text = noise ++ start :: behind)
      (silent : start ∉ noise) (unfinished : stop ∉ behind)
  | whole (noise code rest : List α) (split : text = noise ++ start :: (code ++ stop :: rest))
      (silent : start ∉ noise) (clean : stop ∉ code)

theorem reading (text : List α) : Reading start stop text := by
  by_cases there : start ∈ text
  · obtain ⟨noise, behind, rfl, silent⟩ := List.eq_append_cons_of_mem there
    by_cases complete : stop ∈ behind
    · obtain ⟨code, rest, rfl, clean⟩ := List.eq_append_cons_of_mem complete
      exact .whole noise code rest rfl silent clean
    · exact .begun noise behind rfl silent complete
  · exact .silent there

variable {start stop}

theorem frames_silent {text : List α} (silent : start ∉ text) : frames start stop text = [] := by
  have all : scan start stop none (text ++ []) = [] := scan_silent silent []
  rw [List.append_nil] at all
  exact all

theorem frames_begun {noise behind : List α} (silent : start ∉ noise)
    (unfinished : stop ∉ behind) : frames start stop (noise ++ start :: behind) = [] := by
  rw [frames, scan_silent silent, scan, if_pos rfl]
  exact scan_unfinished unfinished []

/-- A frame in front is the first code, whatever follows. -/
theorem frames_whole {noise code : List α} (silent : start ∉ noise) (clean : stop ∉ code)
    (rest : List α) :
    frames start stop (noise ++ start :: (code ++ stop :: rest)) =
      code :: frames start stop rest := by
  rw [frames, scan_silent silent, scan, if_pos rfl, scan_code clean]
  rfl

end IsgConsole.Theory.Delimited
