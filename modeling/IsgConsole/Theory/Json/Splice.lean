/-
# Theory.Json.Splice — arrays put together from texts

`arrayText` writes an array around texts that were written elsewhere.  It denotes the array
of what the texts denote (`arrayText_denotes`), and with anything but white space behind it
a text denotes nothing (`not_denotes_append`).
-/
import Mathlib.Data.List.TakeWhile
import IsgConsole.Theory.Json.Print

namespace IsgConsole.Theory.Json

set_option autoImplicit false

/-- The array of these texts. -/
def arrayText : List Bytes → Bytes
  | [] => [lbracket, rbracket]
  | text :: texts => [lbracket] ++ text ++ texts.flatMap (fun t => [comma] ++ t) ++ [rbracket]

/-- A text of a value that ends with a byte of its own. -/
def DenotesClosed (text : Bytes) (v : Json) : Prop := Denotes text v ∧ (Production.value v).closed

theorem skipWs_behind {rest : Bytes} (blank : skipWs rest = []) (more : Bytes) :
    skipWs (rest ++ more) = skipWs more := by
  apply skipWs_blank
  exact List.dropWhile_eq_nil_iff.mp blank

/-- What follows the first element of an array text. -/
theorem elements_denote {texts : List Bytes} {vs : List Json}
    (denote : List.Forall₂ DenotesClosed texts vs) {rest : Bytes} (blank : skipWs rest = []) :
    Reads (rest ++ (texts.flatMap (fun t => [comma] ++ t) ++ [rbracket])) (.elements vs) [] := by
  induction denote generalizing rest with
  | nil =>
      apply Reads.lastElement
      rw [skipWs_behind blank]
      rfl
  | @cons text v texts vs denotes _ ih =>
      obtain ⟨⟨rest', reads, blank'⟩, closed⟩ := denotes
      have separated : skipWs (rest ++ ((text :: texts).flatMap (fun t => [comma] ++ t) ++
          [rbracket])) = comma :: (text ++ (texts.flatMap (fun t => [comma] ++ t) ++
          [rbracket])) := by
        rw [skipWs_behind blank, List.flatMap_cons, List.append_assoc, List.append_assoc]
        exact skipWs_cons (by decide) _
      exact .nextElement separated (reads.append (.inl closed) _) (ih blank')

/-- **The array of the texts denotes the array of the values.** -/
theorem arrayText_denotes {texts : List Bytes} {vs : List Json}
    (denote : List.Forall₂ DenotesClosed texts vs) : Denotes (arrayText texts) (.array vs) := by
  refine ⟨[], ?_, rfl⟩
  cases denote with
  | nil => exact .emptyArray (skipWs_cons (by decide) _) (skipWs_cons (by decide) _)
  | @cons text v texts vs denotes others =>
      obtain ⟨⟨rest, reads, blank⟩, closed⟩ := denotes
      have opened : skipWs (arrayText (text :: texts)) =
          lbracket :: (text ++ (texts.flatMap (fun t => [comma] ++ t) ++ [rbracket])) := by
        rw [arrayText, List.append_assoc, List.append_assoc]
        exact skipWs_cons (by decide) _
      exact .array opened (reads.append (.inl closed) _) (elements_denote others blank)

/-- Only white space may stand behind a document. -/
theorem not_denotes_append {text more : Bytes} {v : Json} (denotes : DenotesClosed text v)
    (ink : skipWs more ≠ []) (w : Json) : ¬ Denotes (text ++ more) w := by
  rintro ⟨rest', reads', blank'⟩
  obtain ⟨⟨rest, reads, blank⟩, closed⟩ := denotes
  have found := read_complete (reads.append (.inl closed) more) _ le_rfl
  have found' := read_complete reads' _ le_rfl
  simp only [Production.Found] at found found'
  rw [found, Option.some.injEq, Prod.mk.injEq] at found'
  rw [← found'.2, skipWs_behind blank] at blank'
  exact ink blank'

end IsgConsole.Theory.Json
