/-
# Theory.Greedy — the greedy selection

Elements come one after another, and one is taken unless it conflicts with one that was taken or is
not good enough.  The first is taken as it is.  What is taken does not conflict, and what is not
taken is not good enough or conflicts with an element in front of it (`selected`).

`select` is the same where every element is good enough; it may also be computed by dropping what
conflicts with the first element, and going on with the rest (`select_cons`).
-/
import Mathlib.Data.List.Induction

namespace IsgConsole.Theory.Greedy

set_option autoImplicit false

variable {α : Type} (conflict : α → α → Bool) (good : α → Bool)

/-- One more element, against those that were taken. -/
def take (taken : List α) (x : α) : List α :=
  if taken.any (conflict x) then taken
  else if good x then taken ++ [x]
  else taken

/-- The elements behind the first. -/
def greedy (first : α) (others : List α) : List α := others.foldl (take conflict good) [first]

/-- What a selection has taken behind the first element, `r` being an order the elements come in. -/
structure Selected (r : α → α → Prop) (first : α) (others tail : List α) : Prop where
  sub : tail.Sublist others
  enough : ∀ x ∈ tail, good x = true
  apart : (first :: tail).Pairwise fun x y => conflict y x = false
  omitted : ∀ y ∈ others, y ∉ tail →
    good y = false ∨ ∃ x ∈ first :: tail, r x y ∧ conflict y x = true

variable {conflict good}

/-- What one more element does to a selection. -/
theorem Selected.snoc {r : α → α → Prop} {first : α} {others tail : List α}
    (before : Selected conflict good r first others tail) {x : α}
    (last : ∀ y ∈ first :: others, r y x) :
    ∃ tail', take conflict good (first :: tail) x = first :: tail' ∧
      Selected conflict good r first (others ++ [x]) tail' := by
  have known : ∀ y ∈ first :: tail, r y x := by
    intro y there
    rcases List.mem_cons.mp there with rfl | later
    · exact last y List.mem_cons_self
    · exact last y (List.mem_cons_of_mem _ (before.sub.subset later))
  -- an element that is not taken leaves the selection as it is
  have refused (why : good x = false ∨ ∃ y ∈ first :: tail, r y x ∧ conflict x y = true) :
      Selected conflict good r first (others ++ [x]) tail := by
    refine ⟨before.sub.trans (List.sublist_append_left _ _), before.enough, before.apart, ?_⟩
    intro y there absent
    rcases List.mem_append.mp there with early | this
    · exact before.omitted y early absent
    · obtain rfl := List.mem_singleton.mp this
      exact why
  unfold take
  by_cases clash : (first :: tail).any (conflict x) = true
  · rw [if_pos clash]
    obtain ⟨y, there, conflicts⟩ := List.any_eq_true.mp clash
    exact ⟨tail, rfl, refused (.inr ⟨y, there, known y there, conflicts⟩)⟩
  · rw [if_neg clash]
    by_cases enough : good x = true
    case neg =>
      rw [if_neg enough]
      exact ⟨tail, rfl, refused (.inl (Bool.eq_false_iff.mpr enough))⟩
    case pos =>
      rw [if_pos enough]
      refine ⟨tail ++ [x], rfl, before.sub.append (List.Sublist.refl _), ?_, ?_, ?_⟩
      · intro y there
        rcases List.mem_append.mp there with early | this
        · exact before.enough y early
        · rw [List.mem_singleton.mp this, enough]
      · rw [← List.cons_append, List.pairwise_append]
        refine ⟨before.apart, List.pairwise_singleton _ _, fun y there z this => ?_⟩
        rw [List.mem_singleton.mp this]
        exact Bool.eq_false_iff.mpr fun conflicts =>
          clash (List.any_eq_true.mpr ⟨y, there, conflicts⟩)
      · intro y there absent
        rw [List.mem_append, not_or] at absent
        rcases List.mem_append.mp there with early | this
        · refine (before.omitted y early absent.1).imp_right ?_
          rintro ⟨z, here, conflicts⟩
          exact ⟨z, List.mem_append_left [x] here, conflicts⟩
        · exact absurd this absent.2

/-- **What a greedy selection takes and what it leaves.** -/
theorem selected (conflict : α → α → Bool) (good : α → Bool) {r : α → α → Prop} {first : α} {others : List α}
    (order : (first :: others).Pairwise r) :
    ∃ tail, greedy conflict good first others = first :: tail ∧
      Selected conflict good r first others tail := by
  induction others using List.reverseRecOn with
  | nil =>
      refine ⟨[], rfl, List.Sublist.refl _, ?_, List.pairwise_singleton _ _, ?_⟩
      · intro x there
        cases there
      · intro y there
        cases there
  | append_singleton others x ih =>
      rw [← List.cons_append, List.pairwise_append] at order
      obtain ⟨front, -, last⟩ := order
      obtain ⟨tail, ran, before⟩ := ih front
      obtain ⟨tail', next, after⟩ := before.snoc
        fun y there => last y there x (List.mem_singleton_self x)
      refine ⟨tail', ?_, after⟩
      rw [greedy, List.foldl_append, ← greedy, ran, List.foldl_cons, List.foldl_nil, next]

/-! ## Dropping what conflicts -/

section Select

variable (conflict : α → α → Bool)

/-- The greedy selection from any number of elements. -/
def select : List α → List α
  | [] => []
  | first :: others => greedy conflict (fun _ => true) first others

/-- What conflicts with an element that was taken may as well be missing. -/
theorem foldl_take_cons (first : α) (taken others : List α) :
    others.foldl (take conflict fun _ => true) (first :: taken) =
      first :: (others.filter fun y => !conflict y first).foldl (take conflict fun _ => true)
        taken := by
  induction others generalizing taken with
  | nil => rfl
  | cons y others ih =>
      rw [List.foldl_cons, take, List.any_cons]
      by_cases clash : conflict y first = true
      · rw [clash, Bool.true_or, if_pos rfl, ih taken, List.filter_cons_of_neg (by simp [clash])]
      · rw [Bool.eq_false_iff.mpr clash, Bool.false_or, if_pos rfl,
          List.filter_cons_of_pos (by simpa using clash), List.foldl_cons, take, if_pos rfl]
        split
        next => exact ih taken
        next => exact ih (taken ++ [y])

theorem foldl_take_nil (others : List α) :
    others.foldl (take conflict fun _ => true) [] = select conflict others := by
  cases others <;> rfl

/-- **One element is taken, and what conflicts with it is dropped.** -/
theorem select_cons (first : α) (others : List α) :
    select conflict (first :: others) =
      first :: select conflict (others.filter fun y => !conflict y first) := by
  rw [select, greedy, foldl_take_cons, foldl_take_nil]

/-- What a selection takes: elements that do not conflict, and of the others one in front of each that
it conflicts with. -/
structure Selection (r : α → α → Prop) (elements selection : List α) : Prop where
  sub : selection.Sublist elements
  apart : selection.Pairwise fun x y => conflict y x = false
  omitted : ∀ y ∈ elements, y ∉ selection → ∃ x ∈ selection, r x y ∧ conflict y x = true

theorem select_selection {r : α → α → Prop} {elements : List α} (order : elements.Pairwise r) :
    Selection conflict r elements (select conflict elements) := by
  cases elements with
  | nil => exact ⟨List.Sublist.refl _, List.Pairwise.nil, fun y there => absurd there (by simp)⟩
  | cons first others =>
      obtain ⟨tail, taken, spec⟩ := selected conflict (fun _ => true) order
      rw [select, taken]
      refine ⟨spec.sub.cons_cons first, spec.apart, fun y there absent => ?_⟩
      rw [List.mem_cons, not_or] at absent
      rcases List.mem_cons.mp there with same | behind
      · exact absurd same absent.1
      · exact (spec.omitted y behind absent.2).resolve_left (by simp)

end Select

end IsgConsole.Theory.Greedy
