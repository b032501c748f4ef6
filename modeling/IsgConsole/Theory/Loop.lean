/-
# Theory.Loop — loops that may fail

A loop over a list is a fold, and a loop whose turns may fail is a fold in `Option`.  What
every turn keeps, the loop keeps.

A loop that runs while its guard holds may not end; it is run for a number of turns, and ends
when a measure falls with every turn.

A search for the largest element keeps the first of the largest ones it has seen.

A loop that works in place, each turn on a part of its own, does to every part what its turn does.
-/
import Mathlib.Data.List.Basic
import Mathlib.Data.List.Nodup
import Mathlib.Order.Basic

namespace IsgConsole.Theory.Loop

set_option autoImplicit false

variable {α β : Type} {P : β → Prop}

theorem foldl_keeps {f : β → α → β} (keep : ∀ b a, P b → P (f b a)) {xs : List α} {b : β}
    (start : P b) : P (xs.foldl f b) := by
  induction xs generalizing b with
  | nil => exact start
  | cons x xs ih => exact ih (keep b x start)

theorem foldlM_keeps {f : β → α → Option β} (keep : ∀ b a b', P b → f b a = some b' → P b')
    {xs : List α} {b out : β} (start : P b) (ran : xs.foldlM f b = some out) : P out := by
  induction xs generalizing b with
  | nil =>
      obtain rfl := Option.some.inj ran
      exact start
  | cons x xs ih =>
      rw [List.foldlM_cons] at ran
      obtain ⟨b', turn, rest⟩ := Option.bind_eq_some_iff.mp ran
      exact ih (keep b x b' start turn) rest

/-- A loop whose turns each work on a part of their own: a part is changed by its own turn, from
what it was before the loop. -/
theorem foldl_local {ι V : Type} [DecidableEq ι] {view : β → ι → V} {body : β → ι → β}
    {f : ι → V → V} (keep : ∀ b i, P b → P (body b i))
    (own : ∀ b i, P b → view (body b i) i = f i (view b i))
    (other : ∀ b i j, j ≠ i → view (body b i) j = view b j) {is : List ι} (distinct : is.Nodup)
    {b : β} (start : P b) (j : ι) :
    view (is.foldl body b) j = if j ∈ is then f j (view b j) else view b j := by
  induction is generalizing b with
  | nil => rfl
  | cons i is ih =>
      obtain ⟨fresh, distinct⟩ := List.nodup_cons.mp distinct
      rw [List.foldl_cons, ih distinct (keep b i start)]
      by_cases here : j = i
      · subst here
        rw [if_neg fresh, if_pos List.mem_cons_self, own b j start]
      · simp only [List.mem_cons, here, false_or, other b i j here]

section Growing

variable {ι α : Type} [Preorder α] (measure : β → α) {body : β → ι → β}

theorem le_foldl (grow : ∀ b i, measure b ≤ measure (body b i)) (is : List ι) (b : β) :
    measure b ≤ measure (is.foldl body b) := by
  induction is generalizing b with
  | nil => exact le_rfl
  | cons i is ih => exact (grow b i).trans (ih _)

/-- What one turn reaches from everywhere, a loop that only grows has reached in the end. -/
theorem foldl_reaches {goal : α} (grow : ∀ b i, measure b ≤ measure (body b i)) {is : List ι}
    {i : ι} (there : i ∈ is) (reach : ∀ b, goal ≤ measure (body b i)) (b : β) :
    goal ≤ measure (is.foldl body b) := by
  induction is generalizing b with
  | nil => cases there
  | cons j is ih =>
      rcases List.mem_cons.mp there with rfl | later
      · exact (reach b).trans (le_foldl measure grow is _)
      · exact ih later _

end Growing

/-- A loop fails when one of its elements fails every turn. -/
theorem foldlM_none {f : β → α → Option β} {x : α} {xs : List α} (fails : ∀ b, f b x = none)
    (there : x ∈ xs) (b : β) : xs.foldlM f b = none := by
  induction xs generalizing b with
  | nil => cases there
  | cons y ys ih =>
      rw [List.foldlM_cons, Option.bind_eq_bind, Option.bind_eq_none_iff]
      intro next turn
      rcases List.mem_cons.mp there with rfl | later
      · rw [fails] at turn
        cases turn
      · exact ih later next

/-- A loop none of whose turns fails returns what the turns return. -/
theorem mapM_exists {γ : Type} {f : α → Option γ} {Q : α → γ → Prop} {xs : List α}
    (turn : ∀ x ∈ xs, ∃ y, f x = some y ∧ Q x y) :
    ∃ ys, xs.mapM f = some ys ∧ List.Forall₂ Q xs ys := by
  induction xs with
  | nil => exact ⟨[], rfl, .nil⟩
  | cons x xs ih =>
      obtain ⟨y, first, holds⟩ := turn x List.mem_cons_self
      obtain ⟨ys, rest, others⟩ := ih (fun x there => turn x (List.mem_cons_of_mem _ there))
      refine ⟨y :: ys, ?_, .cons holds others⟩
      rw [List.mapM_cons, first, rest]
      rfl

/-- A loop none of whose turns fails returns what each returns. -/
theorem mapM_eq_map {γ : Type} {f : α → Option γ} {g : α → γ} {xs : List α}
    (turn : ∀ x ∈ xs, f x = some (g x)) : xs.mapM f = some (xs.map g) := by
  induction xs with
  | nil => rfl
  | cons x xs ih =>
      rw [List.mapM_cons, turn x List.mem_cons_self,
        ih fun y there => turn y (List.mem_cons_of_mem _ there)]
      rfl

/-- A loop one of whose turns fails returns nothing. -/
theorem mapM_none {γ : Type} {f : α → Option γ} {x : α} {xs : List α} (there : x ∈ xs)
    (fails : f x = none) : xs.mapM f = none := by
  induction xs with
  | nil => cases there
  | cons y ys ih =>
      rw [List.mapM_cons]
      rcases List.mem_cons.mp there with rfl | later
      · rw [fails]
        rfl
      · rw [ih later]
        cases f y <;> rfl

/-! ## Guarded loops -/

section While

variable {σ : Type} {guard : σ → Bool} {body : σ → σ}

/-- `while (guard) body`, for at most `turns` turns; `none` when the guard still holds then. -/
def whileLoop (guard : σ → Bool) (body : σ → σ) : Nat → σ → Option σ
  | 0, s => if guard s then none else some s
  | turns + 1, s => if guard s then whileLoop guard body turns (body s) else some s

/-- What the loop returns does not depend on how many more turns it was given. -/
theorem whileLoop_more {turns more : Nat} {s out : σ}
    (ran : whileLoop guard body turns s = some out)
    (enough : turns ≤ more) : whileLoop guard body more s = some out := by
  induction turns generalizing more s with
  | zero =>
      cases more with
      | zero => exact ran
      | succ more =>
          simp only [whileLoop] at ran ⊢
          split at ran
          next => cases ran
          next stop => rw [if_neg stop, ran]
  | succ turns ih =>
      obtain ⟨more, rfl⟩ : ∃ rest, more = rest + 1 := ⟨more - 1, by omega⟩
      simp only [whileLoop] at ran ⊢
      split at ran
      next go => rw [if_pos go, ih ran (by omega)]
      next stop => rw [if_neg stop, ran]

/-- **The loop ends**: a measure falls with every turn, an invariant is kept, and the guard
does not hold at the end. -/
theorem whileLoop_ends (guard : σ → Bool) (body : σ → σ) (Inv : σ → Prop) (measure : σ → Nat)
    (keep : ∀ s, Inv s → guard s = true → Inv (body s) ∧ measure (body s) < measure s) {s : σ}
    (start : Inv s) :
    ∃ out, whileLoop guard body (measure s) s = some out ∧ Inv out ∧ guard out = false := by
  obtain ⟨turns, bound⟩ : ∃ turns, measure s = turns := ⟨_, rfl⟩
  rw [bound]
  replace bound : measure s ≤ turns := Nat.le_of_eq bound
  induction turns generalizing s with
  | zero =>
      cases go : guard s with
      | true =>
          have falls := (keep s start go).2
          omega
      | false => exact ⟨s, by simp [whileLoop, go], start, go⟩
  | succ turns ih =>
      cases go : guard s with
      | true =>
          obtain ⟨kept, falls⟩ := keep s start go
          obtain ⟨out, ran, holds⟩ := ih kept (by omega)
          exact ⟨out, by rw [whileLoop, if_pos go, ran], holds⟩
      | false => exact ⟨s, by simp [whileLoop, go], start, go⟩

end While

/-! ## The search for the largest -/

section Search

variable {measure : α → Int}

/-- One turn of the search: a larger element takes the place of the best one. -/
def better (measure : α → Int) (best : Int × α) (x : α) : Int × α :=
  if best.1 < measure x then (measure x, x) else best

/-- The first of the largest elements. -/
def FirstLargest (measure : α → Int) (xs : List α) (w : α) : Prop :=
  ∃ before after, xs = before ++ w :: after ∧
    (∀ x ∈ before, measure x < measure w) ∧ ∀ x ∈ after, measure x ≤ measure w

namespace FirstLargest

theorem mem {xs : List α} {w : α} (first : FirstLargest measure xs w) : w ∈ xs := by
  obtain ⟨before, after, rfl, -, -⟩ := first
  exact List.mem_append_right before List.mem_cons_self

theorem le {xs : List α} {w x : α} (first : FirstLargest measure xs w) (there : x ∈ xs) :
    measure x ≤ measure w := by
  obtain ⟨before, after, rfl, smaller, others⟩ := first
  rcases List.mem_append.mp there with early | late
  · exact Int.le_of_lt (smaller x early)
  · rcases List.mem_cons.mp late with rfl | late
    · exact Int.le_refl _
    · exact others x late

/-- It is what a search from the front for an element as large finds. -/
theorem find? {xs : List α} {w : α} (first : FirstLargest measure xs w) :
    xs.find? (fun x => decide (measure w ≤ measure x)) = some w := by
  obtain ⟨before, after, rfl, smaller, -⟩ := first
  have passed : before.find? (fun x => decide (measure w ≤ measure x)) = none := by
    rw [List.find?_eq_none]
    intro x early
    have below := smaller x early
    simp only [decide_eq_true_eq]
    omega
  simp [List.find?_append, passed]

theorem unique {xs : List α} {v w : α} (one : FirstLargest measure xs v)
    (other : FirstLargest measure xs w) : v = w := by
  have same : measure v = measure w := Int.le_antisymm (other.le one.mem) (one.le other.mem)
  have found := one.find?
  rw [same, other.find?] at found
  exact (Option.some.inj found).symm

/-- What one more element does to the search. -/
theorem snoc {xs : List α} {w : α} (first : FirstLargest measure xs w) (x : α) :
    ∃ out, better measure (measure w, w) x = (measure out, out)
      ∧ FirstLargest measure (xs ++ [x]) out := by
  by_cases larger : measure w < measure x
  · refine ⟨x, if_pos larger, xs, [], rfl, ?_, by simp⟩
    intro y there
    exact Int.lt_of_le_of_lt (first.le there) larger
  · refine ⟨w, if_neg larger, ?_⟩
    obtain ⟨before, after, rfl, smaller, others⟩ := first
    refine ⟨before, after ++ [x], by simp, smaller, ?_⟩
    intro y there
    rcases List.mem_append.mp there with early | late
    · exact others y early
    · obtain rfl := List.mem_singleton.mp late
      exact Int.not_lt.mp larger

/-- **The search ends at the first of the largest elements.** -/
theorem foldl {seen : List α} {w : α} (first : FirstLargest measure seen w) (rest : List α) :
    ∃ out, rest.foldl (better measure) (measure w, w) = (measure out, out)
      ∧ FirstLargest measure (seen ++ rest) out := by
  induction rest generalizing seen w with
  | nil => exact ⟨w, rfl, by simpa using first⟩
  | cons x rest ih =>
      obtain ⟨next, turn, kept⟩ := first.snoc x
      obtain ⟨out, ran, holds⟩ := ih kept
      exact ⟨out, by rw [List.foldl_cons, turn, ran], by simpa using holds⟩

end FirstLargest

end Search

end IsgConsole.Theory.Loop
