/-
# Theory.Threads — shares of many threads

Each of finitely many threads is at some stage of what it does and has a share in a common quantity
that depends on the stage only.  `total` is the quantity; when one thread moves on, it changes by the
share of that thread (`total_update`).
-/
import Mathlib.Algebra.BigOperators.Group.Finset.Piecewise
import Mathlib.Algebra.Order.BigOperators.Group.Finset
import Mathlib.Data.Fintype.BigOperators
import Mathlib.Tactic.Ring

namespace IsgConsole.Theory.Threads

set_option autoImplicit false

variable {ι α : Type} [Fintype ι]

/-- The shares of all threads. -/
def total (share : α → Int) (stages : ι → α) : Int := ∑ i, share (stages i)

/-- One thread moves on. -/
theorem total_update [DecidableEq ι] (share : α → Int) (stages : ι → α) (i : ι) (a : α) :
    total share (Function.update stages i a) = total share stages - share (stages i) + share a := by
  have there : i ∈ Finset.univ := Finset.mem_univ i
  have moved : ∀ j, share (Function.update stages i a j) =
      Function.update (share ∘ stages) i (share a) j := by
    intro j
    by_cases this : j = i
    · subst this
      simp
    · simp [this]
  have others := Finset.add_sum_erase Finset.univ (share ∘ stages) there
  unfold total
  rw [Finset.sum_congr rfl fun j _ => moved j, Finset.sum_update_of_mem there,
    Finset.sdiff_singleton_eq_erase]
  simp only [Function.comp_apply] at others ⊢
  rw [← others]
  ring

/-- The threads that are at a stage on their own. -/
theorem total_const (share : α → Int) (a : α) :
    total share (fun _ : ι => a) = Fintype.card ι * share a := by
  rw [total, Finset.sum_const, nsmul_eq_mul, Finset.card_univ]

theorem total_nonneg {share : α → Int} (each : ∀ a, 0 ≤ share a) (stages : ι → α) :
    0 ≤ total share stages :=
  Finset.sum_nonneg fun _ _ => each _

theorem total_le_card {share : α → Int} (each : ∀ a, share a ≤ 1) (stages : ι → α) :
    total share stages ≤ Fintype.card ι := by
  calc total share stages ≤ ∑ _i : ι, (1 : Int) := Finset.sum_le_sum fun _ _ => each _
    _ = Fintype.card ι := by rw [Finset.sum_const, nsmul_eq_mul, Finset.card_univ, mul_one]

end IsgConsole.Theory.Threads
