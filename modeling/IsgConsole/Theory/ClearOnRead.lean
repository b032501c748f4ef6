/-
# Theory.ClearOnRead — shared counters that are read and then cleared

Several threads share counters.  Adding to a counter, reading one and setting one to zero
are atomic steps, and the steps of the threads come in any order.  A reader that wants the
amount since its last reading reads the counter and then clears it, in two steps.  What it reads
it may keep or drop.

`balance` is what such a reader gets: the amounts it keeps, what is left in the counter, and
the amounts that are lost make up what was added.  Lost is what is added between a reading and its
clearing, and what a dropped reading would have been the first to show.
-/
import Mathlib.Algebra.BigOperators.Group.List.Basic
import Mathlib.Tactic.Abel
import IsgConsole.Theory.Machine

namespace IsgConsole.Theory.ClearOnRead

set_option autoImplicit false

variable {κ M : Type} [DecidableEq κ]

/-- An atomic step on the counters `κ` with values in `M`.  The value of a reading is kept or
dropped. -/
inductive Op (κ M : Type) where
  | add (counter : κ) (amount : M)
  | read (counter : κ) (kept : Bool)
  | clear (counter : κ)
  deriving DecidableEq

/-- A step on the memory; a reading that is kept shows the value. -/
def step [Zero M] [Add M] (memory : κ → M) : Op κ M → (κ → M) × List (κ × M)
  | .add counter amount => (Function.update memory counter (memory counter + amount), [])
  | .read counter kept => (memory, if kept then [(counter, memory counter)] else [])
  | .clear counter => (Function.update memory counter 0, [])

/-- The values among those shown that were read from a counter. -/
def valuesOf (counter : κ) (shown : List (κ × M)) : List M :=
  shown.filterMap fun value => if value.1 = counter then some value.2 else none

/-- The amounts added to a counter. -/
def added (counter : κ) : List (Op κ M) → List M
  | [] => []
  | .add counter' amount :: ops =>
      if counter' = counter then amount :: added counter ops else added counter ops
  | .read _ _ :: ops => added counter ops
  | .clear _ :: ops => added counter ops

/-- How far the reader is with a counter: the amounts that came since it was cleared, or it has
been read and not been cleared yet. -/
inductive Turn (M : Type) where
  | unread (amounts : List M)
  | reading

/-- The amounts added to a counter that no reading keeps although the counter was cleared. -/
def lost (counter : κ) : Turn M → List (Op κ M) → List M
  | _, [] => []
  | .unread amounts, .add counter' amount :: ops =>
      lost counter (.unread (if counter' = counter then amounts ++ [amount] else amounts)) ops
  | .reading, .add counter' amount :: ops =>
      if counter' = counter then amount :: lost counter .reading ops
      else lost counter .reading ops
  | .unread amounts, .read counter' kept :: ops =>
      if counter' = counter then (if kept then [] else amounts) ++ lost counter .reading ops
      else lost counter (.unread amounts) ops
  | .reading, .read _ _ :: ops => lost counter .reading ops
  | turn, .clear counter' :: ops =>
      lost counter (if counter' = counter then .unread [] else turn) ops

/-- Readings and clearings of a counter come in turn, and the last one is a clearing. -/
def InTurn (counter : κ) : Bool → List (Op κ M) → Prop
  | reading, [] => reading = false
  | reading, .add _ _ :: ops => InTurn counter reading ops
  | reading, .read counter' _ :: ops =>
      if counter' = counter then reading = false ∧ InTurn counter true ops
      else InTurn counter reading ops
  | reading, .clear counter' :: ops =>
      if counter' = counter then reading = true ∧ InTurn counter false ops
      else InTurn counter reading ops

/-- The steps of the reader. -/
def readerSteps (ops : List (Op κ M)) : List (Op κ M) :=
  ops.filter fun
    | .add _ _ => false
    | _ => true

/-- What others add does not matter to the turns of the reader. -/
theorem inTurn_readerSteps (counter : κ) (ops : List (Op κ M)) (reading : Bool) :
    InTurn counter reading (readerSteps ops) ↔ InTurn counter reading ops := by
  induction ops generalizing reading with
  | nil => exact Iff.rfl
  | cons op ops ih =>
      cases op with
      | add counter' amount => exact ih reading
      | read counter' kept =>
          show InTurn counter reading (.read counter' kept :: readerSteps ops) ↔ _
          rw [InTurn, InTurn, ih, ih]
      | clear counter' =>
          show InTurn counter reading (.clear counter' :: readerSteps ops) ↔ _
          rw [InTurn, InTurn, ih, ih]

theorem valuesOf_cons (counter : κ) (value : κ × M) (shown : List (κ × M)) :
    valuesOf counter (value :: shown) =
      if value.1 = counter then value.2 :: valuesOf counter shown
      else valuesOf counter shown := by
  by_cases own : value.1 = counter
  · rw [if_pos own]
    exact List.filterMap_cons_some (if_pos own)
  · rw [if_neg own]
    exact List.filterMap_cons_none (if_neg own)

/-! ## The balance -/

section Balance

variable [AddCommGroup M] {counter : κ} {ops : List (Op κ M)} {memory : κ → M} {turn : Turn M}

namespace Turn

/-- What is in the counter and has not been read. -/
def amount : Turn M → M
  | .unread amounts => amounts.sum
  | .reading => 0

theorem amount_unread (amounts : List M) : (unread amounts).amount = amounts.sum := rfl

theorem amount_reading : (reading : Turn M).amount = 0 := rfl

def isReading : Turn M → Bool
  | .unread _ => false
  | .reading => true

/-- The counter is what came since it was cleared. -/
def Counts (turn : Turn M) (value : M) : Prop :=
  turn.isReading = false → value = turn.amount

end Turn

/-- What is kept, left and lost is what was there and what was added; a counter that has been read
and not been cleared counts as empty. -/
def Balanced (counter : κ) (ops : List (Op κ M)) (memory : κ → M) (turn : Turn M) : Prop :=
  (valuesOf counter (Machine.outputs step memory ops)).sum +
      Machine.final step memory ops counter + (lost counter turn ops).sum =
    turn.amount + (added counter ops).sum

/-- A step on another counter. -/
theorem balanced_add_other {counter' : κ} {amount : M} (other : counter' ≠ counter)
    (rest : Balanced counter ops (step memory (.add counter' amount)).1 turn) :
    Balanced counter (.add counter' amount :: ops) memory turn := by
  unfold Balanced at rest ⊢
  rw [added, if_neg other, ← rest]
  cases turn with
  | unread amounts => rw [lost, if_neg other]; rfl
  | reading => rw [lost, if_neg other]; rfl

/-- What is added to a counter that has not been read waits for the next reading. -/
theorem balanced_add_unread {amounts : List M} {amount : M}
    (rest : Balanced counter ops (step memory (.add counter amount)).1
      (.unread (amounts ++ [amount]))) :
    Balanced counter (.add counter amount :: ops) memory (.unread amounts) := by
  unfold Balanced at rest ⊢
  rw [Turn.amount_unread, List.sum_append, List.sum_singleton] at rest
  rw [added, if_pos rfl, List.sum_cons, lost, if_pos rfl, Turn.amount_unread, ← add_assoc, ← rest]
  rfl

theorem balanced_add_reading {amount : M}
    (rest : Balanced counter ops (step memory (.add counter amount)).1 .reading) :
    Balanced counter (.add counter amount :: ops) memory .reading := by
  unfold Balanced at rest ⊢
  rw [added, if_pos rfl, List.sum_cons, lost, if_pos rfl, List.sum_cons, add_left_comm,
    add_left_comm Turn.reading.amount, ← rest]
  rfl

/-- A reading is kept, or what it would have shown is lost. -/
theorem balanced_read {amounts : List M} {kept : Bool} (counts : memory counter = amounts.sum)
    (rest : Balanced counter ops memory .reading) :
    Balanced counter (.read counter kept :: ops) memory (.unread amounts) := by
  unfold Balanced at rest ⊢
  rw [Turn.amount_reading, zero_add] at rest
  show (valuesOf counter ((if kept then [(counter, memory counter)] else []) ++
    Machine.outputs step memory ops)).sum + Machine.final step memory ops counter + _ = _
  rw [lost, if_pos rfl, added, Turn.amount_unread]
  cases kept with
  | true =>
      rw [if_pos rfl, if_pos rfl, List.singleton_append, valuesOf_cons, if_pos rfl, List.sum_cons,
        List.nil_append, counts, ← rest]
      abel
  | false =>
      rw [if_neg Bool.false_ne_true, if_neg Bool.false_ne_true, List.nil_append, List.sum_append,
        ← rest]
      abel

theorem balanced_read_other {counter' : κ} {kept : Bool} (other : counter' ≠ counter)
    (rest : Balanced counter ops memory turn) :
    Balanced counter (.read counter' kept :: ops) memory turn := by
  have hidden : valuesOf counter (Machine.outputs step memory (.read counter' kept :: ops)) =
      valuesOf counter (Machine.outputs step memory ops) := by
    show valuesOf counter ((if kept then [(counter', memory counter')] else []) ++ _) = _
    cases kept with
    | true => rw [if_pos rfl, List.singleton_append, valuesOf_cons, if_neg other]; rfl
    | false => rfl
  have same : lost counter turn (.read counter' kept :: ops) = lost counter turn ops := by
    cases turn with
    | unread amounts => rw [lost, if_neg other]
    | reading => rfl
  unfold Balanced
  rw [hidden, same]
  exact rest

theorem balanced_clear (rest : Balanced counter ops (step memory (.clear counter)).1 (.unread [])) :
    Balanced counter (.clear counter :: ops) memory .reading := by
  unfold Balanced at rest ⊢
  rw [lost, if_pos rfl]
  exact rest

theorem balanced_clear_other {counter' : κ} (other : counter' ≠ counter)
    (rest : Balanced counter ops (step memory (.clear counter')).1 turn) :
    Balanced counter (.clear counter' :: ops) memory turn := by
  unfold Balanced at rest ⊢
  rw [show lost counter turn (.clear counter' :: ops) = lost counter turn ops by
    cases turn <;> rw [lost, if_neg other]]
  exact rest

end Balance

/-- **The balance of a counter.** -/
theorem balance [AddCommGroup M] (counter : κ) (ops : List (Op κ M)) (memory : κ → M)
    (turn : Turn M) (counts : turn.Counts (memory counter))
    (inTurn : InTurn counter turn.isReading ops) :
    (valuesOf counter (Machine.outputs step memory ops)).sum +
        Machine.final step memory ops counter + (lost counter turn ops).sum =
      turn.amount + (added counter ops).sum := by
  show Balanced counter ops memory turn
  induction ops generalizing memory turn with
  | nil =>
      have value := counts inTurn
      show (0 : M) + memory counter + (lost counter turn []).sum = turn.amount + 0
      rw [show lost counter turn [] = [] by cases turn <;> rfl, value, List.sum_nil]
      abel
  | cons op ops ih =>
      cases op with
      | add counter' amount =>
          by_cases own : counter' = counter
          · subst own
            have value : (step memory (.add counter' amount)).1 counter' =
                memory counter' + amount := Function.update_self _ _ _
            cases turn with
            | unread amounts =>
                refine balanced_add_unread (ih _ _ (fun _ => ?_) inTurn)
                rw [value, counts rfl]
                simp [Turn.amount]
            | reading => exact balanced_add_reading (ih _ _ nofun inTurn)
          · have value : (step memory (.add counter' amount)).1 counter = memory counter :=
              Function.update_of_ne (Ne.symm own) _ _
            exact balanced_add_other own (ih _ _ (by rwa [value]) inTurn)
      | read counter' kept =>
          rw [InTurn] at inTurn
          by_cases own : counter' = counter
          · subst own
            rw [if_pos rfl] at inTurn
            cases turn with
            | unread amounts =>
                exact balanced_read (counts rfl) (ih memory .reading nofun inTurn.2)
            | reading => exact absurd inTurn.1 Bool.noConfusion
          · rw [if_neg own] at inTurn
            exact balanced_read_other own (ih memory turn counts inTurn)
      | clear counter' =>
          rw [InTurn] at inTurn
          by_cases own : counter' = counter
          · subst own
            rw [if_pos rfl] at inTurn
            cases turn with
            | unread amounts => exact absurd inTurn.1 Bool.noConfusion
            | reading =>
                refine balanced_clear (ih _ (.unread []) (fun _ => ?_) inTurn.2)
                exact Function.update_self _ _ _
          · have value : (step memory (.clear counter')).1 counter = memory counter :=
              Function.update_of_ne (Ne.symm own) _ _
            rw [if_neg own] at inTurn
            exact balanced_clear_other own (ih _ _ (by rwa [value]) inTurn)

end IsgConsole.Theory.ClearOnRead
