/-
# Theory.Admission — a queue in front of which producers count themselves

Many producers hand items to one consumer.  A producer compares the count with the capacity, raises
the count and queues its item, in three steps that other threads may come between; the consumer
lowers the count as it serves an item.

* `step_counted`, `step_room` — what each step keeps of the count;
* `run_exact` — the count is the length of the queue and the producers that have raised it;
* `count_le_iff` — **the least bound of the count over all runs**: the capacity, and one more for
  every producer but one;
* `run_fifo` — items are served in the order they were queued in, each once.
-/
import IsgConsole.Theory.Machine
import IsgConsole.Theory.Threads
import Mathlib.Logic.Function.Basic

namespace IsgConsole.Theory.Admission

set_option autoImplicit false

open Threads

/-- Where a producer is in its call. -/
inductive Stage (α : Type) where
  | idle
  /-- It has found room, and not raised the count. -/
  | admitted (a : α)
  /-- It has raised the count, and not queued its item. -/
  | counted (a : α)
  deriving DecidableEq

structure State (ι α : Type) where
  count : Int
  queue : List α
  stages : ι → Stage α

def start (ι α : Type) : State ι α := { count := 0, queue := [], stages := fun _ => .idle }

inductive Event (ι α : Type) where
  | call (i : ι) (a : α)
  | count (i : ι)
  | post (i : ι)
  | serve
  deriving DecidableEq

inductive Output (α : Type) where
  | full (a : α)
  | posted (a : α)
  | served (a : α)
  deriving DecidableEq

variable {ι α : Type} [DecidableEq ι]

/-- One step of a thread. -/
def step (capacity : Int) (s : State ι α) : Event ι α → State ι α × List (Output α)
  | .call i a =>
      match s.stages i with
      | .idle =>
          if s.count < capacity then
            ({ s with stages := Function.update s.stages i (.admitted a) }, [])
          else (s, [.full a])
      | _ => (s, [])
  | .count i =>
      match s.stages i with
      | .admitted a =>
          ({ s with count := s.count + 1, stages := Function.update s.stages i (.counted a) }, [])
      | _ => (s, [])
  | .post i =>
      match s.stages i with
      | .counted a =>
          ({ s with queue := s.queue ++ [a], stages := Function.update s.stages i .idle },
            [.posted a])
      | _ => (s, [])
  | .serve =>
      match s.queue with
      | [] => (s, [])
      | a :: rest => ({ s with count := s.count - 1, queue := rest }, [.served a])

/-! ## The count -/

/-- A producer that has raised the count for an item that is not queued. -/
def Stage.ahead : Stage α → Int
  | .counted _ => 1
  | _ => 0

/-- A producer that will raise it. -/
def Stage.coming : Stage α → Int
  | .admitted _ => 1
  | _ => 0

theorem ahead_nonneg (stage : Stage α) : 0 ≤ stage.ahead := by
  cases stage <;> simp [Stage.ahead]

theorem coming_nonneg (stage : Stage α) : 0 ≤ stage.coming := by
  cases stage <;> simp [Stage.coming]

theorem coming_le_one (stage : Stage α) : stage.coming ≤ 1 := by
  cases stage <;> simp [Stage.coming]

variable [Fintype ι]

/-- The count is what is queued and what is about to be. -/
def Counted (s : State ι α) : Prop := s.count = s.queue.length + total Stage.ahead s.stages

/-- The count with those who will raise it. -/
def Room (capacity : Int) (s : State ι α) : Prop :=
  s.count + total Stage.coming s.stages ≤ capacity + (Fintype.card ι - 1)

theorem step_counted (capacity : Int) {s : State ι α} (counted : Counted s) (e : Event ι α) :
    Counted (step capacity s e).1 := by
  unfold Counted at *
  cases e with
  | call i a =>
      unfold step
      dsimp only
      split
      next idle =>
        split
        next room =>
          rw [total_update, idle]
          simpa [Stage.ahead] using counted
        next full => exact counted
      next busy => exact counted
  | count i =>
      unfold step
      dsimp only
      split
      next a admitted =>
        rw [total_update, admitted]
        simp only [Stage.ahead]
        omega
      next other => exact counted
  | post i =>
      unfold step
      dsimp only
      split
      next a raised =>
        rw [total_update, raised]
        simp only [Stage.ahead, List.length_append, List.length_singleton]
        omega
      next other => exact counted
  | serve =>
      unfold step
      dsimp only
      split
      next empty => exact counted
      next a rest waiting =>
        rw [waiting, List.length_cons] at counted
        dsimp only
        omega

theorem step_room {capacity : Int} {s : State ι α} (room : Room capacity s) (e : Event ι α) :
    Room capacity (step capacity s e).1 := by
  unfold Room at *
  cases e with
  | call i a =>
      unfold step
      dsimp only
      split
      next idle =>
        split
        next found =>
          -- every other producer may have found the same room
          have all := total_le_card coming_le_one (Function.update s.stages i (.admitted a))
          dsimp only
          omega
        next full => exact room
      next busy => exact room
  | count i =>
      unfold step
      dsimp only
      split
      next a admitted =>
        rw [total_update, admitted]
        simp only [Stage.coming]
        omega
      next other => exact room
  | post i =>
      unfold step
      dsimp only
      split
      next a raised =>
        rw [total_update, raised]
        simpa [Stage.coming] using room
      next other => exact room
  | serve =>
      unfold step
      dsimp only
      split
      next empty => exact room
      next a rest waiting =>
        dsimp only
        omega

/-- The state after a run. -/
abbrev after (capacity : Int) (es : List (Event ι α)) : State ι α :=
  Machine.final (step capacity) (start ι α) es

/-- **The count is exact.** -/
theorem run_exact (capacity : Int) (es : List (Event ι α)) : Counted (after capacity es) := by
  induction es using List.reverseRecOn with
  | nil => simp [Counted, start, total_const, Stage.ahead, after, Machine.final]
  | append_singleton es e ih =>
      rw [after, Machine.final_snoc]
      exact step_counted capacity ih e

theorem run_room [Nonempty ι] {capacity : Int} (positive : 0 ≤ capacity) (es : List (Event ι α)) :
    Room capacity (after capacity es) := by
  induction es using List.reverseRecOn with
  | nil =>
      have one : 0 < Fintype.card ι := Fintype.card_pos
      simp only [Room, after, Machine.final, List.foldl_nil, start, total_const, Stage.coming]
      omega
  | append_singleton es e ih =>
      rw [after, Machine.final_snoc]
      exact step_room ih e

/-- Never more is counted than the capacity and one for every producer but one. -/
theorem run_le [Nonempty ι] {capacity : Int} (positive : 0 ≤ capacity) (es : List (Event ι α)) :
    (after capacity es).count ≤ capacity + (Fintype.card ι - 1) := by
  have room := run_room positive es
  have others := total_nonneg coming_nonneg (after capacity es).stages
  unfold Room at room
  omega

/-- What waits is counted. -/
theorem length_le_count (capacity : Int) (es : List (Event ι α)) :
    ((after capacity es).queue.length : Int) ≤ (after capacity es).count := by
  have exact := run_exact capacity es
  have others := total_nonneg ahead_nonneg (after capacity es).stages
  unfold Counted at exact
  omega

/-! ## The bound is reached -/

omit [Fintype ι] in
/-- One producer queues one item. -/
theorem final_one {capacity : Int} {s : State ι α} {i : ι} (idle : s.stages i = .idle)
    (room : s.count < capacity) (a : α) :
    Machine.final (step capacity) s [.call i a, .count i, .post i] =
      { s with count := s.count + 1, queue := s.queue ++ [a] } := by
  have back : Function.update s.stages i .idle = s.stages := by rw [← idle, Function.update_eq_self]
  simp [Machine.final, step, idle, room, back]

omit [Fintype ι] in
/-- One producer fills the queue on its own. -/
theorem exists_filled (capacity : Int) (i : ι) (a : α) (n : Nat) (fits : (n : Int) ≤ capacity) :
    ∃ es : List (Event ι α), (after capacity es).count = n ∧
      (after capacity es).stages = fun _ => .idle := by
  induction n with
  | zero => exact ⟨[], rfl, rfl⟩
  | succ n ih =>
      obtain ⟨es, counted, idle⟩ := ih (by omega)
      have room : (after capacity es).count < capacity := by omega
      refine ⟨es ++ [.call i a, .count i, .post i], ?_⟩
      rw [after, Machine.final_append, final_one (by rw [idle]) room]
      exact ⟨by dsimp only; omega, idle⟩

omit [Fintype ι] in
/-- Producers find the same room one after another. -/
theorem final_calls {capacity : Int} {s : State ι α} (room : s.count < capacity) (a : α)
    (callers : List ι) (distinct : callers.Nodup) (idle : ∀ i ∈ callers, s.stages i = .idle) :
    Machine.final (step capacity) s (callers.map (.call · a)) =
      { s with stages := fun i => if i ∈ callers then .admitted a else s.stages i } := by
  induction callers using List.reverseRecOn with
  | nil => simp [Machine.final]
  | append_singleton callers i ih =>
      obtain ⟨distinct, -, apart⟩ := List.nodup_append'.mp distinct
      have new : i ∉ callers := fun there => apart there (List.mem_singleton_self i)
      have own := idle i (by simp)
      rw [List.map_append, List.map_singleton, Machine.final_snoc,
        ih distinct fun j there => idle j (by simp [there])]
      simp only [step, if_neg new, own, if_pos room]
      congr 1
      funext j
      by_cases this : j = i
      · simp [this]
      · simp [this]

omit [Fintype ι] in
/-- Producers that have found room raise the count, each by one. -/
theorem final_counts (capacity : Int) {s : State ι α} (a : α) (callers : List ι)
    (distinct : callers.Nodup) (admitted : ∀ i ∈ callers, s.stages i = .admitted a) :
    Machine.final (step capacity) s (callers.map .count) =
      { s with
        count := s.count + callers.length
        stages := fun i => if i ∈ callers then .counted a else s.stages i } := by
  induction callers using List.reverseRecOn with
  | nil => simp [Machine.final]
  | append_singleton callers i ih =>
      obtain ⟨distinct, -, apart⟩ := List.nodup_append'.mp distinct
      have new : i ∉ callers := fun there => apart there (List.mem_singleton_self i)
      have own := admitted i (by simp)
      rw [List.map_append, List.map_singleton, Machine.final_snoc,
        ih distinct fun j there => admitted j (by simp [there])]
      simp only [step, if_neg new, own]
      congr 1
      · rw [List.length_append, List.length_singleton]
        omega
      · funext j
        by_cases this : j = i
        · simp [this]
        · simp [this]

/-- **The least bound of the count**: the capacity, and one for every producer but one. -/
theorem count_le_iff [Nonempty ι] (a : α) {capacity : Int} (positive : 0 < capacity) (bound : Int) :
    (∀ es : List (Event ι α), (after capacity es).count ≤ bound) ↔
      capacity + (Fintype.card ι - 1) ≤ bound := by
  constructor
  · intro all
    obtain ⟨i⟩ := ‹Nonempty ι›
    -- the queue is one short of full when every producer looks
    obtain ⟨es, counted, idle⟩ :=
      exists_filled capacity i a (capacity - 1).toNat (by omega)
    have room : (after capacity es).count < capacity := by omega
    have callers := Finset.univ.nodup_toList (α := ι)
    have reached := all (es ++ Finset.univ.toList.map (.call · a) ++ Finset.univ.toList.map .count)
    rw [after, Machine.final_append, Machine.final_append,
      final_calls room a _ callers fun j _ => by rw [idle],
      final_counts capacity a _ callers fun j there => if_pos there] at reached
    rw [Finset.length_toList, Finset.card_univ] at reached
    dsimp only at reached
    omega
  · intro below es
    exact (run_le positive.le es).trans below

/-! ## The queue -/

def Output.posted? : Output α → Option α
  | .posted a => some a
  | _ => none

def Output.served? : Output α → Option α
  | .served a => some a
  | _ => none

omit [Fintype ι] in
/-- **Items are served in the order they were queued in**, and what was not served waits. -/
theorem run_fifo (capacity : Int) (es : List (Event ι α)) :
    (Machine.outputs (step capacity) (start ι α) es).filterMap Output.posted? =
      (Machine.outputs (step capacity) (start ι α) es).filterMap Output.served? ++
        (after capacity es).queue := by
  induction es using List.reverseRecOn with
  | nil => rfl
  | append_singleton es e ih =>
      rw [Machine.outputs_snoc, List.filterMap_append, List.filterMap_append, ih, after, after,
        Machine.final_snoc]
      generalize Machine.final (step capacity) (start ι α) es = s
      rw [List.append_assoc, List.append_assoc]
      congr 1
      cases e with
      | call i a =>
          unfold step
          dsimp only
          split
          next => split <;> simp [Output.posted?, Output.served?, List.filterMap_cons]
          next => simp
      | count i =>
          unfold step
          dsimp only
          split <;> simp
      | post i =>
          unfold step
          dsimp only
          split <;> simp [Output.posted?, Output.served?]
      | serve =>
          unfold step
          dsimp only
          split
          next empty => simp [empty]
          next a rest waiting => simp [waiting, Output.posted?, Output.served?]

end IsgConsole.Theory.Admission
