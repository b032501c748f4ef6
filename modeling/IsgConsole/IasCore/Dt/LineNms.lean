/-
# IasCore.Dt.LineNms — of lines that cross, the one with the best score

`LineNms` goes through the lines from the best score down and keeps a line unless it crosses one that
was kept, in the picture or at most fifty pixels outside of it, or its score is too low.  The inner
loop runs over the kept lines and knows that it has seen all of them when a line equals the last one;
it appends to the list it runs over, and leaves it at once.

Which point two lines have in common is computed in floating point and is a parameter, and so is the
order of equal scores (`SortedDown`).

* `suppress_eq` — among different lines the inner loop ends at the last one;
* `LineNms_selects` — **which lines are returned.**
-/
import Mathlib.Data.Rat.Defs
import Mathlib.Data.List.Range
import IsgConsole.Theory.Greedy

namespace IsgConsole.IasCore.Dt

open IsgConsole.Theory

set_option autoImplicit false

/-- `Line::LinesData`. -/
structure LinesData where
  a : Rat
  b : Rat
  x0 : Rat
  y0 : Rat
  rho : Rat
  theta : Rat
  pt1 : Int × Int
  pt2 : Int × Int
  score : Rat
  angle_diff : Rat
  deriving DecidableEq, Inhabited

/-- `LinesData::operator==`, which does not look at the score. -/
def LinesData.equals (lhs rhs : LinesData) : Bool :=
  lhs.a = rhs.a ∧ lhs.b = rhs.b ∧ lhs.x0 = rhs.x0 ∧ lhs.y0 = rhs.y0 ∧ lhs.rho = rhs.rho ∧
    lhs.theta = rhs.theta ∧ lhs.pt1 = rhs.pt1 ∧ lhs.pt2 = rhs.pt2

@[simp] theorem LinesData.equals_self (line : LinesData) : line.equals line = true := by
  simp [equals]

theorem LinesData.equals_comm (lhs rhs : LinesData) : lhs.equals rhs = rhs.equals lhs := by
  simp only [equals, eq_comm]

/-! ## The loops -/

/-- The picture, as far as its size counts. -/
structure Frame2d where
  cols : Int
  rows : Int

section Nms

-- the point two lines have in common, by rho and theta of both
variable (getCrossPoint : Rat → Rat → Rat → Rat → Option (Int × Int))

/-- The lines cross in the picture or close to it. -/
def crosses (frame : Frame2d) (line n : LinesData) : Bool :=
  match getCrossPoint line.rho line.theta n.rho n.theta with
  | some (x, y) => (1 - 50 < x ∧ x < frame.cols + 50) ∧ 1 - 50 < y ∧ y < frame.rows + 50
  | none => false

variable (crossing : LinesData → LinesData → Bool) (matching_score_ : Int)

/-- The inner loop for a line, over what is left of the list `lines_data_Nns`. -/
def suppress (line : LinesData) (score : Int) (lines_data_Nns : List LinesData) :
    List LinesData → List LinesData
  | [] => lines_data_Nns
  | n :: rest =>
      if crossing line n then lines_data_Nns
      else if lines_data_Nns.getLast?.any n.equals ∧ score > matching_score_ then
        lines_data_Nns ++ [line]
      else suppress line score lines_data_Nns rest

/-- `Line::LineNms` over the lines, their scores and the order of the sort. -/
def LineNms (lines_data_all_ : List LinesData) (score : List Int) :
    List Nat → List LinesData
  | [] => []
  | first :: others =>
      others.foldl (fun lines_data_Nns i =>
        suppress crossing matching_score_ lines_data_all_[i]! score[i]! lines_data_Nns
          lines_data_Nns) [lines_data_all_[first]!]

end Nms

/-- `vectorSort(score, "DOWN")`: all positions, from the largest score down. -/
structure SortedDown (score : List Int) (idx : List Nat) : Prop where
  perm : idx.Perm (List.range score.length)
  down : idx.Pairwise fun i j => score[j]! ≤ score[i]!

/-- No two lines are equal. -/
def PairwiseDifferent (lines : List LinesData) : Prop :=
  lines.Pairwise fun x y => x.equals y = false

/-! ## What is kept -/

section Kept

variable (crossing : LinesData → LinesData → Bool) (matching_score_ : Int)

/-- **Among different lines the inner loop ends at the last one.** -/
theorem suppress_eq (line : LinesData) (score : Int) {rest : List LinesData}
    (front : List LinesData)
    (different : PairwiseDifferent (front ++ rest)) (some' : rest ≠ []) :
    suppress crossing matching_score_ line score (front ++ rest) rest =
      if rest.any (crossing line) then front ++ rest
      else if matching_score_ < score then front ++ rest ++ [line]
      else front ++ rest := by
  induction rest generalizing front with
  | nil => exact absurd rfl some'
  | cons n rest ih =>
      rw [suppress, List.any_cons]
      cases crossed : crossing line n with
      | true => rfl
      | false =>
          rw [Bool.false_or, if_neg (by decide)]
          rcases List.eq_nil_or_concat' rest with rfl | ⟨behind, back, rfl⟩
          · simp [suppress]
          · have ends : (front ++ n :: (behind ++ [back])).getLast? = some back := by
              rw [← List.cons_append, ← List.append_assoc, List.getLast?_concat]
            have apart : n.equals back = false := by
              have tail := (List.pairwise_append.mp different).2.1
              exact (List.pairwise_cons.mp tail).1 back (by simp)
            have split : front ++ n :: (behind ++ [back]) = (front ++ [n]) ++ (behind ++ [back]) := by
              simp
            rw [ends, Option.any_some, apart, if_neg (by simp), split]
            exact ih _ (by rw [← split]; exact different) (by simp)

variable {lines_data_all_ : List LinesData} (score : List Int)

/-- Different positions have different lines. -/
theorem differs {i j : Nat} (different : PairwiseDifferent lines_data_all_)
    (inside : i < lines_data_all_.length) (inside' : j < lines_data_all_.length) (ne : i ≠ j) :
    (lines_data_all_[i]!).equals lines_data_all_[j]! = false := by
  have rule := List.pairwise_iff_getElem.mp different
  rw [getElem!_pos _ i inside, getElem!_pos _ j inside']
  rcases Nat.lt_or_gt_of_ne ne with before | behind
  · exact rule i j inside inside' before
  · rw [LinesData.equals_comm]
    exact rule j i inside' inside behind

theorem pairwiseDifferent_map {kept : List Nat} (different : PairwiseDifferent lines_data_all_)
    (distinct : kept.Nodup) (inside : ∀ i ∈ kept, i < lines_data_all_.length) :
    PairwiseDifferent (kept.map fun i => lines_data_all_[i]!) := by
  rw [PairwiseDifferent, List.pairwise_map]
  refine List.Pairwise.imp_of_mem ?_ distinct
  intro i j here there ne
  exact differs different (inside i here) (inside j there) ne

/-- The score of a line reaches over the limit. -/
def above (matching_score_ : Int) (score : List Int) (i : Nat) : Bool := matching_score_ < score[i]!

/-- One line, by the positions of those that were kept. -/
theorem suppress_map {kept : List Nat} {i : Nat} (different : PairwiseDifferent lines_data_all_)
    (distinct : kept.Nodup) (inside : ∀ j ∈ kept, j < lines_data_all_.length) (some' : kept ≠ []) :
    suppress crossing matching_score_ lines_data_all_[i]! score[i]!
        (kept.map fun j => lines_data_all_[j]!) (kept.map fun j => lines_data_all_[j]!) =
      (Greedy.take (fun x y => crossing lines_data_all_[x]! lines_data_all_[y]!)
        (above matching_score_ score) kept i).map fun j => lines_data_all_[j]! := by
  have apart := pairwiseDifferent_map different distinct inside
  have loop := suppress_eq crossing matching_score_ lines_data_all_[i]! score[i]! [] apart (by simpa using some')
  simp only [List.nil_append, List.any_map, Function.comp_def] at loop
  rw [loop, Greedy.take]
  simp only [above, decide_eq_true_eq]
  by_cases crossed : (kept.any fun y => crossing lines_data_all_[i]! lines_data_all_[y]!) = true
  · rw [if_pos crossed, if_pos crossed]
  · rw [if_neg crossed, if_neg crossed]
    by_cases enough : matching_score_ < score[i]!
    · rw [if_pos enough, if_pos enough, List.map_append]
      rfl
    · rw [if_neg enough, if_neg enough]

/-- The lines that are kept are those of a greedy selection of positions. -/
theorem foldl_suppress {kept others : List Nat} (different : PairwiseDifferent lines_data_all_)
    (distinct : (kept ++ others).Nodup)
    (inside : ∀ j ∈ kept ++ others, j < lines_data_all_.length) (some' : kept ≠ []) :
    others.foldl (fun lines_data_Nns i =>
        suppress crossing matching_score_ lines_data_all_[i]! score[i]! lines_data_Nns
          lines_data_Nns) (kept.map fun j => lines_data_all_[j]!) =
      (others.foldl (Greedy.take (fun x y => crossing lines_data_all_[x]! lines_data_all_[y]!)
        (above matching_score_ score)) kept).map fun j => lines_data_all_[j]! := by
  induction others generalizing kept with
  | nil => rfl
  | cons i others ih =>
      rw [List.foldl_cons, List.foldl_cons, suppress_map crossing matching_score_ score different
        (List.nodup_append.mp distinct).1
        (fun j there => inside j (List.mem_append_left _ there)) some']
      have grown : ∃ more, Greedy.take (fun x y => crossing lines_data_all_[x]!
          lines_data_all_[y]!) (above matching_score_ score) kept i = kept ++ more ∧
            more.Sublist [i] := by
        unfold Greedy.take
        split
        · exact ⟨[], by simp, by simp⟩
        · split
          · exact ⟨[i], rfl, List.Sublist.refl _⟩
          · exact ⟨[], by simp, by simp⟩
      obtain ⟨more, next, fresh⟩ := grown
      have sub : (kept ++ more ++ others).Sublist (kept ++ i :: others) := by
        rw [List.append_assoc]
        exact (List.Sublist.refl kept).append (fresh.append (List.Sublist.refl others))
      rw [next]
      exact ih (sub.nodup distinct) (fun j there => inside j (sub.subset there)) (by simp [some'])

/-- The positions of the lines that are returned. -/
structure Kept (crossing : LinesData → LinesData → Bool) (matching_score_ : Int)
    (lines_data_all_ : List LinesData) (score : List Int) (kept : List Nat) : Prop where
  inside : ∀ i ∈ kept, i < lines_data_all_.length
  best : ∃ first tail, kept = first :: tail ∧
    (∀ j < lines_data_all_.length, score[j]! ≤ score[first]!) ∧
    ∀ i ∈ tail, matching_score_ < score[i]!
  ordered : kept.Pairwise fun i j => score[j]! ≤ score[i]!
  apart : kept.Pairwise fun i j =>
    crossing lines_data_all_[j]! lines_data_all_[i]! = false
  omitted : ∀ j < lines_data_all_.length, j ∉ kept →
    score[j]! ≤ matching_score_ ∨
      ∃ i ∈ kept, score[j]! ≤ score[i]! ∧ crossing lines_data_all_[j]! lines_data_all_[i]! = true

/-- **Which lines are returned**, whatever lines cross and in whatever order the sort leaves equal
scores: one of the best, and the others by falling scores, none of which crosses one in front of it;
what is left out crosses a returned line with at least its score, or is not good enough. -/
theorem LineNms_selects (crossing : LinesData → LinesData → Bool) (matching_score_ : Int)
    (lines_data_all_ : List LinesData) (score : List Int) (idx : List Nat)
    (scored : score.length = lines_data_all_.length) (some' : lines_data_all_ ≠ [])
    (different : PairwiseDifferent lines_data_all_) (sorted : SortedDown score idx) :
    ∃ kept, LineNms crossing matching_score_ lines_data_all_ score idx =
        (kept.map fun i => lines_data_all_[i]!) ∧
      kept.Nodup ∧ Kept crossing matching_score_ lines_data_all_ score kept := by
  have known : ∀ j, j ∈ idx ↔ j < lines_data_all_.length := by
    intro j
    rw [sorted.perm.mem_iff, List.mem_range, scored]
  have distinct : idx.Nodup := sorted.perm.nodup_iff.mpr List.nodup_range
  have down := sorted.down
  cases idx with
  | nil =>
      have empty : lines_data_all_.length = 0 := by
        by_contra ne
        cases (known 0).mpr (Nat.pos_of_ne_zero ne)
      exact absurd (List.eq_nil_of_length_eq_zero empty) some'
  | cons first others =>
      obtain ⟨tail, ran, taken⟩ := Greedy.selected
        (fun x y => crossing lines_data_all_[x]! lines_data_all_[y]!)
        (above matching_score_ score) down
      have sub : (first :: tail).Sublist (first :: others) := taken.sub.cons_cons first
      have same := foldl_suppress crossing matching_score_ score different
        (show ([first] ++ others).Nodup from distinct) (fun j there => (known j).mp there)
        (List.cons_ne_nil _ _)
      have best : ∀ j < lines_data_all_.length, score[j]! ≤ score[first]! := by
        intro j here
        rcases List.mem_cons.mp ((known j).mpr here) with rfl | later
        · exact Int.le_refl _
        · exact (List.pairwise_cons.mp down).1 j later
      refine ⟨first :: tail, ?_, sub.nodup distinct, ?_⟩
      · rw [← ran]
        exact same
      · refine ⟨fun i there => (known i).mp (sub.subset there), ⟨first, tail, rfl, best, ?_⟩,
          down.sublist sub, taken.apart, ?_⟩
        · intro i there
          exact of_decide_eq_true (taken.enough i there)
        · intro j here absent
          have later : j ∈ others :=
            (List.mem_cons.mp ((known j).mpr here)).resolve_left fun same =>
              absent (same ▸ List.mem_cons_self)
          rcases taken.omitted j later fun there => absent (List.mem_cons_of_mem _ there) with
            low | ⟨i, there, order, crossed⟩
          · exact .inl (Int.not_lt.mp (of_decide_eq_false low))
          · exact .inr ⟨i, there, order, crossed⟩

end Kept

/-! ## Three lines of a picture -/

/-- A line upright at `rho`, or level there. -/
def lineAt (upright : Bool) (rho : Int) : LinesData :=
  { a := if upright then 1 else 0, b := if upright then 0 else 1
    x0 := if upright then rho else 0, y0 := if upright then 0 else rho
    rho := rho, theta := if upright then 0 else 157 / 100
    pt1 := if upright then (rho, 1000) else (-1000, rho)
    pt2 := if upright then (rho, -1000) else (1000, rho)
    score := 0, angle_diff := 0 }

/-- Where an upright and a level line cross. -/
def crossUpright (rho1 theta1 rho2 theta2 : Rat) : Option (Int × Int) :=
  if theta1 = theta2 then none
  else if theta1 = 0 then some (rho1.floor, rho2.floor)
  else some (rho2.floor, rho1.floor)

/-- Two upright lines with a level one between them. -/
theorem LineNms_three :
    ∃ kept, LineNms (crosses crossUpright { cols := 100, rows := 100 }) 3
        [lineAt true 10, lineAt false 20, lineAt true 30] [9, 7, 5] [0, 1, 2] =
          (kept.map fun i => [lineAt true 10, lineAt false 20, lineAt true 30][i]!) ∧
      kept.Nodup ∧ Kept (crosses crossUpright { cols := 100, rows := 100 }) 3
        [lineAt true 10, lineAt false 20, lineAt true 30] [9, 7, 5] kept := by
  apply LineNms_selects
  case scored => rfl
  case some' => decide
  case different =>
    unfold PairwiseDifferent
    decide
  case sorted =>
    constructor
    · decide
    · decide

end IsgConsole.IasCore.Dt
