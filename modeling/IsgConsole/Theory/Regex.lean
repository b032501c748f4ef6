/-
# Theory.Regex — regular expressions that are searched by backtracking

A `Regex` is a pattern of classes of characters, greedy repetitions of them, optional parts, groups
and anchors.  `run` tries the ways a pattern can go on in the order in which a backtracking matcher
does, each with what has to follow, and `search` tries one start after another; what is found is
what the groups hold.  `Matches` is the relation without the order.

* `run_sound` — the matcher finds ways there are;
* `run_blocked` — by the first characters a pattern can take or leave, where there is none;
* `runMany_unique`, `runMany_first` — **which way a repetition goes.**
-/
import Mathlib.Data.List.Basic

namespace IsgConsole.Theory

set_option autoImplicit false

inductive Regex (α : Type) where
  /-- A character of a class. -/
  | one (p : α → Bool)
  /-- Characters of a class, as many as can be: `[p]*`. -/
  | many (p : α → Bool)
  | seq (r₁ r₂ : Regex α)
  /-- The pattern, or nothing: `r?`. -/
  | opt (r : Regex α)
  | group (i : Nat) (r : Regex α)
  /-- The start of the text: `^`. -/
  | start
  /-- The end of the text, or a last line break: `$`. -/
  | finish (newline : α → Bool)

namespace Regex

variable {α β : Type}

/-- `[p]+`. -/
def some' (p : α → Bool) : Regex α := .seq (.one p) (.many p)

/-- Where a matcher stands: what is left of the text, and what the groups have taken, the last one
in front. -/
structure Cursor (α : Type) where
  atStart : Bool
  rest : List α
  groups : List (Nat × List α)

namespace Cursor

def step (c : Cursor α) (rest : List α) : Cursor α := { c with atStart := false, rest }

/-- What lies between two places of a text. -/
def taken (c c' : Cursor α) : List α := c.rest.take (c.rest.length - c'.rest.length)

/-- A group ends. -/
def close (c : Cursor α) (i : Nat) (c' : Cursor α) : Cursor α :=
  { c' with groups := (i, c.taken c') :: c'.groups }

end Cursor

/-! ## The matcher -/

/-- A repetition, the longest first. -/
def runMany (p : α → Bool) (k : Cursor α → Option β) : List α → Cursor α → Option β
  | [], c => k c
  | x :: xs, c => if p x then (runMany p k xs (c.step xs)).or (k c) else k c

/-- The first way a pattern can go on that what follows can go on from. -/
def run : Regex α → (Cursor α → Option β) → Cursor α → Option β
  | .one p, k, c =>
      match c.rest with
      | [] => none
      | x :: xs => if p x then k (c.step xs) else none
  | .many p, k, c => runMany p k c.rest c
  | .seq r₁ r₂, k, c => r₁.run (r₂.run k) c
  | .opt r, k, c => (r.run k c).or (k c)
  | .group i r, k, c => r.run (fun c' => k (c.close i c')) c
  | .start, k, c => if c.atStart then k c else none
  | .finish newline, k, c =>
      match c.rest with
      | [] => k c
      | [x] => if newline x then k c else none
      | _ :: _ :: _ => none

/-- The groups of the first match from here on. -/
def searchFrom (r : Regex α) : Bool → List α → Option (List (Nat × List α))
  | atStart, [] => r.run (fun c => some c.groups) ⟨atStart, [], []⟩
  | atStart, x :: xs =>
      (r.run (fun c => some c.groups) ⟨atStart, x :: xs, []⟩).or (searchFrom r false xs)

def search (r : Regex α) (text : List α) : Option (List (Nat × List α)) := r.searchFrom true text

/-- What a group has taken; nothing where it was left out. -/
def captured (groups : List (Nat × List α)) (i : Nat) : List α := (groups.lookup i).getD []

/-- A pattern that begins with the start of the text is tried there only. -/
theorem search_start (r : Regex α) (text : List α) :
    (Regex.seq .start r).search text = r.run (fun c => some c.groups) ⟨true, text, []⟩ := by
  have later : ∀ xs, (Regex.seq .start r).searchFrom false xs = none := by
    intro xs
    induction xs with
    | nil => rfl
    | cons x xs ih =>
        rw [searchFrom, ih]
        rfl
  cases text with
  | nil => rfl
  | cons x xs =>
      rw [search, searchFrom, later, Option.or_none]
      rfl

/-! ## Matches -/

inductive Matches : Regex α → Cursor α → Cursor α → Prop where
  | one {p : α → Bool} {c : Cursor α} {x : α} {xs : List α} (here : c.rest = x :: xs)
      (own : p x = true) : Matches (.one p) c (c.step xs)
  | manyNone {p : α → Bool} {c : Cursor α} : Matches (.many p) c c
  | manyMore {p : α → Bool} {c c' : Cursor α} {x : α} {xs : List α} (here : c.rest = x :: xs)
      (own : p x = true) (more : Matches (.many p) (c.step xs) c') : Matches (.many p) c c'
  | seq {r₁ r₂ : Regex α} {c c' c'' : Cursor α} (first : Matches r₁ c c')
      (next : Matches r₂ c' c'') : Matches (.seq r₁ r₂) c c''
  | optSome {r : Regex α} {c c' : Cursor α} (inside : Matches r c c') : Matches (.opt r) c c'
  | optNone {r : Regex α} {c : Cursor α} : Matches (.opt r) c c
  | group {i : Nat} {r : Regex α} {c c' : Cursor α} (inside : Matches r c c') :
      Matches (.group i r) c (c.close i c')
  | start {c : Cursor α} (here : c.atStart = true) : Matches .start c c
  | finish {newline : α → Bool} {c : Cursor α} (none : c.rest = []) : Matches (.finish newline) c c
  | finishLine {newline : α → Bool} {c : Cursor α} {x : α} (last : c.rest = [x])
      (line : newline x = true) : Matches (.finish newline) c c

section Split

variable {p : α → Bool} {c c' : Cursor α}

theorem Matches.one_split (way : Matches (.one p) c c') :
    ∃ x, p x = true ∧ c.rest = x :: c'.rest := by
  cases way with
  | one here own => exact ⟨_, own, here⟩

theorem Matches.many_split (way : Matches (.many p) c c') :
    ∃ front, (∀ x ∈ front, p x = true) ∧ c.rest = front ++ c'.rest := by
  generalize same : Regex.many p = r at way
  induction way with
  | manyNone => exact ⟨[], by simp, rfl⟩
  | @manyMore q c c' x xs here own more ih =>
      obtain ⟨front, all, rest⟩ := ih same
      cases same
      refine ⟨x :: front, List.forall_mem_cons.mpr ⟨own, all⟩, ?_⟩
      rw [here, List.cons_append]
      exact congrArg (x :: ·) rest
  | one | seq | optSome | optNone | group | start | finish | finishLine => cases same

theorem Matches.some_split (way : Matches (some' p) c c') :
    ∃ front, front ≠ [] ∧ (∀ x ∈ front, p x = true) ∧ c.rest = front ++ c'.rest := by
  cases way with
  | seq first more =>
      obtain ⟨x, own, here⟩ := first.one_split
      obtain ⟨front, all, rest⟩ := more.many_split
      refine ⟨x :: front, List.cons_ne_nil _ _, List.forall_mem_cons.mpr ⟨own, all⟩, ?_⟩
      rw [here, rest, List.cons_append]

end Split

theorem runMany_sound {p : α → Bool} {k : Cursor α → Option β} {b : β} {xs : List α}
    {c : Cursor α} (here : c.rest = xs) (found : runMany p k xs c = some b) :
    ∃ c', Matches (.many p) c c' ∧ k c' = some b := by
  induction xs generalizing c with
  | nil => exact ⟨c, .manyNone, found⟩
  | cons x xs ih =>
      rw [runMany] at found
      split at found
      next own =>
        rcases Option.or_eq_some_iff.mp found with longer | ⟨-, shorter⟩
        · obtain ⟨c', more, after⟩ := ih rfl longer
          exact ⟨c', .manyMore here own more, after⟩
        · exact ⟨c, .manyNone, shorter⟩
      next => exact ⟨c, .manyNone, found⟩

/-- What is found is a match that what follows can go on from. -/
theorem run_sound {r : Regex α} {k : Cursor α → Option β} {c : Cursor α} {b : β}
    (found : r.run k c = some b) : ∃ c', Matches r c c' ∧ k c' = some b := by
  induction r generalizing k c with
  | one p =>
      rw [run] at found
      split at found
      next => cases found
      next x xs here =>
        split at found
        next own => exact ⟨_, .one here own, found⟩
        next => cases found
  | many p => exact runMany_sound rfl found
  | seq r₁ r₂ ih₁ ih₂ =>
      obtain ⟨c', first, after⟩ := ih₁ found
      obtain ⟨c'', next, after⟩ := ih₂ after
      exact ⟨c'', .seq first next, after⟩
  | opt r ih =>
      rcases Option.or_eq_some_iff.mp found with inside | ⟨-, without⟩
      · obtain ⟨c', inside, after⟩ := ih inside
        exact ⟨c', .optSome inside, after⟩
      · exact ⟨c, .optNone, without⟩
  | group i r ih =>
      obtain ⟨c', inside, after⟩ := ih found
      exact ⟨_, .group inside, after⟩
  | start =>
      rw [run] at found
      split at found
      next here => exact ⟨c, .start here, found⟩
      next => cases found
  | finish newline =>
      rw [run] at found
      split at found
      next none => exact ⟨c, .finish none, found⟩
      next x last =>
        split at found
        next line => exact ⟨c, .finishLine last line, found⟩
        next => cases found
      next => cases found

/-! ## First characters -/

/-- The pattern may leave the character in front where it is. -/
def leaves : Regex α → α → Bool
  | .one _, _ => false
  | .many _, _ => true
  | .seq r₁ r₂, x => r₁.leaves x && r₂.leaves x
  | .opt _, _ => true
  | .group _ r, x => r.leaves x
  | .start, _ => true
  | .finish newline, x => newline x

/-- It may take it. -/
def takes : Regex α → α → Bool
  | .one p, x => p x
  | .many p, x => p x
  | .seq r₁ r₂, x => r₁.takes x || r₁.leaves x && r₂.takes x
  | .opt r, x => r.takes x
  | .group _ r, x => r.takes x
  | .start, _ => false
  | .finish _, _ => false

theorem Matches.front {r : Regex α} {c c' : Cursor α} (way : Matches r c c') {x : α} {xs : List α}
    (here : c.rest = x :: xs) : r.takes x = true ∨ r.leaves x = true ∧ c'.rest = c.rest := by
  induction way with
  | one here' own =>
      obtain ⟨rfl, -⟩ := List.cons.inj (here.symm.trans here')
      exact .inl own
  | manyNone => exact .inr ⟨rfl, rfl⟩
  | manyMore here' own =>
      obtain ⟨rfl, -⟩ := List.cons.inj (here.symm.trans here')
      exact .inl own
  | seq first next ih₁ ih₂ =>
      simp only [takes, leaves, Bool.or_eq_true, Bool.and_eq_true]
      rcases ih₁ here with took | ⟨left, same⟩
      · exact .inl (.inl took)
      · rcases ih₂ (same.trans here) with took | ⟨left', same'⟩
        · exact .inl (.inr ⟨left, took⟩)
        · exact .inr ⟨⟨left, left'⟩, same'.trans same⟩
  | optSome inside ih =>
      rcases ih here with took | ⟨-, same⟩
      · exact .inl took
      · exact .inr ⟨rfl, same⟩
  | optNone => exact .inr ⟨rfl, rfl⟩
  | group inside ih => exact ih here
  | start => exact .inr ⟨rfl, rfl⟩
  | finish none =>
      rw [none] at here
      cases here
  | finishLine last line =>
      rw [last] at here
      obtain ⟨rfl, -⟩ := List.cons.inj here
      exact .inr ⟨line, rfl⟩

/-- The pattern can do nothing with a character of a class in front. -/
def Blocks (r : Regex α) (p : α → Bool) : Prop :=
  ∀ x, p x = true → r.takes x = false ∧ r.leaves x = false

/-- There is no way on from such a character. -/
theorem run_blocked {r : Regex α} {p : α → Bool} (blocks : r.Blocks p) (k : Cursor α → Option β)
    {c : Cursor α} {x : α} {xs : List α} (here : c.rest = x :: xs) (own : p x = true) :
    r.run k c = none := by
  rw [Option.eq_none_iff_forall_ne_some]
  intro b found
  obtain ⟨c', way, -⟩ := run_sound found
  obtain ⟨took, left⟩ := blocks x own
  rcases way.front here with this | ⟨this, -⟩
  · rw [took] at this
    cases this
  · rw [left] at this
    cases this

/-! ## Repetitions -/

section Repetition

variable {p : α → Bool} {k : Cursor α → Option β} {front back : List α}

/-- **A repetition takes all it can** where what follows can do nothing with a character of the
class. -/
theorem runMany_unique (fails : ∀ c x xs, c.rest = x :: xs → p x = true → k c = none)
    (all : ∀ x ∈ front, p x = true) (stops : ∀ x ∈ back.head?, p x = false) (atStart : Bool)
    (groups : List (Nat × List α)) :
    runMany p k (front ++ back) ⟨atStart, front ++ back, groups⟩ =
      k ⟨atStart && front.isEmpty, back, groups⟩ := by
  induction front generalizing atStart with
  | nil =>
      rw [List.isEmpty_nil, Bool.and_true]
      cases back with
      | nil => rfl
      | cons x xs =>
          have stop : p x = false := stops x rfl
          simp [runMany, stop]
  | cons x front ih =>
      obtain ⟨own, all⟩ := List.forall_mem_cons.mp all
      have none : k ⟨atStart, x :: (front ++ back), groups⟩ = Option.none := fails _ x _ rfl own
      rw [List.cons_append, runMany, if_pos own, none, Option.or_none]
      show runMany p k (front ++ back) ⟨false, front ++ back, groups⟩ = _
      rw [ih all, Bool.false_and, List.isEmpty_cons, Bool.and_false]

/-- **It takes as much as what follows can go on from.** -/
theorem runMany_first (front given back : List α) (all : ∀ x ∈ front ++ given, p x = true)
    (stops : ∀ x ∈ back.head?, p x = false) (atStart : Bool) (groups : List (Nat × List α))
    (fails : ∀ taken left, given = taken ++ left → taken ≠ [] →
      k ⟨false, left ++ back, groups⟩ = none)
    (goes : (k ⟨atStart && front.isEmpty, given ++ back, groups⟩).isSome) :
    runMany p k (front ++ (given ++ back)) ⟨atStart, front ++ (given ++ back), groups⟩ =
      k ⟨atStart && front.isEmpty, given ++ back, groups⟩ := by
  induction front generalizing atStart with
  | nil =>
      simp only [List.isEmpty_nil, Bool.and_true, List.nil_append] at goes all ⊢
      cases given with
      | nil =>
          cases back with
          | nil => rfl
          | cons x xs =>
              have stop : p x = false := stops x rfl
              simp [runMany, stop]
      | cons x given =>
          obtain ⟨own, all⟩ := List.forall_mem_cons.mp all
          have longer : ∀ xs ys, given = xs ++ ys →
              runMany p k (ys ++ back) ⟨false, ys ++ back, groups⟩ = none := by
            intro xs ys
            induction ys generalizing xs with
            | nil =>
                intro whole
                have this := fails (x :: xs) [] (by rw [whole, List.cons_append])
                  (List.cons_ne_nil _ _)
                cases back with
                | nil => exact this
                | cons y back =>
                    have stop : p y = false := stops y rfl
                    simpa [runMany, stop] using this
            | cons y ys ih =>
                intro whole
                have own : p y = true := all y (by rw [whole]; simp)
                have this := fails (x :: xs) (y :: ys) (by rw [whole, List.cons_append])
                  (List.cons_ne_nil _ _)
                have next := ih (xs ++ [y]) (by rw [whole, List.append_assoc]; rfl)
                rw [List.cons_append] at this ⊢
                rw [runMany, if_pos own, this, Option.or_none]
                exact next
          have none := longer [] given rfl
          rw [List.cons_append, runMany, if_pos own]
          show (runMany p k (given ++ back) ⟨false, given ++ back, groups⟩).or _ = _
          rw [none, Option.none_or]
  | cons x front ih =>
      obtain ⟨own, all⟩ := List.forall_mem_cons.mp all
      rw [List.isEmpty_cons, Bool.and_false] at goes ⊢
      have more := ih all false (by rwa [Bool.false_and])
      rw [Bool.false_and] at more
      rw [List.cons_append, runMany, if_pos own]
      show (runMany p k (front ++ (given ++ back))
        ⟨false, front ++ (given ++ back), groups⟩).or _ = _
      rw [more]
      exact Option.or_of_isSome goes

variable {r : Regex α} {k' : Cursor α → Option β}

theorem run_seq_many (blocks : r.Blocks p) (all : ∀ x ∈ front, p x = true)
    (stops : ∀ x ∈ back.head?, p x = false) (atStart : Bool) (groups : List (Nat × List α)) :
    (Regex.seq (.many p) r).run k' ⟨atStart, front ++ back, groups⟩ =
      r.run k' ⟨atStart && front.isEmpty, back, groups⟩ :=
  runMany_unique (fun _ _ _ here own => run_blocked blocks k' here own) all stops atStart groups

/-- A group of characters of a class. -/
theorem run_seq_group (blocks : r.Blocks p) (i : Nat) (nonempty : front ≠ [])
    (all : ∀ x ∈ front, p x = true) (stops : ∀ x ∈ back.head?, p x = false) (atStart : Bool)
    (groups : List (Nat × List α)) :
    (Regex.seq (.group i (some' p)) r).run k' ⟨atStart, front ++ back, groups⟩ =
      r.run k' ⟨false, back, (i, front) :: groups⟩ := by
  obtain ⟨x, front, rfl⟩ := List.exists_cons_of_ne_nil nonempty
  obtain ⟨own, all⟩ := List.forall_mem_cons.mp all
  have taken : (Cursor.mk atStart (x :: front ++ back) groups).taken ⟨false, back, groups⟩ =
      x :: front := by
    rw [Cursor.taken, List.length_append, Nat.add_sub_cancel, List.take_left]
  have inside := runMany_unique (k := fun c' => r.run k' (Cursor.close
      ⟨atStart, x :: front ++ back, groups⟩ i c'))
    (fun _ _ _ here own => run_blocked blocks k' here own) all stops false groups
  rw [Bool.false_and] at inside
  simp only [some', run, List.cons_append, own, if_true]
  refine inside.trans ?_
  show r.run k' ⟨false, back, (i, Cursor.taken _ _) :: groups⟩ = _
  rw [taken]

/-- A group that takes the rest of the text, where what follows can go on from there. -/
theorem run_seq_group_all (i : Nat) (nonempty : front ≠ []) (all : ∀ x ∈ front, p x = true)
    (atStart : Bool) (groups : List (Nat × List α))
    (goes : (r.run k' ⟨false, [], (i, front) :: groups⟩).isSome) :
    (Regex.seq (.group i (some' p)) r).run k' ⟨atStart, front, groups⟩ =
      r.run k' ⟨false, [], (i, front) :: groups⟩ := by
  obtain ⟨x, front, rfl⟩ := List.exists_cons_of_ne_nil nonempty
  obtain ⟨own, all⟩ := List.forall_mem_cons.mp all
  have taken : (Cursor.mk atStart (x :: front) groups).taken ⟨false, [], groups⟩ = x :: front := by
    simp [Cursor.taken]
  have closed : Cursor.close ⟨atStart, x :: front, groups⟩ i ⟨false, [], groups⟩ =
      ⟨false, [], (i, x :: front) :: groups⟩ := by
    rw [Cursor.close, taken]
  have first := runMany_first (p := p) (k := fun c' => r.run k' (Cursor.close
      ⟨atStart, x :: front, groups⟩ i c')) front [] [] (by simpa using all) (by simp) false groups
    (by simp) (by rw [Bool.false_and, List.append_nil, closed]; exact goes)
  rw [Bool.false_and, List.append_nil, List.append_nil, closed] at first
  simp only [some', run, own, if_true]
  exact first

end Repetition

end Regex

end IsgConsole.Theory
