/-
# Theory.Grouping — an ordered map of lists

Elements are put behind those of the same key, one after another, into a map that is ordered by its
keys.  Each key has its elements in the order they came in, and no key is without elements
(`group_grouped`).
-/
import Mathlib.Data.List.Induction
import Mathlib.Order.Lattice

namespace IsgConsole.Theory.Grouping

set_option autoImplicit false

variable {κ α : Type} [LinearOrder κ] (key : α → κ)

/-- One more element of a key. -/
def push (x : α) : List (κ × List α) → List (κ × List α)
  | [] => [(key x, [x])]
  | (k, xs) :: rest =>
      if key x < k then (key x, [x]) :: (k, xs) :: rest
      else if key x = k then (k, xs ++ [x]) :: rest
      else (k, xs) :: push x rest

/-- The elements by their keys. -/
def group (xs : List α) : List (κ × List α) := xs.foldl (fun m x => push key x m) []

/-- A map that holds the elements by their keys. -/
structure Grouped (xs : List α) (m : List (κ × List α)) : Prop where
  sorted : m.Pairwise fun p q => p.1 < q.1
  elements : ∀ p ∈ m, p.2 = xs.filter fun x => key x = p.1
  occupied : ∀ p ∈ m, p.2 ≠ []
  held : ∀ x ∈ xs, ∃ p ∈ m, p.1 = key x

/-- Where an element is put: behind the elements of its key, in between the other keys. -/
theorem push_cases (x : α) {m : List (κ × List α)} (sorted : m.Pairwise fun p q => p.1 < q.1) :
    ∃ front ys back, push key x m = front ++ (key x, ys ++ [x]) :: back ∧
      (∀ p ∈ front, p.1 < key x) ∧ (∀ p ∈ back, key x < p.1) ∧
      (ys = [] ∧ m = front ++ back ∨ m = front ++ (key x, ys) :: back) := by
  induction m with
  | nil => exact ⟨[], [], [], rfl, by simp, by simp, .inl ⟨rfl, rfl⟩⟩
  | cons q rest ih =>
      obtain ⟨k, xs⟩ := q
      obtain ⟨first, later⟩ := List.pairwise_cons.mp sorted
      unfold push
      split
      next below =>
        refine ⟨[], [], (k, xs) :: rest, rfl, by simp, fun p there => ?_, .inl ⟨rfl, rfl⟩⟩
        rcases List.mem_cons.mp there with rfl | behind
        · exact below
        · exact below.trans (first p behind)
      next notBelow =>
        split
        next same =>
          subst same
          exact ⟨[], xs, rest, rfl, by simp, first, .inr rfl⟩
        next differs =>
          have above : k < key x := lt_of_le_of_ne (not_lt.mp notBelow) (Ne.symm differs)
          obtain ⟨front, ys, back, pushed, before, behind, whole⟩ := ih later
          refine ⟨(k, xs) :: front, ys, back, by rw [pushed]; rfl, fun p there => ?_, behind, ?_⟩
          · rcases List.mem_cons.mp there with rfl | further
            · exact above
            · exact before p further
          · rcases whole with ⟨none, rfl⟩ | rfl
            · exact .inl ⟨none, rfl⟩
            · exact .inr rfl

variable {key}

/-- An element of another key changes nothing for a key. -/
theorem filter_snoc_of_ne {xs : List α} {x : α} {k : κ} (ne : key x ≠ k) :
    (xs ++ [x]).filter (fun y => key y = k) = xs.filter fun y => key y = k := by
  rw [List.filter_append, List.filter_cons_of_neg (by simpa using ne), List.filter_nil,
    List.append_nil]

theorem filter_snoc_of_eq (xs : List α) (x : α) :
    (xs ++ [x]).filter (fun y => key y = key x) = (xs.filter fun y => key y = key x) ++ [x] := by
  rw [List.filter_append, List.filter_cons_of_pos (by simp), List.filter_nil]

/-- **One more element.** -/
theorem Grouped.push {xs : List α} {m : List (κ × List α)} (grouped : Grouped key xs m) (x : α) :
    Grouped key (xs ++ [x]) (push key x m) := by
  obtain ⟨sorted, elements, occupied, held⟩ := grouped
  obtain ⟨front, ys, back, pushed, before, behind, whole⟩ := push_cases key x sorted
  have others : ∀ p ∈ front ++ back, key x ≠ p.1 := by
    intro p there
    rcases List.mem_append.mp there with here | here
    · exact (before p here).ne'
    · exact (behind p here).ne
  have kept : (front ++ back).Sublist m := by
    rcases whole with ⟨-, rfl⟩ | rfl
    · exact List.Sublist.refl _
    · exact (List.Sublist.refl front).append (List.sublist_cons_self _ back)
  -- what the key had so far
  have own : xs.filter (fun y => key y = key x) = ys := by
    rcases whole with ⟨rfl, rfl⟩ | rfl
    · rw [List.filter_eq_nil_iff]
      intro y there same
      obtain ⟨p, here, keyed⟩ := held y there
      exact others p here ((of_decide_eq_true same).symm.trans keyed.symm)
    · exact (elements (key x, ys) (List.mem_append_right _ List.mem_cons_self)).symm
  have entries : ∀ p, p ∈ front ++ (key x, ys ++ [x]) :: back ↔
      p = (key x, ys ++ [x]) ∨ p ∈ front ++ back := by
    intro p
    simp only [List.mem_append, List.mem_cons]
    tauto
  rw [pushed]
  refine ⟨?_, fun p there => ?_, fun p there => ?_, fun y there => ?_⟩
  · obtain ⟨first, second, cross⟩ := List.pairwise_append.mp (sorted.sublist kept)
    refine List.pairwise_append.mpr ⟨first, List.pairwise_cons.mpr ⟨behind, second⟩, ?_⟩
    intro p here q there
    rcases List.mem_cons.mp there with rfl | further
    · exact before p here
    · exact cross p here q further
  · rcases (entries p).mp there with rfl | old
    · rw [filter_snoc_of_eq, own]
    · rw [filter_snoc_of_ne (others p old)]
      exact elements p (kept.subset old)
  · rcases (entries p).mp there with rfl | old
    · exact List.append_ne_nil_of_right_ne_nil _ (List.cons_ne_nil _ _)
    · exact occupied p (kept.subset old)
  · by_cases same : key y = key x
    · exact ⟨_, (entries _).mpr (.inl rfl), same.symm⟩
    · have early : y ∈ xs := by
        rcases List.mem_append.mp there with early | this
        · exact early
        · exact absurd (congrArg key (List.mem_singleton.mp this)) same
      obtain ⟨p, here, keyed⟩ := held y early
      refine ⟨p, (entries p).mpr (.inr ?_), keyed⟩
      have other : p.1 ≠ key x := fun own => same (keyed.symm.trans own)
      rcases whole with ⟨-, rfl⟩ | rfl
      · exact here
      · rcases List.mem_append.mp here with front | rest
        · exact List.mem_append_left _ front
        · rcases List.mem_cons.mp rest with rfl | back
          · exact absurd rfl other
          · exact List.mem_append_right _ back

/-- **Each key has its elements in the order they came in.** -/
theorem group_grouped (xs : List α) : Grouped key xs (group key xs) := by
  induction xs using List.reverseRecOn with
  | nil => exact ⟨List.Pairwise.nil, by simp [group], by simp [group], by simp⟩
  | append_singleton xs x ih =>
      rw [group, List.foldl_append, ← group]
      exact ih.push x

/-! ## Reading a map -/

section Reading

variable {xs ys : List α} {m m' : List (κ × List α)}

theorem Grouped.mem_keys (grouped : Grouped key xs m) {k : κ} :
    k ∈ m.map Prod.fst ↔ ∃ x ∈ xs, key x = k := by
  constructor
  · intro there
    obtain ⟨p, kept, rfl⟩ := List.mem_map.mp there
    obtain ⟨x, here⟩ := List.exists_mem_of_ne_nil _ (grouped.occupied p kept)
    rw [grouped.elements p kept, List.mem_filter] at here
    exact ⟨x, here.1, of_decide_eq_true here.2⟩
  · rintro ⟨x, there, rfl⟩
    obtain ⟨p, kept, keyed⟩ := grouped.held x there
    exact List.mem_map.mpr ⟨p, kept, keyed⟩

/-- What is made of each list of a map, by the keys. -/
theorem Grouped.flatMap_eq {β : Type} (grouped : Grouped key xs m) (f : List α → List β) :
    (m.flatMap fun p => f p.2) =
      (m.map Prod.fst).flatMap fun k => f (xs.filter fun x => key x = k) := by
  rw [List.flatMap_map, List.flatMap_def, List.flatMap_def]
  exact congrArg List.flatten
    (List.map_congr_left fun p kept => congrArg f (grouped.elements p kept))

/-- **The keys depend on what there is, not on its order.** -/
theorem Grouped.keys_eq (grouped : Grouped key xs m) (grouped' : Grouped key ys m')
    (perm : xs.Perm ys) : m.map Prod.fst = m'.map Prod.fst := by
  have increasing : ∀ {zs : List α} {n : List (κ × List α)}, Grouped key zs n →
      (n.map Prod.fst).Pairwise (· < ·) := fun g => List.pairwise_map.mpr g.sorted
  have same : (m.map Prod.fst).Perm (m'.map Prod.fst) := by
    refine (List.perm_ext_iff_of_nodup ((increasing grouped).imp ne_of_lt)
      ((increasing grouped').imp ne_of_lt)).mpr fun k => ?_
    rw [grouped.mem_keys, grouped'.mem_keys]
    simp only [perm.mem_iff]
  exact same.eq_of_pairwise (fun a b _ _ below above => absurd above below.asymm)
    (increasing grouped) (increasing grouped')

end Reading

/-- No element is lost, and none comes twice. -/
theorem group_perm (xs : List α) : ((group key xs).flatMap Prod.snd).Perm xs := by
  induction xs using List.reverseRecOn with
  | nil => exact List.Perm.refl _
  | append_singleton xs x ih =>
      obtain ⟨front, ys, back, pushed, -, -, whole⟩ := push_cases key x (group_grouped xs).sorted
      have before : ((group key xs).flatMap Prod.snd).Perm
          (front.flatMap Prod.snd ++ ys ++ back.flatMap Prod.snd) := by
        rcases whole with ⟨rfl, same⟩ | same
        · rw [same]
          simp
        · rw [same]
          simp
      rw [group, List.foldl_append, ← group]
      show ((push key x (group key xs)).flatMap Prod.snd).Perm (xs ++ [x])
      rw [pushed, List.flatMap_append, List.flatMap_cons, List.append_assoc ys]
      refine List.Perm.trans ?_ ((before.symm.trans ih).append_right [x])
      rw [List.append_assoc, List.append_assoc]
      exact (List.Perm.append_left _ (List.Perm.append_left _ List.perm_append_comm))

end IsgConsole.Theory.Grouping
