/-
# Theory.FileTree — directories and files under paths

A tree has directories and files under paths, the names from the root down; what holds something is a
directory.  A directory is removed with everything below it.

Of many directories the first subdirectory by name is removed where there are several
(`removeFirsts`).  In directories of one depth these removals do not touch each other, so they are
those that the tree before shows: `FirstsRemoved` says in which directories, and has the rules.

* `mem_subdirs_removeAll` — which subdirectories are left;
* `Removed` — that some directories are gone, and nothing else, whatever removed them;
* `FirstsRemoved.trans` — one pass after another;
* `removeFirsts_removed` — **removing the first of many, one directory after another.**
-/
import Mathlib.Data.Finset.Option
import Mathlib.Data.Finset.Sort
import Mathlib.Data.Finset.Union

namespace IsgConsole.Theory

set_option autoImplicit false

/-- Names from the root down. -/
abbrev Path (Name : Type) := List Name

/-- Directories and files. -/
@[ext]
structure FileTree (Name : Type) [DecidableEq Name] where
  dirs : Finset (Path Name)
  files : Finset (Path Name)
  apart : Disjoint dirs files
  parent : ∀ path name, path ++ [name] ∈ dirs ∪ files → path ∈ dirs

namespace FileTree

section Removing

variable {Name : Type} [DecidableEq Name]

/-- The names of the directories in a directory. -/
def subdirs (t : FileTree Name) (path : Path Name) : Finset Name :=
  t.dirs.biUnion fun q => if q.dropLast = path then q.getLast?.toFinset else ∅

/-- A directory is removed with everything below it. -/
def remove (t : FileTree Name) (path : Path Name) : FileTree Name where
  dirs := t.dirs.filter fun q => ¬ path <+: q
  files := t.files.filter fun q => ¬ path <+: q
  apart := Finset.disjoint_filter_filter t.apart
  parent above name there := by
    rw [← Finset.filter_union] at there
    obtain ⟨known, kept⟩ := Finset.mem_filter.mp there
    refine Finset.mem_filter.mpr ⟨t.parent above name known, fun below => kept ?_⟩
    exact below.trans (List.prefix_append _ _)

/-- The tree of some directories and those above them, without files. -/
def ofDirs (paths : Finset (Path Name)) : FileTree Name where
  dirs := paths.biUnion fun p => p.inits.toFinset
  files := ∅
  apart := Finset.disjoint_empty_right _
  parent above name there := by
    rw [Finset.union_empty, Finset.mem_biUnion] at there
    obtain ⟨p, known, part⟩ := there
    rw [List.mem_toFinset, List.mem_inits] at part
    refine Finset.mem_biUnion.mpr ⟨p, known, ?_⟩
    rw [List.mem_toFinset, List.mem_inits]
    exact (List.prefix_append _ _).trans part

/-- Several directories are removed. -/
def removeAll (t : FileTree Name) (paths : List (Path Name)) : FileTree Name :=
  paths.foldl remove t

@[simp] theorem mem_subdirs {t : FileTree Name} {path : Path Name} {name : Name} :
    name ∈ t.subdirs path ↔ path ++ [name] ∈ t.dirs := by
  unfold subdirs
  rw [Finset.mem_biUnion]
  constructor
  · rintro ⟨q, there, here⟩
    split at here
    next above =>
        have last : q.getLast? = some name := Option.mem_toFinset.mp here
        have whole := List.dropLast_append_getLast? name last
        rw [above] at whole
        rwa [whole]
    next => exact absurd here (Finset.notMem_empty name)
  · intro there
    refine ⟨path ++ [name], there, ?_⟩
    rw [List.dropLast_concat, if_pos rfl, List.getLast?_concat]
    exact Option.mem_toFinset.mpr rfl

theorem mem_removeAll {t : FileTree Name} {paths : List (Path Name)} {q : Path Name} :
    (q ∈ (t.removeAll paths).dirs ↔ q ∈ t.dirs ∧ ∀ p ∈ paths, ¬ p <+: q) ∧
      (q ∈ (t.removeAll paths).files ↔ q ∈ t.files ∧ ∀ p ∈ paths, ¬ p <+: q) := by
  induction paths generalizing t with
  | nil => simp [removeAll]
  | cons p paths ih =>
      have next : t.removeAll (p :: paths) = (t.remove p).removeAll paths := rfl
      rw [next, ih.1, ih.2]
      simp only [remove, Finset.mem_filter, List.forall_mem_cons, and_assoc, and_self]

theorem mem_subdirs_removeAll {t : FileTree Name} {paths : List (Path Name)} {path : Path Name}
    {name : Name} : name ∈ (t.removeAll paths).subdirs path ↔
      name ∈ t.subdirs path ∧ ∀ p ∈ paths, ¬ p <+: path ++ [name] := by
  rw [mem_subdirs, mem_removeAll.1, mem_subdirs]

theorem removeAll_append (t : FileTree Name) (paths more : List (Path Name)) :
    t.removeAll (paths ++ more) = (t.removeAll paths).removeAll more :=
  List.foldl_append

/-- A directory that is left keeps its subdirectories when nothing below it was removed. -/
theorem subdirs_removeAll_of_kept {t : FileTree Name} {paths : List (Path Name)}
    {path : Path Name} (kept : path ∈ (t.removeAll paths).dirs)
    (above : ∀ p ∈ paths, p.length ≤ path.length) :
    (t.removeAll paths).subdirs path = t.subdirs path := by
  ext name
  rw [mem_subdirs_removeAll]
  refine and_iff_left_of_imp fun _ p there below => ?_
  rcases List.prefix_concat_iff.mp below with whole | part
  · have short := above p there
    rw [whole, List.length_append, List.length_singleton] at short
    omega
  · exact (mem_removeAll.1.mp kept).2 p there part

theorem removeAll_subset (t : FileTree Name) (paths : List (Path Name)) :
    (t.removeAll paths).dirs ⊆ t.dirs ∧ (t.removeAll paths).files ⊆ t.files :=
  ⟨fun _ here => (mem_removeAll.1.mp here).1, fun _ here => (mem_removeAll.2.mp here).1⟩

/-- What is gone was below something removed. -/
theorem exists_prefix_of_gone {t : FileTree Name} {paths : List (Path Name)} {q : Path Name}
    (there : q ∈ t.dirs ∪ t.files)
    (gone : q ∉ (t.removeAll paths).dirs ∪ (t.removeAll paths).files) :
    ∃ p ∈ paths, p <+: q := by
  by_contra none
  push Not at none
  refine gone (Finset.mem_union.mpr ?_)
  rcases Finset.mem_union.mp there with dir | file
  · exact .inl (mem_removeAll.1.mpr ⟨dir, none⟩)
  · exact .inr (mem_removeAll.2.mpr ⟨file, none⟩)

/-! ## What is removed -/

/-- Some directories are gone with all below them, and nothing else is. -/
structure Removed (gone : Path Name → Prop) (t t' : FileTree Name) : Prop where
  dirs : ∀ q, q ∈ t'.dirs ↔ q ∈ t.dirs ∧ ¬ ∃ p, gone p ∧ p <+: q
  files : ∀ q, q ∈ t'.files ↔ q ∈ t.files ∧ ¬ ∃ p, gone p ∧ p <+: q

section Removed

variable {gone more : Path Name → Prop} {t t' t'' : FileTree Name}

theorem removed_nothing (t : FileTree Name) : Removed (fun _ => False) t t :=
  ⟨by simp, by simp⟩

theorem removed_remove (t : FileTree Name) (path : Path Name) :
    Removed (fun p => p = path) t (t.remove path) :=
  ⟨by simp [remove], by simp [remove]⟩

theorem Removed.congr (removed : Removed gone t t') (same : ∀ p, gone p ↔ more p) :
    Removed more t t' := by
  obtain rfl : gone = more := funext fun p => propext (same p)
  exact removed

/-- One removal after another. -/
theorem Removed.trans (first : Removed gone t t') (next : Removed more t' t'') :
    Removed (fun p => gone p ∨ more p) t t'' := by
  have both : ∀ q, (¬ ∃ p, (gone p ∨ more p) ∧ p <+: q) ↔
      (¬ ∃ p, gone p ∧ p <+: q) ∧ ¬ ∃ p, more p ∧ p <+: q := by
    intro q
    simp only [or_and_right, exists_or, not_or]
  constructor
  · intro q
    rw [next.dirs, first.dirs, both, and_assoc]
  · intro q
    rw [next.files, first.files, both, and_assoc]

theorem Removed.mem_subdirs (removed : Removed gone t t') {path : Path Name} {name : Name} :
    name ∈ t'.subdirs path ↔ name ∈ t.subdirs path ∧ ¬ ∃ p, gone p ∧ p <+: path ++ [name] := by
  rw [FileTree.mem_subdirs, FileTree.mem_subdirs, removed.dirs]

theorem Removed.mem (removed : Removed gone t t') (q : Path Name) :
    q ∈ t'.dirs ∪ t'.files ↔ q ∈ t.dirs ∪ t.files ∧ ¬ ∃ p, gone p ∧ p <+: q := by
  rw [Finset.mem_union, Finset.mem_union, removed.dirs, removed.files, ← or_and_right]

end Removed

end Removing

/-! ## The first of many -/

section Firsts

variable {Name : Type} [LinearOrder Name]

/-- The directories in a directory, by name. -/
def names (t : FileTree Name) (path : Path Name) : List Name := (t.subdirs path).sort

/-- The first directory by name, where there are others. -/
def first? (t : FileTree Name) (path : Path Name) : Option (Path Name) :=
  match t.names path with
  | first :: _ :: _ => some (path ++ [first])
  | _ => none

/-- It is removed; and whether there was one. -/
def removeFirst (t : FileTree Name) (path : Path Name) : FileTree Name × Bool :=
  match t.first? path with
  | some first => (t.remove first, true)
  | none => (t, false)

/-- The same in one directory after another; and whether there was one in any of them. -/
def removeFirsts (t : FileTree Name) (paths : List (Path Name)) : FileTree Name × Bool :=
  paths.foldl (fun s path => ((s.1.removeFirst path).1, s.2 || (s.1.removeFirst path).2)) (t, false)

theorem first?_eq_some {t : FileTree Name} {path first : Path Name} :
    t.first? path = some first ↔ 2 ≤ (t.subdirs path).card ∧
      ∃ name ∈ t.subdirs path, first = path ++ [name] ∧ ∀ other ∈ t.subdirs path, name ≤ other := by
  have sorted : (t.names path).Pairwise (· ≤ ·) := Finset.pairwise_sort _ _
  have known : ∀ name, name ∈ t.names path ↔ name ∈ t.subdirs path := fun name =>
    Finset.mem_sort _
  have count : (t.names path).length = (t.subdirs path).card := Finset.length_sort _
  unfold first?
  split
  next name next' rest all =>
      rw [all] at sorted known count
      have least : ∀ other ∈ t.subdirs path, name ≤ other := by
        intro other there
        rcases List.mem_cons.mp ((known other).mpr there) with rfl | later
        · exact le_refl _
        · exact (List.pairwise_cons.mp sorted).1 other later
      have own : name ∈ t.subdirs path := (known name).mp List.mem_cons_self
      rw [Option.some.injEq]
      constructor
      · rintro rfl
        refine ⟨?_, name, own, rfl, least⟩
        rw [← count, List.length_cons, List.length_cons]
        omega
      · rintro ⟨-, other, there, rfl, lowest⟩
        rw [le_antisymm (least other there) (lowest name own)]
  next few =>
      refine iff_of_false (by simp) ?_
      rintro ⟨several, -⟩
      rw [← count] at several
      match all : t.names path with
      | [] => rw [all] at several; simp at several
      | [_] => rw [all] at several; simp at several
      | name :: next' :: rest => exact few name next' rest all

theorem first?_isSome {t : FileTree Name} {path : Path Name} :
    (t.first? path).isSome ↔ 2 ≤ (t.subdirs path).card := by
  rw [Option.isSome_iff_exists]
  constructor
  · rintro ⟨first, found⟩
    exact (first?_eq_some.mp found).1
  · intro several
    obtain ⟨name, there, least⟩ := (t.subdirs path).exists_min_image id
      (Finset.card_pos.mp (by omega))
    exact ⟨path ++ [name], first?_eq_some.mpr ⟨several, name, there, rfl, least⟩⟩

theorem first?_congr {t t' : FileTree Name} {path : Path Name}
    (same : t.subdirs path = t'.subdirs path) : t.first? path = t'.first? path := by
  unfold first? names
  rw [same]

theorem first?_eq_concat {t : FileTree Name} {path : Path Name} {name : Name} :
    t.first? path = some (path ++ [name]) ↔ 2 ≤ (t.subdirs path).card ∧ name ∈ t.subdirs path ∧
      ∀ other ∈ t.subdirs path, name ≤ other := by
  rw [first?_eq_some]
  refine and_congr_right fun _ => ?_
  constructor
  · rintro ⟨first, there, same, least⟩
    obtain ⟨-, rfl⟩ := List.append_singleton_inj.mp same
    exact ⟨there, least⟩
  · rintro ⟨there, least⟩
    exact ⟨name, there, rfl, least⟩

/-- The last directory by name is not the first of many. -/
theorem first?_ne_last {t : FileTree Name} {path : Path Name} {name : Name}
    (last : ∀ other ∈ t.subdirs path, other ≤ name) : t.first? path ≠ some (path ++ [name]) := by
  intro first
  obtain ⟨several, -, least⟩ := first?_eq_concat.mp first
  have alone : (t.subdirs path).card ≤ 1 :=
    Finset.card_le_one.mpr fun one here other there =>
      (le_antisymm (last one here) (least one here)).trans
        (le_antisymm (least other there) (last other there))
  omega

/-! ## Footprints -/

/-- In the directories `parents`, which are of one depth, the first of many is removed. -/
structure FirstsRemoved (parents : Path Name → Prop) (depth : Nat) (t t' : FileTree Name) : Prop where
  level : ∀ q, parents q → q.length = depth
  removed : ∃ paths, t' = t.removeAll paths ∧ ∀ p, p ∈ paths ↔ ∃ q, parents q ∧ t.first? q = some p

namespace FirstsRemoved

variable {parents more : Path Name → Prop} {depth : Nat} {t t' t'' : FileTree Name}
variable {path q : Path Name} {name : Name}

/-- What is left down to that depth. -/
theorem mem_subdirs (pass : FirstsRemoved parents depth t t') (shallow : path.length ≤ depth) :
    name ∈ t'.subdirs path ↔
      name ∈ t.subdirs path ∧ ¬ (parents path ∧ t.first? path = some (path ++ [name])) := by
  obtain ⟨level, paths, rfl, each⟩ := pass
  rw [mem_subdirs_removeAll]
  refine and_congr_right fun _ => ?_
  constructor
  · rintro kept ⟨own, first⟩
    exact kept _ ((each _).mpr ⟨path, own, first⟩) (List.prefix_refl _)
  · intro kept p removed below
    obtain ⟨q, own, first⟩ := (each p).mp removed
    obtain ⟨-, first', -, rfl, -⟩ := first?_eq_some.mp first
    have length : (q ++ [first']).length = (path ++ [name]).length := by
      have bound := below.length_le
      have deep := level q own
      rw [List.length_append, List.length_append, List.length_singleton,
        List.length_singleton] at bound ⊢
      omega
    have whole := below.eq_of_length length
    obtain ⟨rfl, -⟩ := List.append_singleton_inj.mp whole
    rw [whole] at first
    exact kept ⟨own, first⟩

/-- Another directory down to that depth is as it was. -/
theorem subdirs_of_other (pass : FirstsRemoved parents depth t t') (shallow : path.length ≤ depth)
    (other : ¬ parents path) : t'.subdirs path = t.subdirs path := by
  ext name
  rw [pass.mem_subdirs shallow]
  exact and_iff_left fun this => other this.1

theorem subdirs_above (pass : FirstsRemoved parents depth t t') (above : path.length < depth) :
    t'.subdirs path = t.subdirs path := by
  refine pass.subdirs_of_other above.le fun own => ?_
  have length := pass.level path own
  omega

/-- So is one below it that is left. -/
theorem subdirs_below (pass : FirstsRemoved parents depth t t') (below : depth < path.length)
    (kept : path ∈ t'.dirs) : t'.subdirs path = t.subdirs path := by
  obtain ⟨level, paths, rfl, each⟩ := pass
  refine subdirs_removeAll_of_kept kept fun p here => ?_
  obtain ⟨q, own, first⟩ := (each p).mp here
  obtain ⟨-, _, -, rfl, -⟩ := first?_eq_some.mp first
  rw [List.length_append, List.length_singleton, level q own]
  exact below

/-- The last one is left. -/
theorem last_left (pass : FirstsRemoved parents depth t t') (shallow : path.length ≤ depth)
    (there : name ∈ t.subdirs path) (last : ∀ other ∈ t.subdirs path, other ≤ name) :
    name ∈ t'.subdirs path :=
  (pass.mem_subdirs shallow).mpr ⟨there, fun this => first?_ne_last last this.2⟩

/-- What is gone was the first. -/
theorem first_of_gone (pass : FirstsRemoved parents depth t t') (shallow : path.length ≤ depth)
    (there : name ∈ t.subdirs path) (gone : name ∉ t'.subdirs path) :
    ∀ other ∈ t.subdirs path, name ≤ other := by
  have removed : parents path ∧ t.first? path = some (path ++ [name]) := by
    by_contra kept
    exact gone ((pass.mem_subdirs shallow).mpr ⟨there, kept⟩)
  exact (first?_eq_concat.mp removed.2).2.2

theorem subset (pass : FirstsRemoved parents depth t t') :
    t'.dirs ⊆ t.dirs ∧ t'.files ⊆ t.files := by
  obtain ⟨-, paths, rfl, -⟩ := pass
  exact removeAll_subset t paths

/-- What is gone was below a first one. -/
theorem exists_of_gone (pass : FirstsRemoved parents depth t t') (there : q ∈ t.dirs ∪ t.files)
    (gone : q ∉ t'.dirs ∪ t'.files) : ∃ path name, parents path ∧ name ∈ t.subdirs path ∧
      name ∉ t'.subdirs path ∧ path ++ [name] <+: q := by
  obtain ⟨level, paths, rfl, each⟩ := pass
  obtain ⟨p, removed, below⟩ := exists_prefix_of_gone there gone
  obtain ⟨path, own, first⟩ := (each p).mp removed
  obtain ⟨-, name, here, rfl, -⟩ := first?_eq_some.mp first
  refine ⟨path, name, own, here, fun kept => ?_, below⟩
  exact (mem_subdirs_removeAll.mp kept).2 _ removed (List.prefix_refl _)

/-- Where there are several, something goes. -/
theorem exists_gone (pass : FirstsRemoved parents depth t t') (own : parents path)
    (several : 2 ≤ (t.subdirs path).card) : ∃ q ∈ t.dirs, q ∉ t'.dirs := by
  obtain ⟨level, paths, rfl, each⟩ := pass
  obtain ⟨p, first⟩ := Option.isSome_iff_exists.mp (first?_isSome.mpr several)
  obtain ⟨-, name, here, rfl, -⟩ := first?_eq_some.mp first
  refine ⟨path ++ [name], FileTree.mem_subdirs.mp here, fun kept => ?_⟩
  exact (mem_removeAll.1.mp kept).2 _ ((each _).mpr ⟨path, own, first⟩) (List.prefix_refl _)

/-- Where there are nowhere several, nothing does. -/
theorem eq_self (pass : FirstsRemoved parents depth t t')
    (single : ∀ q, parents q → (t.subdirs q).card ≤ 1) : t' = t := by
  obtain ⟨-, paths, rfl, each⟩ := pass
  have none' : paths = [] := by
    refine List.eq_nil_iff_forall_not_mem.mpr fun p here => ?_
    obtain ⟨q, own, first⟩ := (each p).mp here
    have several := (first?_eq_some.mp first).1
    have alone := single q own
    omega
  rw [none']
  rfl

theorem nowhere (depth : Nat) (t : FileTree Name) : FirstsRemoved (fun _ => False) depth t t :=
  ⟨fun _ this => this.elim, [], rfl, by simp⟩

/-- One pass after another, over other directories. -/
theorem trans (pass : FirstsRemoved parents depth t t') (next : FirstsRemoved more depth t' t'')
    (apart : ∀ q, more q → ¬ parents q) :
    FirstsRemoved (fun q => parents q ∨ more q) depth t t'' := by
  have same : ∀ q, more q → t'.first? q = t.first? q := fun q own =>
    first?_congr (pass.subdirs_of_other (next.level q own).le (apart q own))
  obtain ⟨level, paths, rfl, each⟩ := pass
  obtain ⟨level', paths', rfl, each'⟩ := next
  refine ⟨fun q own => own.elim (level q) (level' q), paths ++ paths', ?_, fun p => ?_⟩
  · rw [removeAll_append]
  · have later : (∃ q, more q ∧ (t.removeAll paths).first? q = some p) ↔
        ∃ q, more q ∧ t.first? q = some p :=
      exists_congr fun q => and_congr_right fun own => by rw [same q own]
    rw [List.mem_append, each, each', later]
    simp only [or_and_right, exists_or]

end FirstsRemoved

theorem removeFirst_removed (t : FileTree Name) (path : Path Name) :
    FirstsRemoved (· = path) path.length t (t.removeFirst path).1 := by
  refine ⟨fun q this => by rw [this], (t.first? path).toList, ?_, fun p => ?_⟩
  · unfold removeFirst
    cases t.first? path <;> rfl
  · rw [Option.mem_toList, exists_eq_left]

theorem removeFirst_occured (t : FileTree Name) (path : Path Name) :
    (t.removeFirst path).2 = true ↔ 2 ≤ (t.subdirs path).card := by
  rw [← first?_isSome]
  unfold removeFirst
  cases t.first? path <;> rfl

/-- **Removing the first of many**, one directory after another, in different ones of one depth. -/
theorem removeFirsts_removed (t : FileTree Name) {depth : Nat} {paths : List (Path Name)}
    (level : ∀ path ∈ paths, path.length = depth) (distinct : paths.Nodup) :
    FirstsRemoved (· ∈ paths) depth t (t.removeFirsts paths).1 ∧
      ((t.removeFirsts paths).2 = true ↔ ∃ path ∈ paths, 2 ≤ (t.subdirs path).card) := by
  have run : ∀ occured r, paths.foldl
      (fun s path => ((s.1.removeFirst path).1, s.2 || (s.1.removeFirst path).2)) (t, occured) = r →
      FirstsRemoved (· ∈ paths) depth t r.1 ∧
        (r.2 = true ↔ occured = true ∨ ∃ path ∈ paths, 2 ≤ (t.subdirs path).card) := by
    induction paths generalizing t with
    | nil =>
        rintro occured r rfl
        simpa using FirstsRemoved.nowhere depth t
    | cons path paths ih =>
        intro occured r fold
        obtain ⟨fresh, distinct'⟩ := List.nodup_cons.mp distinct
        have pass := removeFirst_removed t path
        rw [level path List.mem_cons_self] at pass
        obtain ⟨next, flag⟩ := ih (t.removeFirst path).1
          (fun other there => level other (List.mem_cons_of_mem _ there)) distinct' _ r fold
        have same : ∀ other ∈ paths, (t.removeFirst path).1.subdirs other = t.subdirs other := by
          intro other there
          refine pass.subdirs_of_other (level other (List.mem_cons_of_mem _ there)).le ?_
          exact fun this => fresh (this ▸ there)
        constructor
        · have both := pass.trans next fun q there this => fresh (this ▸ there)
          simpa only [List.mem_cons] using both
        · have count : (∃ other ∈ paths, 2 ≤ ((t.removeFirst path).1.subdirs other).card) ↔
              ∃ other ∈ paths, 2 ≤ (t.subdirs other).card :=
            exists_congr fun other => and_congr_right fun there => by rw [same other there]
          rw [flag, count, Bool.or_eq_true, removeFirst_occured, or_assoc, List.exists_mem_cons_iff]
  obtain ⟨pass, flag⟩ := run false _ rfl
  exact ⟨pass, flag.trans (or_iff_right Bool.false_ne_true)⟩

end Firsts

end FileTree

end IsgConsole.Theory
