/-
# AssistLib.CleanImages — making room by the oldest images

The pictures lie in `camera/AllImg/yyyyMMdd/hh`.  When the disk is nearly full
`cleanImageDirectoryForNoSpaceAsync` removes the oldest date of every camera that has several dates;
when no camera has, it removes the oldest hour of every date that has several.  What it removes goes
away as a whole.

* `OldestOnly` — what may be gone afterwards, and when something must be;
* `cleanDates_removed`, `cleanHours_removed` — the two passes, by the tree before them;
* `cleanImageDirectoryForNoSpace_oldest` — **one call removes the oldest only, whatever the tree and
  the order in which its directories are visited.**
-/
import IsgConsole.Theory.FileTree
import Mathlib.Data.String.Basic

namespace IsgConsole.AssistLib.AuxTask

open IsgConsole.Theory
open IsgConsole.Theory.FileTree

set_option autoImplicit false

/-- `MIN_FREE_SPACE`, in millions of bytes. -/
def MIN_FREE_SPACE : Int := 30720

/-- `imageRootPath`, and the name `AllImg`. -/
structure ImageRoot (Name : Type) where
  imageRootPath : Path Name
  allImg : Name

/-- `cameraIdPathIterator.filePath() + "/AllImg"`. -/
def ImageRoot.typePath {Name : Type} (root : ImageRoot Name) (cameraId : Name) : Path Name :=
  root.imageRootPath ++ [cameraId, root.allImg]

theorem typePath_length {Name : Type} (root : ImageRoot Name) (cameraId : Name) :
    (root.typePath cameraId).length = root.imageRootPath.length + 2 := by
  rw [ImageRoot.typePath, List.length_append]
  rfl

theorem typePath_inj {Name : Type} {root : ImageRoot Name} {cameraId other : Name} :
    root.typePath cameraId = root.typePath other ↔ cameraId = other := by
  refine ⟨fun same => ?_, fun same => by rw [same]⟩
  have last := List.append_cancel_left same
  exact (List.cons.inj last).1

theorem datePath_inj {Name : Type} {root : ImageRoot Name} {cameraId other date date' : Name} :
    root.typePath cameraId ++ [date] = root.typePath other ++ [date'] ↔
      cameraId = other ∧ date = date' := by
  rw [List.append_singleton_inj, typePath_inj]

section Cleaning

variable {Name : Type} [LinearOrder Name]

/-- `QDirIterator` visits each directory in a directory once.  In which order is up to the file
system; `QDir::Name` orders by name, which for `yyyyMMdd` and `hh` is the order of time. -/
structure QDirIterator (Name : Type) [LinearOrder Name] where
  entries : FileTree Name → Path Name → List Name
  each : ∀ t path, (entries t path).Perm (t.names path)

/-- The oldest date of every camera that has several; and whether there was one. -/
def cleanDates (it : QDirIterator Name) (root : ImageRoot Name) (t : FileTree Name) :
    FileTree Name × Bool :=
  t.removeFirsts ((it.entries t root.imageRootPath).map root.typePath)

/-- The oldest hour of every date of a camera that has several. -/
def cleanHoursOf (it : QDirIterator Name) (root : ImageRoot Name) (t : FileTree Name)
    (cameraId : Name) : FileTree Name :=
  (t.removeFirsts
    ((it.entries t (root.typePath cameraId)).map fun date => root.typePath cameraId ++ [date])).1

/-- The same for every camera. -/
def cleanHours (it : QDirIterator Name) (root : ImageRoot Name) (t : FileTree Name) :
    FileTree Name :=
  (it.entries t root.imageRootPath).foldl (cleanHoursOf it root) t

/-- `cleanImageDirectoryForNoSpaceAsync`. -/
def cleanImageDirectoryForNoSpaceAsync (it : QDirIterator Name) (root : ImageRoot Name)
    (bytesAvailable : Int) (t : FileTree Name) : FileTree Name :=
  if MIN_FREE_SPACE ≤ (bytesAvailable.tdiv 1000).tdiv 1000 then t
  else if (cleanDates it root t).2 then (cleanDates it root t).1
  else cleanHours it root (cleanDates it root t).1

/-! ## What may go -/

/-- A date of a camera. -/
def ImageRoot.Date (root : ImageRoot Name) (t : FileTree Name) (cameraId date : Name) : Prop :=
  cameraId ∈ t.subdirs root.imageRootPath ∧ date ∈ t.subdirs (root.typePath cameraId)

/-- The hours of a date. -/
def ImageRoot.hours (root : ImageRoot Name) (t : FileTree Name) (cameraId date : Name) :
    Finset Name :=
  t.subdirs (root.typePath cameraId ++ [date])

/-- Nothing but the oldest is gone, and something is if there was something to choose from. -/
structure OldestOnly (root : ImageRoot Name) (t t' : FileTree Name) : Prop where
  newestDate : ∀ cameraId date, root.Date t cameraId date →
    (∀ other ∈ t.subdirs (root.typePath cameraId), other ≤ date) → root.Date t' cameraId date
  newestHour : ∀ cameraId date, root.Date t' cameraId date → ∀ hour ∈ root.hours t cameraId date,
    (∀ other ∈ root.hours t cameraId date, other ≤ hour) → hour ∈ root.hours t' cameraId date
  oldestDate : ∀ cameraId date, root.Date t cameraId date → ¬ root.Date t' cameraId date →
    ∀ other ∈ t.subdirs (root.typePath cameraId), date ≤ other
  oldestHour : ∀ cameraId date, root.Date t' cameraId date → ∀ hour ∈ root.hours t cameraId date,
    hour ∉ root.hours t' cameraId date → ∀ other ∈ root.hours t cameraId date, hour ≤ other
  individually : ∀ cameraId date, root.Date t' cameraId date →
    ∀ hour ∈ root.hours t cameraId date, hour ∉ root.hours t' cameraId date →
      ∀ camera ∈ t.subdirs root.imageRootPath, (t.subdirs (root.typePath camera)).card ≤ 1
  nothingNew : t'.dirs ⊆ t.dirs ∧ t'.files ⊆ t.files
  nothingElse : ∀ q ∈ t.dirs ∪ t.files, q ∉ t'.dirs ∪ t'.files →
    (∃ cameraId date, root.Date t cameraId date ∧ ¬ root.Date t' cameraId date ∧
      root.typePath cameraId ++ [date] <+: q) ∨
    ∃ cameraId date, root.Date t' cameraId date ∧ ∃ hour ∈ root.hours t cameraId date,
      hour ∉ root.hours t' cameraId date ∧ root.typePath cameraId ++ [date] ++ [hour] <+: q
  progress : ∀ cameraId ∈ t.subdirs root.imageRootPath,
    (2 ≤ (t.subdirs (root.typePath cameraId)).card ∨
      ∃ date, root.Date t cameraId date ∧ 2 ≤ (root.hours t cameraId date).card) →
    ∃ q ∈ t.dirs, q ∉ t'.dirs

/-! ## The two passes -/

theorem mem_entries {it : QDirIterator Name} {t : FileTree Name} {path : Path Name} {name : Name} :
    name ∈ it.entries t path ↔ name ∈ t.subdirs path :=
  (it.each t path).mem_iff.trans (Finset.mem_sort _)

theorem nodup_entries (it : QDirIterator Name) (t : FileTree Name) (path : Path Name) :
    (it.entries t path).Nodup :=
  (it.each t path).nodup_iff.mpr (Finset.sort_nodup _ _)

/-- **The pass over the dates**, by the tree before it. -/
theorem cleanDates_removed (it : QDirIterator Name) (root : ImageRoot Name) (t : FileTree Name) :
    FirstsRemoved (fun q => ∃ cameraId ∈ t.subdirs root.imageRootPath, q = root.typePath cameraId)
        (root.imageRootPath.length + 2) t (cleanDates it root t).1 ∧
      ((cleanDates it root t).2 = true ↔ ∃ cameraId ∈ t.subdirs root.imageRootPath,
        2 ≤ (t.subdirs (root.typePath cameraId)).card) := by
  have visited : ∀ q, q ∈ (it.entries t root.imageRootPath).map root.typePath ↔
      ∃ cameraId ∈ t.subdirs root.imageRootPath, q = root.typePath cameraId := by
    intro q
    simp only [List.mem_map, mem_entries, eq_comm]
  have distinct : ((it.entries t root.imageRootPath).map root.typePath).Nodup :=
    (nodup_entries it t _).map fun _ _ same => typePath_inj.mp same
  have level : ∀ q ∈ (it.entries t root.imageRootPath).map root.typePath,
      q.length = root.imageRootPath.length + 2 := by
    intro q here
    obtain ⟨cameraId, -, rfl⟩ := (visited q).mp here
    exact typePath_length root cameraId
  obtain ⟨pass, occured⟩ := removeFirsts_removed t level distinct
  simp only [visited] at pass occured
  refine ⟨pass, occured.trans ?_⟩
  constructor
  · rintro ⟨_, ⟨cameraId, camera, rfl⟩, several⟩
    exact ⟨cameraId, camera, several⟩
  · rintro ⟨cameraId, camera, several⟩
    exact ⟨_, ⟨cameraId, camera, rfl⟩, several⟩

/-- The pass over the hours of one camera. -/
theorem cleanHoursOf_removed (it : QDirIterator Name) (root : ImageRoot Name) (t : FileTree Name)
    (cameraId : Name) :
    FirstsRemoved
      (fun q => ∃ date ∈ t.subdirs (root.typePath cameraId), q = root.typePath cameraId ++ [date])
      (root.imageRootPath.length + 3) t (cleanHoursOf it root t cameraId) := by
  have visited : ∀ q, q ∈ (it.entries t (root.typePath cameraId)).map
      (fun date => root.typePath cameraId ++ [date]) ↔
      ∃ date ∈ t.subdirs (root.typePath cameraId), q = root.typePath cameraId ++ [date] := by
    intro q
    simp only [List.mem_map, mem_entries, eq_comm]
  have distinct : ((it.entries t (root.typePath cameraId)).map
      fun date => root.typePath cameraId ++ [date]).Nodup :=
    (nodup_entries it t _).map fun _ _ same => (datePath_inj.mp same).2
  have level : ∀ q ∈ (it.entries t (root.typePath cameraId)).map
      (fun date => root.typePath cameraId ++ [date]), q.length = root.imageRootPath.length + 3 := by
    intro q here
    obtain ⟨date, -, rfl⟩ := (visited q).mp here
    rw [List.length_append, typePath_length, List.length_singleton]
  have pass := (removeFirsts_removed t level distinct).1
  simp only [visited] at pass
  exact pass

/-- **The pass over the hours**, by the tree before it. -/
theorem cleanHours_removed (it : QDirIterator Name) (root : ImageRoot Name) (t : FileTree Name) :
    FirstsRemoved
      (fun q => ∃ cameraId date, root.Date t cameraId date ∧ q = root.typePath cameraId ++ [date])
      (root.imageRootPath.length + 3) t (cleanHours it root t) := by
  -- over the cameras: what one loses does not show in another
  have run : ∀ cameras : List Name, cameras.Nodup → ∀ t : FileTree Name,
      FirstsRemoved
        (fun q => ∃ cameraId ∈ cameras, ∃ date ∈ t.subdirs (root.typePath cameraId),
          q = root.typePath cameraId ++ [date])
        (root.imageRootPath.length + 3) t (cameras.foldl (cleanHoursOf it root) t) := by
    intro cameras
    induction cameras with
    | nil =>
        intro _ t
        simpa using FirstsRemoved.nowhere (root.imageRootPath.length + 3) t
    | cons cameraId cameras ih =>
        intro distinct t
        obtain ⟨fresh, distinct'⟩ := List.nodup_cons.mp distinct
        have pass := cleanHoursOf_removed it root t cameraId
        have next := ih distinct' (cleanHoursOf it root t cameraId)
        have same : ∀ other, (cleanHoursOf it root t cameraId).subdirs (root.typePath other) =
            t.subdirs (root.typePath other) := by
          intro other
          have length := typePath_length root other
          exact pass.subdirs_above (by omega)
        simp only [same] at next
        have both := pass.trans next fun q => by
          rintro ⟨other, there, date, -, rfl⟩ ⟨date', -, path⟩
          exact fresh ((datePath_inj.mp path).1 ▸ there)
        simp only [List.exists_mem_cons_iff]
        exact both
  have pass := run _ (nodup_entries it t root.imageRootPath) t
  simp only [mem_entries] at pass
  simp only [ImageRoot.Date, and_assoc, exists_and_left]
  exact pass

/-! ## One call -/

/-- **Only the oldest dates** go where some camera has several. -/
theorem oldestOnly_of_dates {root : ImageRoot Name} {t t' : FileTree Name}
    (pass : FirstsRemoved
      (fun q => ∃ cameraId ∈ t.subdirs root.imageRootPath, q = root.typePath cameraId)
      (root.imageRootPath.length + 2) t t')
    (several : ∃ cameraId ∈ t.subdirs root.imageRootPath,
      2 ≤ (t.subdirs (root.typePath cameraId)).card) : OldestOnly root t t' := by
  have cameras : t'.subdirs root.imageRootPath = t.subdirs root.imageRootPath :=
    pass.subdirs_above (by omega)
  have level : ∀ cameraId, (root.typePath cameraId).length ≤ root.imageRootPath.length + 2 :=
    fun cameraId => (typePath_length root cameraId).le
  have dates : ∀ cameraId date, root.Date t cameraId date →
      (root.Date t' cameraId date ↔ date ∈ t'.subdirs (root.typePath cameraId)) := by
    rintro cameraId date ⟨camera, -⟩
    exact and_iff_right (cameras ▸ camera)
  have hours : ∀ cameraId date, root.Date t' cameraId date →
      root.hours t' cameraId date = root.hours t cameraId date := by
    rintro cameraId date ⟨-, kept⟩
    refine pass.subdirs_below ?_ (mem_subdirs.mp kept)
    rw [List.length_append, typePath_length, List.length_singleton]
    omega
  refine
    { newestDate := fun cameraId date own newest => ?_
      newestHour := fun cameraId date own hour there _ => ?_
      oldestDate := fun cameraId date own gone => ?_
      oldestHour := fun cameraId date own hour there gone => ?_
      individually := fun cameraId date own hour there gone => ?_
      nothingNew := pass.subset
      nothingElse := fun q there gone => .inl ?_
      progress := fun _ _ _ => ?_ }
  · exact (dates cameraId date own).mpr (pass.last_left (level cameraId) own.2 newest)
  · rwa [hours cameraId date own]
  · exact pass.first_of_gone (level cameraId) own.2 (mt (dates cameraId date own).mpr gone)
  · exact absurd (hours cameraId date own ▸ there) gone
  · exact absurd (hours cameraId date own ▸ there) gone
  · obtain ⟨_, date, ⟨cameraId, camera, rfl⟩, own, removed, below⟩ := pass.exists_of_gone there gone
    exact ⟨cameraId, date, ⟨camera, own⟩, fun kept => removed kept.2, below⟩
  · obtain ⟨cameraId, camera, count⟩ := several
    exact pass.exists_gone ⟨cameraId, camera, rfl⟩ count

/-- **Only the oldest hours** go where no camera has several dates. -/
theorem oldestOnly_of_hours {root : ImageRoot Name} {t t' : FileTree Name}
    (pass : FirstsRemoved
      (fun q => ∃ cameraId date, root.Date t cameraId date ∧ q = root.typePath cameraId ++ [date])
      (root.imageRootPath.length + 3) t t')
    (single : ∀ cameraId ∈ t.subdirs root.imageRootPath,
      (t.subdirs (root.typePath cameraId)).card ≤ 1) : OldestOnly root t t' := by
  have dates : ∀ cameraId date, root.Date t' cameraId date ↔ root.Date t cameraId date := by
    intro cameraId date
    have length := typePath_length root cameraId
    have cameras : t'.subdirs root.imageRootPath = t.subdirs root.imageRootPath :=
      pass.subdirs_above (by omega)
    have own : t'.subdirs (root.typePath cameraId) = t.subdirs (root.typePath cameraId) :=
      pass.subdirs_above (by omega)
    rw [ImageRoot.Date, ImageRoot.Date, cameras, own]
  have level : ∀ cameraId date, (root.typePath cameraId ++ [date]).length ≤
      root.imageRootPath.length + 3 := by
    intro cameraId date
    rw [List.length_append, typePath_length, List.length_singleton]
  refine
    { newestDate := fun cameraId date own _ => (dates cameraId date).mpr own
      newestHour := fun cameraId date _ hour there newest =>
        pass.last_left (level cameraId date) there newest
      oldestDate := fun cameraId date own gone => absurd ((dates cameraId date).mpr own) gone
      oldestHour := fun cameraId date _ hour there gone =>
        pass.first_of_gone (level cameraId date) there gone
      individually := fun _ _ _ _ _ _ => single
      nothingNew := pass.subset
      nothingElse := fun q there gone => .inr ?_
      progress := fun cameraId camera choice => ?_ }
  · obtain ⟨_, hour, ⟨cameraId, date, own, rfl⟩, here, removed, below⟩ :=
      pass.exists_of_gone there gone
    exact ⟨cameraId, date, (dates _ _).mpr own, hour, here, removed, below⟩
  · rcases choice with count | ⟨date, own, count⟩
    · have alone := single cameraId camera
      omega
    · exact pass.exists_gone ⟨cameraId, date, own, rfl⟩ count

/-- **A call with too little space removes the oldest only**: each camera keeps its newest date and
each date that is left its newest hour, hours go only where no camera has several dates, and
something goes if there is a choice. -/
theorem cleanImageDirectoryForNoSpace_oldest (it : QDirIterator Name) (root : ImageRoot Name)
    {bytesAvailable : Int} (low : (bytesAvailable.tdiv 1000).tdiv 1000 < MIN_FREE_SPACE)
    (t : FileTree Name) :
    OldestOnly root t (cleanImageDirectoryForNoSpaceAsync it root bytesAvailable t) := by
  obtain ⟨pass, several⟩ := cleanDates_removed it root t
  rw [cleanImageDirectoryForNoSpaceAsync, if_neg (not_le.mpr low)]
  split
  next occured => exact oldestOnly_of_dates pass (several.mp occured)
  next unoccured =>
      have single : ∀ cameraId ∈ t.subdirs root.imageRootPath,
          (t.subdirs (root.typePath cameraId)).card ≤ 1 := by
        intro cameraId camera
        by_contra many
        exact unoccured (several.mpr ⟨cameraId, camera, by omega⟩)
      have unchanged : (cleanDates it root t).1 = t := by
        refine pass.eq_self ?_
        rintro _ ⟨cameraId, camera, rfl⟩
        exact single cameraId camera
      rw [unchanged]
      exact oldestOnly_of_hours (cleanHours_removed it root t) single

end Cleaning

/-- One camera with two hours on one of two dates, another with a single date. -/
def twoCameras : FileTree String :=
  ofDirs {["image", "1", "AllImg", "20240101", "08"], ["image", "1", "AllImg", "20240101", "09"],
    ["image", "1", "AllImg", "20240102", "00"], ["image", "2", "AllImg", "20240102", "00"]}

/-- Five gigabytes are left. -/
theorem cleanImageDirectoryForNoSpace_oldest_twoCameras :
    OldestOnly ⟨["image"], "AllImg"⟩ twoCameras
      (cleanImageDirectoryForNoSpaceAsync ⟨FileTree.names, fun _ _ => .refl _⟩
        ⟨["image"], "AllImg"⟩ 5000000000 twoCameras) :=
  cleanImageDirectoryForNoSpace_oldest _ _ (by decide) twoCameras

end IsgConsole.AssistLib.AuxTask
