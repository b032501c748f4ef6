/-
# AssistLib.CleanExpired — what is older than the days it is kept

Pictures lie in `camera/AllImg/yyyyMMdd/hh`, and logs in `log/yyyy-MM-dd`.  As the console starts,
the directories whose names are less, as texts, than the date so many days ago are removed, whatever
they are named; but those that are hidden are not seen.

* `cleanDates_removed`, `cleanLogs_removed` — what goes, by the tree before it;
* `expired_exact` — **a picture or a log goes exactly when its date is more days ago than it is
  kept**, and what goes lies in such a directory.
-/
import IsgConsole.AssistLib.CleanImages
import IsgConsole.Theory.Date

namespace IsgConsole.AssistLib.CleanExpired

open IsgConsole.Theory IsgConsole.Theory.Json
open IsgConsole.Theory.FileTree
open IsgConsole.AssistLib.AuxTask (ImageRoot typePath_length datePath_inj)

set_option autoImplicit false

/-! ## Cleaning -/

/-- A name that is seen without `QDir::Hidden`. -/
def visible (name : Bytes) : Bool := name.head? ≠ some point

/-- `QDirIterator` visits each visible directory in a directory once, in any order. -/
structure QDirIterator where
  entries : FileTree Bytes → Path Bytes → List Bytes
  each : ∀ t path name, name ∈ entries t path ↔ name ∈ t.subdirs path ∧ visible name
  once : ∀ t path, (entries t path).Nodup

/-- The date so many days ago: `QDateTime::currentDateTime().addDays(-days)`. -/
def expireDate (today : Date) (keepDays : Int) : Date := today.addDays (-keepDays)

/-- The entries of a directory with some names that are less than a text are removed. -/
def removeBefore (expire : Bytes) (path : Path Bytes) (t : FileTree Bytes) (names : List Bytes) :
    FileTree Bytes :=
  names.foldl (fun t name => if name < expire then t.remove (path ++ [name]) else t) t

/-- `cleanExpiredImageDirectoryAsync`. -/
def cleanExpiredImageDirectoryAsync (it : QDirIterator) (root : ImageRoot Bytes) (today : Date)
    (imageFileKeepDays : Int) (t : FileTree Bytes) : FileTree Bytes :=
  let expire := (expireDate today imageFileKeepDays).text []
  (it.entries t root.imageRootPath).foldl (fun t cameraId =>
    removeBefore expire (root.typePath cameraId) t (it.entries t (root.typePath cameraId))) t

/-- `logfileDir.setNameFilters(QStringList() << "*-*-*")`. -/
def isLogDay (name : Bytes) : Bool := 2 ≤ name.count minus

/-- `cleanExpiredLogFilesAsync`, on `applicationDirPath() + "/log"`.  A file is no directory, so nothing
is removed for one. -/
def cleanExpiredLogFilesAsync (it : QDirIterator) (log : Path Bytes) (today : Date)
    (logFileKeepDays : Int) (t : FileTree Bytes) : FileTree Bytes :=
  removeBefore ((expireDate today logFileKeepDays).text [minus]) log t
    ((it.entries t log).filter isLogDay)

/-! ## What goes -/

theorem removeBefore_removed (expire : Bytes) (path : Path Bytes) (t : FileTree Bytes)
    (names : List Bytes) :
    Removed (fun p => ∃ name ∈ names, name < expire ∧ p = path ++ [name]) t
      (removeBefore expire path t names) := by
  induction names generalizing t with
  | nil => exact (removed_nothing t).congr (by simp)
  | cons name names ih =>
      rw [removeBefore, List.foldl_cons]
      split
      next less =>
        refine ((removed_remove t (path ++ [name])).trans (ih _)).congr fun p => ?_
        simp only [List.exists_mem_cons_iff, less, true_and]
      next kept =>
        refine (ih t).congr fun p => ?_
        simp only [List.exists_mem_cons_iff, kept, false_and, false_or]

/-- The dates of the cameras that are in front of one. -/
theorem cleanDates_removed (it : QDirIterator) (root : ImageRoot Bytes) (today : Date)
    (keepDays : Int) (t : FileTree Bytes) :
    Removed (fun p => ∃ cameraId, (cameraId ∈ t.subdirs root.imageRootPath ∧ visible cameraId) ∧
        ∃ date, (date ∈ t.subdirs (root.typePath cameraId) ∧ visible date) ∧
          date < (expireDate today keepDays).text [] ∧ p = root.typePath cameraId ++ [date]) t
      (cleanExpiredImageDirectoryAsync it root today keepDays t) := by
  set expire := (expireDate today keepDays).text []
  have run : ∀ cameras : List Bytes, cameras.Nodup → ∀ t : FileTree Bytes,
      Removed (fun p => ∃ cameraId ∈ cameras,
          ∃ date, (date ∈ t.subdirs (root.typePath cameraId) ∧ visible date) ∧
            date < expire ∧ p = root.typePath cameraId ++ [date]) t
        (cameras.foldl (fun t cameraId => removeBefore expire (root.typePath cameraId) t
          (it.entries t (root.typePath cameraId))) t) := by
    intro cameras
    induction cameras with
    | nil =>
        intro _ t
        exact (removed_nothing t).congr (by simp)
    | cons cameraId cameras ih =>
        intro distinct t
        obtain ⟨fresh, distinct⟩ := List.nodup_cons.mp distinct
        have pass := removeBefore_removed expire (root.typePath cameraId) t
          (it.entries t (root.typePath cameraId))
        -- what one camera loses does not show in another
        have same : ∀ other ∈ cameras, ∀ date,
            date ∈ (removeBefore expire (root.typePath cameraId) t
              (it.entries t (root.typePath cameraId))).subdirs (root.typePath other) ↔
            date ∈ t.subdirs (root.typePath other) := by
          intro other there date
          rw [pass.mem_subdirs]
          refine and_iff_left_of_imp fun _ => ?_
          rintro ⟨_, ⟨name, -, -, rfl⟩, part⟩
          have whole := part.eq_of_length (by
            rw [List.length_append, List.length_append, typePath_length, typePath_length,
              List.length_singleton, List.length_singleton])
          exact fresh ((datePath_inj.mp whole).1 ▸ there)
        refine (pass.trans (ih distinct _)).congr fun p => ?_
        simp only [List.exists_mem_cons_iff, it.each]
        refine or_congr_right (exists_congr fun other => and_congr_right fun there => ?_)
        simp only [same other there]
  refine (run _ (it.once t root.imageRootPath) t).congr fun p => ?_
  simp only [it.each]

/-- The days of the log in front of one. -/
theorem cleanLogs_removed (it : QDirIterator) (log : Path Bytes) (today : Date) (keepDays : Int)
    (t : FileTree Bytes) :
    Removed (fun p => ∃ day, (day ∈ t.subdirs log ∧ visible day) ∧ isLogDay day ∧
        day < (expireDate today keepDays).text [minus] ∧ p = log ++ [day]) t
      (cleanExpiredLogFilesAsync it log today keepDays t) := by
  refine (removeBefore_removed _ log t _).congr fun p => ?_
  simp only [List.mem_filter, it.each, and_assoc]

/-! ## What is saved -/

/-- A `QDateTime`. -/
structure QDateTime where
  date : Date
  hour : Nat
  minute : Nat
  second : Nat
  msec : Nat

/-- `toString("yyyyMMddhhmmsszzz")`. -/
def QDateTime.stamp (time : QDateTime) : Bytes :=
  time.date.text [] ++ padDigits 2 time.hour ++ padDigits 2 time.minute ++
    padDigits 2 time.second ++ padDigits 3 time.msec

/-- `makeImageName`, and the file name `saveImageAsync` makes of it. -/
def makeImageName (root : ImageRoot Bytes) (id : Int) (time : QDateTime) (format : Bytes) :
    Path Bytes :=
  root.typePath (printInt id) ++ [time.date.text []] ++
    [padDigits 2 time.hour, printInt id ++ utf8 "#" ++ time.stamp ++ utf8 "." ++ format]

/-- The log file of an hour, as `outPutLog` names it. -/
def logFileName (log : Path Bytes) (time : QDateTime) : Path Bytes :=
  log ++ [time.date.text [minus]] ++
    [time.date.text [] ++ padDigits 2 time.hour ++ utf8 ".log"]

theorem isLogDay_text (d : Date) : isLogDay (d.text [minus]) = true := by
  simp only [isLogDay, Date.text, List.count_append, decide_eq_true_eq]
  have one : List.count minus [minus] = 1 := by decide
  omega

theorem visible_append {front : Bytes} (some' : front ≠ []) (plain : ∀ b ∈ front, b ≠ point)
    (rest : Bytes) : visible (front ++ rest) = true := by
  obtain ⟨b, more, rfl⟩ := List.exists_cons_of_ne_nil some'
  simpa [visible] using plain b List.mem_cons_self

theorem ne_point_of_digit {b : UInt8} (digit : isDigit b = true) : b ≠ point := by
  rintro rfl
  exact absurd digit (by decide)

/-- What is named by a date or by a number is seen. -/
theorem visible_text (d : Date) (between : Bytes) : visible (d.text between) = true := by
  refine visible_append ?_ (fun b there => ne_point_of_digit (padDigits_digits _ _ b there)) _
  exact List.ne_nil_of_length_pos (by rw [padDigits_length]; decide)

theorem visible_printInt (n : Int) : visible (printInt n) = true := by
  have digits : ∀ b ∈ natDigits n.natAbs, b ≠ point := fun b there =>
    ne_point_of_digit (natDigits_digits _ b there)
  have some' : natDigits n.natAbs ≠ [] := by
    have whole := natDigits_intPart n.natAbs
    intro none
    rw [none] at whole
    exact absurd whole (by decide)
  have shape : printInt n = (if n < 0 then [minus] else []) ++ natDigits n.natAbs := rfl
  rw [shape]
  split
  · have sign : minus ≠ point := by decide
    exact visible_append (List.cons_ne_nil _ _) (List.forall_mem_singleton.mpr sign) _
  · rw [List.nil_append, ← List.append_nil (natDigits _)]
    exact visible_append some' digits []

/-! ## What expires -/

/-- A date is so many days old that what is of it goes. -/
def Expired (today : Date) (keepDays : Int) (d : Date) : Prop :=
  (d.number : Int) + keepDays < today.number

instance (today : Date) (keepDays : Int) (d : Date) : Decidable (Expired today keepDays d) :=
  inferInstanceAs (Decidable ((d.number : Int) + keepDays < today.number))

theorem text_lt_expireDate {today : Date} {keepDays : Int} (begun : keepDays ≤ today.number)
    (named : (expireDate today keepDays).year < 10000) {d : Date} (short : d.year < 10000)
    (between : Bytes) :
    d.text between < (expireDate today keepDays).text between ↔ Expired today keepDays d := by
  have number : ((expireDate today keepDays).number : Int) = today.number + -keepDays :=
    Date.number_addDays (by omega)
  rw [Date.text_lt_iff short named, Expired]
  omega

/-- A directory holds what is below one of its own. -/
theorem mem_subdirs_of_below {t : FileTree Bytes} {path rest : Path Bytes} {name : Bytes}
    (below : rest ≠ []) (there : path ++ [name] ++ rest ∈ t.dirs ∪ t.files) :
    name ∈ t.subdirs path := by
  rw [mem_subdirs]
  induction rest using List.reverseRecOn with
  | nil => exact absurd rfl below
  | append_singleton rest last ih =>
      rw [← List.append_assoc] at there
      have above := t.parent _ last there
      by_cases top : rest = []
      · rwa [top, List.append_nil] at above
      · exact ih top (Finset.mem_union_left _ above)

theorem eq_of_level {p q rest : Path Bytes} (part : p <+: q ++ rest) (level : p.length = q.length) :
    p = q :=
  (List.prefix_of_prefix_length_le part (List.prefix_append q rest) level.le).eq_of_length level

/-- The camera of a date is a directory of the root. -/
theorem camera_of_date {t : FileTree Bytes} {root : ImageRoot Bytes} {cameraId date : Bytes}
    (there : root.typePath cameraId ++ [date] ∈ t.dirs) :
    cameraId ∈ t.subdirs root.imageRootPath := by
  refine mem_subdirs_of_below (List.cons_ne_nil root.allImg [date]) (Finset.mem_union_left _ ?_)
  simpa only [ImageRoot.typePath, List.append_assoc, List.cons_append, List.nil_append] using there

section Expiring

variable (it : QDirIterator) (t : FileTree Bytes) {today : Date} {keepDays : Int}

/-- A picture is left where it was and is not expired. -/
theorem picture_left (begun : keepDays ≤ today.number)
    (named : (expireDate today keepDays).year < 10000) (root : ImageRoot Bytes) (id : Int)
    {time : QDateTime} (short : time.date.year < 10000) (format : Bytes) :
    makeImageName root id time format ∈
        (cleanExpiredImageDirectoryAsync it root today keepDays t).files ↔
      makeImageName root id time format ∈ t.files ∧ ¬ Expired today keepDays time.date := by
  rw [(cleanDates_removed it root today keepDays t).files]
  refine and_congr_right fun there => not_congr ?_
  have date : time.date.text [] ∈ t.subdirs (root.typePath (printInt id)) :=
    mem_subdirs_of_below (List.cons_ne_nil _ _) (Finset.mem_union_right _ there)
  rw [← text_lt_expireDate begun named short]
  constructor
  · rintro ⟨_, ⟨cameraId, -, name, -, less, rfl⟩, part⟩
    have whole := eq_of_level part (by
      rw [List.length_append, List.length_append, typePath_length, typePath_length,
        List.length_singleton, List.length_singleton])
    rwa [(datePath_inj.mp whole).2] at less
  · intro less
    exact ⟨_, ⟨printInt id, ⟨camera_of_date (mem_subdirs.mp date), visible_printInt id⟩, _,
      ⟨date, visible_text _ _⟩, less, rfl⟩, List.prefix_append _ _⟩

/-- So is a log. -/
theorem log_left (begun : keepDays ≤ today.number)
    (named : (expireDate today keepDays).year < 10000) (log : Path Bytes) {time : QDateTime}
    (short : time.date.year < 10000) :
    logFileName log time ∈ (cleanExpiredLogFilesAsync it log today keepDays t).files ↔
      logFileName log time ∈ t.files ∧ ¬ Expired today keepDays time.date := by
  rw [(cleanLogs_removed it log today keepDays t).files]
  refine and_congr_right fun there => not_congr ?_
  have day : time.date.text [minus] ∈ t.subdirs log :=
    mem_subdirs_of_below (List.cons_ne_nil _ _) (Finset.mem_union_right _ there)
  rw [← text_lt_expireDate begun named short]
  constructor
  · rintro ⟨_, ⟨name, -, -, less, rfl⟩, part⟩
    have whole := eq_of_level part (by
      rw [List.length_append, List.length_append, List.length_singleton, List.length_singleton])
    rwa [(List.append_singleton_inj.mp whole).2] at less
  · intro less
    exact ⟨_, ⟨_, ⟨day, visible_text _ _⟩, isLogDay_text _, less, rfl⟩, List.prefix_append _ _⟩

end Expiring

/-- **A picture or a log goes exactly when its date is expired**, whatever the directories hold and
in whatever order they are visited; and what goes lies in such a directory that is seen, by its
name. -/
theorem expired_exact (it : QDirIterator) (t : FileTree Bytes) (today : Date) (keepDays : Int)
    (begun : keepDays ≤ today.number) (named : (expireDate today keepDays).year < 10000) :
    (∀ (root : ImageRoot Bytes) (id : Int) (time : QDateTime) (format : Bytes),
      time.date.year < 10000 →
        (makeImageName root id time format ∈
            (cleanExpiredImageDirectoryAsync it root today keepDays t).files ↔
          makeImageName root id time format ∈ t.files ∧ ¬ Expired today keepDays time.date)) ∧
      (∀ (log : Path Bytes) (time : QDateTime), time.date.year < 10000 →
        (logFileName log time ∈ (cleanExpiredLogFilesAsync it log today keepDays t).files ↔
          logFileName log time ∈ t.files ∧ ¬ Expired today keepDays time.date)) ∧
      (∀ (root : ImageRoot Bytes), ∀ q ∈ t.dirs ∪ t.files,
        q ∉ (cleanExpiredImageDirectoryAsync it root today keepDays t).dirs ∪
            (cleanExpiredImageDirectoryAsync it root today keepDays t).files ↔
          ∃ cameraId name, root.typePath cameraId ++ [name] ∈ t.dirs ∧
            (visible cameraId ∧ visible name) ∧ name < (expireDate today keepDays).text [] ∧
            root.typePath cameraId ++ [name] <+: q) ∧
      ∀ (log : Path Bytes), ∀ q ∈ t.dirs ∪ t.files,
        q ∉ (cleanExpiredLogFilesAsync it log today keepDays t).dirs ∪
            (cleanExpiredLogFilesAsync it log today keepDays t).files ↔
          ∃ day, log ++ [day] ∈ t.dirs ∧ visible day ∧ isLogDay day ∧
            day < (expireDate today keepDays).text [minus] ∧ log ++ [day] <+: q := by
  refine ⟨fun root id time format short => picture_left it t begun named root id short format,
    fun log time short => log_left it t begun named log short, fun root q there => ?_,
    fun log q there => ?_⟩
  · rw [(cleanDates_removed it root today keepDays t).mem, not_and_not_right]
    constructor
    · intro gone
      obtain ⟨_, ⟨cameraId, camera, name, date, less, rfl⟩, part⟩ := gone there
      exact ⟨cameraId, name, mem_subdirs.mp date.1, ⟨camera.2, date.2⟩, less, part⟩
    · rintro ⟨cameraId, name, here, ⟨seen, seen'⟩, less, part⟩ -
      exact ⟨_, ⟨cameraId, ⟨camera_of_date here, seen⟩, name, ⟨mem_subdirs.mpr here, seen'⟩, less,
        rfl⟩, part⟩
  · rw [(cleanLogs_removed it log today keepDays t).mem, not_and_not_right]
    constructor
    · intro gone
      obtain ⟨_, ⟨day, here, filtered, less, rfl⟩, part⟩ := gone there
      exact ⟨day, mem_subdirs.mp here.1, here.2, filtered, less, part⟩
    · rintro ⟨day, here, seen, filtered, less, part⟩ -
      exact ⟨_, ⟨day, ⟨mem_subdirs.mpr here, seen⟩, filtered, less, rfl⟩, part⟩

/-! ## A camera with two pictures -/

def leapDay : QDateTime where
  date := ⟨2024, 2, 29, by decide, by decide, by decide, by decide, by decide⟩
  hour := 8
  minute := 30
  second := 0
  msec := 5

def nextDay : QDateTime := { leapDay with date := leapDay.date.next }

def pictures : ImageRoot Bytes := ⟨[utf8 "image"], utf8 "AllImg"⟩

def dayDirs : Finset (Path Bytes) :=
  {[], [utf8 "image"], [utf8 "image", utf8 "1"], pictures.typePath (utf8 "1"),
    pictures.typePath (utf8 "1") ++ [utf8 "20240229"],
    pictures.typePath (utf8 "1") ++ [utf8 "20240229", utf8 "08"],
    pictures.typePath (utf8 "1") ++ [utf8 "20240301"],
    pictures.typePath (utf8 "1") ++ [utf8 "20240301", utf8 "08"]}

def dayFiles : Finset (Path Bytes) :=
  {makeImageName pictures 1 leapDay (utf8 "JPG"), makeImageName pictures 1 nextDay (utf8 "JPG")}

/-- A picture of the last day of February, and one of the first of March. -/
def twoDays : FileTree Bytes where
  dirs := dayDirs
  files := dayFiles
  apart := by decide +kernel
  parent path name there := by
    have closed : ∀ q ∈ dayDirs ∪ dayFiles, q.dropLast ∈ dayDirs := by decide +kernel
    have above := closed _ there
    rwa [List.dropLast_concat] at above

/-- The subdirectories that are seen, in some order. -/
noncomputable def someOrder : QDirIterator where
  entries t path := (t.subdirs path).toList.filter visible
  each _ _ _ := by rw [List.mem_filter, Finset.mem_toList]
  once _ _ := (Finset.nodup_toList _).filter _

/-- Nineteen days after the first of March. -/
def march20 : Date := ⟨2024, 3, 20, by decide, by decide, by decide, by decide, by decide⟩

/-- The three days, counted in their year. -/
theorem days_of_2024 : leapDay.date.number = daysBeforeYear 2024 + 59 ∧
    nextDay.date.number = daysBeforeYear 2024 + 60 ∧
    march20.number = daysBeforeYear 2024 + 79 := by
  have number (d : Date) (year : d.year = 2024) :
      d.number = daysBeforeYear 2024 + (daysBeforeMonth 2024 d.month + (d.day - 1)) := by
    rw [Date.number, year, Nat.add_assoc]
  refine ⟨?_, ?_, ?_⟩ <;> rw [number _ (by decide +kernel)] <;> exact congrArg _ (by decide)

theorem expired_exact_twoDays :
    makeImageName pictures 1 leapDay (utf8 "JPG") ∉
        (cleanExpiredImageDirectoryAsync someOrder pictures march20 19 twoDays).files ∧
      makeImageName pictures 1 nextDay (utf8 "JPG") ∈
        (cleanExpiredImageDirectoryAsync someOrder pictures march20 19 twoDays).files := by
  obtain ⟨leap, next, today⟩ := days_of_2024
  have begun : (19 : Int) ≤ march20.number := by omega
  have named : (expireDate march20 19).year < 10000 := by
    have number : ((expireDate march20 19).number : Int) = march20.number + -19 :=
      Date.number_addDays (by omega)
    have before : (expireDate march20 19).Before march20 := Date.number_lt_iff.mp (by omega)
    exact (Date.year_le_of_before before).trans_lt (by decide)
  obtain ⟨picture, -⟩ := expired_exact someOrder twoDays march20 19 begun named
  rw [picture pictures 1 leapDay _ (by decide), picture pictures 1 nextDay _ (by decide +kernel)]
  have old : Expired march20 19 leapDay.date := by
    unfold Expired
    omega
  have kept : ¬ Expired march20 19 nextDay.date := by
    unfold Expired
    omega
  have there : makeImageName pictures 1 nextDay (utf8 "JPG") ∈ twoDays.files :=
    Finset.mem_insert_of_mem (Finset.mem_singleton_self _)
  exact ⟨fun this => this.2 old, there, kept⟩

end IsgConsole.AssistLib.CleanExpired
