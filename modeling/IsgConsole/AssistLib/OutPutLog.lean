/-
# AssistLib.OutPutLog — the messages of all threads in the log

`outPutLog` takes the messages of all threads.  A thread makes the text of its message on its own,
and then waits for the lock; with it the text is put behind what waits to be written, and when
`MAX_LOG_COUNT` texts do, they are written as one to the file of the hour, unless the file is full
or does not open.  They are written as a C string.

* `search_rxlen`, `text_eq` — what stands for the file of the source is its name without the
  directories;
* `append_logged` — what one more text leaves of the files and of the texts before it;
* `log_exact` — **in every run each thread's messages go to the log once and in their order, two by
  two, and each file holds what was written to it.**
-/
import Mathlib.Algebra.Order.BigOperators.Group.List
import IsgConsole.AssistLib.CleanExpired
import IsgConsole.Theory.Machine
import IsgConsole.Theory.Regex

namespace IsgConsole.AssistLib.OutPutLog

open IsgConsole.Theory IsgConsole.Theory.Json
open IsgConsole.AssistLib.CleanExpired (QDateTime)

set_option autoImplicit false

def MAX_LOG_COUNT : Nat := 2
def MAX_LOG_FILE_SIZE : Nat := 200000000

/-! ## Texts -/

inductive QtMsgType where
  | QtDebugMsg
  | QtInfoMsg
  | QtWarningMsg
  | QtCriticalMsg
  | QtFatalMsg

/-- What a text begins with; debug messages have none. -/
def QtMsgType.text : QtMsgType → Option Bytes
  | .QtDebugMsg => none
  | .QtInfoMsg => some (utf8 "Info:")
  | .QtWarningMsg => some (utf8 "Warning:")
  | .QtCriticalMsg => some (utf8 "Critical:")
  | .QtFatalMsg => some (utf8 "Fatal:")

/-- A message, and where it is from: `context.file` and `context.line`. -/
structure Message where
  type : QtMsgType
  file : Bytes
  line : Int
  msg : Bytes

/-- `[/\\]`. -/
def isSlash (b : UInt8) : Bool := b = 0x2F ∨ b = 0x5C

/-- `[^/\\]`. -/
def isOther (b : UInt8) : Bool := !isSlash b

/-- `([^/\\]+)$`. -/
def rxName : Regex UInt8 := .seq (.group 1 (.some' isOther)) (.finish (· = 0x0A))

/-- `(?:[/\\])?([^/\\]+)$`. -/
def rxlen : Regex UInt8 := .seq (.opt (.one isSlash)) rxName

/-- `toString("yyyy-MM-dd hh:mm:ss")`. -/
def timeText (now : QDateTime) : Bytes :=
  now.date.text [minus] ++ utf8 " " ++ padDigits 2 now.hour ++ utf8 ":" ++
    padDigits 2 now.minute ++ utf8 ":" ++ padDigits 2 now.second

/-- The text of a message; the file names of sources have no place markers. -/
def Message.text (m : Message) (now : QDateTime) : Option Bytes :=
  m.type.text.map fun msgType =>
    match rxlen.search m.file with
    | some captured =>
        msgType ++ timeText now ++ utf8 " [" ++ Regex.captured captured 1 ++ utf8 ":" ++
          printInt m.line ++ utf8 "] " ++ m.msg ++ utf8 "\n"
    | none => msgType ++ timeText now ++ utf8 " " ++ m.msg ++ utf8 "\n"

/-- The last part of a path. -/
def fileName (path : Bytes) : Bytes := (path.reverse.takeWhile isOther).reverse

theorem fileName_of_all {path : Bytes} (all : ∀ b ∈ path, isOther b = true) :
    fileName path = path := by
  rw [fileName, List.takeWhile_eq_self_iff.mpr (by simpa using all), List.reverse_reverse]

theorem fileName_slash {x : UInt8} (slash : isOther x = false) {xs : Bytes}
    (all : ∀ b ∈ xs, isOther b = true) : fileName (x :: xs) = xs := by
  have rest : xs.reverse.takeWhile isOther = xs.reverse :=
    List.takeWhile_eq_self_iff.mpr (by simpa using all)
  rw [fileName, List.reverse_cons, List.takeWhile_append, rest, if_pos rfl]
  simp [slash]

/-- What stands in front of a slash is no part of the name. -/
theorem fileName_cons {x : UInt8} {xs : Bytes} (some_slash : ¬ ∀ b ∈ xs, isOther b = true) :
    fileName (x :: xs) = fileName xs := by
  have part : (xs.reverse.takeWhile isOther).length ≠ xs.reverse.length := by
    intro same
    have whole := (List.takeWhile_sublist isOther).eq_of_length same
    exact some_slash (by simpa using List.takeWhile_eq_self_iff.mp whole)
  rw [fileName, fileName, List.reverse_cons, List.takeWhile_append, if_neg part]

/-- A name at the end of the text. -/
theorem run_name {name : Bytes} (some_name : name ≠ []) (all : ∀ b ∈ name, isOther b = true)
    (atStart : Bool) :
    rxName.run (fun c => some c.groups) ⟨atStart, name, []⟩ = some [(1, name)] :=
  Regex.run_seq_group_all 1 some_name all atStart [] rfl

/-- A match takes what is left, up to its first slash. -/
theorem all_of_matches {c c' : Regex.Cursor UInt8} {x : UInt8} {xs : Bytes}
    (here : c.rest = x :: xs) (way : rxlen.Matches c c') : ∀ b ∈ xs, isOther b = true := by
  have name : ∀ {c : Regex.Cursor UInt8}, rxName.Matches c c' → ∀ b ∈ c.rest, isOther b = true := by
    intro c way
    cases way with | seq name finish
    cases name with | group name
    obtain ⟨front, -, all, rest⟩ := name.some_split
    intro b there
    rw [rest] at there
    rcases List.mem_append.mp there with front | back
    · exact all b front
    · cases finish with
      | finish none =>
          dsimp only [Regex.Cursor.close] at none
          rw [none] at back
          cases back
      | finishLine last line =>
          dsimp only [Regex.Cursor.close] at last
          rw [last, List.mem_singleton] at back
          rw [back, of_decide_eq_true line]
          decide
  cases way with | seq slash way
  cases slash with
  | optSome slash =>
      obtain ⟨y, -, rest⟩ := slash.one_split
      obtain ⟨-, rfl⟩ := List.cons.inj (here.symm.trans rest)
      exact name way
  | optNone =>
      intro b there
      exact name way b (by rw [here]; exact List.mem_cons_of_mem _ there)

/-- A match with the slash, or without. -/
theorem run_rxlen (atStart : Bool) (x : UInt8) (xs : Bytes) :
    rxlen.run (fun c => some c.groups) ⟨atStart, x :: xs, []⟩ =
      (if isSlash x then rxName.run (fun c => some c.groups) ⟨false, xs, []⟩ else none).or
        (rxName.run (fun c => some c.groups) ⟨atStart, x :: xs, []⟩) := rfl

/-- **What is found of a path is the name behind the directories.** -/
theorem search_rxlen (path : Bytes) :
    rxlen.search path = if fileName path = [] then none else some [(1, fileName path)] := by
  have each : ∀ atStart, rxlen.searchFrom atStart path =
      if fileName path = [] then none else some [(1, fileName path)] := by
    induction path with
    | nil => exact fun _ => rfl
    | cons x xs ih =>
        intro atStart
        rw [Regex.searchFrom, ih]
        by_cases others : ∀ b ∈ xs, isOther b = true
        · cases own : isOther x with
          | true =>
              have all : ∀ b ∈ x :: xs, isOther b = true := List.forall_mem_cons.mpr ⟨own, others⟩
              have noSlash : isSlash x = false := by simpa [isOther] using own
              rw [fileName_of_all all, if_neg (List.cons_ne_nil x xs), run_rxlen, noSlash,
                run_name (List.cons_ne_nil x xs) all]
              rfl
          | false =>
              have slash : isSlash x = true := by simpa [isOther] using own
              rw [fileName_slash own others, fileName_of_all others, run_rxlen, slash, if_pos rfl]
              cases xs with
              | nil =>
                  have none : rxName.run (fun c => some c.groups) ⟨atStart, [x], []⟩ = none := by
                    simp [rxName, Regex.run, Regex.some', own]
                  rw [none]
                  rfl
              | cons y ys =>
                  rw [run_name (List.cons_ne_nil y ys) others, if_neg (List.cons_ne_nil y ys)]
                  rfl
        · have none : rxlen.run (fun c => some c.groups) ⟨atStart, x :: xs, []⟩ = none := by
            rw [Option.eq_none_iff_forall_ne_some]
            intro groups found
            obtain ⟨c', way, -⟩ := Regex.run_sound found
            exact others (all_of_matches rfl way)
          rw [none, Option.none_or, fileName_cons others]
  exact each true

theorem text_eq (m : Message) (now : QDateTime) :
    m.text now = m.type.text.map fun msgType =>
      msgType ++ timeText now ++
        (if fileName m.file = [] then utf8 " "
          else utf8 " [" ++ fileName m.file ++ utf8 ":" ++ printInt m.line ++ utf8 "] ") ++
        m.msg ++ utf8 "\n" := by
  unfold Message.text
  rw [search_rxlen]
  refine congrArg (Option.map · m.type.text) (funext fun msgType => ?_)
  by_cases none : fileName m.file = []
  · rw [if_pos none, if_pos none]
  · rw [if_neg none, if_neg none]
    simp only [Regex.captured, List.lookup_cons_self, Option.getD_some, List.append_assoc]

/-! ## Files -/

/-- The clock as a text is put to the others, which is read for the day and for the hour, and
whether the file opens. -/
structure Moment where
  day : QDateTime
  hour : QDateTime
  opens : Bool

/-- `logFileName`. -/
def Moment.path (log : Path Bytes) (m : Moment) : Path Bytes :=
  log ++ [m.day.date.text [minus], m.hour.date.text [] ++ padDigits 2 m.hour.hour ++ utf8 ".log"]

/-- It is the file that is removed by its date, where both readings are one. -/
theorem path_eq (log : Path Bytes) (time : QDateTime) (opens : Bool) :
    Moment.path log ⟨time, time, opens⟩ = CleanExpired.logFileName log time := by
  simp only [Moment.path, CleanExpired.logFileName, List.append_assoc, List.singleton_append]

/-- The static variables, and what the files hold. -/
structure Log where
  s_logString : Bytes
  s_logCount : Nat
  files : Path Bytes → Bytes

/-- The last part of `outPutLog`, with the lock. -/
def Log.append (log : Path Bytes) (s : Log) (qstrText : Bytes) (m : Moment) : Log :=
  let s := { s with s_logString := s.s_logString ++ qstrText, s_logCount := s.s_logCount + 1 }
  if MAX_LOG_COUNT ≤ s.s_logCount then
    let path := m.path log
    let files :=
      if (s.files path).length < MAX_LOG_FILE_SIZE ∧ m.opens then
        Function.update s.files path (s.files path ++ cString s.s_logString)
      else s.files
    { s_logString := [], s_logCount := 0, files }
  else s

/-! ## Threads -/

/-- The log, and the texts of the threads that wait for the lock. -/
structure Threads (Thread : Type) where
  log : Log
  waiting : Thread → Option Bytes

/-- A text that was put to the others. -/
structure Entry (Thread : Type) where
  thread : Thread
  text : Bytes
  moment : Moment

inductive Event (Thread : Type) where
  /-- A thread calls `outPutLog`. -/
  | outPutLog (thread : Thread) (message : Message) (now : QDateTime)
  /-- It gets the lock. -/
  | locked (thread : Thread) (moment : Moment)

variable {Thread : Type} (log : Path Bytes)

/-- One step of a thread.  One that waits for the lock does nothing else. -/
def step [DecidableEq Thread] (s : Threads Thread) :
    Event Thread → Threads Thread × List (Entry Thread)
  | .outPutLog thread message now =>
      match s.waiting thread, message.text now with
      | none, some text => ({ s with waiting := Function.update s.waiting thread (some text) }, [])
      | _, _ => (s, [])
  | .locked thread moment =>
      match s.waiting thread with
      | some text =>
          ({ log := s.log.append log text moment
             waiting := Function.update s.waiting thread none },
            [{ thread, text, moment }])
      | none => (s, [])

/-- The threads of a program that starts, with the files that are there. -/
def start (files : Path Bytes → Bytes) : Threads Thread :=
  { log := { s_logString := [], s_logCount := 0, files }, waiting := fun _ => none }

/-- The text of a call, of a thread that does not wait. -/
def called [DecidableEq Thread] (thread : Thread)
    (t : Machine.Transition (Threads Thread) (Event Thread) (Entry Thread)) : Option Bytes :=
  match t.event with
  | .outPutLog thread' message now =>
      if thread' = thread ∧ t.before.waiting thread = none then message.text now else none
  | .locked _ _ => none

/-! ## What a run leaves -/

/-- What a file holds behind a batch of texts. -/
def written (path : Path Bytes) (content : Bytes) (batch : List (Entry Thread)) : Bytes :=
  match batch.getLast? with
  | some last =>
      if last.moment.path log = path ∧ content.length < MAX_LOG_FILE_SIZE ∧ last.moment.opens then
        content ++ cString (batch.flatMap Entry.text)
      else content
  | none => content

/-- The texts so far are batches of `MAX_LOG_COUNT`, which were written, and the ones that wait. -/
structure Logged (files : Path Bytes → Bytes) (entries : List (Entry Thread)) (s : Log)
    (batches : List (List (Entry Thread))) (rest : List (Entry Thread)) : Prop where
  all : entries = batches.flatten ++ rest
  whole : ∀ batch ∈ batches, batch.length = MAX_LOG_COUNT
  few : rest.length < MAX_LOG_COUNT
  count : s.s_logCount = rest.length
  text : s.s_logString = rest.flatMap Entry.text
  held : ∀ path, s.files path = batches.foldl (written log path) (files path)

section Runs

variable {log} {files : Path Bytes → Bytes} {entries : List (Entry Thread)} {s : Log}
  {batches : List (List (Entry Thread))} {rest : List (Entry Thread)}

theorem logged_start (files : Path Bytes → Bytes) :
    Logged log files ([] : List (Entry Thread)) (start files : Threads Thread).log [] [] where
  all := rfl
  whole := by simp
  few := Nat.two_pos
  count := rfl
  text := rfl
  held _ := rfl

/-- **One more text.** -/
theorem append_logged (logged : Logged log files entries s batches rest) (e : Entry Thread) :
    ∃ batches' rest',
      Logged log files (entries ++ [e]) (s.append log e.text e.moment) batches' rest' := by
  obtain ⟨all, whole, few, count, text, held⟩ := logged
  have text' : s.s_logString ++ e.text = (rest ++ [e]).flatMap Entry.text := by
    rw [text, List.flatMap_append, List.flatMap_singleton]
  by_cases full : MAX_LOG_COUNT ≤ s.s_logCount + 1
  · refine ⟨batches ++ [rest ++ [e]], [], ?_⟩
    have length : (rest ++ [e]).length = MAX_LOG_COUNT := by
      rw [List.length_append, List.length_singleton]
      omega
    have last : (rest ++ [e]).getLast? = some e := List.getLast?_concat
    refine
      { all := by rw [all]; simp
        whole := ?_
        few := Nat.two_pos
        count := ?_
        text := ?_
        held := fun path => ?_ }
    · intro batch there
      rcases List.mem_append.mp there with earlier | new
      · exact whole batch earlier
      · rw [List.mem_singleton.mp new]
        exact length
    · simp only [Log.append, if_pos full, List.length_nil]
    · simp only [Log.append, if_pos full, List.flatMap_nil]
    · rw [List.foldl_append, List.foldl_cons, List.foldl_nil, ← held, written, last]
      simp only [Log.append, if_pos full, text']
      by_cases same : e.moment.path log = path
      · subst same
        simp only [true_and]
        split
        next => exact Function.update_self ..
        next => rfl
      · simp only [same, false_and, if_false]
        split
        next => exact Function.update_of_ne (Ne.symm same) ..
        next => rfl
  · refine ⟨batches, rest ++ [e], ?_⟩
    have same : s.append log e.text e.moment =
        { s with s_logString := s.s_logString ++ e.text, s_logCount := s.s_logCount + 1 } := by
      rw [Log.append, if_neg full]
    rw [same]
    refine
      { all := by rw [all, List.append_assoc]
        whole
        few := ?_
        count := ?_
        text := text'
        held }
    · rw [List.length_append, List.length_singleton]
      omega
    · rw [List.length_append, List.length_singleton, count]

/-- What one batch makes of a file. -/
theorem length_written_le {batch : List (Entry Thread)} {bound : Nat}
    (each : ∀ e ∈ batch, e.text.length ≤ bound) (path : Path Bytes) (content : Bytes) :
    (written log path content batch).length ≤
      max content.length (MAX_LOG_FILE_SIZE + batch.length * bound) := by
  unfold written
  split
  next last =>
    split
    next fits =>
      have cut := length_cString_le (batch.flatMap Entry.text)
      have sum : (batch.flatMap Entry.text).length ≤ batch.length * bound := by
        rw [List.length_flatMap]
        refine (List.sum_le_card_nsmul _ bound ?_).trans ?_
        · simpa using each
        · simp
      rw [List.length_append]
      omega
    next => exact le_max_left _ _
  next => exact le_max_left _ _

variable [DecidableEq Thread]

/-- What a run leaves of the texts. -/
theorem run_logged (files : Path Bytes → Bytes) (es : List (Event Thread)) :
    ∃ batches rest, Logged log files (Machine.outputs (step log) (start files) es)
      (Machine.final (step log) (start files) es).log batches rest := by
  induction es using List.reverseRecOn with
  | nil => exact ⟨[], [], logged_start files⟩
  | append_singleton es e ih =>
      obtain ⟨batches, rest, logged⟩ := ih
      rw [Machine.outputs_snoc, Machine.final_snoc]
      cases e with
      | outPutLog thread message now =>
          have same : ∀ s : Threads Thread, (step log s (.outPutLog thread message now)).2 = [] ∧
              (step log s (.outPutLog thread message now)).1.log = s.log := by
            intro s
            dsimp only [step]
            split <;> exact ⟨rfl, rfl⟩
          rw [(same _).1, (same _).2, List.append_nil]
          exact ⟨batches, rest, logged⟩
      | locked thread moment =>
          dsimp only [step]
          split
          next text waits => exact append_logged logged _
          next =>
            rw [List.append_nil]
            exact ⟨batches, rest, logged⟩

/-- What a run leaves of the calls of one thread. -/
theorem run_called (files : Path Bytes → Bytes) (es : List (Event Thread)) (thread : Thread) :
    (Machine.trace (step log) (start files) es).filterMap (called thread) =
      ((Machine.outputs (step log) (start files) es).filter (·.thread = thread)).map Entry.text ++
        ((Machine.final (step log) (start files) es).waiting thread).toList := by
  induction es using List.reverseRecOn with
  | nil => rfl
  | append_singleton es e ih =>
      rw [Machine.trace_snoc, Machine.observe_snoc, ih, Machine.outputs_snoc, Machine.final_snoc]
      generalize Machine.final (step log) (start files) es = s
      cases e with
      | outPutLog thread' message now =>
          by_cases own : thread' = thread
          · subst own
            cases waits : s.waiting thread' with
            | some text => simp [called, step, Machine.transition, Machine.transitionTo, waits]
            | none =>
                cases made : message.text now with
                | none => simp [called, step, Machine.transition, Machine.transitionTo, waits, made]
                | some text =>
                    simp [called, step, Machine.transition, Machine.transitionTo, waits, made]
          · have same : (step log s (.outPutLog thread' message now)).1.waiting thread =
                s.waiting thread := by
              dsimp only [step]
              split
              next => exact Function.update_of_ne (Ne.symm own) ..
              next => rfl
            have none : (step log s (.outPutLog thread' message now)).2 = [] := by
              dsimp only [step]
              split <;> rfl
            rw [same, none, List.append_nil]
            simp [called, Machine.transition, Machine.transitionTo, own]
      | locked thread' moment =>
          by_cases own : thread' = thread
          · subst own
            cases waits : s.waiting thread' with
            | some text => simp [called, step, Machine.transition, Machine.transitionTo, waits]
            | none => simp [called, step, Machine.transition, Machine.transitionTo, waits]
          · have same : (step log s (.locked thread' moment)).1.waiting thread =
                s.waiting thread := by
              dsimp only [step]
              split
              next => exact Function.update_of_ne (Ne.symm own) ..
              next => rfl
            have none :
                (step log s (.locked thread' moment)).2.filter (·.thread = thread) = [] := by
              dsimp only [step]
              split
              next => simp [own]
              next => rfl
            rw [same, List.filter_append, none, List.append_nil]
            simp [called, Machine.transition, Machine.transitionTo]

/-- **What a run of many threads leaves in the log**: the texts of each thread once and in their
order, but for one that waits for the lock, two by two; each file holds what was written to it, and
none grows by more than a batch above the limit. -/
theorem log_exact (files : Path Bytes → Bytes) (es : List (Event Thread)) :
    let s := Machine.final (step log) (start files) es
    let entries := Machine.outputs (step log) (start files) es
    (∃ batches rest, Logged log files entries s.log batches rest) ∧
      (∀ thread, (Machine.trace (step log) (start files) es).filterMap (called thread) =
        (entries.filter (·.thread = thread)).map Entry.text ++ (s.waiting thread).toList) ∧
      ∀ bound, (∀ e ∈ entries, e.text.length ≤ bound) → ∀ path,
        (s.log.files path).length ≤
          max (files path).length (MAX_LOG_FILE_SIZE + MAX_LOG_COUNT * bound) := by
  intro s entries
  have logged : ∃ batches rest, Logged log files entries s.log batches rest := run_logged files es
  refine ⟨logged, run_called files es, fun bound each path => ?_⟩
  obtain ⟨batches, rest, logged⟩ := logged
  rw [logged.held]
  have every : ∀ batch ∈ batches, ∀ e ∈ batch, e.text.length ≤ bound := by
    intro batch there e here
    refine each e ?_
    rw [logged.all]
    exact List.mem_append_left _ (List.mem_flatten.mpr ⟨batch, there, here⟩)
  refine List.foldlRecOn (motive := fun content => content.length ≤
    max (files path).length (MAX_LOG_FILE_SIZE + MAX_LOG_COUNT * bound)) batches (written log path)
    (le_max_left _ _) fun content below batch there => ?_
  have more : (written log path content batch).length ≤ _ :=
    length_written_le (every batch there) path content
  rw [logged.whole batch there] at more
  exact more.trans (max_le below (le_max_right _ _))

end Runs

end IsgConsole.AssistLib.OutPutLog
