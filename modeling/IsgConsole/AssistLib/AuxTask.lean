/-
# AssistLib.AuxTask — replacing the configuration file

`saveConfigFileAsync` writes the new text to `<file>.tmp`, drops `<file>.back`, renames the
file to `<file>.back` and the temporary file to `<file>`.  `checkConfigFile` runs at the
next start and replaces an empty file by the backup.

* `writeTemp_keeps` — writing the temporary file touches neither the file nor its backup.
* `saveConfigFile_safe_iff` — the file survives a disturbed save exactly when the save is
  not cut between the two renames and a short write leaves nothing, or a whole text; and
  the first save, without a file to rename, never produces one.
-/
import IsgConsole.Theory.Bytes
import IsgConsole.Theory.Script

namespace IsgConsole.AssistLib

open IsgConsole.Theory

set_option autoImplicit false

/-- The text of a configuration; a JSON text has at least its braces. -/
structure ConfigText where
  text : Bytes
  nonempty : text ≠ []

/-- The files a save touches, and what `QFile` still holds back in its write buffer. -/
structure Disk where
  config : Option Bytes
  temp : Option Bytes
  backup : Option Bytes
  buffered : Bytes
  deriving DecidableEq

namespace AuxTask

/-- The file operations of `saveConfigFileAsync`, in order. -/
inductive Op where
  | openTemp | write | flush | close | removeBackup | renameToBackup | renameToConfig | sync
  deriving DecidableEq

/-- Buffered bytes that reach the temporary file. -/
def drain (amount : Nat) (d : Disk) : Disk :=
  { d with temp := d.temp.map (· ++ d.buffered.take amount), buffered := d.buffered.drop amount }

/-- `file.open(QIODevice::WriteOnly)`: the temporary file is truncated or created. -/
def openTemp : Script Op Disk Bool :=
  .operation .openTemp (fun d => some { d with temp := some [] }) (fun _ d => d)

/-- `file.write(json)` into the buffer; a failing write takes only a part. -/
def write (json : Bytes) : Script Op Disk Bool :=
  .operation .write (fun d => some { d with buffered := json })
    (fun amount d => { d with buffered := json.take amount })

/-- `file.flush()`. -/
def flush : Script Op Disk Bool :=
  .operation .flush (fun d => some (drain d.buffered.length d)) drain

/-- `file.close()` flushes what is left and drops the buffer. -/
def close : Script Op Disk Bool :=
  .operation .close (fun d => some { drain d.buffered.length d with buffered := [] })
    (fun amount d => { drain amount d with buffered := [] })

/-- `QFile::exists(backup)`. -/
def existsBackup : Script Op Disk Bool := .ask fun d => d.backup.isSome

/-- `QFile::remove(backup)`. -/
def removeBackup : Script Op Disk Bool :=
  .operation .removeBackup (fun d => if d.backup.isSome then some { d with backup := none } else none)
    (fun _ d => d)

/-- `QFile::rename(jsonFileName, backup)`: fails without a file, and onto an existing one. -/
def renameToBackup : Script Op Disk Bool :=
  .operation .renameToBackup
    (fun d =>
      if d.config.isSome ∧ d.backup.isNone then some { d with config := none, backup := d.config }
      else none)
    (fun _ d => d)

/-- `file.rename(jsonFileName)`. -/
def renameToConfig : Script Op Disk Bool :=
  .operation .renameToConfig
    (fun d =>
      if d.temp.isSome ∧ d.config.isNone then some { d with temp := none, config := d.temp }
      else none)
    (fun _ d => d)

/-- `QProcess::execute("sync")`. -/
def sync : Script Op Disk Bool := .operation .sync some (fun _ d => d)

/-- Writing the temporary file; `false` when it could not be opened. -/
def writeTemp (json : Bytes) : Script Op Disk Bool := do
  if ← openTemp then
    -- The reports of these three are not looked at.
    let _ ← write json
    let _ ← flush
    let _ ← close
    return true
  else return false

/-- The renames, from the dropped backup to `sync`. -/
def replaceConfig : Script Op Disk Unit := do
  if ← existsBackup then
    if ¬ (← removeBackup) then return ()
  if ¬ (← renameToBackup) then return ()
  if ¬ (← renameToConfig) then return ()
  let _ ← sync

/-- `AuxTask::saveConfigFileAsync`, on the text of the new configuration. -/
def saveConfigFileAsync (json : Bytes) : Script Op Disk Unit := do
  if ← writeTemp json then replaceConfig

/-- `AuxTask::checkConfigFile`: an empty file is replaced by the backup. -/
def checkConfigFile (d : Disk) : Disk :=
  if d.config.isSome ∧ d.backup.isSome ∧ d.config = some [] then { d with config := d.backup } else d

/-! ## The temporary file -/

/-- The save ends before the temporary file is closed. -/
def abandonsTemp : Disturbance Op → Bool
  | .stopBefore .openTemp | .stopBefore .write | .stopBefore .flush | .stopBefore .close => true
  | .fails .openTemp _ => true
  | _ => false

/-- What the temporary file holds: only a failing write makes it short, since `close`
writes what a failing `flush` has left. -/
def written (json : Bytes) : Disturbance Op → Bytes
  | .fails .write amount => json.take amount
  | _ => json

/-- Writing the temporary file touches neither the file nor its backup. -/
theorem writeTemp_keeps (json : Bytes) (config backup : Option Bytes) :
    Script.Keeps (fun d => d.config = config ∧ d.backup = backup) (writeTemp json) := by
  have opens : Script.Keeps (fun d => d.config = config ∧ d.backup = backup) openTemp := by
    apply Script.Keeps.operation
    · rintro d _ kept ⟨⟩
      exact kept
    · intro _ d kept
      exact kept
  have writes : Script.Keeps (fun d => d.config = config ∧ d.backup = backup) (write json) := by
    apply Script.Keeps.operation
    · rintro d _ kept ⟨⟩
      exact kept
    · intro _ d kept
      exact kept
  have flushes : Script.Keeps (fun d => d.config = config ∧ d.backup = backup) flush := by
    apply Script.Keeps.operation
    · rintro d _ kept ⟨⟩
      exact kept
    · intro _ d kept
      exact kept
  have closes : Script.Keeps (fun d => d.config = config ∧ d.backup = backup) close := by
    apply Script.Keeps.operation
    · rintro d _ kept ⟨⟩
      exact kept
    · intro _ d kept
      exact kept
  apply Script.Keeps.bind opens
  intro opened
  cases opened with
  | false => exact Script.Keeps.pure false
  | true =>
      apply Script.Keeps.bind writes
      intro _
      apply Script.Keeps.bind flushes
      intro _
      apply Script.Keeps.bind closes
      intro _
      exact Script.Keeps.pure true

theorem writeTemp_abandoned (json : Bytes) {d : Disturbance Op} (abandons : abandonsTemp d)
    (disk : Disk) : (writeTemp json d disk).1 = none ∨ (writeTemp json d disk).1 = some false := by
  cases d with
  | none => cases abandons
  | stopBefore op =>
      cases op <;> first
        | exact .inl rfl
        | cases abandons
  | fails op amount =>
      cases op <;> first
        | exact .inr rfl
        | cases abandons

/-- What `flush` and `close` bring to the disk between them is the whole buffer. -/
theorem drained (buffer : Bytes) (amount : Nat) :
    [] ++ buffer.take amount ++ (buffer.drop amount).take (buffer.drop amount).length = buffer := by
  rw [List.take_length, List.nil_append, List.take_append_drop]

theorem writeTemp_done {json : Bytes} {d : Disturbance Op} (goesOn : ¬ abandonsTemp d)
    (disk : Disk) : writeTemp json d disk =
      (some true, { disk with temp := some (written json d), buffered := [] }) := by
  have done {temp temp' : Bytes} (same : temp = temp') :
      ((some true, { disk with temp := some temp, buffered := [] }) : Option Bool × Disk) =
        (some true, { disk with temp := some temp', buffered := [] }) := by
    rw [same]
  have undisturbed := done (drained json json.length)
  cases d with
  | none => exact undisturbed
  | stopBefore op =>
      cases op
      case openTemp | write | flush | close => exact absurd rfl goesOn
      all_goals exact undisturbed
  | fails op amount =>
      cases op
      case openTemp => exact absurd rfl goesOn
      case write => exact done (drained (json.take amount) (json.take amount).length)
      case flush => exact done (drained json amount)
      case close =>
        have flushed : [] ++ json.take json.length ++ (json.drop json.length).take amount = json := by
          simp
        exact done flushed
      all_goals exact undisturbed

/-! ## The renames -/

/-- The file is still where it was when the renames end early. -/
def keepsConfig (backup : Option Bytes) : Disturbance Op → Bool
  | .stopBefore .removeBackup | .fails .removeBackup _ => backup.isSome
  | .stopBefore .renameToBackup | .fails .renameToBackup _ => true
  | _ => false

/-- The save ends with the file renamed away and nothing in its place. -/
def losesConfig : Disturbance Op → Bool
  | .stopBefore .renameToConfig | .fails .renameToConfig _ => true
  | _ => false

/-- Where the renames leave the file, from a written temporary file. -/
theorem replaceConfig_spec (old temp : Bytes) (backup : Option Bytes) (d : Disturbance Op) :
    let disk := replaceConfig.final d { config := some old, temp := some temp, backup, buffered := [] }
    (keepsConfig backup d ∧ disk.config = some old) ∨
    (losesConfig d ∧ disk.config = none) ∨
    (¬ keepsConfig backup d ∧ ¬ losesConfig d ∧ disk.config = some temp ∧
      disk.backup = some old) := by
  cases d with
  | none => cases backup <;> exact .inr (.inr ⟨Bool.false_ne_true, Bool.false_ne_true, rfl, rfl⟩)
  | stopBefore op =>
      cases op <;> cases backup <;> first
        | exact .inl ⟨rfl, rfl⟩
        | exact .inr (.inl ⟨rfl, rfl⟩)
        | exact .inr (.inr ⟨Bool.false_ne_true, Bool.false_ne_true, rfl, rfl⟩)
  | fails op amount =>
      cases op <;> cases backup <;> first
        | exact .inl ⟨rfl, rfl⟩
        | exact .inr (.inl ⟨rfl, rfl⟩)
        | exact .inr (.inr ⟨Bool.false_ne_true, Bool.false_ne_true, rfl, rfl⟩)

/-- Without a file the first rename fails, and nothing takes its place. -/
theorem replaceConfig_missing (temp : Bytes) (backup : Option Bytes) :
    (replaceConfig.final .none { config := none, temp := some temp, backup, buffered := [] }).config
      = none := by
  cases backup <;> rfl

/-! ## Survival -/

/-- The disk a save starts from; a temporary file may have been left behind. -/
def start (old : Option ConfigText) (temp backup : Option Bytes) : Disk :=
  { config := old.map ConfigText.text, temp, backup, buffered := [] }

/-- What a save owes: a file that existed holds the old or the new text after the next
start, whatever befell the save; a file that did not exist holds the new text when
nothing befell it. -/
def Safe (old : Option ConfigText) (temp backup : Option Bytes) (new : ConfigText)
    (d : Disturbance Op) : Prop :=
  let disk := (saveConfigFileAsync new.text).final d (start old temp backup)
  match old with
  | some old =>
      (checkConfigFile disk).config = some old.text ∨ (checkConfigFile disk).config = some new.text
  | none => d = .none → disk.config = some new.text

/-- A disturbance the save survives. -/
def Harmless (old : Option ConfigText) (new : ConfigText) (d : Disturbance Op) : Prop :=
  match old with
  | some old => ¬ losesConfig d ∧
      ∀ amount, d = .fails .write amount → new.text.take amount = [] ∨
        new.text.take amount = old.text ∨ new.text.take amount = new.text
  | none => d ≠ .none

/-- An undamaged file passes the check. -/
theorem checkConfigFile_nonempty {d : Disk} {text : Bytes} (held : d.config = some text)
    (nonempty : text ≠ []) : (checkConfigFile d).config = some text := by
  have kept : ¬ (d.config.isSome ∧ d.backup.isSome ∧ d.config = some []) := by
    rintro ⟨-, -, empty⟩
    rw [held] at empty
    exact nonempty (Option.some.inj empty)
  rw [checkConfigFile, if_neg kept, held]

/-- An empty file is replaced by its backup. -/
theorem checkConfigFile_empty {d : Disk} {text : Bytes} (held : d.config = some [])
    (backed : d.backup = some text) : (checkConfigFile d).config = some text := by
  have restored : d.config.isSome ∧ d.backup.isSome ∧ d.config = some [] := by
    rw [held, backed]
    exact ⟨rfl, rfl, rfl⟩
  rw [checkConfigFile, if_pos restored]
  exact backed

theorem checkConfigFile_missing {d : Disk} (missing : d.config = none) :
    (checkConfigFile d).config = none := by
  have kept : ¬ (d.config.isSome ∧ d.backup.isSome ∧ d.config = some []) := by
    rw [missing]
    rintro ⟨absent, -⟩
    cases absent
  rw [checkConfigFile, if_neg kept, missing]

/-- A save that does not finish the temporary file leaves the file and its backup. -/
theorem saveConfigFile_abandoned (json : Bytes) {d : Disturbance Op} (abandons : abandonsTemp d)
    (disk : Disk) : ((saveConfigFileAsync json).final d disk).config = disk.config := by
  have kept := (writeTemp_keeps json disk.config disk.backup d disk ⟨rfl, rfl⟩).1
  rw [Script.final] at kept
  have ends := writeTemp_abandoned json abandons disk
  show (Script.bind (writeTemp json) _ d disk).2.config = _
  rw [Script.bind]
  cases ran : writeTemp json d disk with
  | mk result disk' =>
      rw [ran] at ends kept
      rcases ends with stopped | failed
      · simp only at stopped
        subst stopped
        exact kept
      · simp only at failed
        subst failed
        exact kept

/-- A save that finishes the temporary file goes on to the renames. -/
theorem saveConfigFile_goesOn {json : Bytes} {d : Disturbance Op} (goesOn : ¬ abandonsTemp d)
    (disk : Disk) : (saveConfigFileAsync json).final d disk =
      replaceConfig.final d { disk with temp := some (written json d), buffered := [] } := by
  show (Script.bind (writeTemp json) _ d disk).2 = _
  rw [Script.bind, writeTemp_done goesOn]
  rfl

/-- A disturbance of the temporary file is not one of the renames. -/
theorem abandonsTemp_harmless {d : Disturbance Op} (abandons : abandonsTemp d) :
    ¬ losesConfig d ∧ ∀ amount, d ≠ .fails .write amount := by
  cases d with
  | none => cases abandons
  | stopBefore op => cases op <;> simp_all [abandonsTemp, losesConfig]
  | fails op amount => cases op <;> simp_all [abandonsTemp, losesConfig]

theorem keepsConfig_harmless {backup : Option Bytes} {d : Disturbance Op}
    (keeps : keepsConfig backup d) : ¬ losesConfig d ∧ ∀ amount, d ≠ .fails .write amount := by
  cases d with
  | none => cases keeps
  | stopBefore op => cases op <;> simp_all [keepsConfig, losesConfig]
  | fails op amount => cases op <;> simp_all [keepsConfig, losesConfig]

/-- A new file that holds what was written to it. -/
theorem written_survives {old new : ConfigText} {d : Disturbance Op} {disk : Disk}
    (held : disk.config = some (written new.text d)) (backed : disk.backup = some old.text) :
    ((checkConfigFile disk).config = some old.text ∨
      (checkConfigFile disk).config = some new.text) ↔
    ∀ amount, d = .fails .write amount → new.text.take amount = [] ∨
      new.text.take amount = old.text ∨ new.text.take amount = new.text := by
  by_cases short : ∃ amount, d = .fails .write amount
  · obtain ⟨amount, rfl⟩ := short
    rw [written] at held
    by_cases empty : new.text.take amount = []
    · rw [empty] at held
      have restored := checkConfigFile_empty held backed
      exact ⟨fun _ _ same => by cases same; exact .inl empty, fun _ => .inl restored⟩
    · rw [checkConfigFile_nonempty held empty]
      constructor
      · rintro survives amount' ⟨⟩
        rcases survives with stale | fresh
        · exact .inr (.inl (Option.some.inj stale))
        · exact .inr (.inr (Option.some.inj fresh))
      · intro whole
        rcases whole amount rfl with nothing | stale | fresh
        · exact absurd nothing empty
        · exact .inl (congrArg some stale)
        · exact .inr (congrArg some fresh)
  · have full : written new.text d = new.text := by
      cases d with
      | fails op amount =>
          cases op
          case write => exact absurd ⟨amount, rfl⟩ short
          all_goals rfl
      | _ => rfl
    rw [full] at held
    have survives := checkConfigFile_nonempty held new.nonempty
    exact ⟨fun _ amount same => absurd ⟨amount, same⟩ short, fun _ => .inr survives⟩

/-- **A save is safe exactly when the disturbance is harmless**: the file exists, the save
is not cut between the two renames, and a short write leaves nothing or a whole text. -/
theorem saveConfigFile_safe_iff (old : Option ConfigText) (temp backup : Option Bytes)
    (new : ConfigText) (d : Disturbance Op) :
    Safe old temp backup new d ↔ Harmless old new d := by
  cases old with
  | none =>
      constructor
      · rintro safe rfl
        have held := safe rfl
        rw [saveConfigFile_goesOn (by decide)] at held
        exact absurd (replaceConfig_missing _ _ ▸ held) (by simp)
      · intro disturbed undisturbed
        exact absurd undisturbed disturbed
  | some old =>
      simp only [Safe, Harmless]
      by_cases abandons : abandonsTemp d
      · have kept := saveConfigFile_abandoned new.text abandons
          (start (some old) temp backup)
        obtain ⟨notLost, notShort⟩ := abandonsTemp_harmless abandons
        have survives := checkConfigFile_nonempty kept old.nonempty
        exact ⟨fun _ => ⟨notLost, fun amount short => absurd short (notShort amount)⟩,
          fun _ => .inl survives⟩
      · rw [saveConfigFile_goesOn abandons]
        rcases replaceConfig_spec old.text (written new.text d) backup d with
          ⟨keeps, held⟩ | ⟨loses, missing⟩ | ⟨-, notLost, held, backed⟩
        · obtain ⟨notLost, notShort⟩ := keepsConfig_harmless keeps
          have survives := checkConfigFile_nonempty held old.nonempty
          exact ⟨fun _ => ⟨notLost, fun amount short => absurd short (notShort amount)⟩,
            fun _ => .inl survives⟩
        · have lost := checkConfigFile_missing missing
          constructor
          · rintro (stale | fresh)
            · exact absurd (lost.symm.trans stale) (by simp)
            · exact absurd (lost.symm.trans fresh) (by simp)
          · intro harmless
            exact absurd loses harmless.1
        · exact (written_survives held backed).trans ⟨fun whole => ⟨notLost, whole⟩, And.right⟩

/-- Replacing `{}` by `{ }`: a crash between the renames leaves no configuration, a write of
one byte leaves a truncated one, and a first save produces none. -/
theorem saveConfigFile_unsafe :
    ¬ Safe (some ⟨[0x7B, 0x7D], by decide⟩) none none ⟨[0x7B, 0x20, 0x7D], by decide⟩
        (.stopBefore .renameToConfig) ∧
      ¬ Safe (some ⟨[0x7B, 0x7D], by decide⟩) none none ⟨[0x7B, 0x20, 0x7D], by decide⟩
        (.fails .write 1) ∧
      ¬ Safe none none none ⟨[0x7B, 0x20, 0x7D], by decide⟩ .none := by
  refine ⟨?_, ?_, ?_⟩
  · rintro (stale | fresh)
    · cases stale
    · cases fresh
  · rintro (stale | fresh)
    · exact absurd stale (by decide)
    · exact absurd fresh (by decide)
  · intro safe
    cases safe rfl

end AuxTask

end IsgConsole.AssistLib
