/-
# BaseLib.EngineProject — the run state of a project and of its devices

A project is enabled or not and has a run type: in `RunType_Infer` its physical objects run,
in `RunType_Spot` its virtual cameras.  Setting `enabled` to another value starts or stops
the devices of the run type of that moment.

Three threads do this.  The console starts and stops.  The TCP thread takes commands one at
a time; a change of the work mode is two steps, one that disables the project and one that
sets the run type.  The kick thread disables the project where the product stops its line.

* `step_inStep` — what each step does to the agreement of project and devices;
* `agrees_of_careful` — **the interleavings under which they agree.**
-/
import IsgConsole.Theory.Json.Value
import IsgConsole.Theory.Machine

namespace IsgConsole.BaseLib

open IsgConsole.Theory

set_option autoImplicit false

inductive RunTypeEnum where
  | RunType_Infer
  | RunType_Spot
  deriving DecidableEq

/-! ## A project -/

/-- `m_enabled` of each device, under its name. -/
abbrev Devices := Hash Bytes Bool

structure EngineProject where
  m_enabled : Bool
  m_runType : RunTypeEnum
  m_objects : Devices
  m_virtualCameras : Devices

namespace EngineProject

/-- `ptr->m_enabled.setValue(value)` for every device. -/
def setAll (value : Bool) (devices : Devices) : Devices := devices.mapValues fun _ _ => value

/-- `onStarted` and `onStopped`: the devices of the run type follow. -/
def onSwitched (self : EngineProject) (value : Bool) : EngineProject :=
  match self.m_runType with
  | .RunType_Spot => { self with m_virtualCameras := setAll value self.m_virtualCameras }
  | .RunType_Infer => { self with m_objects := setAll value self.m_objects }

/-- `setAttr("enabled", value)`. -/
def setEnabled (self : EngineProject) (value : Bool) : EngineProject :=
  let switched := if value = self.m_enabled then self else self.onSwitched value
  { switched with m_enabled := value }

/-- `EngineProject::setRunType`. -/
def setRunType (self : EngineProject) (runType : RunTypeEnum) : EngineProject :=
  { self with m_runType := runType }

end EngineProject

/-! ## Threads -/

inductive Command where
  | SetWorkMode (work_mode : Int)
  | SpotEnable (isStart : Bool)
  | Enable (isStart : Bool)

/-- The project, and the work mode the TCP thread is about to set. -/
structure Console where
  project : EngineProject
  work_mode : Option Int

namespace Console

/-- The run type of a work mode; any other number names none. -/
def runTypeOf (work_mode : Int) : Option RunTypeEnum :=
  if work_mode = 1 then some .RunType_Spot
  else if work_mode = 0 then some .RunType_Infer
  else none

inductive Event where
  /-- `start` and `stop` on the console. -/
  | input (start : Bool)
  /-- The TCP thread takes a command. -/
  | command (c : Command)
  /-- The TCP thread goes on with a change of the work mode. -/
  | setRunType
  /-- The kick thread has sent a kick. -/
  | kick

/-- The first step of a command. -/
def onCommand (s : Console) : Command → Console
  | .SetWorkMode work_mode =>
      { project := s.project.setEnabled false, work_mode := some work_mode }
  | .SpotEnable isStart =>
      if s.project.m_runType = .RunType_Spot ∧ isStart then
        { s with project := s.project.setEnabled true }
      else s
  | .Enable isStart => { s with project := s.project.setEnabled isStart }

/-- The run type the TCP thread is about to set. -/
def pending (s : Console) : Option RunTypeEnum := s.work_mode.bind runTypeOf

/-- One step of a thread.  A command waits until the one before it is through. -/
def step (stopMode : Bool) (s : Console) : Event → Console × List Empty
  | .input start => ({ s with project := s.project.setEnabled start }, [])
  | .command c => (if s.work_mode.isSome then s else s.onCommand c, [])
  | .setRunType =>
      (match s.pending with
        | some runType => { project := s.project.setRunType runType, work_mode := none }
        | none => { s with work_mode := none }, [])
  | .kick => (if stopMode then { s with project := s.project.setEnabled false } else s, [])

/-- A project as it is loaded: nothing runs. -/
def loaded (objects virtualCameras : List Bytes) : Console :=
  { project :=
      { m_enabled := false, m_runType := .RunType_Infer
        m_objects := objects.foldl (fun devices name => devices.insert name false) ∅
        m_virtualCameras := virtualCameras.foldl (fun devices name => devices.insert name false) ∅ }
    work_mode := none }

end Console

/-! ## Project and devices -/

/-- Some device runs. -/
def AnyEnabled (devices : Devices) : Prop := ∃ name, devices.lookup name = some true

/-- All devices are in one state. -/
def AllAre (value : Bool) (devices : Devices) : Prop :=
  ∀ name held, devices.lookup name = some held → held = value

namespace EngineProject

/-- **No device runs while the project is not enabled, and objects and virtual cameras never run
at the same time.** -/
structure Agrees (s : EngineProject) : Prop where
  stopped : s.m_enabled = false → ¬ AnyEnabled s.m_objects ∧ ¬ AnyEnabled s.m_virtualCameras
  apart : ¬ (AnyEnabled s.m_objects ∧ AnyEnabled s.m_virtualCameras)

/-- The devices of the run type are where the project is, and the others stand still. -/
structure InStep (s : EngineProject) : Prop where
  objects : AllAre (s.m_enabled && decide (s.m_runType = .RunType_Infer)) s.m_objects
  virtualCameras : AllAre (s.m_enabled && decide (s.m_runType = .RunType_Spot)) s.m_virtualCameras

end EngineProject

section Devices

variable {devices : Devices}

theorem AllAre.none (all : AllAre false devices) : ¬ AnyEnabled devices := by
  rintro ⟨name, held⟩
  cases all name true held

theorem allAre_setAll (value : Bool) (devices : Devices) :
    AllAre value (EngineProject.setAll value devices) := by
  intro name held found
  rw [EngineProject.setAll, Hash.lookup_mapValues] at found
  obtain ⟨_, -, same⟩ := Option.map_eq_some_iff.mp found
  exact same.symm

theorem allAre_loaded (names : List Bytes) :
    AllAre false (names.foldl (fun devices name => devices.insert name false) (∅ : Devices)) := by
  refine List.foldlRecOn names _ (fun name held found => by simp at found) ?_
  intro devices all name _ other held found
  rcases Hash.of_lookup_insert found with ⟨-, same⟩ | ⟨-, old⟩
  · exact same
  · exact all other held old

end Devices

namespace EngineProject

theorem InStep.agrees {s : EngineProject} (inStep : InStep s) : Agrees s := by
  obtain ⟨objects, virtualCameras⟩ := inStep
  constructor
  · intro stopped
    rw [stopped, Bool.false_and] at objects virtualCameras
    exact ⟨objects.none, virtualCameras.none⟩
  · rintro ⟨object, virtualCamera⟩
    cases type : s.m_runType with
    | RunType_Infer =>
        rw [type] at virtualCameras
        simp at virtualCameras
        exact virtualCameras.none virtualCamera
    | RunType_Spot =>
        rw [type] at objects
        simp at objects
        exact objects.none object

/-- Starting and stopping keeps project and devices in step. -/
theorem setEnabled_inStep {s : EngineProject} (inStep : InStep s) (value : Bool) :
    InStep (s.setEnabled value) := by
  obtain ⟨enabled, runType, objects, virtualCameras⟩ := s
  obtain ⟨objectsAre, virtualCamerasAre⟩ := inStep
  by_cases same : value = enabled
  · subst same
    simp only [setEnabled, if_pos]
    exact ⟨objectsAre, virtualCamerasAre⟩
  · cases runType with
    | RunType_Infer =>
        simp only [setEnabled, if_neg same, onSwitched]
        refine ⟨?_, ?_⟩
        · simpa using allAre_setAll value objects
        · simpa using virtualCamerasAre
    | RunType_Spot =>
        simp only [setEnabled, if_neg same, onSwitched]
        refine ⟨?_, ?_⟩
        · simpa using objectsAre
        · simpa using allAre_setAll value virtualCameras

/-- So does another run type, when the project is not enabled. -/
theorem setRunType_inStep {s : EngineProject} (inStep : InStep s) {runType : RunTypeEnum}
    (stopped : runType ≠ s.m_runType → s.m_enabled = false) : InStep (s.setRunType runType) := by
  by_cases same : runType = s.m_runType
  · subst same
    exact inStep
  · obtain ⟨objects, virtualCameras⟩ := inStep
    rw [stopped same, Bool.false_and] at objects virtualCameras
    constructor
    · show AllAre (s.m_enabled && _) s.m_objects
      rw [stopped same, Bool.false_and]
      exact objects
    · show AllAre (s.m_enabled && _) s.m_virtualCameras
      rw [stopped same, Bool.false_and]
      exact virtualCameras

end EngineProject

namespace Console

/-! ## Interleavings -/

/-- The condition on a step: the run type changes only while the project is not enabled. -/
def Careful (s : Console) : Event → Prop
  | .setRunType => ∀ runType ∈ s.pending, runType ≠ s.project.m_runType →
      s.project.m_enabled = false
  | _ => True

instance (s : Console) : (e : Event) → Decidable (Careful s e)
  | .setRunType => inferInstanceAs (Decidable (∀ runType ∈ s.pending, _))
  | .input _ | .command _ | .kick => .isTrue trivial

theorem onCommand_inStep {s : Console} (inStep : s.project.InStep) (c : Command) :
    (s.onCommand c).project.InStep := by
  cases c with
  | SetWorkMode work_mode => exact EngineProject.setEnabled_inStep inStep false
  | SpotEnable isStart =>
      simp only [onCommand]
      split
      next => exact EngineProject.setEnabled_inStep inStep true
      next => exact inStep
  | Enable isStart => exact EngineProject.setEnabled_inStep inStep isStart

/-- A careful step of any thread keeps project and devices in step. -/
theorem step_inStep (stopMode : Bool) {s : Console} (inStep : s.project.InStep) {e : Event}
    (careful : Careful s e) : (s.step stopMode e).1.project.InStep := by
  cases e with
  | input start => exact EngineProject.setEnabled_inStep inStep start
  | command c =>
      simp only [step]
      split
      next => exact inStep
      next => exact onCommand_inStep inStep c
  | setRunType =>
      simp only [step]
      cases type : s.pending with
      | none => exact inStep
      | some runType => exact EngineProject.setRunType_inStep inStep (careful runType type)
  | kick =>
      simp only [step]
      split
      next => exact EngineProject.setEnabled_inStep inStep false
      next => exact inStep

theorem loaded_inStep (objects virtualCameras : List Bytes) :
    (loaded objects virtualCameras).project.InStep :=
  ⟨allAre_loaded objects, allAre_loaded virtualCameras⟩

/-- The console after its threads have taken some steps. -/
abbrev reached (stopMode : Bool) (objects virtualCameras : List Bytes) (es : List Event) : Console :=
  Machine.final (step stopMode) (loaded objects virtualCameras) es

/-- **Project and devices agree in every state of an interleaving whose steps are careful.** -/
theorem agrees_of_careful (stopMode : Bool) (objects virtualCameras : List Bytes)
    (es : List Event)
    (careful : Machine.Always
      (fun first e => Careful (reached stopMode objects virtualCameras first) e) es) :
    ∀ first, first <+: es → (reached stopMode objects virtualCameras first).project.Agrees := by
  have inStep := Machine.prefixes_of_always (step stopMode) (I := fun s => s.project.InStep)
    (loaded_inStep objects virtualCameras)
    (fun _ _ inStep careful => step_inStep stopMode inStep careful) careful
  exact fun first here => (inStep first here).agrees

/-- The devices of a run type. -/
def devicesOf (s : EngineProject) : RunTypeEnum → Devices
  | .RunType_Infer => s.m_objects
  | .RunType_Spot => s.m_virtualCameras

/-- A careless step breaks the agreement as soon as the project is stopped, when there is a device
to leave running. -/
theorem careless_breaks (stopMode : Bool) {s : Console} (inStep : s.project.InStep)
    {runType : RunTypeEnum} (type : s.pending = some runType)
    (changes : runType ≠ s.project.m_runType) (enabled : s.project.m_enabled = true)
    {name : Bytes} {value : Bool}
    (device : (devicesOf s.project s.project.m_runType).lookup name = some value) :
    ¬ ((s.step stopMode .setRunType).1.step stopMode (.input false)).1.project.Agrees := by
  intro agrees
  have changed : (s.step stopMode .setRunType).1 =
      { project := s.project.setRunType runType, work_mode := none } := by
    simp only [step, type]
  rw [changed] at agrees
  have stopped := agrees.stopped rfl
  cases old : s.project.m_runType with
  | RunType_Infer =>
      obtain rfl : runType = .RunType_Spot := by
        cases runType with
        | RunType_Infer => exact absurd old.symm changes
        | RunType_Spot => rfl
      rw [old] at device
      have runs := inStep.objects name value device
      rw [enabled, old] at runs
      subst runs
      refine stopped.1 ⟨name, ?_⟩
      simpa [step, EngineProject.setEnabled, EngineProject.setRunType, enabled,
        EngineProject.onSwitched, devicesOf] using device
  | RunType_Spot =>
      obtain rfl : runType = .RunType_Infer := by
        cases runType with
        | RunType_Infer => rfl
        | RunType_Spot => exact absurd old.symm changes
      rw [old] at device
      have runs := inStep.virtualCameras name value device
      rw [enabled, old] at runs
      subst runs
      refine stopped.2 ⟨name, ?_⟩
      simpa [step, EngineProject.setEnabled, EngineProject.setRunType, enabled,
        EngineProject.onSwitched, devicesOf] using device

/-! The console starts the project between the two steps of a change of the work mode. -/

def startedInBetween : List Event :=
  [.input true, .command (.SetWorkMode 1), .input true, .setRunType, .input false]

/-- The project has stopped and its camera still runs. -/
theorem startedInBetween_runs :
    ¬ ∀ first, first <+: startedInBetween →
      (reached false [utf8 "camera"] [utf8 "virtual-1"] first).project.Agrees := by
  intro agrees
  have runs : (reached false [utf8 "camera"] [utf8 "virtual-1"]
      startedInBetween).project.m_objects.lookup (utf8 "camera") = some true := by decide
  exact ((agrees startedInBetween List.prefix_rfl).stopped (by decide)).1 ⟨_, runs⟩

def startedAfterwards : List Event :=
  [.input true, .command (.SetWorkMode 1), .kick, .setRunType, .command (.SpotEnable true)]

theorem startedAfterwards_agrees :
    Machine.Always (fun first e =>
      Careful (reached true [utf8 "camera"] [utf8 "virtual-1"] first) e) startedAfterwards ∧
      ∀ first, first <+: startedAfterwards →
        (reached true [utf8 "camera"] [utf8 "virtual-1"] first).project.Agrees := by
  have careful : Machine.Always (fun first e =>
      Careful (reached true [utf8 "camera"] [utf8 "virtual-1"] first) e) startedAfterwards := by
    decide
  exact ⟨careful, agrees_of_careful true [utf8 "camera"] [utf8 "virtual-1"] _ careful⟩

end Console

end IsgConsole.BaseLib
