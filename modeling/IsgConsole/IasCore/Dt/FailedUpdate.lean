/-
# IasCore.Dt.FailedUpdate — detectors after a configuration they refuse

`load` takes over the run flag and clears the initialised flag before it can fail, and `update`
is `load`.  As the region of every detector is a point, an initialised detector that runs finds
nothing in it and says no, as it says once it is no longer initialised; so what a refused
configuration changes is the run flag (`failed_update`).  A template detector that is not
initialised says yes.
-/
import IsgConsole.IasCore.Dt.DetectionRegion
import IsgConsole.Theory.Machine

namespace IsgConsole.IasCore.Dt

open IsgConsole.Theory IsgConsole.BaseLib IsgConsole.Inspector IsgConsole.IasBase
open IsgConsole.Theory.Json

set_option autoImplicit false

/-! ## The classes -/

/-- A class of detectors: what it adds to `load`, `computeParam` and `detect`.  Computing the
parameters moves neither flags nor region, and an empty region is never fine. -/
structure DetectorClass (α : Type) where
  first : JsonObject → α → α
  rest : Option Frame → JsonObject → α → Option Bool × α
  computeParam : Option Frame → Detector α → Option Bytes × Detector α
  judge : α → Frame → Option Bool
  idle : Bool → Bool
  computeParam_frame : ∀ matRead d, ∃ m_config self,
    (computeParam matRead d).2 = { d with m_config := m_config, self := self }
  judge_empty : ∀ self img_roi, img_roi.isEmpty = true →
    judge self img_roi = some false ∨ judge self img_roi = none ∧ 1 < img_roi.channels

section Classes

variable (qt : QtJson) (library : DtLibrary)

theorem colorDetector_computeParam (matRead : Option Frame) (d : Detector ColorParams) :
    ∃ m_config self, (ColorDetector.computeParam qt library matRead d).2 =
      { d with m_config := m_config, self := self } := by
  unfold ColorDetector.computeParam
  split
  · exact ⟨_, _, rfl⟩
  · split
    · exact ⟨_, _, rfl⟩
    · split <;> exact ⟨_, _, rfl⟩

def colorDetector : DetectorClass ColorParams where
  first _ self := self
  rest _ := ColorDetector.rest library
  computeParam := ColorDetector.computeParam qt library
  judge := ColorDetector.judge library
  idle m_run := !m_run
  computeParam_frame := colorDetector_computeParam qt library
  judge_empty self img_roi empty := by
    rw [ColorDetector.judge, if_pos empty]
    split
    next gray => exact .inr ⟨rfl, by simpa using (Bool.and_eq_true_iff.mp gray).2⟩
    next => exact .inl rfl

def lineDetector : DetectorClass LineParams where
  first := LineDetector.settings library
  rest _ := LineDetector.rest library
  computeParam _ := LineDetector.computeParam
  judge := LineDetector.judge library
  idle m_run := !m_run
  computeParam_frame _ d := ⟨d.m_config, d.self, rfl⟩
  judge_empty _ _ empty := .inl (if_pos empty)

def templateDetector : DetectorClass TemplateParams where
  first := TemplateDetector.settings library
  rest := TemplateDetector.rest
  computeParam _ := TemplateDetector.computeParam qt library
  judge := TemplateDetector.judge library
  idle _ := true
  computeParam_frame _ _ := ⟨_, _, rfl⟩
  judge_empty _ _ empty := .inl (if_pos empty)

end Classes

namespace DetectorClass

variable {α : Type} (C : DetectorClass α) (qt : QtJson)

def load (matRead : Option Frame) (param : Bytes) (locate_point : Point2d) (d : Detector α) :
    Option Bool × Detector α :=
  loadWith qt C.first (C.rest matRead) param locate_point d

/-- `Detector::update`. -/
def update (matRead : Option Frame) (param : Bytes) (d : Detector α) : Option Bool × Detector α :=
  C.load qt matRead param d.m_locate_root d

def detect (frame : Frame) (locate_point : Point2d) (d : Detector α) : Option Bool :=
  detectWith C.judge C.idle frame locate_point d

end DetectorClass

/-- The classes load and detect as the program's do. -/
theorem classes_load (qt : QtJson) (library : DtLibrary) :
    (∀ matRead, (colorDetector qt library).load qt matRead = ColorDetector.load qt library) ∧
    (∀ matRead, (lineDetector library).load qt matRead = LineDetector.load qt library) ∧
    (∀ matRead, (templateDetector qt library).load qt matRead =
      TemplateDetector.load qt library matRead) :=
  ⟨fun _ => rfl, fun _ => rfl, fun _ => rfl⟩

theorem classes_detect (qt : QtJson) (library : DtLibrary) :
    (colorDetector qt library).detect = ColorDetector.detect library ∧
    (lineDetector library).detect = LineDetector.detect library ∧
    (templateDetector qt library).detect = TemplateDetector.detect library :=
  ⟨rfl, rfl, rfl⟩

/-! ## Runs -/

/-- What is asked of a detector; `matRead` is `channel.jpg` at that moment. -/
inductive Call where
  | load (matRead : Option Frame) (param : Bytes) (locate_point : Point2d)
  | update (matRead : Option Frame) (param : Bytes)
  | detect (frame : Frame) (locate_point : Point2d)
  | exec (matRead : Frame)
  | resetParam (matRead : Option Frame)
  | setLocateRoot (locate_point : Point2d)
  | remove

/-- What it answers; `none` is an exception. -/
inductive Answer where
  | loaded (accepted : Option Bool)
  | detected (verdict : Option Bool)
  | reset (m_config : Option Bytes)

namespace DetectorClass

variable {α : Type} (C : DetectorClass α) (qt : QtJson)

def step (d : Detector α) : Call → Detector α × List Answer
  | .load matRead param locate_point =>
      let (accepted, d) := C.load qt matRead param locate_point d
      (d, [.loaded accepted])
  | .update matRead param =>
      let (accepted, d) := C.update qt matRead param d
      (d, [.loaded accepted])
  | .detect frame locate_point => (d, [.detected (C.detect frame locate_point d)])
  | .exec matRead => (d, [.detected (C.detect matRead d.m_locate_root d)])
  | .resetParam matRead =>
      let (m_config, d) := C.computeParam matRead d
      (d, [.reset m_config])
  | .setLocateRoot locate_point => (d.setLocateRoot locate_point, [])
  | .remove => (d, [])

/-- The detector after these calls; what its class adds is not initialised at first. -/
def reached (self : α) (calls : List Call) : Detector α :=
  Machine.final (C.step qt) (.start self) calls

/-- What the last `load` or `update` of a run returned. -/
def lastLoad (answers : List Answer) : Option (Option Bool) :=
  (answers.filterMap fun
    | .loaded accepted => some accepted
    | _ => none).getLast?

end DetectorClass

/-! ## What every state has -/

/-- The region is a point. -/
def Degenerate {α : Type} (d : Detector α) : Prop :=
  d.m_rect_roi.width = 0 ∧ d.m_rect_roi.height = 0

theorem roiOf_degenerate {jsonDocObj : JsonObject} {roi : Rect}
    (read : roiOf jsonDocObj = some roi) :
    roi.width = 0 ∧ roi.height = 0 := by
  unfold roiOf at read
  split at read
  · obtain rfl := Option.some.inj read
    simp [Rect.ofPoints]
  · cases read

section Load

variable {α : Type} {qt : QtJson} {first : JsonObject → α → α}
  {rest : JsonObject → α → Option Bool × α} {param : Bytes} {locate_point : Point2d}
  {d : Detector α}

/-- What `load` leaves, whatever comes of it: the run flag of the configuration, a region that is a
point if it was one, and a detector that is initialised when it was accepted. -/
theorem loadWith_leaves (degenerate : Degenerate d) :
    (loadWith qt first rest param locate_point d).2.m_run =
        toBoolTrue ((configuration qt param).get (utf8 "run")) ∧
      Degenerate (loadWith qt first rest param locate_point d).2 ∧
      ((loadWith qt first rest param locate_point d).1 = some false →
        (loadWith qt first rest param locate_point d).2.m_InitOK = false) := by
  cases read : roiOf (configuration qt param) with
  | none =>
      simp only [loadWith, read]
      exact ⟨rfl, degenerate, fun _ => rfl⟩
  | some roi =>
      obtain ⟨width, height⟩ := roiOf_degenerate read
      simp only [loadWith, read]
      refine ⟨rfl, ?_, fun refused => ?_⟩
      · simp [Degenerate, Rect2d.ofRect, width, height]
      · simp [refused]

end Load

/-! ## What a detector says -/

theorem cvRound_zero : Rect2d.cvRound 0 = 0 := by decide +kernel

/-- A region without a width is cropped to a picture without pixels. -/
theorem crop_empty {frame img_roi : Frame} {rect_roi : Rect2d} (width : rect_roi.width = 0)
    (cut : frame.crop rect_roi = some img_roi) :
    img_roi.isEmpty = true ∧ img_roi.channels = frame.channels := by
  obtain ⟨mat, cropped, rfl⟩ := Option.map_eq_some_iff.mp cut
  unfold Mat.crop at cropped
  split at cropped
  · obtain rfl := Option.some.inj cropped
    simp [Frame.isEmpty, Rect2d.toRect, width, cvRound_zero]
  · cases cropped

/-- It shares no area with anything. -/
theorem inter_degenerate {a : Rect2d} (width : a.width = 0) (b : Rect2d) : a.inter b = .zero := by
  have thin : min (a.x + a.width) (b.x + b.width) - max a.x b.x ≤ 0 := by
    rw [width, add_zero, sub_nonpos]
    exact (min_le_left _ _).trans (le_max_left _ _)
  simp only [Rect2d.inter, thin, true_or, if_true]

theorem region_empty {frame img_roi : Frame} {rect_roi : Rect2d} (width : rect_roi.width = 0)
    (cut : frame.region rect_roi = some img_roi) :
    img_roi.isEmpty = true ∧ img_roi.channels = frame.channels := by
  unfold Frame.region at cut
  split at cut
  next whole =>
      obtain rfl := Option.some.inj cut
      exact crop_empty width whole
  next =>
      dsimp only at cut
      rw [inter_degenerate width] at cut
      exact crop_empty rfl cut

/-- There is always such a region: at the worst the corner of the picture. -/
theorem region_exists {frame : Frame} {rect_roi : Rect2d} (width : rect_roi.width = 0)
    (cols : 0 ≤ frame.mat.cols) (rows : 0 ≤ frame.mat.rows) :
    ∃ img_roi, frame.region rect_roi = some img_roi := by
  unfold Frame.region
  split
  next img_roi _ => exact ⟨img_roi, rfl⟩
  next =>
      have corner : ∃ mat, frame.mat.crop (Rect2d.toRect .zero) = some mat := by
        rw [Mat.exists_crop]
        simp [Rect.Within, Rect2d.toRect, Rect2d.zero, cvRound_zero, Rect.right, Rect.bottom,
          cols, rows]
      obtain ⟨mat, cropped⟩ := corner
      simp only [inter_degenerate width]
      exact ⟨_, by rw [Frame.crop, cropped]; rfl⟩

theorem getModifiedRect_width {α : Type} {d : Detector α} (degenerate : Degenerate d)
    (locate_point : Point2d) : (d.getModifiedRect locate_point).width = 0 := by
  unfold Detector.getModifiedRect
  split <;> exact degenerate.1

namespace DetectorClass

variable {α : Type} (C : DetectorClass α) (qt : QtJson)

/-- The verdict of a detector whose region is a point, on whatever picture. -/
def verdictOf (d : Detector α) : Bool := if d.m_run && d.m_InitOK then false else C.idle d.m_run

/-- It has no other verdict. -/
theorem detect_eq_verdictOf {d : Detector α} (degenerate : Degenerate d) {frame : Frame}
    {locate_point : Point2d} {verdict : Bool}
    (said : C.detect frame locate_point d = some verdict) : verdict = C.verdictOf d := by
  unfold detect detectWith at said
  unfold verdictOf
  split at said
  next runs =>
      rw [if_pos runs]
      obtain ⟨img_roi, cut, judged⟩ := Option.bind_eq_some_iff.mp said
      have empty := (region_empty (getModifiedRect_width degenerate locate_point) cut).1
      rcases C.judge_empty d.self img_roi empty with no | ⟨thrown, -⟩
      · rw [no] at judged
        exact (Option.some.inj judged).symm
      · rw [thrown] at judged
        cases judged
  next idle =>
      rw [if_neg idle]
      exact (Option.some.inj said).symm

/-- It has that one on gray pictures. -/
theorem detect_gray {d : Detector α} (degenerate : Degenerate d) (frame : Frame)
    (gray : frame.channels ≤ 1) (cols : 0 ≤ frame.mat.cols) (rows : 0 ≤ frame.mat.rows)
    (locate_point : Point2d) : C.detect frame locate_point d = some (C.verdictOf d) := by
  unfold detect detectWith verdictOf
  split
  next =>
      have width := getModifiedRect_width degenerate locate_point
      obtain ⟨img_roi, cut⟩ := region_exists width cols rows
      obtain ⟨empty, channels⟩ := region_empty width cut
      rcases C.judge_empty d.self img_roi empty with no | ⟨-, coloured⟩
      · simp [cut, no]
      · omega
  next => rfl

/-! ## What a run leaves -/

/-- The region is a point, and a detector whose last load was refused is not initialised. -/
structure Kept (answers : List Answer) (d : Detector α) : Prop where
  degenerate : Degenerate d
  refused : lastLoad answers = some (some false) → d.m_InitOK = false

theorem lastLoad_loaded (answers : List Answer) (accepted : Option Bool) :
    lastLoad (answers ++ [.loaded accepted]) = some accepted := by
  simp [lastLoad, List.filterMap_append]

/-- Loading again forgets what came of it before. -/
theorem load_kept (matRead : Option Frame) (param : Bytes) (locate_point : Point2d)
    {answers : List Answer} {d : Detector α} (kept : Kept answers d) :
    Kept (answers ++ [.loaded (C.load qt matRead param locate_point d).1])
      (C.load qt matRead param locate_point d).2 := by
  obtain ⟨-, degenerate, refused⟩ := loadWith_leaves kept.degenerate
  refine ⟨degenerate, fun last => refused ?_⟩
  rw [lastLoad_loaded] at last
  exact Option.some.inj last

/-- The other calls leave flags and region alone. -/
theorem Kept.same {answers more : List Answer} {d d' : Detector α} (kept : Kept answers d)
    (others : ∀ accepted, .loaded accepted ∉ more) (region : d'.m_rect_roi = d.m_rect_roi)
    (flag : d'.m_InitOK = d.m_InitOK) : Kept (answers ++ more) d' := by
  have last : lastLoad (answers ++ more) = lastLoad answers := by
    have nothing : (more.filterMap fun
        | .loaded accepted => some accepted
        | _ => none) = [] := by
      rw [List.filterMap_eq_nil_iff]
      intro answer there
      cases answer with
      | loaded accepted => exact absurd there (others accepted)
      | detected verdict => rfl
      | reset m_config => rfl
    rw [lastLoad, List.filterMap_append, nothing, List.append_nil, lastLoad]
  refine ⟨?_, ?_⟩
  · rw [Degenerate, region]
    exact kept.degenerate
  · rw [last, flag]
    exact kept.refused

/-- One call. -/
theorem step_kept {answers : List Answer} {d : Detector α} (call : Call) (kept : Kept answers d) :
    Kept (answers ++ (C.step qt d call).2) (C.step qt d call).1 := by
  cases call with
  | load matRead param locate_point => exact C.load_kept qt matRead param locate_point kept
  | update matRead param => exact C.load_kept qt matRead param d.m_locate_root kept
  | detect frame locate_point => exact kept.same (by simp [step]) rfl rfl
  | exec matRead => exact kept.same (by simp [step]) rfl rfl
  | resetParam matRead =>
      obtain ⟨m_config, self, computed⟩ := C.computeParam_frame matRead d
      refine kept.same (by simp [step]) ?_ ?_ <;> simp [step, computed]
  | setLocateRoot locate_point => exact kept.same (by simp [step]) rfl rfl
  | remove => exact kept.same (by simp [step]) rfl rfl

/-- What a run of calls answers. -/
def answers (self : α) (calls : List Call) : List Answer :=
  Machine.outputs (C.step qt) (.start self) calls

/-- Every run. -/
theorem reached_kept (self : α) (calls : List Call) :
    Kept (C.answers qt self calls) (C.reached qt self calls) := by
  refine Machine.run_induction (C.step qt)
    (P := fun h d => Kept (h.flatMap Machine.Transition.outputs) d) ?_ ?_ calls
  · exact ⟨⟨rfl, rfl⟩, fun _ => rfl⟩
  · intro es call kept
    rw [List.flatMap_append, List.flatMap_singleton]
    exact C.step_kept qt call kept

/-! ## Refused configurations -/

/-- Wherever there was a verdict before, it is the same after. -/
def SameVerdicts (before after : Detector α) : Prop :=
  ∀ frame locate_point verdict, C.detect frame locate_point before = some verdict →
    C.detect frame locate_point after = some verdict

/-- After every run, a configuration that is refused changes no verdict exactly under this
condition. -/
def RefusedHarmlessIff (condition : Detector α → Bytes → Prop) : Prop :=
  ∀ self calls matRead param,
    (C.update qt matRead param (C.reached qt self calls)).1 = some false →
    (C.SameVerdicts (C.reached qt self calls)
        (C.update qt matRead param (C.reached qt self calls)).2 ↔
      condition (C.reached qt self calls) param)

/-- After every run, a detector that runs and whose last load was refused has this verdict of every
picture. -/
def UnloadedVerdict (passes : Bool) : Prop :=
  ∀ self calls, lastLoad (C.answers qt self calls) = some (some false) →
    (C.reached qt self calls).m_run = true →
    ∀ frame locate_point,
      C.detect frame locate_point (C.reached qt self calls) = some passes

/-- A detector that is not initialised does not look at the picture. -/
theorem detect_idle {d : Detector α} (idle : d.m_InitOK = false) (frame : Frame)
    (locate_point : Point2d) : C.detect frame locate_point d = some (C.idle d.m_run) := by
  simp [detect, detectWith, idle]

/-- What a refused configuration leaves. -/
theorem update_refused {matRead : Option Frame} {param : Bytes} {d : Detector α}
    (degenerate : Degenerate d) (failed : (C.update qt matRead param d).1 = some false) :
    (C.update qt matRead param d).2.m_run =
        toBoolTrue ((configuration qt param).get (utf8 "run")) ∧
      (C.update qt matRead param d).2.m_InitOK = false := by
  obtain ⟨run, -, refused⟩ := loadWith_leaves degenerate
  exact ⟨run, refused failed⟩

/-- A refused configuration changes no verdict when the detector had the verdict it has of a
picture it does not look at, for the new run flag. -/
theorem refusedHarmless_iff :
    C.RefusedHarmlessIff qt fun d param =>
      C.verdictOf d = C.idle (toBoolTrue ((configuration qt param).get (utf8 "run"))) := by
  intro self calls matRead param failed
  have degenerate := (C.reached_kept qt self calls).degenerate
  obtain ⟨run, uninitialised⟩ := C.update_refused qt degenerate failed
  have after := C.detect_idle uninitialised
  rw [run] at after
  constructor
  · intro same
    -- a gray picture, on which every detector has a verdict
    let gray : Frame := { mat := { cols := 1, rows := 1, pixel := fun _ _ => 0 }, channels := 1 }
    have before := C.detect_gray degenerate gray (Nat.le_refl 1) (by decide) (by decide) ⟨0, 0⟩
    have again := same gray ⟨0, 0⟩ _ before
    rw [after] at again
    exact (Option.some.inj again).symm
  · intro known frame locate_point verdict said
    rw [C.detect_eq_verdictOf degenerate said, known, after]

/-- A detector whose last load was refused is not initialised. -/
theorem unloadedVerdict : C.UnloadedVerdict qt (C.idle true) := by
  intro self calls last run frame locate_point
  have idle := (C.reached_kept qt self calls).refused last
  rw [C.detect_idle idle, run]

theorem RefusedHarmlessIff.congr {C : DetectorClass α} {qt : QtJson}
    {condition condition' : Detector α → Bytes → Prop}
    (harmless : C.RefusedHarmlessIff qt condition)
    (same : ∀ d param, condition d param ↔ condition' d param) :
    C.RefusedHarmlessIff qt condition' :=
  fun self calls matRead param failed => (harmless self calls matRead param failed).trans (same _ _)

/-- Where not running is the one reason to pass, the verdict tells the run flag. -/
theorem verdictOf_not {C : DetectorClass α} (idle : C.idle = fun m_run => !m_run) (d : Detector α)
    (run : Bool) : C.verdictOf d = C.idle run ↔ run = d.m_run := by
  rw [verdictOf, idle]
  cases d.m_run <;> cases d.m_InitOK <;> cases run <;> decide

end DetectorClass

/-- **A refused configuration** of a detector of colours or of a line changes no verdict exactly
when it leaves the run flag as it was, and one of a template detector exactly when the detector
did not look at pictures before; and **an unloaded detector** of colours or of a line never
passes a picture, while one of templates passes every picture. -/
theorem failed_update (qt : QtJson) (library : DtLibrary) :
    ((colorDetector qt library).RefusedHarmlessIff qt fun d param =>
      toBoolTrue ((configuration qt param).get (utf8 "run")) = d.m_run) ∧
    ((lineDetector library).RefusedHarmlessIff qt fun d param =>
      toBoolTrue ((configuration qt param).get (utf8 "run")) = d.m_run) ∧
    ((templateDetector qt library).RefusedHarmlessIff qt fun d _ =>
      ¬ (d.m_run = true ∧ d.m_InitOK = true)) ∧
    (colorDetector qt library).UnloadedVerdict qt false ∧
    (lineDetector library).UnloadedVerdict qt false ∧
    (templateDetector qt library).UnloadedVerdict qt true := by
  refine ⟨?_, ?_, ?_, ?_, ?_, ?_⟩
  · exact ((colorDetector qt library).refusedHarmless_iff qt).congr fun d _ =>
      DetectorClass.verdictOf_not rfl d _
  · exact ((lineDetector library).refusedHarmless_iff qt).congr fun d _ =>
      DetectorClass.verdictOf_not rfl d _
  · refine ((templateDetector qt library).refusedHarmless_iff qt).congr fun d param => ?_
    show (if d.m_run && d.m_InitOK then false else true) = true ↔ _
    cases d.m_run <;> cases d.m_InitOK <;> decide
  · exact (colorDetector qt library).unloadedVerdict qt
  · exact (lineDetector library).unloadedVerdict qt
  · exact (templateDetector qt library).unloadedVerdict qt

/-- A configuration that switches a detector off and has no region. -/
def switchOff : Bytes :=
  QtJson.reference.toJson .Indented (.object [(utf8 "run", .bool false)])

theorem switchOff_config : configuration .reference switchOff = [(utf8 "run", .bool false)] :=
  QtJson.object_of_holds .reference .Indented (by decide +kernel)

theorem switchOff_roi : roiOf (configuration .reference switchOff) = none := by
  simp [switchOff_config, roiOf, JsonObject.get, JsonObject.value, Json.toArray,
    utf8_injective.eq_iff]

theorem switchOff_run :
    toBoolTrue ((configuration .reference switchOff).get (utf8 "run")) = false := by
  simp [switchOff_config, JsonObject.get, JsonObject.value, toBoolTrue]

/-- Every detector refuses it. -/
theorem switchOff_refused {α : Type} (C : DetectorClass α) (d : Detector α) :
    (C.update .reference none switchOff d).1 = some false := by
  simp only [DetectorClass.update, DetectorClass.load, loadWith, switchOff_roi]

/-- Two detectors with exact numbers, and what they are before they are loaded. -/
def plainColor : DetectorClass ColorParams := colorDetector .reference plainLibrary

def plainTemplate : DetectorClass TemplateParams := templateDetector .reference plainLibrary

def noTemplate : TemplateParams := { template_img := none, matching_score_threshold := 0 }

def grayPixel : Frame := { mat := { cols := 1, rows := 1, pixel := fun _ _ => 0 }, channels := 1 }

/-- The theorem at a detector of colours that was never loaded. -/
theorem failed_update_blank :
    plainColor.SameVerdicts (plainColor.reached .reference blankColor.self [])
        (plainColor.update .reference none switchOff
          (plainColor.reached .reference blankColor.self [])).2 ↔
      toBoolTrue ((configuration .reference switchOff).get (utf8 "run")) = true :=
  (failed_update .reference plainLibrary).1 blankColor.self [] none switchOff
    (switchOff_refused plainColor _)

/-- It refuses the configuration, and passes pictures from then on; a template detector that was
refused a configuration without a region passes them, too. -/
theorem refused_switchOff :
    (∃ self calls matRead param,
      (plainColor.update .reference matRead param
        (plainColor.reached .reference self calls)).1 = some false ∧
      ¬ plainColor.SameVerdicts (plainColor.reached .reference self calls)
        (plainColor.update .reference matRead param (plainColor.reached .reference self calls)).2) ∧
    ∃ self calls frame locate_point,
      DetectorClass.lastLoad (plainTemplate.answers .reference self calls) = some (some false) ∧
      (plainTemplate.reached .reference self calls).m_run = true ∧
      plainTemplate.detect frame locate_point (plainTemplate.reached .reference self calls) =
        some true := by
  constructor
  · refine ⟨blankColor.self, [], none, switchOff, switchOff_refused _ _, fun same => ?_⟩
    have degenerate := (plainColor.reached_kept .reference blankColor.self []).degenerate
    obtain ⟨run, idle⟩ := plainColor.update_refused .reference degenerate (switchOff_refused _ _)
    have after := plainColor.detect_idle idle grayPixel ⟨0, 0⟩
    rw [run, switchOff_run, same grayPixel ⟨0, 0⟩ false rfl] at after
    cases after
  · let noRegion : Bytes := QtJson.reference.toJson .Indented (.object [])
    have config : configuration .reference noRegion = [] :=
      QtJson.object_of_holds .reference .Indented (by decide +kernel)
    have region : roiOf (configuration .reference noRegion) = none := by
      rw [config]
      rfl
    have refused : (plainTemplate.update .reference none noRegion (.start noTemplate)).1 =
        some false := by
      simp only [DetectorClass.update, DetectorClass.load, loadWith, region]
    have last : DetectorClass.lastLoad
        (plainTemplate.answers .reference noTemplate [.update none noRegion]) =
          some (some false) :=
      congrArg some refused
    have run : (plainTemplate.reached .reference noTemplate [.update none noRegion]).m_run =
        true := by
      have flag := (plainTemplate.update_refused .reference ⟨rfl, rfl⟩ refused).1
      rw [config] at flag
      exact flag
    exact ⟨noTemplate, [.update none noRegion], grayPixel, ⟨0, 0⟩, last, run,
      plainTemplate.unloadedVerdict .reference noTemplate _ last run grayPixel ⟨0, 0⟩⟩

end IsgConsole.IasCore.Dt
