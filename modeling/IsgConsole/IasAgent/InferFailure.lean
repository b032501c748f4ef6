/-
# IasAgent.InferFailure — what an inference says when a model fails

A detector or a classifier may answer that it did not run.  The verdict of each inference starts
as good and is lowered only where a model has run, so a failure leaves it as it is.

* `verdict_of_failure` — **which failures are reported as a fault**: of a stack of cartons, when
  the models have found another; of the other inferences none.
-/
import IsgConsole.IasAgent.BatchInfer
import IsgConsole.IasCore.DragLineInference
import IsgConsole.IasCore.MixBrandInference
import IsgConsole.IasCore.YoloResNetInference

namespace IsgConsole.IasAgent

open IsgConsole.Theory IsgConsole.BaseLib IsgConsole.Inspector IsgConsole.IasCore
open IsgConsole.Theory.Json

set_option autoImplicit false

namespace InferFailure

/-! ## Shredded tobacco -/

section Yolo

open YoloResnetInference

variable {self : YoloResnetInference} {id : Int} {image : Mat}

/-- The detector does not run, or finds a box and the classifier does not run on it. -/
def YoloFails (self : YoloResnetInference) (image : Mat) : Prop :=
  (self.yolo_model [image]).1 = false ∨
    ∃ target rest more crop, self.yolo_model [image] = (true, (target :: rest) :: more) ∧
      image.crop (cropRect image target.box) = some crop ∧ (self.resnet_model [crop]).1 = false

theorem yolo_findings_of_fails (fails : YoloFails self image) :
    self.findings [id] [image] = some .nothing := by
  unfold YoloResnetInference.findings
  rcases fails with detector | ⟨target, rest, more, crop, detected, region, classifier⟩
  · cases answer : self.yolo_model [image] with
    | mk ran boxes =>
        rw [answer] at detector
        obtain rfl : ran = false := detector
        rfl
  · cases answer : self.resnet_model [crop] with
    | mk ran classes =>
        rw [answer] at classifier
        obtain rfl : ran = false := classifier
        simp [detected, region, answer]

end Yolo

/-! ## Tear lines -/

section DragLine

variable {self : DragLineInference} {id : Int} {image : Mat}

/-- The detector does not run on what it is shown. -/
def DragLineFails (self : DragLineInference) (id : Int) (image : Mat) : Prop :=
  let detect_area := DragLineInference.enlarged (self.detect_area id)
  ∃ crop, image.crop detect_area = some crop ∧
    (self.yolo_model (DragLineInference.asked detect_area [image] crop)).1 = false

theorem dragLine_findings_of_fails (fails : DragLineFails self id image) :
    self.findings [id] [image] = some { result := true, paramsObj := [], pos_infoArray := [] } := by
  obtain ⟨crop, region, detector⟩ := fails
  cases answer : self.yolo_model
      (DragLineInference.asked (DragLineInference.enlarged (self.detect_area id)) [image] crop) with
  | mk ran boxes =>
      rw [answer] at detector
      obtain rfl : ran = false := detector
      simp [DragLineInference.findings, region, answer]

end DragLine

/-! ## Stacks of cartons -/

section MixBrand

open MixBrandInference

variable {self : MixBrandInference} {id : Int} {image : Mat}

/-- The detector does not run, or finds 25 boxes and the classifier does not run on one of them. -/
def MixBrandFails (self : MixBrandInference) (image : Mat) : Prop :=
  (self.yolo_model [image]).1 = false ∨
    ∃ yoloResult boxes target crop, self.yolo_model [image] = (true, yoloResult) ∧
      boxes ∈ yoloResult ∧ boxes.length = 25 ∧ target ∈ boxes ∧
      image.crop (cropRect image target.box) = some crop ∧ (self.resnet_model [crop]).1 = false

/-- The classifier runs on the box and finds it defective. -/
def Defective (self : MixBrandInference) (image : Mat) (indexed : YoloResult × Nat) : Prop :=
  ∃ crop resnetResult classified, image.crop (cropRect image indexed.1.box) = some crop ∧
    self.resnet_model [crop] = (true, resnetResult) ∧
    resnetResult[indexed.2]? = some classified ∧
    ((labelJson self.label_array classified.classId).get (utf8 "isDefective")).toBool = true

/-- The verdict on the boxes of a picture is lowered. -/
def Lowers (self : MixBrandInference) (image : Mat) (boxes : List YoloResult) : Prop :=
  boxes.length ≠ 25 ∨ ∃ indexed ∈ boxes.zipIdx, Defective self image indexed

/-- The detector runs, and the verdict on the last picture it answers for is lowered. -/
def MixBrandLowered (self : MixBrandInference) (image : Mat) : Prop :=
  ∃ others boxes, self.yolo_model [image] = (true, others ++ [boxes]) ∧ Lowers self image boxes

/-- A box lowers the verdict when it is found defective. -/
theorem classifyBox_cases {found found' : Findings} {indexed : YoloResult × Nat}
    (ran : self.classifyBox [image] found indexed = some found') :
    Defective self image indexed ∧ found'.result = false ∨
      ¬ Defective self image indexed ∧ found' = found := by
  obtain ⟨target, result_index⟩ := indexed
  unfold classifyBox at ran
  simp only [List.head?_cons, Option.bind_eq_bind, Option.bind_some] at ran
  obtain ⟨crop, region, ran⟩ := Option.bind_eq_some_iff.mp ran
  cases answer : self.resnet_model [crop] with
  | mk runs resnetResult =>
      rw [answer] at ran
      cases runs with
      | false =>
          refine .inr ⟨?_, (Option.some.inj ran).symm⟩
          rintro ⟨crop', _, _, region', ran', -⟩
          obtain rfl : crop = crop' := Option.some.inj (region.symm.trans region')
          simp [answer] at ran'
      | true =>
          obtain ⟨classified, read, ran⟩ := Option.bind_eq_some_iff.mp ran
          split at ran
          case isTrue defective =>
            obtain rfl := Option.some.inj ran
            exact .inl ⟨⟨crop, resnetResult, classified, region, answer, read, defective⟩, rfl⟩
          case isFalse sound =>
            refine .inr ⟨?_, (Option.some.inj ran).symm⟩
            rintro ⟨crop', resnetResult', classified', region', ran', read', defective⟩
            obtain rfl : crop = crop' := Option.some.inj (region.symm.trans region')
            obtain rfl : resnetResult = resnetResult' := by simpa [answer] using ran'
            obtain rfl : classified = classified' := Option.some.inj (read.symm.trans read')
            exact sound defective

/-- The classifying loop lowers the verdict when one box is defective. -/
theorem foldlM_classifyBox {boxes : List (YoloResult × Nat)} {found found' : Findings}
    (ran : boxes.foldlM (self.classifyBox [image]) found = some found') :
    found'.result = false ↔
      found.result = false ∨ ∃ indexed ∈ boxes, Defective self image indexed := by
  induction boxes generalizing found with
  | nil =>
      obtain rfl := Option.some.inj ran
      simp
  | cons indexed boxes ih =>
      rw [List.foldlM_cons] at ran
      obtain ⟨next, first, ran⟩ := Option.bind_eq_some_iff.mp ran
      rw [ih ran]
      rcases classifyBox_cases first with ⟨defective, lowered⟩ | ⟨sound, rfl⟩
      · simp [lowered, defective]
      · simp [sound]

theorem judgePicture_result {boxes : List YoloResult} {found found' : Findings}
    (ran : self.judgePicture [image] found boxes = some found') :
    found'.result = false ↔ Lowers self image boxes := by
  unfold judgePicture at ran
  dsimp only at ran
  by_cases whole : boxes.length = 25
  · simp only [whole, decide_true, if_true] at ran
    rw [foldlM_classifyBox ran]
    simp [Lowers, whole]
  · simp only [whole, decide_false] at ran
    obtain rfl := Option.some.inj ran
    simp [Lowers, whole]

/-- The last picture decides. -/
theorem mixBrand_findings_result {found : Findings}
    (ran : self.findings [image] = some found) :
    found.result = false ↔ MixBrandLowered self image := by
  unfold MixBrandInference.findings at ran
  cases answer : self.yolo_model [image] with
  | mk runs yoloResult =>
      rw [answer] at ran
      cases runs with
      | false =>
          obtain rfl := Option.some.inj ran
          simp [MixBrandLowered, answer]
      | true =>
          rcases List.eq_nil_or_concat yoloResult with rfl | ⟨others, boxes, rfl⟩
          · obtain rfl := Option.some.inj ran
            simp [MixBrandLowered, answer]
          · rw [List.concat_eq_append] at ran answer
            dsimp only at ran
            rw [List.foldlM_append] at ran
            obtain ⟨before, -, last⟩ := Option.bind_eq_some_iff.mp ran
            rw [List.foldlM_cons] at last
            obtain ⟨found', judged, this⟩ := Option.bind_eq_some_iff.mp last
            obtain rfl := Option.some.inj this
            rw [judgePicture_result judged]
            simp [MixBrandLowered, answer]

end MixBrand

/-! ## The three inferences -/

inductive Pipeline where
  | yoloResnet (self : YoloResnetInference)
  | mixBrand (self : MixBrandInference)
  | dragLine (self : DragLineInference)

namespace Pipeline

def infer (qt : QtJson) : Pipeline → List Int → List Mat → Option (List BaseAIResult)
  | .yoloResnet self => self.infer qt
  | .mixBrand self => self.infer qt
  | .dragLine self => self.infer qt

/-- A model the verdict on the picture depends on does not run. -/
def Fails (id : Int) (image : Mat) : Pipeline → Prop
  | .yoloResnet self => YoloFails self image
  | .mixBrand self => MixBrandFails self image
  | .dragLine self => DragLineFails self id image

/-- What the models that do run make of the picture lowers the verdict all the same. -/
def Lowered (image : Mat) : Pipeline → Prop
  | .mixBrand self => MixBrandLowered self image
  | _ => False

/-- The inference of a channel that has loaded its models. -/
def batchInfer (qt : QtJson) (m_channelID : UInt32) (p : Pipeline) : BatchInfer :=
  { m_channelID := m_channelID, m_bInitOK := true, m_aiInference := p.infer qt }

theorem infer_of_fails {qt : QtJson} {p : Pipeline} {id : Int} {image : Mat} {r : BaseAIResult}
    (fails : p.Fails id image) (ran : p.infer qt [id] [image] = some [r]) :
    r.m_result = false ↔ p.Lowered image := by
  cases p with
  | yoloResnet self =>
      have found : self.findings [id] [image] = some .nothing := yolo_findings_of_fails fails
      simp only [infer, YoloResnetInference.infer, found] at ran
      obtain rfl := List.singleton_inj.mp (Option.some.inj ran)
      exact iff_of_false (by simp [YoloResnetInference.Findings.nothing]) not_false
  | dragLine self =>
      have found : self.findings [id] [image] = _ := dragLine_findings_of_fails fails
      simp only [infer, DragLineInference.infer, found] at ran
      obtain rfl := List.singleton_inj.mp (Option.some.inj ran)
      exact iff_of_false (by simp) not_false
  | mixBrand self =>
      simp only [infer, MixBrandInference.infer] at ran
      obtain ⟨found, searched, ran⟩ := Option.bind_eq_some_iff.mp ran
      obtain rfl := List.singleton_inj.mp (Option.some.inj ran)
      exact mixBrand_findings_result searched

/-- One picture, one result. -/
theorem infer_single {qt : QtJson} {p : Pipeline} {id : Int} {image : Mat}
    {results : List BaseAIResult} (ran : p.infer qt [id] [image] = some results) :
    ∃ r, results = [r] := by
  cases p with
  | yoloResnet self | mixBrand self | dragLine self =>
      obtain ⟨found, -, ran⟩ := Option.bind_eq_some_iff.mp ran
      exact ⟨_, (Option.some.inj ran).symm⟩

end Pipeline

/-! ## A group of one picture -/

/-- A group of one picture. -/
def onePicture (objectId : UInt64) (cameraId : UInt32) (imageId : UInt64) (image : Mat)
    (genTimeStamp : Int) : ImageGroupData :=
  { objectId := objectId, cameraIdVector := [cameraId], imageIdVector := [imageId],
    imageDataVector := [image], genTimeStamp := genTimeStamp }

/-- The picture comes out good or faulty as its result says. -/
theorem onImageGroup_onePicture {self : BatchInfer} {qt : QtJson} (loaded : self.m_bInitOK = true)
    {objectId imageId : UInt64} {cameraId : UInt32} {image : Mat} {genTimeStamp : Int}
    {iasResult : ImageIasResult}
    (emitted : self.onImageGroup qt (onePicture objectId cameraId imageId image genTimeStamp) =
      some [iasResult]) :
    ∃ results r, self.m_aiInference [cameraId.toInt32.toInt] [image] = some results ∧
      results[0]? = some r ∧
      iasResult.result = if r.m_result then RESULT_OK else RESULT_NG := by
  unfold BatchInfer.onImageGroup at emitted
  rw [if_neg (by simp [loaded])] at emitted
  obtain ⟨images, pictures, emitted⟩ := Option.bind_eq_some_iff.mp emitted
  obtain rfl : [image] = images := Option.some.inj pictures
  obtain ⟨results, inferred, emitted⟩ := Option.bind_eq_some_iff.mp emitted
  obtain ⟨texts, -, emitted⟩ := Option.bind_eq_some_iff.mp emitted
  -- The loop over the cameras has one turn.
  change List.mapM _ [(cameraId, 0)] = some [iasResult] at emitted
  rw [List.mapM_cons] at emitted
  obtain ⟨only, turn, emitted⟩ := Option.bind_eq_some_iff.mp emitted
  obtain rfl := List.singleton_inj.mp (Option.some.inj emitted)
  obtain ⟨r, read, turn⟩ := Option.bind_eq_some_iff.mp turn
  obtain ⟨text, -, turn⟩ := Option.bind_eq_some_iff.mp turn
  obtain ⟨name, -, turn⟩ := Option.bind_eq_some_iff.mp turn
  obtain rfl := Option.some.inj turn
  exact ⟨results, r, inferred, read, rfl⟩

/-- **What an inference says when a model fails.**  The picture is reported as faulty only where
the models that do run lower the verdict all the same. -/
theorem verdict_of_failure (qt : QtJson) (p : Pipeline) (image : Mat) :
    (∀ id r, p.Fails id image → p.infer qt [id] [image] = some [r] →
      (r.m_result = false ↔ p.Lowered image)) ∧
    (∀ m_channelID objectId cameraId imageId genTimeStamp iasResult,
      p.Fails cameraId.toInt32.toInt image →
      (p.batchInfer qt m_channelID).onImageGroup qt
        (onePicture objectId cameraId imageId image genTimeStamp) = some [iasResult] →
      (iasResult.result ≠ RESULT_OK ↔ p.Lowered image)) := by
  constructor
  · intro id r fails ran
    exact Pipeline.infer_of_fails fails ran
  · intro m_channelID objectId cameraId imageId genTimeStamp iasResult fails emitted
    obtain ⟨results, r, inferred, first, verdict⟩ := onImageGroup_onePicture rfl emitted
    obtain ⟨only, rfl⟩ := Pipeline.infer_single inferred
    obtain rfl : only = r := Option.some.inj first
    rw [← Pipeline.infer_of_fails fails inferred, verdict]
    cases only.m_result <;> decide

/-! ## Detectors that do not run -/

def blindDetector : Yolov5 := fun _ => (false, [])

def blindClassifier : ResNet := fun _ => (false, [])

def blindYolo : Pipeline :=
  .yoloResnet { yolo_model := blindDetector, resnet_model := blindClassifier, label_array := [],
                m_transform_map := fun _ => none }

def blindMixBrand : Pipeline :=
  .mixBrand { yolo_model := blindDetector, resnet_model := blindClassifier, label_array := [] }

def blindDragLine : Pipeline :=
  .dragLine { yolo_model := blindDetector, Camera_Params := []
              detect_area := fun _ => { x := 30, y := 30, width := 20, height := 20 } }

def plainImage : Mat := { cols := 100, rows := 100, pixel := fun _ _ => 0 }

/-- The verdicts an inference reaches on the picture. -/
def verdicts (p : Pipeline) : Option (List Bool) :=
  (p.infer QtJson.reference [1] [plainImage]).map (List.map BaseAIResult.m_result)

/-- What becomes of the picture in a group. -/
def emittedResults (p : Pipeline) : Option (List Int) :=
  ((p.batchInfer QtJson.reference 7).onImageGroup QtJson.reference
    (onePicture 1 1 257 plainImage 0)).map (List.map ImageIasResult.result)

/-- A picture no model has looked at is good. -/
theorem unseen_passes :
    (blindYolo.Fails 1 plainImage ∧ verdicts blindYolo = some [true] ∧
      emittedResults blindYolo = some [RESULT_OK]) ∧
    (blindMixBrand.Fails 1 plainImage ∧ verdicts blindMixBrand = some [true] ∧
      emittedResults blindMixBrand = some [RESULT_OK]) ∧
    (blindDragLine.Fails 1 plainImage ∧ verdicts blindDragLine = some [true] ∧
      emittedResults blindDragLine = some [RESULT_OK]) := by
  refine ⟨⟨.inl rfl, rfl, rfl⟩, ⟨.inl rfl, rfl, rfl⟩, ⟨⟨_, rfl, rfl⟩, rfl, rfl⟩⟩

theorem blindYolo_not_reported :
    blindYolo.Fails 1 plainImage ∧
      ∃ r, blindYolo.infer QtJson.reference [1] [plainImage] = some [r] ∧ r.m_result ≠ false := by
  have fails : blindYolo.Fails 1 plainImage := .inl rfl
  refine ⟨fails, _, rfl, fun lowered => ?_⟩
  exact ((verdict_of_failure QtJson.reference blindYolo plainImage).1 1 _ fails rfl).mp lowered

end InferFailure

end IsgConsole.IasAgent
