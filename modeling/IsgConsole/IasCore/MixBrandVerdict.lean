/-
# IasCore.MixBrandVerdict — a stack of cartons is never passed

The classifier is asked about the crop of one box at a time and answers with one class, and
the class is read at the index of the box.  The second of 25 boxes is therefore read behind
the end of its answer: a stack with all its cartons has no verdict (`infer_judges_iff`).
-/
import IsgConsole.IasCore.MixBrandInference
import IsgConsole.Theory.Loop

namespace IsgConsole.IasCore.MixBrandInference

open IsgConsole.Theory IsgConsole.BaseLib IsgConsole.Inspector IsgConsole.Theory.Json

set_option autoImplicit false

variable {self : MixBrandInference} {image : Mat}

/-! ## The models on one picture -/

/-- The detector answers with one list of boxes for the picture it is shown. -/
def OneList (self : MixBrandInference) (image : Mat) : Prop :=
  ∀ yoloResult, self.yolo_model [image] = (true, yoloResult) → ∃ boxes, yoloResult = [boxes]

/-- The classifier answers with one class for the crop it is shown. -/
def OneClass (self : MixBrandInference) : Prop :=
  ∀ crop, ∃ classified, self.resnet_model [crop] = (true, [classified])

/-- The class of the box's own crop is not marked defective. -/
def Sound (self : MixBrandInference) (image : Mat) (target : YoloResult) : Prop :=
  ∃ crop classified, image.crop (cropRect image target.box) = some crop ∧
    self.resnet_model [crop] = (true, [classified]) ∧
    ((labelJson self.label_array classified.classId).get (utf8 "isDefective")).toBool = false

/-- The picture shows 25 boxes, all of them sound. -/
def WholeStack (self : MixBrandInference) (image : Mat) : Prop :=
  ∃ boxes, self.yolo_model [image] = (true, [boxes]) ∧ boxes.length = 25 ∧
    ∀ target ∈ boxes, Sound self image target

/-- What `infer` is for: it returns, and passes the picture of a whole stack. -/
def Judges (self : MixBrandInference) (qt : QtJson) (id : Int) (image : Mat) : Prop :=
  ∃ r, self.infer qt [id] [image] = some [r] ∧ (r.m_result = true ↔ WholeStack self image)

/-! ## The classifying loop -/

/-- The answer for one crop has no element at the index of a later box. -/
theorem classifyBox_late (classifies : OneClass self) (target : YoloResult) (n : Nat)
    (found : Findings) : self.classifyBox [image] found (target, n + 1) = none := by
  unfold classifyBox
  simp only [List.head?_cons, Option.bind_eq_bind, Option.bind_some]
  rw [Option.bind_eq_none_iff]
  intro crop _
  obtain ⟨classified, answer⟩ := classifies crop
  rw [answer]
  rfl

/-- A picture with two boxes or more is not classified to its end. -/
theorem classify_none (classifies : OneClass self) {boxes : List YoloResult}
    (several : 1 < boxes.length) (found : Findings) :
    boxes.zipIdx.foldlM (self.classifyBox [image]) found = none := by
  refine Loop.foldlM_none (x := (boxes[1], 1)) (classifyBox_late classifies _ 0) ?_ found
  exact List.mk_mem_zipIdx_iff_getElem?.mpr (List.getElem?_eq_getElem several)

/-- What the loops make of the boxes of a picture. -/
theorem findings_boxes (classifies : OneClass self) {boxes : List YoloResult}
    (detected : self.yolo_model [image] = (true, [boxes])) :
    self.findings [image] =
      if boxes.length = 25 then none
      else some { result := false, pos_infoArray := [yolo_posinfoObj boxes] } := by
  rw [findings, detected]
  dsimp only
  rw [List.foldlM_cons, judgePicture]
  by_cases whole : boxes.length = 25
  · have several : 1 < boxes.length := by omega
    simp only [whole, decide_true, if_true, classify_none classifies several]
    rfl
  · simp only [whole, decide_false, if_false]
    rfl

/-- **Each box is judged by its own classification** only where there is none to judge: the
detector runs, and finds another number of boxes than 25. -/
theorem infer_judges_iff (qt : QtJson) (id : Int) (detects : OneList self image)
    (classifies : OneClass self) :
    Judges self qt id image ↔
      ∃ boxes, self.yolo_model [image] = (true, [boxes]) ∧ boxes.length ≠ 25 := by
  rcases answer : self.yolo_model [image] with ⟨_ | _, yoloResult⟩
  · -- without the detector the verdict stays good, and there is no stack
    have found : self.findings [image] = some { result := true, pos_infoArray := [] } := by
      rw [findings, answer]
    have passed : ∀ r, self.infer qt [id] [image] = some [r] → r.m_result = true := by
      intro r ran
      simp only [infer, List.length_cons, List.length_nil, found] at ran
      simp at ran
      rw [← ran]
    refine iff_of_false ?_ (by simp)
    rintro ⟨r, ran, verdict⟩
    obtain ⟨boxes, detected, -⟩ := verdict.mp (passed r ran)
    simp [answer] at detected
  · obtain ⟨boxes, rfl⟩ := detects yoloResult answer
    have found := findings_boxes classifies answer
    by_cases whole : boxes.length = 25
    · rw [if_pos whole] at found
      refine iff_of_false ?_ (by simp [whole])
      rintro ⟨r, ran, -⟩
      simp [infer, found] at ran
    · rw [if_neg whole] at found
      refine iff_of_true ?_ ⟨boxes, rfl, whole⟩
      refine ⟨_, by simp [infer, found]; rfl, ?_⟩
      refine iff_of_false Bool.false_ne_true ?_
      rintro ⟨boxes', detected, whole', -⟩
      obtain rfl : boxes = boxes' := by simpa [answer] using detected
      exact whole whole'

/-- A detector that finds so many boxes, and a classifier that finds them sound. -/
def stackOf (n : Nat) : MixBrandInference :=
  { yolo_model := fun images => (true, images.map fun _ =>
      List.replicate n { classId := 0, conf := .ofInt 1,
                         box := { x := 10, y := 10, width := 20, height := 20 } })
    resnet_model := fun crops => (true, crops.map fun _ => { classId := 0 })
    label_array := [] }

theorem stackOf_oneList (n : Nat) (image : Mat) : OneList (stackOf n) image :=
  fun _ answer => ⟨_, (Prod.mk.inj answer).2.symm⟩

theorem stackOf_oneClass (n : Nat) : OneClass (stackOf n) := fun _ => ⟨_, rfl⟩

def cartons : Mat := { cols := 100, rows := 100, pixel := fun _ _ => 0 }

/-- The theorem at a stack of which 24 cartons are seen. -/
theorem infer_judges_stackOf :
    Judges (stackOf 24) .reference 1 cartons ↔
      ∃ boxes, (stackOf 24).yolo_model [cartons] = (true, [boxes]) ∧ boxes.length ≠ 25 :=
  infer_judges_iff .reference 1 (stackOf_oneList 24 cartons) (stackOf_oneClass 24)

/-- A stack of 25 sound cartons is not passed: the class of the second one is read behind the
end of the classifier's answer. -/
theorem whole_stack_unjudged :
    ∃ (self : MixBrandInference) (image : Mat), OneList self image ∧ OneClass self ∧
      WholeStack self image ∧ ¬ Judges self .reference 1 image := by
  have detected : (stackOf 25).yolo_model [cartons] = (true, [_]) := rfl
  refine ⟨stackOf 25, cartons, stackOf_oneList 25 cartons, stackOf_oneClass 25,
    ⟨_, detected, rfl, fun target there => ?_⟩, ?_⟩
  · obtain rfl := List.eq_of_mem_replicate there
    exact ⟨_, _, rfl, rfl, rfl⟩
  · rintro ⟨r, ran, -⟩
    have found := findings_boxes (stackOf_oneClass 25) detected
    simp [infer, found] at ran

end IsgConsole.IasCore.MixBrandInference
