/-
# IasAgent.DefectEntries — what becomes of the defect entries

The inferences write their entries with `setPositionInfo` as a JSON array; the wrapper
reads an object.  So the `pos_info` of every result is the array of one empty object
(`pos_info_wrapped`), and since no inference writes an empty entry, it is never the list
the inference wrote (`pos_info_lost`).
-/
import IsgConsole.Theory.Loop
import IsgConsole.IasAgent.BatchInfer
import IsgConsole.IasCore.YoloResNetInference
import IsgConsole.IasCore.MixBrandInference
import IsgConsole.IasCore.PatchCoreInference
import IsgConsole.IasCore.DragLineInference

namespace IsgConsole.IasAgent

open IsgConsole.Theory IsgConsole.BaseLib IsgConsole.Inspector IsgConsole.IasCore
open IsgConsole.Theory.Json

set_option autoImplicit false

/-! ## Entries are never empty -/

/-- Every entry has members. -/
def Described (entries : List Json) : Prop := ∀ entry ∈ entries, entry ≠ .object []

theorem Described.nil : Described [] := by
  intro entry there
  cases there

theorem Described.snoc {entries : List Json} (described : Described entries)
    {members : List (Bytes × Json)} (some' : members ≠ []) :
    Described (entries ++ [.objectOf members]) := by
  intro entry there
  rcases List.mem_append.mp there with before | last
  · exact described entry before
  · obtain rfl := List.mem_singleton.mp last
    intro empty
    exact JsonObject.ofInserts_ne_nil some' (Json.object.inj empty)

theorem Described.ne {entries : List Json} (described : Described entries) :
    entries ≠ [.object []] := by
  rintro rfl
  exact described _ List.mem_cons_self rfl

theorem yoloResnet_described {self : YoloResnetInference} {ids : List Int} {images : List Mat}
    {found : YoloResnetInference.Findings} (ran : self.findings ids images = some found) :
    Described found.pos_infoArray := by
  rcases YoloResnetInference.findings_cases ran with
    rfl | ⟨target, rest, more, id, transform, labelJsonObj, classId, -, -, -, rfl⟩
  · exact .nil
  · exact Described.nil.snoc (List.cons_ne_nil _ _)

/-- A turn of the classifying loop adds an entry or nothing. -/
theorem mixBrand_classifyBox {self : MixBrandInference} {images : List Mat}
    {found found' : MixBrandInference.Findings} {indexed : YoloResult × Nat}
    (described : Described found.pos_infoArray)
    (turn : self.classifyBox images found indexed = some found') :
    Described found'.pos_infoArray := by
  unfold MixBrandInference.classifyBox at turn
  obtain ⟨image, -, turn⟩ := Option.bind_eq_some_iff.mp turn
  obtain ⟨crop, -, turn⟩ := Option.bind_eq_some_iff.mp turn
  split at turn
  · obtain ⟨classified, -, turn⟩ := Option.bind_eq_some_iff.mp turn
    dsimp only at turn
    split at turn
    · obtain rfl := Option.some.inj turn
      exact described.snoc (List.cons_ne_nil _ _)
    · obtain rfl := Option.some.inj turn
      exact described
  · obtain rfl := Option.some.inj turn
    exact described

theorem mixBrand_described {self : MixBrandInference} {images : List Mat}
    {found : MixBrandInference.Findings} (ran : self.findings images = some found) :
    Described found.pos_infoArray := by
  unfold MixBrandInference.findings at ran
  split at ran
  · refine Loop.foldlM_keeps (P := fun found => Described found.pos_infoArray) ?_ .nil ran
    intro found boxes found' described turn
    have reported : Described (found.pos_infoArray ++ [MixBrandInference.yolo_posinfoObj boxes]) :=
      described.snoc (List.cons_ne_nil _ _)
    unfold MixBrandInference.judgePicture at turn
    dsimp only at turn
    split at turn
    · refine Loop.foldlM_keeps (P := fun found => Described found.pos_infoArray) ?_ ?_ turn
      · intro found indexed found' described turn
        exact mixBrand_classifyBox described turn
      · exact reported
    · obtain rfl := Option.some.inj turn
      exact reported
  · obtain rfl := Option.some.inj ran
    exact .nil

theorem dragLine_described {self : DragLineInference} {ids : List Int} {images : List Mat}
    {found : DragLineInference.Findings} (ran : self.findings ids images = some found) :
    Described found.pos_infoArray := by
  unfold DragLineInference.findings at ran
  obtain ⟨id, -, ran⟩ := Option.bind_eq_some_iff.mp ran
  obtain ⟨image, -, ran⟩ := Option.bind_eq_some_iff.mp ran
  obtain ⟨crop, -, ran⟩ := Option.bind_eq_some_iff.mp ran
  split at ran
  · obtain rfl := Option.some.inj ran
    unfold DragLineInference.judge
    refine Loop.foldl_keeps
      (P := fun found : DragLineInference.Findings => Described found.pos_infoArray) ?_ ?_
    · intro found indexed described
      exact described.snoc (List.cons_ne_nil _ _)
    · split <;> exact .nil
  · obtain rfl := Option.some.inj ran
    exact .nil

theorem patchCore_described (patchcore_result : PatchCoreResult) :
    Described (PatchCoreInference.pos_infoArray patchcore_result) := by
  unfold PatchCoreInference.pos_infoArray
  split
  · exact .nil
  · exact Described.nil.snoc (List.cons_ne_nil _ _)

/-! ## The wrapper -/

/-- The inference of one picture serialises `entries` and returns `result`. -/
inductive Serialises (qt : QtJson) (id : Int) (images : List Mat) :
    List Json → Option (List BaseAIResult) → Prop where
  | yoloResnet (self : YoloResnetInference) (found : YoloResnetInference.Findings)
      (ran : self.findings [id] images = some found) :
      Serialises qt id images found.pos_infoArray (self.infer qt [id] images)
  | mixBrand (self : MixBrandInference) (found : MixBrandInference.Findings)
      (ran : self.findings images = some found) :
      Serialises qt id images found.pos_infoArray (self.infer qt [id] images)
  | patchCore (self : PatchCoreInference) (patchCore : PatchCore)
      (has : self.m_camera_map id = some patchCore) :
      Serialises qt id images (PatchCoreInference.pos_infoArray (patchCore images))
        (self.infer qt [id] images)
  | dragLine (self : DragLineInference) (found : DragLineInference.Findings)
      (ran : self.findings [id] images = some found) :
      Serialises qt id images found.pos_infoArray (self.infer qt [id] images)

theorem Serialises.described {qt : QtJson} {id : Int} {images : List Mat} {entries : List Json}
    {returned : Option (List BaseAIResult)} (serialises : Serialises qt id images entries returned) :
    Described entries := by
  cases serialises with
  | yoloResnet self found ran => exact yoloResnet_described ran
  | mixBrand self found ran => exact mixBrand_described ran
  | patchCore self patchCore has => exact patchCore_described _
  | dragLine self found ran => exact dragLine_described ran

/-- The entries are in the one result. -/
theorem Serialises.returned {qt : QtJson} {id : Int} {images : List Mat} {entries : List Json}
    {returned : Option (List BaseAIResult)} (serialises : Serialises qt id images entries returned) :
    ∃ result : BaseAIResult, returned = some [result] ∧
      result.m_position_info = positionInfo qt entries := by
  cases serialises with
  | yoloResnet self found ran =>
      refine ⟨⟨found.result, positionInfo qt found.pos_infoArray,
        YoloResnetInference.isgInfo qt found.kickObjArray⟩, ?_, rfl⟩
      simp only [YoloResnetInference.infer, ran]
      rfl
  | mixBrand self found ran =>
      refine ⟨⟨found.result, positionInfo qt found.pos_infoArray, []⟩, ?_, rfl⟩
      simp only [MixBrandInference.infer, ran]
      rfl
  | patchCore self patchCore has =>
      refine ⟨⟨(patchCore images).result, positionInfo qt _, []⟩, ?_, rfl⟩
      simp only [PatchCoreInference.infer, List.head?_cons, Option.bind_eq_bind, Option.bind_some,
        has]
      rfl
  | dragLine self found ran =>
      refine ⟨⟨found.result, positionInfo qt found.pos_infoArray, []⟩, ?_, rfl⟩
      simp only [DragLineInference.infer, ran]
      rfl

/-- Whatever array an inference wrote, the wrapper reads an empty object. -/
theorem pos_info_wrapped (qt : QtJson) (cameraId : Int) {baseResult : BaseAIResult}
    {entries : List Json} (written : baseResult.m_position_info = positionInfo qt entries) :
    (BatchInfer.resultJson qt cameraId baseResult).value (utf8 "pos_info") =
      some (.array [.object []]) := by
  have posDoc : qt.object (qt.toLocal8Bit baseResult.m_position_info) = [] := by
    rw [written]
    exact qt.object_array .Indented entries
  rw [BatchInfer.resultJson, JsonObject.value_ofInserts, posDoc]
  rfl

/-- The text of the one result of a picture has one entry, without members. -/
theorem pos_info_emptied (qt : QtJson) (id : Int) {result : BaseAIResult} {entries : List Json}
    (written : result.m_position_info = positionInfo qt entries) :
    ∃ text, BatchInfer.resultVectorToByteArray qt [id] [result] = some [text] ∧
      (qt.object text).get (utf8 "pos_info") = .array [.object []] := by
  refine ⟨_, rfl, ?_⟩
  rw [JsonObject.get, qt.object_toJson, value_held_object, pos_info_wrapped qt id written]
  rfl

/-- **The entries an inference serialises are never the `pos_info` of the result**, for any
of the four inferences and any run. -/
theorem pos_info_lost (qt : QtJson) {id : Int} {images : List Mat} {entries : List Json}
    {returned : Option (List BaseAIResult)} (serialises : Serialises qt id images entries returned) :
    ∃ results text, returned = some results ∧
      BatchInfer.resultVectorToByteArray qt [id] results = some [text] ∧
      (qt.object text).get (utf8 "pos_info") ≠ .array entries := by
  obtain ⟨result, rfl, written⟩ := serialises.returned
  obtain ⟨text, wrapped, emptied⟩ := pos_info_emptied qt id written
  refine ⟨[result], text, rfl, wrapped, ?_⟩
  rw [emptied]
  intro same
  exact serialises.described.ne (Json.array.inj same).symm

/-- An anomaly, and a detector that finds it in every picture of camera 1. -/
def anomaly : PatchCoreResult := { result := false, ltx := 10, lty := 20, rbx := 30, rby := 40 }

def oneAnomaly : PatchCoreInference :=
  { m_camera_map := fun id => if id = 1 then some fun _ => anomaly else none }

def bottle : Mat := { cols := 100, rows := 100, pixel := fun _ _ => 0 }

theorem oneAnomaly_serialises : Serialises QtJson.reference 1 [bottle]
    (PatchCoreInference.pos_infoArray anomaly)
    (oneAnomaly.infer QtJson.reference [1] [bottle]) :=
  .patchCore oneAnomaly (fun _ => anomaly) rfl

theorem pos_info_lost_oneAnomaly :
    ∃ results text, oneAnomaly.infer QtJson.reference [1] [bottle] = some results ∧
      BatchInfer.resultVectorToByteArray QtJson.reference [1] results = some [text] ∧
      (QtJson.reference.object text).get (utf8 "pos_info") ≠
        .array (PatchCoreInference.pos_infoArray anomaly) :=
  pos_info_lost QtJson.reference oneAnomaly_serialises

/-- The anomaly's entry is replaced by one without members. -/
theorem anomaly_entry_emptied :
    ∃ results text, oneAnomaly.infer QtJson.reference [1] [bottle] = some results ∧
      BatchInfer.resultVectorToByteArray QtJson.reference [1] results = some [text] ∧
      (QtJson.reference.object text).get (utf8 "pos_info") = .array [.object []] ∧
      PatchCoreInference.pos_infoArray anomaly = [PatchCoreInference.pos_infoObj anomaly] ∧
      PatchCoreInference.pos_infoObj anomaly ≠ .object [] := by
  obtain ⟨result, returned, written⟩ := oneAnomaly_serialises.returned
  obtain ⟨text, wrapped, emptied⟩ := pos_info_emptied QtJson.reference 1 written
  exact ⟨[result], text, returned, wrapped, emptied, rfl,
    patchCore_described anomaly _ List.mem_cons_self⟩

end IsgConsole.IasAgent
