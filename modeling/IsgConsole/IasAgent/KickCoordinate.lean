/-
# IasAgent.KickCoordinate — the point to kick at, from the inference to the PLC

`YoloResnetInference` writes the points to kick at as an array under `kick_coordinate`,
`BatchInfer` wraps the text, and `CImageMultipler` reads `kick_coordinate` as an object.
So the PLC is told to kick at (0, 0) for every defect (`kickPoint_zero`), which is the
image of the box centre only if that lies there (`kick_at_centre_iff`).
-/
import Mathlib.Tactic.NormNum
import IsgConsole.IasAgent.BatchInfer
import IsgConsole.IasCore.YoloResNetInference
import IsgConsole.Multipler.ImageMultipler

namespace IsgConsole.IasAgent

open IsgConsole.Theory IsgConsole.BaseLib IsgConsole.Inspector IsgConsole.IasCore
open IsgConsole.IopAgent IsgConsole.Multipler IsgConsole.Theory.Json

set_option autoImplicit false

/-! ## The text of a defect -/

theorem pointJson_ascii (x y : Int) : AsciiValue (pointJson x y) := by
  refine .objectOf ?_ ?_
  · simp only [List.forall_mem_cons]
    exact ⟨by decide, by decide, nofun⟩
  · simp only [List.forall_mem_cons]
    exact ⟨.number _, .number _, nofun⟩

/-- The text of the points passes the local codec unchanged, and the reader finds an array. -/
theorem isgInfo_object (qt : QtJson) {kickObjArray : List Json} (some' : kickObjArray ≠ [])
    (ascii : ∀ v ∈ kickObjArray, AsciiValue v) :
    qt.object (qt.toLocal8Bit (YoloResnetInference.isgInfo qt kickObjArray)) =
      [(utf8 "kick_coordinate", .array (kickObjArray.map (held qt.round)))] := by
  have value : AsciiValue (.objectOf [(utf8 "kick_coordinate", .array kickObjArray)]) := by
    refine .objectOf ?_ ?_
    · simp only [List.forall_mem_cons]
      exact ⟨by decide, nofun⟩
    · simp only [List.forall_mem_cons]
      exact ⟨.array ascii, nofun⟩
  rw [YoloResnetInference.isgInfo, if_neg some',
    qt.toLocal8Bit_of_ascii (qt.toJson_ascii .Indented _ value)]
  refine (qt.object_toJson .Indented _).trans ?_
  rw [← heldElements_eq]
  rfl

/-- The handler finds the wrapped points where it looks, but reads their array as an
object. -/
theorem kickPoint_zero (qt : QtJson) (cameraId : Int) {baseResult : BaseAIResult}
    {kickObjArray : List Json} (some' : kickObjArray ≠ [])
    (ascii : ∀ v ∈ kickObjArray, AsciiValue v)
    (written : baseResult.m_isg_info = YoloResnetInference.isgInfo qt kickObjArray)
    {jsonData : Bytes} (read : qt.object jsonData =
      (held qt.round (.object (BatchInfer.resultJson qt cameraId baseResult))).toObject) :
    CImageMultipler.kickPoint qt jsonData = some (0, 0) := by
  have isgDoc : qt.object (qt.toLocal8Bit baseResult.m_isg_info) =
      [(utf8 "kick_coordinate", .array (kickObjArray.map (held qt.round)))] := by
    rw [written]
    exact isgInfo_object qt some' ascii
  have member : (BatchInfer.resultJson qt cameraId baseResult).value (utf8 "isg_info") =
      some (.array [.object [(utf8 "kick_coordinate",
        .array (kickObjArray.map (held qt.round)))]]) := by
    rw [BatchInfer.resultJson, JsonObject.value_ofInserts, isgDoc]
    rfl
  have isg_info := value_held_object qt.round (utf8 "isg_info")
    (BatchInfer.resultJson qt cameraId baseResult)
  rw [← read, member] at isg_info
  rw [CImageMultipler.kickPoint, isg_info]
  rfl

/-! ## The kick -/

/-- The points the PLC is told among the outputs of a step. -/
def writesIn (outputs : List Output) : List (Int × Int) :=
  outputs.filterMap fun
    | .writeData x y => some (x, y)
    | _ => none

@[simp] theorem writesIn_append (a b : List Output) :
    writesIn (a ++ b) = writesIn a ++ writesIn b :=
  List.filterMap_append

@[simp] theorem writesIn_report (imageRecord : ImageResultRecord) (a : List Output) :
    writesIn (.sendImageResultToPolicyStore imageRecord :: a) = writesIn a := rfl

@[simp] theorem writesIn_signal (env : Surroundings) (imageRecord : ImageResultRecord) :
    writesIn (CImageMultipler.signal env imageRecord) = [] := by
  unfold CImageMultipler.signal
  split <;> rfl

/-- A result of a recorded image writes what its kick writes. -/
theorem writesIn_served {cfg : ImageMultiplerConfig} {qt : QtJson} {s : CImageMultipler}
    {env : Surroundings} {iasResult : ImageIasResult} (camera : iasResult.cameraId = cfg.id)
    (recorded : iasResult.imageId ∈ s.m_imageResultRecord) :
    writesIn (s.onImageIasResult cfg qt env iasResult).2 =
      writesIn (CImageMultipler.kick qt env iasResult) := by
  obtain ⟨stored, held⟩ := Option.isSome_iff_exists.mp (AList.lookup_isSome.mpr recorded)
  simp only [CImageMultipler.onImageIasResult, if_neg (not_not_intro camera), held]
  by_cases single : cfg.m_IasCount ≤ 1
  · simp [if_pos single]
  · simp only [if_neg single]
    cases s.m_imageIasIdRecord.lookup iasResult.imageId with
    | none => rfl
    | some count =>
        by_cases more : count + 1 < cfg.m_IasCount
        · simp only [if_pos more]
        · simp [if_neg more]

/-- Kicking is enabled. -/
structure KickEnabled (env : Surroundings) : Prop where
  plc : env.plc
  pcp : env.pcp
  enable : env.kickEnable

/-- A group of one picture. -/
def single (objectId : UInt64) (cameraId : UInt32) (imageId : UInt64) (image : Mat)
    (genTimeStamp : Int) : ImageGroupData :=
  { objectId := objectId, cameraIdVector := [cameraId], imageIdVector := [imageId],
    imageDataVector := [image], genTimeStamp := genTimeStamp }

section Chain

variable (qt : QtJson) (inference : YoloResnetInference) (m_channelID : UInt32)

/-- The channel whose inference is loaded. -/
def channel : BatchInfer :=
  { m_channelID := m_channelID, m_bInitOK := true, m_aiInference := inference.infer qt }

/-- What the channel emits for a picture with findings. -/
theorem channel_emits {cameraId : UInt32} {image : Mat} {found : YoloResnetInference.Findings}
    (ran : inference.findings [cameraId.toInt32.toInt] [image] = some found)
    (objectId imageId : UInt64) (genTimeStamp : Int) :
    ∃ iasResult, (channel qt inference m_channelID).onImageGroup qt
        (single objectId cameraId imageId image genTimeStamp) = some [iasResult] ∧
      iasResult.cameraId = cameraId ∧ iasResult.imageId = imageId ∧
      iasResult.result = (if found.result then RESULT_OK else RESULT_NG) ∧
      qt.object iasResult.jsonData =
        (held qt.round (.object (BatchInfer.resultJson qt cameraId.toInt32.toInt
          { m_result := found.result
            m_position_info := positionInfo qt found.pos_infoArray
            m_isg_info := YoloResnetInference.isgInfo qt found.kickObjArray }))).toObject := by
  have returned : inference.infer qt [cameraId.toInt32.toInt] [image] =
      some [{ m_result := found.result
              m_position_info := positionInfo qt found.pos_infoArray
              m_isg_info := YoloResnetInference.isgInfo qt found.kickObjArray }] := by
    simp only [YoloResnetInference.infer, ran]
    rfl
  refine ⟨{ objectId := objectId, cameraId := cameraId, imageId := imageId, iasType := IAS_AI,
            channelID := m_channelID, result := if found.result then RESULT_OK else RESULT_NG,
            jsonData := _ }, ?_, rfl, rfl, rfl, qt.object_toJson .Compact _⟩
  simp [BatchInfer.onImageGroup, channel, single, BatchInfer.resultVectorToByteArray, returned]

/-- The centre of a box. -/
def centre (box : Rect) : Point2f :=
  { x := ((box.left + box.right : Int) : ℚ) / 2, y := ((box.top + box.bottom : Int) : ℚ) / 2 }

/-- The integer part of a point. -/
def integerPart (p : Point2f) : Int × Int := (truncate p.x, truncate p.y)

/-- A defect makes the PLC kick at (0, 0). -/
theorem kick_at_zero {cameraId : UInt32} {image : Mat} {found : YoloResnetInference.Findings}
    (ran : inference.findings [cameraId.toInt32.toInt] [image] = some found)
    (defect : found.result = false) (objectId imageId : UInt64) (genTimeStamp : Int) :
    ∃ iasResult, (channel qt inference m_channelID).onImageGroup qt
        (single objectId cameraId imageId image genTimeStamp) = some [iasResult] ∧
      ∀ (cfg : ImageMultiplerConfig) (s : CImageMultipler) (env : Surroundings),
        cfg.id = cameraId → imageId ∈ s.m_imageResultRecord → KickEnabled env →
        writesIn (s.onImageIasResult cfg qt env iasResult).2 = [(0, 0)] := by
  obtain ⟨iasResult, emitted, camera, picture, result, read⟩ :=
    channel_emits qt inference m_channelID ran objectId imageId genTimeStamp
  refine ⟨iasResult, emitted, ?_⟩
  rintro cfg s env rfl recorded ⟨plc, pcp, enable⟩
  have ng : iasResult.result = RESULT_NG := by
    rw [result, defect]
    rfl
  have asks : CImageMultipler.kickPoint qt iasResult.jsonData = some (0, 0) := by
    rcases YoloResnetInference.findings_cases ran with
      rfl | ⟨target, rest, more, id, T, labelJsonObj, classId, -, -, -, rfl⟩
    · cases defect
    · refine kickPoint_zero qt _ (List.cons_ne_nil _ _) ?_ rfl read
      intro v there
      obtain rfl := List.mem_singleton.mp there
      exact pointJson_ascii _ _
  rw [writesIn_served camera (picture ▸ recorded), CImageMultipler.kick,
    if_pos ⟨ng, plc, pcp, enable⟩, asks]
  rfl

/-- The inference reports a box as a defect, and `T` is the transform of the camera. -/
structure Reports (cameraId : UInt32) (image : Mat) (box : Rect) (T : Point2f → Point2f) :
    Prop where
  detected : ∃ target rest more,
    inference.yolo_model [image] = (true, (target :: rest) :: more) ∧ target.box = box
  transform : inference.m_transform_map cameraId.toInt32.toInt = some T
  defective : ∃ found, inference.findings [cameraId.toInt32.toInt] [image] = some found ∧
    found.result = false

/-- **The kick is at the image of the box centre exactly when that is (0, 0)**, for every
defect box the inference reports and every transform. -/
theorem kick_at_centre_iff {cameraId : UInt32} {image : Mat} {box : Rect} {T : Point2f → Point2f}
    (reports : Reports inference cameraId image box T) (objectId imageId : UInt64)
    (genTimeStamp : Int) :
    ∃ iasResult, (channel qt inference m_channelID).onImageGroup qt
        (single objectId cameraId imageId image genTimeStamp) = some [iasResult] ∧
      ∀ (cfg : ImageMultiplerConfig) (s : CImageMultipler) (env : Surroundings),
        cfg.id = cameraId → imageId ∈ s.m_imageResultRecord → KickEnabled env →
        (writesIn (s.onImageIasResult cfg qt env iasResult).2 = [integerPart (T (centre box))] ↔
          integerPart (T (centre box)) = (0, 0)) := by
  obtain ⟨found, ran, defect⟩ := reports.defective
  obtain ⟨iasResult, emitted, zero⟩ :=
    kick_at_zero qt inference m_channelID ran defect objectId imageId genTimeStamp
  refine ⟨iasResult, emitted, ?_⟩
  intro cfg s env camera recorded enabled
  rw [zero cfg s env camera recorded enabled]
  constructor
  · intro same
    exact (List.singleton_inj.mp same).symm
  · intro origin
    rw [origin]

end Chain

/-! ## A stem in the picture -/

def stem : Rect := { x := 10, y := 20, width := 20, height := 40 }

/-- A detector that sees the stem in every picture, and a classifier that knows it. -/
def stemFinder : YoloResnetInference :=
  { yolo_model := fun _ => (true, [[{ classId := 0, conf := .ofInt 1, box := stem }]])
    resnet_model := fun _ => (true, [{ classId := 0 }])
    label_array := [.objectOf [(utf8 "isDefective", .bool true)]]
    m_transform_map := fun id => if id = 1 then some (fun p => p) else none }

def field : Mat := { cols := 100, rows := 100, pixel := fun _ _ => 0 }

theorem stemFinder_reports : Reports stemFinder 1 field stem fun p => p where
  detected := ⟨_, _, _, rfl, rfl⟩
  transform := rfl
  defective := ⟨_, rfl, rfl⟩

/-- The multipler of camera 1 while picture 7 waits, and the kick devices on. -/
def camera1 : ImageMultiplerConfig := { id := 1, m_inferTimeout := 200, m_IasCount := 1 }

def waiting : CImageMultipler :=
  CImageMultipler.start.onImageData
    { objectId := 0, bReportOrignal := false, bReportBinning := false, cameraId := 1, imageId := 7,
      imageData := { depth := 24, width := 100, height := 100, jpg := [] }, genTimeStamp := 0 }

def kicking : Surroundings := { runTypeInfer := true, plc := true, pcp := true, kickEnable := true }

theorem stem_centre : integerPart (centre stem) = (20, 40) := by
  norm_num [integerPart, centre, stem, truncate, Rect.left, Rect.right, Rect.top, Rect.bottom]

theorem kick_at_centre_iff_stem :
    ∃ iasResult, (channel QtJson.reference stemFinder 0).onImageGroup QtJson.reference
        (single 0 1 7 field 0) = some [iasResult] ∧
      (writesIn (waiting.onImageIasResult camera1 QtJson.reference kicking iasResult).2 =
          [integerPart (centre stem)] ↔
        integerPart (centre stem) = (0, 0)) := by
  obtain ⟨iasResult, emitted, iff⟩ :=
    kick_at_centre_iff QtJson.reference stemFinder 0 stemFinder_reports 0 7 0
  exact ⟨iasResult, emitted, iff camera1 waiting kicking rfl (by decide) ⟨rfl, rfl, rfl⟩⟩

/-- The stem at (20, 40) is kicked at (0, 0). -/
theorem stem_kicked_at_zero :
    ∃ iasResult, (channel QtJson.reference stemFinder 0).onImageGroup QtJson.reference
        (single 0 1 7 field 0) = some [iasResult] ∧
      writesIn (waiting.onImageIasResult camera1 QtJson.reference kicking iasResult).2 = [(0, 0)] ∧
      integerPart (centre stem) = (20, 40) := by
  obtain ⟨found, ran, defect⟩ := stemFinder_reports.defective
  obtain ⟨iasResult, emitted, zero⟩ := kick_at_zero QtJson.reference stemFinder 0 ran defect 0 7 0
  exact ⟨iasResult, emitted,
    zero camera1 waiting kicking rfl (by decide) ⟨rfl, rfl, rfl⟩, stem_centre⟩

end IsgConsole.IasAgent
