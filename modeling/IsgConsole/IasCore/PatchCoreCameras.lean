/-
# IasCore.PatchCoreCameras — a model for every camera, loaded and updated

The parameters of the cameras are the members `cameraId_n` of an object.  `load_update_process` does
not look at its keys: it counts them, and goes through the cameras from 1 to their number.  A camera
without a member reads as one with an empty object, so it gets a model of its own.

The map of the cameras makes an entry for every camera that is asked for, also by `infer`, with no
model in it (`CameraMap`).

* `loadUpdate_spec` — what a load and an update leave of the map;
* `own_parameters_iff` — **when every camera has its own parameters.**
-/
import Mathlib.Data.Finset.Card
import IsgConsole.IasCore.PatchCorePt

namespace IsgConsole.IasCore.PatchCoreCameras

open IsgConsole.Theory IsgConsole.BaseLib IsgConsole.Theory.Json IsgConsole.Inspector
open IsgConsole.Theory.EvenOdd

set_option autoImplicit false

/-! ## Parameters -/

/-- An `int` in decimal. -/
def number (n : Int) : Bytes := printNumber (Decimal.ofInt n)

theorem number_injective : Function.Injective number := by
  intro m n same
  have read : ∀ k : Int, readNumber (number k) = some (Decimal.ofInt k, []) := fun k => by
    have stops : Stops [] := trivial
    have back := readNumber_print (Decimal.ofInt k) stops
    rwa [List.append_nil] at back
  have decimals := (read m).symm.trans ((congrArg readNumber same).trans (read n))
  exact congrArg Decimal.mantissa (Prod.mk.inj (Option.some.inj decimals)).1

/-- `QString("cameraId_%1").arg(camera_id)`. -/
def cameraKey (camera_id : Int) : Bytes := utf8 "cameraId_" ++ number camera_id

theorem cameraKey_injective : Function.Injective cameraKey := fun _ _ same =>
  number_injective (List.append_cancel_left same)

/-- `QJsonObject::size`. -/
def size (members : JsonObject) : Nat := (members.map Prod.fst).dedup.length

/-- What a model is configured with: `Config_Data` and the two paths. -/
structure CameraConfig where
  model_path : Bytes
  template_path : Bytes
  data : Config_Data

/-- What is outside of the inference. -/
structure Library where
  qt : QtJson
  /-- `toDouble`, stored in a `float`. -/
  toFloat : Decimal → Rat
  /-- The model under this path is loaded and warms up. -/
  loads : Bytes → Bool
  /-- `cv::glob` and `cv::imread` of a directory. -/
  templates : Bytes → List Mat

variable (library : Library)

def toFloat : Json → Rat
  | .number d => library.toFloat d
  | _ => 0

/-- What `load_update_process` reads of its parameter. -/
structure Params where
  camera_param : JsonObject
  btemplate_match : Bool
  moduleMethod : Bytes

def readParams (jsonDocObj : JsonObject) : Params :=
  let module_param := (jsonDocObj.get (utf8 "module_param")).toObject
  let moduleJsonObject := (module_param.get (utf8 "moduleId_0")).toObject
  { camera_param := (jsonDocObj.get (utf8 "camera_param")).toObject
    btemplate_match :=
      ((jsonDocObj.get (utf8 "global_param")).toObject.get (utf8 "template_matching")).toBool
    moduleMethod := (moduleJsonObject.get (utf8 "method")).toString [] }

/-- `config` of a camera. -/
def configOf (aiPath : Bytes) (params : Params) (camera_id : Int) : CameraConfig :=
  let cameraJsonObject := (params.camera_param.get (cameraKey camera_id)).toObject
  let points := ((cameraJsonObject.get (utf8 "effective_area")).toObject.get
    (utf8 "points")).toArray
  { model_path := aiPath ++ utf8 "/resource/" ++ utf8 "0_" ++ number camera_id ++ utf8 ".pt"
    template_path := aiPath ++ utf8 "/template/" ++ number camera_id
    data :=
      { score_min_threshold := toFloat library (cameraJsonObject.get (utf8 "score_min_threshold"))
        score_max_threshold := toFloat library (cameraJsonObject.get (utf8 "score_max_threshold"))
        heat_threshold := (cameraJsonObject.get (utf8 "heat_threshold")).toInt
        heat_binary_min_area := (cameraJsonObject.get (utf8 "heat_binary_min_area")).toInt
        defective_min_area := (cameraJsonObject.get (utf8 "defective_min_area")).toInt
        effective_area := points.map fun point =>
          ⟨(point.toObject.get (utf8 "x")).toInt, (point.toObject.get (utf8 "y")).toInt⟩
        btemplate_match := params.btemplate_match
        expand_pixel := (cameraJsonObject.get (utf8 "expand_pixel")).toInt
        diff_threshold := (cameraJsonObject.get (utf8 "diff_threshold")).toInt
        dismatched_point_threshold :=
          (cameraJsonObject.get (utf8 "dismatched_point_threshold")).toInt } }

/-! ## Models -/

/-- What `PatchCorePt` keeps of a configuration. -/
structure ModelPt where
  m_config_data : CameraConfig
  m_template_mat_vector : List Mat

/-- `PatchCorePt` with this configuration, as the constructor and `update` leave it. -/
def ModelPt.ofConfig (config : CameraConfig) : ModelPt :=
  { m_config_data := config
    m_template_mat_vector :=
      if config.data.btemplate_match then library.templates config.template_path else [] }

/-- `PatchCore`. -/
structure Detector where
  m_patchcore_pt : Option ModelPt

/-- `PatchCore::init`. -/
def Detector.init (config : CameraConfig) : Bool × Detector :=
  if library.loads config.model_path then (true, ⟨some (.ofConfig library config)⟩)
  else (false, ⟨none⟩)

/-- `PatchCore::update`. -/
def Detector.update (config : CameraConfig) (d : Detector) : Bool × Detector :=
  match d.m_patchcore_pt with
  | some _ => (true, ⟨some (.ofConfig library config)⟩)
  | none => (false, d)

/-- `m_camera_map`: no entry, a null pointer, or a detector. -/
abbrev CameraMap := Int → Option (Option Detector)

/-- `m_camera_map[camera_id]` makes an entry where there is none. -/
def touch (m_camera_map : CameraMap) (camera_id : Int) : CameraMap :=
  match m_camera_map camera_id with
  | none => Function.update m_camera_map camera_id (some none)
  | some _ => m_camera_map

/-- One camera of `load_update_process`. -/
def loadUpdateCamera (isLoad : Bool) (config : CameraConfig) (camera_id : Int)
    (m_camera_map : CameraMap) : Bool × CameraMap :=
  if isLoad then
    let (ok, patchcore) := Detector.init library config
    (ok, Function.update m_camera_map camera_id (some (some patchcore)))
  else
    match m_camera_map camera_id with
    | some (some d) =>
        let (ok, d) := d.update library config
        (ok, Function.update m_camera_map camera_id (some (some d)))
    | _ => (true, touch m_camera_map camera_id)

/-- The cameras one after another; one that fails ends the loop. -/
def loadUpdateLoop (isLoad : Bool) (config : Int → CameraConfig) :
    List Int → CameraMap → Bool × CameraMap
  | [], m_camera_map => (true, m_camera_map)
  | camera_id :: others, m_camera_map =>
      let (ok, m_camera_map) :=
        loadUpdateCamera library isLoad (config camera_id) camera_id m_camera_map
      if ok then loadUpdateLoop isLoad config others m_camera_map else (false, m_camera_map)

/-- `1 .. n`. -/
def upTo (n : Nat) : List Int := (List.range n).map fun (i : Nat) => (i : Int) + 1

/-- `load_update_process`, for the parameters it has read. -/
def loadUpdate (aiPath : Bytes) (params : Params) (isLoad : Bool) (m_camera_map : CameraMap) :
    Bool × CameraMap :=
  if params.moduleMethod = utf8 "patchcore" then
    loadUpdateLoop library isLoad (configOf library aiPath params)
      (upTo (size params.camera_param)) m_camera_map
  else (true, m_camera_map)

/-- The parameters in a text. -/
def paramsOf (param : Bytes) : Params :=
  readParams (library.qt.object (library.qt.toLocal8Bit param))

/-- `PatchCoreInference::load_update_process`. -/
def load_update_process (aiPath param : Bytes) (isLoad : Bool) (m_camera_map : CameraMap) :
    Bool × CameraMap :=
  loadUpdate library aiPath (paramsOf library param) isLoad m_camera_map

/-- `PatchCoreInference` as it is constructed. -/
def noCameras : CameraMap := fun _ => none

/-! ## What the loops leave -/

section Loops

variable {library : Library}

theorem mem_upTo {n : Nat} {camera_id : Int} :
    camera_id ∈ upTo n ↔ 1 ≤ camera_id ∧ camera_id ≤ n := by
  simp only [upTo, List.mem_map, List.mem_range]
  constructor
  · rintro ⟨i, small, rfl⟩
    omega
  · rintro ⟨positive, bound⟩
    exact ⟨(camera_id - 1).toNat, by omega, by omega⟩

/-- A detector with this configuration. -/
def configured (library : Library) (config : CameraConfig) : Option (Option Detector) :=
  some (some ⟨some (.ofConfig library config)⟩)

/-- One camera whose model is initialised, or has been. -/
theorem loadUpdateCamera_eq {isLoad : Bool} {config : CameraConfig} {camera_id : Int}
    {m_camera_map : CameraMap}
    (works : if isLoad then library.loads config.model_path = true
      else ∃ pt, m_camera_map camera_id = some (some ⟨some pt⟩)) :
    loadUpdateCamera library isLoad config camera_id m_camera_map =
      (true, Function.update m_camera_map camera_id (configured library config)) := by
  unfold loadUpdateCamera configured
  cases isLoad with
  | true =>
      have loads : library.loads config.model_path = true := works
      simp [Detector.init, loads]
  | false =>
      obtain ⟨pt, held⟩ : ∃ pt, m_camera_map camera_id = some (some ⟨some pt⟩) := works
      simp [held, Detector.update]

/-- A camera whose model is not initialised ends a load. -/
theorem loads_of_camera {config : CameraConfig} {camera_id : Int} {m_camera_map : CameraMap}
    (ok : (loadUpdateCamera library true config camera_id m_camera_map).1 = true) :
    library.loads config.model_path = true := by
  by_contra refused
  simp [loadUpdateCamera, Detector.init, refused] at ok

/-- **What the loop leaves** where all models are initialised, or have been. -/
theorem loadUpdateLoop_eq (isLoad : Bool) {config : Int → CameraConfig} {cameras : List Int}
    {m_camera_map : CameraMap}
    (works : ∀ n ∈ cameras, if isLoad then library.loads (config n).model_path = true
      else ∃ pt, m_camera_map n = some (some ⟨some pt⟩)) :
    loadUpdateLoop library isLoad config cameras m_camera_map =
      (true, fun n => if n ∈ cameras then configured library (config n) else m_camera_map n) := by
  induction cameras generalizing m_camera_map with
  | nil => simp [loadUpdateLoop]
  | cons camera_id others ih =>
      have turn := loadUpdateCamera_eq (works camera_id List.mem_cons_self)
      have later : ∀ n ∈ others, if isLoad then library.loads (config n).model_path = true
          else ∃ pt, Function.update m_camera_map camera_id
            (configured library (config camera_id)) n = some (some ⟨some pt⟩) := by
        intro n there
        have known := works n (List.mem_cons_of_mem _ there)
        cases isLoad with
        | true => exact known
        | false =>
            by_cases same : n = camera_id
            · subst same
              exact ⟨_, Function.update_self ..⟩
            · obtain ⟨pt, held⟩ : ∃ pt, m_camera_map n = some (some ⟨some pt⟩) := known
              exact ⟨pt, (Function.update_of_ne same ..).trans held⟩
      simp only [loadUpdateLoop, turn, if_true, ih later]
      refine Prod.ext rfl (funext fun n => ?_)
      by_cases there : n ∈ others
      · simp [there]
      · by_cases same : n = camera_id
        · simp [same, Function.update_self]
        · simp [there, same]

/-- A load that succeeds has initialised all its models. -/
theorem loads_of_loop {config : Int → CameraConfig} {cameras : List Int}
    {m_camera_map : CameraMap}
    (ok : (loadUpdateLoop library true config cameras m_camera_map).1 = true) :
    ∀ n ∈ cameras, library.loads (config n).model_path = true := by
  induction cameras generalizing m_camera_map with
  | nil =>
      intro n there
      cases there
  | cons camera_id others ih =>
      rw [loadUpdateLoop] at ok
      dsimp only at ok
      split at ok
      case isTrue initialised =>
        intro n there
        rcases List.mem_cons.mp there with rfl | later
        · exact loads_of_camera initialised
        · exact ih ok n later
      case isFalse => cases ok

/-- An entry that is asked for is kept, and no detector is made. -/
theorem touch_detector (m_camera_map : CameraMap) (camera_id n : Int) (d : Detector) :
    touch m_camera_map camera_id n = some (some d) ↔ m_camera_map n = some (some d) := by
  unfold touch
  cases held : m_camera_map camera_id with
  | some entry => exact Iff.rfl
  | none =>
      by_cases same : n = camera_id
      · subst same
        simp [held]
      · simp [Function.update_of_ne same]

theorem touches_detector (m_camera_map : CameraMap) (asked : List Int) (n : Int) (d : Detector) :
    asked.foldl touch m_camera_map n = some (some d) ↔ m_camera_map n = some (some d) := by
  induction asked generalizing m_camera_map with
  | nil => exact Iff.rfl
  | cons camera_id asked ih => rw [List.foldl_cons, ih, touch_detector]

end Loops

/-! ## Own parameters -/

/-- The members of `camera_param` are those of these cameras. -/
def Keyed (params : Params) (cameras : Finset Int) : Prop :=
  ∀ key, key ∈ params.camera_param.map Prod.fst ↔ ∃ n ∈ cameras, cameraKey n = key

theorem size_keyed {params : Params} {cameras : Finset Int} (keyed : Keyed params cameras) :
    size params.camera_param = cameras.card := by
  have same : (params.camera_param.map Prod.fst).toFinset = cameras.image cameraKey := by
    ext key
    rw [List.mem_toFinset, Finset.mem_image]
    exact keyed key
  rw [size, ← List.card_toFinset, same, Finset.card_image_of_injective _ cameraKey_injective]

/-- There are detectors for these cameras alone, each with the configuration of its own member. -/
structure Configured (aiPath : Bytes) (params : Params) (cameras : Finset Int)
    (m_camera_map : CameraMap) : Prop where
  own : ∀ n ∈ cameras, m_camera_map n = configured library (configOf library aiPath params n)
  others : ∀ n ∉ cameras, ∀ d, m_camera_map n ≠ some (some d)

/-- A load configures every camera from its own member, and so does an update behind it, whatever
cameras `infer` has asked for in between. -/
structure OwnParameters (aiPath param param' : Bytes) (cameras : Finset Int)
    (asked : List Int) : Prop where
  loaded : Configured library aiPath (paramsOf library param) cameras
    (load_update_process library aiPath param true noCameras).2
  updated :
    let before := asked.foldl touch (load_update_process library aiPath param true noCameras).2
    (load_update_process library aiPath param' false before).1 = true ∧
      Configured library aiPath (paramsOf library param') cameras
        (load_update_process library aiPath param' false before).2

section Own

variable {library}
variable {aiPath param param' : Bytes} {cameras : Finset Int}

/-- The map behind a load. -/
theorem loaded_eq (patchcore : (paramsOf library param).moduleMethod = utf8 "patchcore")
    (keyed : Keyed (paramsOf library param) cameras)
    (initialised : (load_update_process library aiPath param true noCameras).1 = true) (n : Int) :
    (load_update_process library aiPath param true noCameras).2 n =
      if n ∈ upTo cameras.card then
        configured library (configOf library aiPath (paramsOf library param) n)
      else none := by
  rw [load_update_process, loadUpdate, if_pos patchcore, size_keyed keyed] at *
  rw [loadUpdateLoop_eq true (fun n there => loads_of_loop initialised n there)]
  rfl

/-- The map behind an update of cameras that were loaded. -/
theorem updated_eq (patchcore : (paramsOf library param).moduleMethod = utf8 "patchcore")
    (keyed : Keyed (paramsOf library param) cameras) {before : CameraMap}
    (works : ∀ n ∈ upTo cameras.card, ∃ pt, before n = some (some ⟨some pt⟩)) :
    load_update_process library aiPath param false before = (true, fun n =>
      if n ∈ upTo cameras.card then
        configured library (configOf library aiPath (paramsOf library param) n)
      else before n) := by
  rw [load_update_process, loadUpdate, if_pos patchcore, size_keyed keyed]
  exact loadUpdateLoop_eq false works

/-- **When every camera has its own parameters**: where the cameras are the numbers from one up. -/
theorem own_parameters_iff (asked : List Int)
    (patchcore : (paramsOf library param).moduleMethod = utf8 "patchcore")
    (patchcore' : (paramsOf library param').moduleMethod = utf8 "patchcore")
    (keyed : Keyed (paramsOf library param) cameras)
    (keyed' : Keyed (paramsOf library param') cameras)
    (initialised : (load_update_process library aiPath param true noCameras).1 = true) :
    OwnParameters library aiPath param param' cameras asked ↔
      ∀ n, n ∈ cameras ↔ 1 ≤ n ∧ n ≤ cameras.card := by
  have after := loaded_eq patchcore keyed initialised
  constructor
  · intro own n
    rw [← mem_upTo]
    constructor
    · intro here
      by_contra outside
      have held := own.loaded.own n here
      rw [after, if_neg outside] at held
      cases held
    · intro here
      by_contra outside
      exact own.loaded.others n outside _ ((after n).trans (if_pos here))
  · intro contiguous
    have known : ∀ n, n ∈ cameras ↔ n ∈ upTo cameras.card := fun n =>
      (contiguous n).trans mem_upTo.symm
    have loaded : Configured library aiPath (paramsOf library param) cameras
        (load_update_process library aiPath param true noCameras).2 := by
      refine ⟨fun n here => (after n).trans (if_pos ((known n).mp here)), fun n outside d held => ?_⟩
      rw [after, if_neg (mt (known n).mpr outside)] at held
      cases held
    refine ⟨loaded, ?_⟩
    intro before
    have works : ∀ n ∈ upTo cameras.card, ∃ pt, before n = some (some ⟨some pt⟩) := by
      intro n here
      exact ⟨_, (touches_detector _ asked n _).mpr (loaded.own n ((known n).mpr here))⟩
    rw [updated_eq patchcore' keyed' works]
    refine ⟨rfl, fun n here => if_pos ((known n).mp here), fun n outside d held => ?_⟩
    have kept : before n = some (some d) := (if_neg (mt (known n).mpr outside)).symm.trans held
    exact loaded.others n outside d ((touches_detector _ asked n d).mp kept)

end Own

/-! ## Two cameras -/

/-- Every model is initialised, and no picture is a template. -/
def allLoad : Library where
  qt := .reference
  toFloat d := d.mantissa / 10 ^ d.scale
  loads _ := true
  templates _ := []

/-- Parameters for these cameras, each with a threshold of its own. -/
def parameters (cameras : List Int) : JsonObject :=
  JsonObject.ofInserts
    [(utf8 "camera_param", .objectOf (cameras.map fun n =>
      (cameraKey n, .objectOf [(utf8 "heat_threshold", int (100 + n))]))),
     (utf8 "module_param", .objectOf [(utf8 "moduleId_0",
      .objectOf [(utf8 "method", .string (utf8 "patchcore"))])])]

def parameterText (cameras : List Int) : Bytes :=
  allLoad.qt.toJson .Compact (.object (parameters cameras))

theorem paramsOf_text {cameras : List Int}
    (holds : QtJson.reference.Holds (.object (parameters cameras))) :
    paramsOf allLoad (parameterText cameras) = readParams (parameters cameras) :=
  congrArg readParams (QtJson.object_of_holds .reference .Compact holds)

/-- Cameras 1 and 2. -/
theorem own_parameters_two :
    OwnParameters allLoad (utf8 "/opt") (parameterText [1, 2]) (parameterText [1, 2]) {1, 2}
      [7] := by
  have read : paramsOf allLoad (parameterText [1, 2]) = readParams (parameters [1, 2]) :=
    paramsOf_text (by decide +kernel)
  have patchcore : (paramsOf allLoad (parameterText [1, 2])).moduleMethod = utf8 "patchcore" := by
    rw [read]
    decide +kernel
  have keyed : Keyed (paramsOf allLoad (parameterText [1, 2])) {1, 2} := by
    have keys : (readParams (parameters [1, 2])).camera_param.map Prod.fst =
        [cameraKey 1, cameraKey 2] := by
      decide +kernel
    intro key
    rw [read, keys]
    simp [eq_comm]
  have initialised : (load_update_process allLoad (utf8 "/opt") (parameterText [1, 2]) true
      noCameras).1 = true := by
    rw [load_update_process, read]
    decide +kernel
  refine (own_parameters_iff [7] patchcore patchcore keyed keyed initialised).mpr fun n => ?_
  rw [Finset.mem_insert, Finset.mem_singleton, show ({1, 2} : Finset Int).card = 2 from rfl]
  omega

/-- Cameras 1 and 3: the second has no model, and there is one for camera 2. -/
theorem camera_three_missing :
    let params := readParams (parameters [1, 3])
    params.camera_param.map Prod.fst = [cameraKey 1, cameraKey 3] ∧
      paramsOf allLoad (parameterText [1, 3]) = params ∧
      (loadUpdate allLoad (utf8 "/opt") params true noCameras).1 = true ∧
      ((loadUpdate allLoad (utf8 "/opt") params true noCameras).2 3).isNone ∧
      ((loadUpdate allLoad (utf8 "/opt") params true noCameras).2 2).isSome := by
  refine ⟨by decide +kernel, paramsOf_text (by decide +kernel), ?_⟩
  decide +kernel

end IsgConsole.IasCore.PatchCoreCameras
