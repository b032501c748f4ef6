/-
# BaseLib.ObjectAttributes — the attributes of the project and of its devices

The classes of `EngineObject` that claim nothing of a device when a value is loaded: the project
itself, `SoftCamera` and `PCPUdpCtrl`.  What their setters do outside of the object, and what they
are told there, is a parameter of each.

`def` and `params` of the project take a trusted path.  `openDef` sets the product and the algorithm
type from the file, also when it fails later on; `loadParams` loads the attributes that are saved.

* `project_reaccepts`, `softCamera_reaccepts`, `pcpUdpCtrl_reaccepts` — their setters accept again
  what they stored;
* `openDef_setsProduct` — calls that change another attribute than their own.
-/
import IsgConsole.BaseLib.Attribute
import IsgConsole.BaseLib.QtJson

namespace IsgConsole.BaseLib

open IsgConsole.Theory IsgConsole.Theory.Json

set_option autoImplicit false

variable {W : Type}

/-! ## Every object -/

/-- `onStarted` and `onStopped` of a class. -/
structure Switch (W : Type) where
  onStarted : EngineObject W → W
  onStopped : EngineObject W → W

/-- The setter of `enabled`. -/
def enabledSetter (switch : Switch W) : Setter W :=
  .device fun s newValue oldValue _ =>
    (true,
      if newValue.toBool = oldValue.toBool then s.world
      else if newValue.toBool then switch.onStarted s
      else switch.onStopped s)

/-- `m_enabled` and `m_name`. -/
def engineAttributes (switch : Switch W) (name : Bytes) (setName : Option (Setter W)) :
    List (Attribute W) :=
  [{ m_key := utf8 "enabled", value := .bool false, m_save := false
     m_setter := some (enabledSetter switch) },
   { m_key := utf8 "name", value := .string name, m_save := false, m_setter := setName }]

/-! ## Devices -/

/-- What `PCPUdpCtrl` sends. -/
structure KickSwitches (W : Type) extends Switch W where
  setKickEnabled : W → Bool → W
  setKickAbnormalEnabled : W → Bool → W

/-- A setter that always accepts, and sends the value where it is not trusted. -/
def sendUntrusted (send : W → Bool → W) : Setter W :=
  .device fun s value _ trusted => (true, if trusted then s.world else send s.world value.toBool)

def pcpUdpAttributes (out : KickSwitches W) : List (Attribute W) :=
  engineAttributes out.toSwitch [] none ++
  [{ m_key := utf8 "local_ip", value := .string (utf8 "0.0.0.0") },
   { m_key := utf8 "local_port", value := int 3000 },
   { m_key := utf8 "remote_ip", value := .string (utf8 "0.0.0.0") },
   { m_key := utf8 "remote_port", value := int 3000 },
   { m_key := utf8 "connected", value := .bool true
     m_setter := some (sendUntrusted out.setKickEnabled) },
   { m_key := utf8 "abnormal_kick", value := .bool false
     m_setter := some (sendUntrusted out.setKickAbnormalEnabled) }]

/-- The calls a `SoftCamera` posts to its own thread. -/
structure CameraCalls (W : Type) extends Switch W where
  setCameraNameAsync : W → Bytes → Bytes → W
  setImageSrcPathAsync : W → Bytes → Bytes → Bool → W
  setIntervalAsync : W → Int → Int → W

/-- The attributes of `ImageSrcDev` and `SoftCamera`. -/
def softCameraAttributes (out : CameraCalls W) : List (Attribute W) :=
  engineAttributes out.toSwitch [] (some (.device fun s newValue oldValue _ =>
    (true, out.setCameraNameAsync s.world (newValue.toString []) (oldValue.toString [])))) ++
  [{ m_key := utf8 "serial_number", value := .string [] },
   { m_key := utf8 "access_code", value := .string [] },
   { m_key := utf8 "gain", value := int (-1) },
   { m_key := utf8 "exposure_time", value := int (-1) },
   { m_key := utf8 "image_save_strategy", value := int 0 },
   { m_key := utf8 "image_save_sample", value := int 10 },
   { m_key := utf8 "image_save_format", value := .string (utf8 "JPG") },
   { m_key := utf8 "capture_compensation_ms", value := int 0 },
   { m_key := utf8 "image_path", value := .string []
     m_setter := some (.device fun s newValue oldValue trusted =>
      (true, out.setImageSrcPathAsync s.world (newValue.toString []) (oldValue.toString []) trusted)) },
   { m_key := utf8 "start_delay", value := int 5 },
   { m_key := utf8 "interval", value := int 200
     m_setter := some (.device fun s newValue oldValue _ =>
      (true, out.setIntervalAsync s.world newValue.toInt oldValue.toInt)) },
   { m_key := utf8 "loop", value := .bool false }]

/-- A class none of whose setters loads a file. -/
def EngineClass.ofPlain (attrList : List (Attribute W))
    (distinct : (attrList.map Attribute.m_key).Nodup)
    (plain : ∀ a ∈ attrList, a.isPlain = true) : EngineClass W where
  attrList := attrList
  distinct := distinct
  unsaved a own _ := Attribute.plain_iff.mpr (plain a own)
  writes a own sets load setter := absurd setter (Attribute.plain_iff.mpr (plain a own) sets load)

theorem distinct_of_keys {attrList : List (Attribute W)} (keys : List String)
    (named : attrList.map Attribute.m_key = keys.map utf8) (distinct : keys.Nodup) :
    (attrList.map Attribute.m_key).Nodup := by
  rw [named]
  exact distinct.map utf8_injective

def pcpUdpCtrl (out : KickSwitches W) : EngineClass W :=
  .ofPlain (pcpUdpAttributes out)
    (distinct_of_keys ["enabled", "name", "local_ip", "local_port", "remote_ip",
      "remote_port", "connected", "abnormal_kick"] rfl (by decide))
    (by simp [pcpUdpAttributes, engineAttributes, Attribute.isPlain, enabledSetter, sendUntrusted])

def softCamera (out : CameraCalls W) : EngineClass W :=
  .ofPlain (softCameraAttributes out)
    (distinct_of_keys ["enabled", "name", "serial_number", "access_code", "gain",
      "exposure_time", "image_save_strategy", "image_save_sample", "image_save_format",
      "capture_compensation_ms", "image_path", "start_delay", "interval", "loop"] rfl (by decide))
    (by simp [softCameraAttributes, engineAttributes, Attribute.isPlain, enabledSetter])

/-! ## The project -/

/-- What the project does outside of its attributes. -/
structure ProjectCalls (W : Type) extends Switch W where
  qt : QtJson
  /-- `QFile`. -/
  readAll : W → Bytes → Option Bytes
  /-- `m_objectResult` and `loadDefNode` for the nodes of a definition. -/
  loadDefNodes : EngineObject W → JsonObject → Bool × W
  /-- The objects load their members. -/
  loadObjects : W → JsonObject → W
  /-- The algorithms are loaded, and `init`. -/
  init : EngineObject W → Bool × W
  /-- `m_objects`, each with its name and what it saves. -/
  m_objects : W → List (Bytes × Json)
  saveConfigFile : W → Bytes → Json → W
  objectResult : W → Bool
  originalReportRateSet : W → Int → W
  binningReportRateSet : W → Int → W

section Project

variable (out : ProjectCalls W)

def m_productType : Attribute W :=
  { m_key := utf8 "product", value := .string [], m_save := false }

/-- Its default is `IAS_DT_AI`. -/
def m_algorithmType : Attribute W :=
  { m_key := utf8 "algorithm_type", value := int 2, m_save := false }

def m_brandId : Attribute W := { m_key := utf8 "brand_id", value := int 0 }

/-- A setter that sets the report rate of the result module, where there is one. -/
def rateSetter (reportRateSet : W → Int → W) : Setter W :=
  .device fun s value _ _ =>
    (true, if out.objectResult s.world then reportRateSet s.world value.toInt else s.world)

/-- It has to be positive as the console starts, and is not changed later. -/
def m_imageMaxInterval : Attribute W :=
  { m_key := utf8 "image_max_interval", value := int 30
    m_setter := some (.device fun s value _ trusted =>
      (trusted && decide (value.toInt > 0), s.world)) }

/-- The attributes after `save`. -/
def reportAttributes : List (Attribute W) :=
  [{ m_key := utf8 "image_save_path", value := .string (utf8 "/opt") },
   { m_key := utf8 "image_file_keep_days", value := int 20 },
   { m_key := utf8 "log_file_keep_days", value := int 60 },
   { m_key := utf8 "policystore_ip", value := .string [] },
   { m_key := utf8 "policystore_port", value := int 1001 },
   m_imageMaxInterval,
   { m_key := utf8 "image_infer_timeout_ms", value := int 200 },
   { m_key := utf8 "object_infer_timeout_ms", value := int 200 },
   { m_key := utf8 "box_queue_len", value := int 3, m_product := utf8 "box" },
   { m_key := utf8 "box_min_elapsed", value := int 2000, m_product := utf8 "box" },
   { m_key := utf8 "image_orginal_rate", value := int (-1)
     m_setter := some (rateSetter out out.originalReportRateSet) },
   { m_key := utf8 "image_binning_rate", value := int (-1)
     m_setter := some (rateSetter out out.binningReportRateSet) }]

/-- The attributes that are saved. -/
def savedAttributes : List (Attribute W) := m_brandId :: reportAttributes out

/-- `name()` of an object. -/
def EngineObject.name (s : EngineObject W) : Bytes := (s.m_value (utf8 "name")).toString []

/-- `saveParams`. -/
def saveParams (s : EngineObject W) : Bool × W :=
  let path := (s.m_value (utf8 "params")).toString []
  if path = [] then (false, s.world)
  else if out.m_objects s.world = [] then (false, s.world)
  else
    let productType := (s.m_value (utf8 "product")).toString []
    let own := saveToJson (savedAttributes out) s productType
    (true, out.saveConfigFile s.world path (.objectOf ((s.name, own) :: out.m_objects s.world)))

/-- The object in a file, where it has members. -/
def readObject (w : W) (path : Bytes) : Option JsonObject :=
  match out.readAll w path with
  | none => none
  | some text => if out.qt.object text = [] then none else some (out.qt.object text)

theorem readObject_holds {w : W} {path : Bytes} {obj : JsonObject}
    (read : readObject out w path = some obj) : out.qt.Holds (.object obj) := by
  unfold readObject at read
  split at read
  next => cases read
  next text _ =>
      split at read
      next => cases read
      next =>
          obtain rfl := Option.some.inj read
          exact out.qt.holds_object text

/-- `openDef`. -/
def openDef (s : EngineObject W) (path : Bytes) : Bool × EngineObject W :=
  if path = [] then (true, s)
  else
    match readObject out s.world path with
    | none => (false, s)
    | some obj =>
        let product := (obj.get (utf8 "product")).toString []
        let s := (m_productType.setValue s (.string product) false).2
        let s := (m_algorithmType.setValue s (int (obj.get (utf8 "algorithm_type")).toInt) false).2
        let (loaded, world) := out.loadDefNodes s obj
        (loaded, { s with world := world })

/-- `loadParams`; what is not saved is not loaded either. -/
def loadParams (s : EngineObject W) (path : Bytes) : Bool × EngineObject W :=
  if path = [] then (true, s)
  else
    match readObject out s.world path with
    | none => (false, s)
    | some obj =>
        let s := loadFromJson (savedAttributes out) s (obj.get s.name)
        let s := { s with world := out.loadObjects s.world obj }
        let (ready, world) := out.init s
        (ready, { s with world := world })

def m_def : Attribute W :=
  { m_key := utf8 "def", value := .string [], m_save := false
    m_setter := some (.file [utf8 "product", utf8 "algorithm_type"] (openDef out)) }

def m_params : Attribute W :=
  { m_key := utf8 "params", value := .string [], m_save := false
    m_setter := some (.file ((savedAttributes out).map Attribute.m_key) (loadParams out)) }

def m_save : Attribute W :=
  { m_key := utf8 "save", value := .bool false, m_save := false
    m_setter := some (.device fun s _ _ _ => saveParams out s) }

/-- The attributes of `EngineProject`. -/
def projectAttributes : List (Attribute W) :=
  engineAttributes out.toSwitch (utf8 "global") none ++
    [m_def out, m_params out, m_productType, m_algorithmType, m_brandId, m_save out] ++
    reportAttributes out

/-- The attributes a project has besides those of its engine and its reports. -/
theorem mem_projectAttributes {a : Attribute W}
    (own : a ∈ [m_def out, m_params out, m_productType, m_algorithmType, m_brandId, m_save out]) :
    a ∈ projectAttributes out :=
  List.mem_append_left _ (List.mem_append_right _ own)

theorem project_keys : ((projectAttributes out).map Attribute.m_key).Nodup :=
  distinct_of_keys ["enabled", "name", "def", "params", "product", "algorithm_type",
    "brand_id", "save", "image_save_path", "image_file_keep_days", "log_file_keep_days",
    "policystore_ip", "policystore_port", "image_max_interval", "image_infer_timeout_ms",
    "object_infer_timeout_ms", "box_queue_len", "box_min_elapsed", "image_orginal_rate",
    "image_binning_rate"] rfl (by decide)

/-- Two setters load a file. -/
theorem project_plain {a : Attribute W} (own : a ∈ projectAttributes out) :
    a.isPlain = true ∨ a = m_def out ∨ a = m_params out := by
  revert a
  simp [projectAttributes, engineAttributes, reportAttributes, Attribute.isPlain, m_def, m_params,
    m_productType, m_algorithmType, m_brandId, m_save, m_imageMaxInterval, enabledSetter,
    rateSetter]

theorem project_unsaved {a : Attribute W} (own : a ∈ projectAttributes out)
    (saved : a.m_save = true) : a.Plain := by
  rcases project_plain out own with plain | rfl | rfl
  · exact Attribute.plain_iff.mpr plain
  · cases saved
  · cases saved

/-- What is saved belongs to the project. -/
theorem savedAttributes_own {a : Attribute W} (saved : a ∈ savedAttributes out) :
    a ∈ projectAttributes out ∧ a.m_key ∈ (savedAttributes out).map Attribute.m_key ∧
      a.Plain := by
  have own : a ∈ projectAttributes out := by
    rcases List.mem_cons.mp saved with rfl | later
    · exact mem_projectAttributes out (by simp)
    · exact List.mem_append_right _ later
  have saves : a.m_save = true := by
    revert a
    simp [savedAttributes, reportAttributes, m_brandId, m_imageMaxInterval]
  exact ⟨own, List.mem_map_of_mem saved, project_unsaved out own saves⟩

theorem openDef_writes (s : EngineObject W) (path : Bytes) :
    Writes (projectAttributes out) [utf8 "product", utf8 "algorithm_type"] s
      (openDef out s path).2 := by
  have product : m_productType ∈ projectAttributes out := mem_projectAttributes out (by simp)
  have algorithm : m_algorithmType ∈ projectAttributes out := mem_projectAttributes out (by simp)
  unfold openDef
  split
  · exact .nothing
  · cases readObject out s.world path with
    | none => exact .nothing
    | some obj =>
        refine .outside (.set (.set .nothing product ?_ ?_ _ _) algorithm ?_ ?_ _ _) _
        · exact List.mem_cons_self
        · exact Attribute.plain_iff.mpr rfl
        · exact List.mem_cons_of_mem _ List.mem_cons_self
        · exact Attribute.plain_iff.mpr rfl

theorem loadParams_writes (s : EngineObject W) (path : Bytes) :
    Writes (projectAttributes out) ((savedAttributes out).map Attribute.m_key) s
      (loadParams out s path).2 := by
  unfold loadParams
  split
  · exact .nothing
  · cases readObject out s.world path with
    | none => exact .nothing
    | some obj =>
        have loaded := (Writes.nothing (s := s)).loadFromJson (fun a => savedAttributes_own out)
          (obj.get s.name)
        exact .outside (.outside loaded _) _

/-- The class of the project. -/
def project : EngineClass W where
  attrList := projectAttributes out
  distinct := project_keys out
  unsaved a own saved := project_unsaved out own saved
  writes a own sets load setter s path := by
    rcases project_plain out own with plain | rfl | rfl
    · exact absurd setter (Attribute.plain_iff.mpr plain sets load)
    · cases setter
      exact openDef_writes out s path
    · cases setter
      exact loadParams_writes out s path

/-! ## What is stored is accepted again -/

/-- One setter looks at the value. -/
theorem project_trusts {a : Attribute W} (own : a ∈ projectAttributes out)
    (saved : a.m_save = true) : (∀ value, a.Trusts value) ∨ a = m_imageMaxInterval := by
  revert a
  simp [projectAttributes, engineAttributes, reportAttributes, Attribute.Trusts, m_def, m_params,
    m_productType, m_algorithmType, m_brandId, m_save, rateSetter]

theorem project_reaccepts : (project out).Reaccepts := by
  apply EngineClass.reaccepts_of_stored
  intro a own saved value stored
  rcases project_trusts out own saved with trusts | rfl
  · exact trusts value
  · intro f setter s oldValue
    cases setter
    rcases stored.2 with rfl | accepted
    · rfl
    · obtain ⟨_, _, trusted, answer⟩ := accepted _ rfl
      rw [Bool.and_eq_true] at answer
      simp only [Bool.true_and]
      exact answer.2

/-- Setters that take any trusted value. -/
theorem reaccepts_of_trusts {cls : EngineClass W}
    (trusts : ∀ a ∈ cls.attrList, ∀ value, a.Trusts value) : cls.Reaccepts :=
  fun _ _ a own _ => trusts a own _

theorem softCamera_reaccepts (calls : CameraCalls W) : (softCamera calls).Reaccepts := by
  apply reaccepts_of_trusts
  simp [softCamera, EngineClass.ofPlain, softCameraAttributes, engineAttributes, enabledSetter,
    Attribute.Trusts]

theorem pcpUdpCtrl_reaccepts (switches : KickSwitches W) : (pcpUdpCtrl switches).Reaccepts := by
  apply reaccepts_of_trusts
  simp [pcpUdpCtrl, EngineClass.ofPlain, pcpUdpAttributes, engineAttributes, enabledSetter,
    sendUntrusted, Attribute.Trusts]

end Project

/-! ## A file that sets attributes -/

/-- A path that is trusted: the file is loaded, and the path is kept if that went well. -/
theorem setValue_trusted {a : Attribute W} {sets : List Bytes}
    {load : EngineObject W → Bytes → Bool × EngineObject W}
    (setter : a.m_setter = some (.file sets load)) {s : EngineObject W} {value : Json}
    (type : jsonType value = jsonType (s.m_value a.m_key)) :
    (a.setValue s value true).1 = (load s (value.toString [])).1 ∧
      ∀ key ≠ a.m_key,
        (a.setValue s value true).2.m_value key = (load s (value.toString [])).2.m_value key := by
  rw [Attribute.setValue, if_neg (not_not.mpr type), setter]
  simp only [Setter.run, if_true]
  cases (load s (value.toString [])).1 with
  | false => exact ⟨rfl, fun key _ => rfl⟩
  | true => exact ⟨rfl, fun key ne => EngineObject.put_other _ ne value⟩

/-- `openDef` sets the product of its file, whatever becomes of the nodes. -/
theorem openDef_product (out : ProjectCalls W) {s : EngineObject W} {path : Bytes}
    {obj : JsonObject} (given : path ≠ []) (read : readObject out s.world path = some obj)
    (typed : jsonType (s.m_value (utf8 "product")) = .String) :
    (openDef out s path).2.m_value (utf8 "product") =
      .string ((obj.get (utf8 "product")).toString []) := by
  have ne : utf8 "product" ≠ utf8 "algorithm_type" := utf8_injective.ne (by decide)
  simp only [openDef, if_neg given, read]
  set s' := (m_productType.setValue s (.string ((obj.get (utf8 "product")).toString [])) false).2
    with product
  have first : s'.m_value (utf8 "product") = .string ((obj.get (utf8 "product")).toString []) := by
    have same : jsonType (.string ((obj.get (utf8 "product")).toString [])) =
        jsonType (s.m_value (m_productType (W := W)).m_key) := typed.symm
    rw [product, Attribute.setValue, if_neg (not_not.mpr same)]
    exact EngineObject.put_self ..
  rcases Attribute.setValue_plain (a := m_algorithmType) (Attribute.plain_iff.mpr rfl) s'
    (int (obj.get (utf8 "algorithm_type")).toInt) false with ⟨-, same⟩ | ⟨-, after, -⟩
  · rw [same, first]
  · rw [after]
    exact (Function.update_of_ne ne ..).trans first

/-- A console with this definition, and with no creator for a camera. -/
def consoleOf (definition : JsonObject) : ProjectCalls Unit where
  onStarted _ := ()
  onStopped _ := ()
  qt := .reference
  readAll _ _ := some (QtJson.reference.toJson .Compact (.object definition))
  loadDefNodes _ obj := ((obj.value (utf8 "camera")).isNone, ())
  loadObjects _ _ := ()
  init _ := (true, ())
  m_objects _ := []
  saveConfigFile _ _ _ := ()
  objectResult _ := false
  originalReportRateSet _ _ := ()
  binningReportRateSet _ _ := ()

/-- `setAttr("def", path, true)`. -/
def openBox : EngineClass.Call Unit where
  world := ()
  key := utf8 "def"
  value := .string (utf8 "product_def.json")
  trusted := true

theorem readObject_definition {definition : JsonObject} (members : definition ≠ [])
    (holds : QtJson.reference.Holds (.object definition)) (path : Bytes) : readObject (consoleOf definition) () path = some definition := by
  have text : QtJson.reference.object (QtJson.reference.toJson .Compact (.object definition)) =
      definition := QtJson.object_of_holds .reference .Compact holds
  simp only [readObject, consoleOf]
  simp [text, members]

/-- The answer is that of the nodes, and the product is that of the definition either way. -/
theorem openBox_product (definition : JsonObject) (members : definition ≠ [])
    (holds : QtJson.reference.Holds (.object definition)) :
    let cls := project (consoleOf definition)
    (cls.step (cls.constructed ()) openBox).2 = [(definition.value (utf8 "camera")).isNone] ∧
      (cls.step (cls.constructed ()) openBox).1.m_value (utf8 "product") =
        .string ((definition.get (utf8 "product")).toString []) := by
  intro cls
  have value : ∀ {a}, a ∈ cls.attrList → (cls.constructed ()).m_value a.m_key = a.value :=
    fun own => EngineClass.constructed_value own ()
  have own : m_def (consoleOf definition) ∈ cls.attrList := mem_projectAttributes _ (by simp)
  have product := value (a := m_productType) (mem_projectAttributes _ (by simp))
  have type : jsonType openBox.value =
      jsonType ((cls.constructed ()).m_value (m_def (consoleOf definition)).m_key) :=
    (congrArg jsonType (value own)).symm
  have given : utf8 "product_def.json" ≠ [] := by decide
  have read : readObject (consoleOf definition) (cls.constructed ()).world
      (utf8 "product_def.json") = some definition := readObject_definition members holds _
  have answer : (openDef (consoleOf definition) (cls.constructed ())
      (utf8 "product_def.json")).1 = (definition.value (utf8 "camera")).isNone := by
    simp only [openDef, if_neg given, read]
    rfl
  have ne : utf8 "product" ≠ utf8 "def" := utf8_injective.ne (by decide)
  obtain ⟨result, others⟩ := setValue_trusted (a := m_def (consoleOf definition)) rfl type
  rw [EngineClass.step_eq (EngineClass.find_eq own)]
  constructor
  · exact congrArg (fun answer => [answer]) (result.trans answer)
  · exact (others _ ne).trans
      (openDef_product (consoleOf definition) given read (congrArg jsonType product))

def box : JsonObject := [(utf8 "product", .string (utf8 "box"))]

/-- A box whose camera has no vendor. -/
def blindBox : JsonObject := (utf8 "camera", .object []) :: box

/-- One call is accepted and one is refused, and the product is another one after both. -/
theorem openDef_setsProduct :
    let sound := project (consoleOf box)
    let broken := project (consoleOf blindBox)
    (sound.Reaccepts ∧ (sound.step (sound.constructed ()) openBox).2 = [true] ∧
      (sound.constructed ()).m_value (utf8 "product") = .string [] ∧
      (sound.step (sound.constructed ()) openBox).1.m_value (utf8 "product") =
        .string (utf8 "box")) ∧
    (broken.Reaccepts ∧ (broken.step (broken.constructed ()) openBox).2 = [false] ∧
      (broken.constructed ()).m_value (utf8 "product") = .string [] ∧
      (broken.step (broken.constructed ()) openBox).1.m_value (utf8 "product") =
        .string (utf8 "box")) := by
  intro sound broken
  have first : ∀ definition, ((project (consoleOf definition)).constructed ()).m_value
      (utf8 "product") = .string [] := by
    intro definition
    exact EngineClass.constructed_value (a := m_productType) (mem_projectAttributes _ (by simp)) ()
  obtain ⟨accepted, product⟩ := openBox_product box (List.cons_ne_nil _ _) (by decide +kernel)
  obtain ⟨refused, product'⟩ := openBox_product blindBox (List.cons_ne_nil _ _) (by decide +kernel)
  exact ⟨⟨project_reaccepts _, accepted, first box, product⟩,
    ⟨project_reaccepts _, refused, first blindBox, product'⟩⟩

/-- A brand that the console is told later. -/
def setBrand : EngineClass.Call Unit where
  world := ()
  key := utf8 "brand_id"
  value := int 7
  trusted := false

/-- What a box console saves is loaded by another one as it is constructed. -/
theorem attributes_kept_box :
    (project (consoleOf box)).RoundTrip (utf8 "box")
      (Machine.final (project (consoleOf box)).step ((project (consoleOf box)).constructed ())
        [openBox, setBrand])
      ((project (consoleOf box)).constructed ()) :=
  (attributes_kept (project (consoleOf box)) (project_reaccepts _) () [openBox, setBrand]).2.2
    (utf8 "box") () []

end IsgConsole.BaseLib
