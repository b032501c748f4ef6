/-
# BaseLib.Restart — settings across a restart

A console starts with a definition, which creates its devices, and with a file of parameters, which
every one of them reads under its name.  Then the settings are changed by commands, on the console
or from the policy store, and `save` posts what the project and its devices hold to the thread that
replaces the file.

* `Reached` — values of an object of a class that a run of `setAttr` leaves;
* `boot_kept`, `run_kept` — what holds of the devices after the start, and in every run;
* `settings_restored` — **what is saved is there again after the next start.**
-/
import IsgConsole.AssistLib.AuxTask
import IsgConsole.BaseLib.Definition
import IsgConsole.BaseLib.EngineProject

namespace IsgConsole.BaseLib.Restart

open IsgConsole.Theory IsgConsole.Theory.Json
open IsgConsole.AssistLib
open IsgConsole.BaseLib.Definition (Objects Surroundings Creators)

set_option autoImplicit false

/-! ## Values in reach -/

/-- What each attribute that is loaded keeps, loading keeps. -/
theorem loadFromJson_keeps {W : Type} {attrList : List (Attribute W)} {P : EngineObject W → Prop}
    (keep : ∀ s, P s → ∀ a ∈ attrList, a.m_save = true → ∀ value,
      P (setAttr attrList s a.m_key value true).2)
    {s : EngineObject W} (before : P s) (json : Json) : P (loadFromJson attrList s json) := by
  cases json with
  | object obj =>
      refine List.foldlRecOn attrList (loadAttr attrList obj) before fun s before a own => ?_
      unfold loadAttr
      split
      next saved =>
        cases JsonObject.value a.m_key obj with
        | none => exact before
        | some value => exact keep s before a own saved value
      next => exact before
  | null | bool | number | string | array => exact before

section Reached

variable {W : Type}

/-- A run of `setAttr` leaves these values. -/
def Reached (cls : EngineClass W) (s : EngineObject W) : Prop :=
  ∃ world calls, (Machine.final cls.step (cls.constructed world) calls).m_value = s.m_value

variable {cls : EngineClass W} {s : EngineObject W}

theorem reached_constructed (world : W) : Reached cls (cls.constructed world) :=
  ⟨world, [], rfl⟩

theorem Reached.setAttr (reached : Reached cls s) (key : Bytes) (value : Json) (trusted : Bool) :
    Reached cls (setAttr cls.attrList s key value trusted).2 := by
  obtain ⟨world, calls, same⟩ := reached
  refine ⟨world, calls ++ [{ world := s.world, key, value, trusted }], ?_⟩
  rw [Machine.final_snoc]
  have here : { (Machine.final cls.step (cls.constructed world) calls) with world := s.world } =
      s := by
    show EngineObject.mk _ _ = s
    rw [same]
  show (BaseLib.setAttr cls.attrList { (Machine.final cls.step (cls.constructed world) calls) with
    world := s.world } key value trusted).2.m_value = _
  rw [here]

theorem Reached.loadFromJson (reached : Reached cls s) (json : Json) :
    Reached cls (loadFromJson cls.attrList s json) :=
  loadFromJson_keeps (fun _ before a _ _ value => before.setAttr a.m_key value true) reached json

theorem Reached.sound (reached : Reached cls s) : Sound cls.attrList s := by
  obtain ⟨world, calls, same⟩ := reached
  intro a own
  rw [← same]
  exact EngineClass.sound_run world calls a own

theorem Reached.trusts (reached : Reached cls s) (reaccepts : cls.Reaccepts) :
    ∀ a ∈ cls.attrList, a.m_save = true → a.Trusts (s.m_value a.m_key) := by
  obtain ⟨world, calls, same⟩ := reached
  intro a own saved
  rw [← same]
  exact reaccepts world calls a own saved

end Reached

/-! ## Devices -/

section Other

variable {W : Type} {attrList : List (Attribute W)}

/-- Where no setter loads a file, a call leaves the other attributes. -/
theorem setAttr_other (plain : ∀ a ∈ attrList, a.Plain) (s : EngineObject W) {key other : Bytes}
    (ne : other ≠ key) (value : Json) (trusted : Bool) :
    (setAttr attrList s key value trusted).2.m_value other = s.m_value other := by
  rcases setAttr_cases attrList s key value trusted with ⟨refused, -⟩ | ⟨a, own, named, set⟩
  · rw [refused]
  · rw [set]
    rcases Attribute.setValue_plain (plain a own) s value trusted with ⟨-, same⟩ | ⟨-, after, -⟩
    · rw [same]
    · rw [after, named, Function.update_of_ne ne]

/-- Loading leaves the attributes that are not saved. -/
theorem loadFromJson_other (plain : ∀ a ∈ attrList, a.Plain) (s : EngineObject W) {other : Bytes}
    (unsaved : ∀ a ∈ attrList, a.m_save = true → other ≠ a.m_key) (json : Json) :
    (loadFromJson attrList s json).m_value other = s.m_value other :=
  loadFromJson_keeps (P := fun s' => s'.m_value other = s.m_value other)
    (fun s' before a own saved value =>
      (setAttr_other plain s' (unsaved a own saved) value true).trans before) rfl json

end Other

/-- A class of devices.  Nothing of one is saved for a single product, and `name` can be set. -/
structure DeviceClass (V : Type) extends EngineClass V where
  plain : ∀ a ∈ attrList, a.Plain
  everywhere : ∀ a ∈ attrList, a.m_product = utf8 "all"
  m_name : Attribute V
  own : m_name ∈ attrList
  key : m_name.m_key = utf8 "name"
  type : jsonType m_name.value = .String
  passing : m_name.m_save = false
  trusts : ∀ value, m_name.Trusts value
  reaccepts : toEngineClass.Reaccepts

/-- `SoftCamera`. -/
def softCameraClass {V : Type} (out : CameraCalls V) : DeviceClass V where
  toEngineClass := softCamera out
  plain a own := Attribute.plain_iff.mpr (by
    revert a
    simp [softCamera, EngineClass.ofPlain, softCameraAttributes, engineAttributes,
      Attribute.isPlain, enabledSetter])
  everywhere := by simp [softCamera, EngineClass.ofPlain, softCameraAttributes, engineAttributes]
  m_name :=
    { m_key := utf8 "name", value := .string [], m_save := false
      m_setter := some (.device fun s newValue oldValue _ =>
        (true, out.setCameraNameAsync s.world (newValue.toString []) (oldValue.toString []))) }
  own := by simp [softCamera, EngineClass.ofPlain, softCameraAttributes, engineAttributes]
  key := rfl
  type := rfl
  passing := rfl
  trusts := by simp [Attribute.Trusts]
  reaccepts := softCamera_reaccepts out

/-- `PCPUdpCtrl`. -/
def pcpUdpClass {V : Type} (out : KickSwitches V) : DeviceClass V where
  toEngineClass := pcpUdpCtrl out
  plain a own := Attribute.plain_iff.mpr (by
    revert a
    simp [pcpUdpCtrl, EngineClass.ofPlain, pcpUdpAttributes, engineAttributes,
      Attribute.isPlain, enabledSetter, sendUntrusted])
  everywhere := by simp [pcpUdpCtrl, EngineClass.ofPlain, pcpUdpAttributes, engineAttributes]
  m_name := { m_key := utf8 "name", value := .string [], m_save := false }
  own := by simp [pcpUdpCtrl, EngineClass.ofPlain, pcpUdpAttributes, engineAttributes]
  key := rfl
  type := rfl
  passing := rfl
  trusts := by simp [Attribute.Trusts]
  reaccepts := pcpUdpCtrl_reaccepts out

/-- A device: its class, and what it holds. -/
structure Device (V : Type) where
  kind : DeviceClass V
  state : EngineObject V

namespace Device

variable {V : Type}

/-- `EngineObject::setAttr`. -/
def setAttr (d : Device V) (key : Bytes) (value : Json) (trusted : Bool) : Device V :=
  { d with state := (BaseLib.setAttr d.kind.attrList d.state key value trusted).2 }

/-- `EngineObject::loadFromJson`. -/
def loadFromJson (d : Device V) (json : Json) : Device V :=
  { d with state := BaseLib.loadFromJson d.kind.attrList d.state json }

/-- `EngineObject::saveToJson`; the product of the project is no matter here. -/
def saveToJson (d : Device V) : Json := BaseLib.saveToJson d.kind.attrList d.state []

def name (d : Device V) : Bytes := d.state.name

/-- Something happens to what is outside of it. -/
def outside (d : Device V) (world : V) : Device V := { d with state := { d.state with world } }

/-- A device of a run, under its own name. -/
structure Kept (name : Bytes) (d : Device V) : Prop where
  reached : Reached d.kind.toEngineClass d.state
  named : d.state.m_value (utf8 "name") = .string name

variable {name : Bytes} {d : Device V}

theorem Kept.name_eq (kept : d.Kept name) : d.name = name := by
  rw [Device.name, EngineObject.name, kept.named]
  rfl

theorem Kept.setAttr (kept : d.Kept name) {key : Bytes} (other : key ≠ utf8 "name")
    (value : Json) (trusted : Bool) : (d.setAttr key value trusted).Kept name :=
  ⟨kept.reached.setAttr key value trusted,
    (setAttr_other d.kind.plain d.state other.symm value trusted).trans kept.named⟩

theorem Kept.loadFromJson (kept : d.Kept name) (json : Json) : (d.loadFromJson json).Kept name := by
  refine ⟨kept.reached.loadFromJson json, ?_⟩
  refine (loadFromJson_other d.kind.plain d.state (fun a own saved same => ?_) json).trans kept.named
  have this : a = d.kind.m_name :=
    eq_of_key d.kind.distinct own d.kind.own (same.symm.trans d.kind.key.symm)
  rw [this, d.kind.passing] at saved
  cases saved

theorem Kept.outside (kept : d.Kept name) (world : V) : (d.outside world).Kept name :=
  ⟨kept.reached, kept.named⟩

/-- A device that is constructed and gets its name. -/
theorem kept_named {world : V} (fresh : d.state = d.kind.constructed world) (name : Bytes) :
    (d.setAttr (utf8 "name") (.string name) true).Kept name := by
  have reached : Reached d.kind.toEngineClass d.state := fresh ▸ reached_constructed world
  refine ⟨reached.setAttr _ _ _, ?_⟩
  have found : BaseLib.setAttr d.kind.attrList d.state (utf8 "name") (.string name) true =
      d.kind.m_name.setValue d.state (.string name) true := by
    rw [← d.kind.key]
    exact EngineClass.setAttr_own d.kind.own _ _ _
  have type : jsonType (.string name) = jsonType (d.state.m_value d.kind.m_name.m_key) :=
    (d.kind.type.symm.trans (reached.sound _ d.kind.own).1.symm)
  show (BaseLib.setAttr d.kind.attrList d.state _ _ _).2.m_value _ = _
  rw [found, EngineClass.setValue_trusts (d.kind.plain _ d.kind.own) type (d.kind.trusts _),
    d.kind.key, Function.update_self]

/-- What is saved of a device is there in another one of its class that loads it. -/
theorem loadFromJson_saveToJson {d fresh : Device V} {name : Bytes} (kept : d.Kept name)
    (same : fresh.kind = d.kind) (typed : fresh.Kept name) :
    ∀ a ∈ d.kind.attrList, a.m_save = true →
      (fresh.loadFromJson d.saveToJson).state.m_value a.m_key = d.state.m_value a.m_key := by
  obtain ⟨kind, state⟩ := fresh
  obtain rfl : kind = d.kind := same
  intro a own saved
  have everywhere : a.savedFor [] = true :=
    decide_eq_true ⟨saved, .inl (d.kind.everywhere a own)⟩
  exact EngineClass.roundTrip kept.reached.sound (kept.reached.trusts d.kind.reaccepts)
    typed.reached.sound [] a own everywhere

end Device

/-! ## The project -/

/-- What is left of a console: what is not modelled, and the files that wait to be saved. -/
structure Rest (R : Type) where
  other : R
  posted : List (Bytes × Json)

/-- What is outside of the project: its devices, and the rest. -/
abbrev Site (V R : Type) := Surroundings (Device V) (Rest R)

/-- What a console meets outside. -/
structure Outside (V R : Type) where
  qt : QtJson
  /-- The text of an object has its braces. -/
  braces : ∀ members, qt.toJson .Indented (.object members) ≠ []
  readAll : R → Bytes → Option Bytes
  s_creator : Bytes → Option (Int → Option (Device V))
  /-- A creator constructs a device. -/
  fresh : ∀ vendor creator id d, s_creator vendor = some creator → creator id = some d →
    ∃ world, d.state = d.kind.constructed world
  /-- The order in which the devices are visited. -/
  order : Hash Bytes (Device V) → List (Bytes × Device V)
  each : ∀ devices, (order devices).Perm (devices.entries.map fun e => (e.1, e.2))
  getRunType : R → RunTypeEnum
  /-- The algorithms are loaded, and `init`: it may change what is outside of the devices. -/
  init : EngineObject (Site V R) → Bool × R × (Bytes → V)
  originalReportRateSet : R → Int → R
  binningReportRateSet : R → Int → R

variable {V R : Type}

namespace Outside

variable (env : Outside V R)

def creators : Creators (Device V) where
  s_creator := env.s_creator
  setName name ptr := ptr.setAttr (utf8 "name") (.string name) true

/-- `ptr->m_enabled.setValue(value)` for the devices of the run type. -/
def switch (value : Bool) (w : Site V R) : Site V R :=
  let setAll (devices : Hash Bytes (Device V)) :=
    devices.mapValues fun _ ptr => ptr.setAttr (utf8 "enabled") (.bool value) false
  match env.getRunType w.rest.other with
  | .RunType_Spot => { w with objects.m_virtualCameras := setAll w.objects.m_virtualCameras }
  | .RunType_Infer => { w with objects.m_objects := setAll w.objects.m_objects }

def calls : ProjectCalls (Site V R) where
  onStarted s := env.switch true s.world
  onStopped s := env.switch false s.world
  qt := env.qt
  readAll w path := env.readAll w.rest.other path
  loadDefNodes := Definition.loadDefNodes env.creators
  loadObjects w obj :=
    { w with objects.m_objects := w.objects.m_objects.mapValues fun _ ptr =>
        ptr.loadFromJson (obj.get ptr.name) }
  init s :=
    let (ready, other, worlds) := env.init s
    (ready, { s.world with
      objects.m_objects := s.world.objects.m_objects.mapValues fun name ptr =>
        ptr.outside (worlds name)
      rest.other := other })
  m_objects w := (env.order w.objects.m_objects).map fun (_, ptr) => (ptr.name, ptr.saveToJson)
  saveConfigFile w path json :=
    { w with rest.posted := w.rest.posted ++ [(path, json)] }
  objectResult w := w.objects.m_objectResult.isSome
  originalReportRateSet w value :=
    { w with rest.other := env.originalReportRateSet w.rest.other value }
  binningReportRateSet w value :=
    { w with rest.other := env.binningReportRateSet w.rest.other value }

/-- The class of the project. -/
def cls : EngineClass (Site V R) := project env.calls

end Outside

/-! ## A console -/

/-- A console: its project. -/
abbrev Console (V R : Type) := EngineObject (Site V R)

inductive Event (V R : Type) where
  /-- `setAttr` of the object with a name: SET on the console, and what the policy store sends. -/
  | set (name key : Bytes) (value : Json)
  /-- `project()->setAttr("enabled", value, true)`. -/
  | enable (value : Bool)
  /-- Something happens outside, or to the virtual cameras. -/
  | outside (other : R) (worlds : Bytes → V) (virtualCameras : Hash Bytes (Device V))

namespace Console

variable (env : Outside V R)

/-- One step of a console that has started. -/
def step (s : Console V R) : Event V R → Console V R × List Empty
  | .set name key value =>
      (if name = s.name then (setAttr env.cls.attrList s key value false).2
       else { s with world.objects.m_objects := s.world.objects.m_objects.modify name fun ptr =>
                ptr.setAttr key value false }, [])
  | .enable value => ((setAttr env.cls.attrList s (utf8 "enabled") (.bool value) true).2, [])
  | .outside other worlds virtualCameras =>
      ({ s with world :=
          { s.world with
            objects.m_objects := s.world.objects.m_objects.mapValues fun name ptr =>
              ptr.outside (worlds name)
            objects.m_virtualCameras := virtualCameras
            rest.other := other } }, [])

/-- A project as it is constructed. -/
def constructed (other : R) : Console V R :=
  env.cls.constructed { objects := .none, rest := { other, posted := [] } }

/-- A project with its definition: `setAttr("def", path, true)`. -/
def opened (other : R) (definition : Bytes) : Console V R :=
  (setAttr env.cls.attrList (constructed env other) (utf8 "def") (.string definition) true).2

/-- A project that has started: `setAttr("params", path, true)` behind that. -/
def boot (other : R) (definition params : Bytes) : Console V R :=
  (setAttr env.cls.attrList (opened env other definition) (utf8 "params") (.string params) true).2

end Console

/-! ## Devices in a run -/

/-- The devices of a table, each of a run of its class and under its own name. -/
structure Kept (table : Bytes → Option (DeviceClass V)) (w : Site V R) : Prop where
  kinds : ∀ name, (w.objects.m_objects.lookup name).map Device.kind = table name
  kept : ∀ name ptr, w.objects.m_objects.lookup name = some ptr → ptr.Kept name

section Kept

variable {table : Bytes → Option (DeviceClass V)} {w : Site V R}

/-- What keeps every device keeps the devices. -/
theorem Kept.map (kept : Kept table w) {f : Bytes → Device V → Device V}
    (kind : ∀ name ptr, (f name ptr).kind = ptr.kind)
    (keep : ∀ name ptr, ptr.Kept name → (f name ptr).Kept name) {w' : Site V R}
    (after : w'.objects.m_objects = w.objects.m_objects.mapValues f) : Kept table w' := by
  constructor
  case kinds =>
    intro name
    rw [after, Hash.lookup_mapValues, ← kept.kinds name]
    cases w.objects.m_objects.lookup name with
    | none => rfl
    | some ptr => exact congrArg some (kind name ptr)
  case kept =>
    intro name ptr there
    rw [after, Hash.lookup_mapValues] at there
    obtain ⟨before, held, rfl⟩ := Option.map_eq_some_iff.mp there
    exact keep name before (kept.kept name before held)

theorem Kept.of_eq (kept : Kept table w) {w' : Site V R}
    (same : w'.objects.m_objects = w.objects.m_objects) : Kept table w' :=
  ⟨fun name => same ▸ kept.kinds name, fun name ptr there => kept.kept name ptr (same ▸ there)⟩

end Kept

section Calls

variable {W : Type}

/-- The setter of the attribute keeps what is outside, unless it loads a file. -/
def KeepsWorld (P : W → Prop) (a : Attribute W) : Prop :=
  ∀ f, a.m_setter = some (.device f) → ∀ s newValue oldValue trusted, P s.world →
    P (f s newValue oldValue trusted).2

variable {P : W → Prop} {attrList : List (Attribute W)}

/-- So does a call that loads no file. -/
theorem setAttr_keepsWorld (keeps : ∀ a ∈ attrList, KeepsWorld P a) {s : EngineObject W}
    {key : Bytes} {trusted : Bool}
    (quiet : trusted = true → ∀ a ∈ attrList, a.m_key = key → Attribute.Plain a) (before : P s.world)
    (value : Json) : P (setAttr attrList s key value trusted).2.world := by
  rcases setAttr_cases attrList s key value trusted with ⟨refused, -⟩ | ⟨a, own, named, set⟩
  · rw [refused]
    exact before
  rw [set, Attribute.setValue]
  split
  next => exact before
  cases setter : a.m_setter with
  | none => exact before
  | some setter' =>
      cases setter' with
      | device f =>
          have after := keeps a own f setter s value (s.m_value a.m_key) trusted before
          dsimp only [Setter.run]
          split <;> exact after
      | file sets load =>
          cases trusted with
          | false => exact before
          | true => exact absurd setter (quiet rfl a own named sets load)

theorem loadFromJson_keepsWorld (keeps : ∀ a ∈ attrList, KeepsWorld P a)
    (plain : ∀ a ∈ attrList, a.Plain) {s : EngineObject W} (before : P s.world) (json : Json) :
    P (loadFromJson attrList s json).world :=
  loadFromJson_keeps (P := fun s => P s.world)
    (fun _ before _ _ _ value => setAttr_keepsWorld keeps (fun _ b own _ => plain b own) before value)
    before json

end Calls

variable {env : Outside V R} {table : Bytes → Option (DeviceClass V)}

theorem switch_kept {w : Site V R} (kept : Kept table w) (value : Bool) :
    Kept table (env.switch value w) := by
  have ne : utf8 "enabled" ≠ utf8 "name" := utf8_injective.ne (by decide)
  unfold Outside.switch
  cases env.getRunType w.rest.other with
  | RunType_Spot => exact kept.of_eq rfl
  | RunType_Infer =>
      exact kept.map (f := fun _ ptr => ptr.setAttr (utf8 "enabled") (.bool value) false)
        (fun _ _ => rfl) (fun _ _ device => device.setAttr ne _ _) rfl

/-- The setters of the project. -/
theorem project_setters {out : ProjectCalls (Site V R)} {a : Attribute (Site V R)}
    (own : a ∈ projectAttributes out) :
    a.m_setter = none ∨ a.m_setter = some (enabledSetter out.toSwitch) ∨
      (∃ sets load, a.m_setter = some (.file sets load)) ∨
      a.m_setter = some (.device fun s _ _ _ => saveParams out s) ∨
      a.m_setter = some (.device fun s value _ trusted =>
        (trusted && decide (value.toInt > 0), s.world)) ∨
      a.m_setter = some (rateSetter out out.originalReportRateSet) ∨
      a.m_setter = some (rateSetter out out.binningReportRateSet) := by
  revert a
  simp [projectAttributes, engineAttributes, reportAttributes, m_def, m_params, m_productType,
    m_algorithmType, m_brandId, m_save, m_imageMaxInterval]

/-- No setter of the project touches the devices, but for `enabled` and the files. -/
theorem project_keepsWorld {a : Attribute (Site V R)} (own : a ∈ projectAttributes env.calls) :
    KeepsWorld (Kept table) a := by
  intro f setter s newValue oldValue trusted kept
  rcases project_setters own with free | enabled | ⟨sets, load, file⟩ | save | interval | original |
    binning
  · rw [free] at setter
    cases setter
  · cases enabled.symm.trans setter
    dsimp only
    split
    · exact kept
    · split
      · exact switch_kept kept true
      · exact switch_kept kept false
  · cases file.symm.trans setter
  · cases save.symm.trans setter
    dsimp only [saveParams]
    split
    · exact kept
    · split
      · exact kept
      · exact kept.of_eq rfl
  · cases interval.symm.trans setter
    exact kept
  · cases original.symm.trans setter
    dsimp only
    split
    · exact kept.of_eq rfl
    · exact kept
  · cases binning.symm.trans setter
    dsimp only
    split
    · exact kept.of_eq rfl
    · exact kept

/-! ## The start -/

/-- A device of a definition, as it is created. -/
theorem kept_created {node : Definition.Node} {ptr : Device V}
    (made : Definition.created env.creators node = some ptr) : ptr.Kept node.name := by
  obtain ⟨device, new, rfl⟩ := Option.map_eq_some_iff.mp made
  obtain ⟨vendor, -, new⟩ := Option.bind_eq_some_iff.mp new
  obtain ⟨creator, known, new⟩ := Option.bind_eq_some_iff.mp new
  obtain ⟨world, fresh⟩ := env.fresh vendor creator node.id device known new
  exact Device.kept_named fresh node.name

/-- What is there behind a definition. -/
def objectsOf (env : Outside V R) (obj : JsonObject) : Objects (Device V) :=
  (Definition.loadDef env.creators (obj.get (utf8 "algorithm_type")).toInt
    ((obj.get (utf8 "product")).toString []) obj .none).2

/-- The devices of a definition. -/
def tableOf (env : Outside V R) (obj : JsonObject) (name : Bytes) : Option (DeviceClass V) :=
  ((objectsOf env obj).m_objects.lookup name).map Device.kind

variable (env) in
/-- What is there of a device of a definition. -/
theorem objectsOf_cases (obj : JsonObject) (name : Bytes) :
    (objectsOf env obj).m_objects.lookup name = none ∨
      ∃ node ∈ Definition.nodesOfDef ((obj.get (utf8 "product")).toString []) obj,
        node.name = name ∧ ∃ ptr, Definition.created env.creators node = some ptr ∧
          (objectsOf env obj).m_objects.lookup name = some ptr := by
  obtain ⟨front, longest, adds, -⟩ := Definition.loadNodes_exact env.creators
    (obj.get (utf8 "algorithm_type")).toInt
    (Definition.nodesOfDef ((obj.get (utf8 "product")).toString []) obj)
    { (Objects.none : Objects (Device V)) with
      m_objectResult := some (Definition.resultOf ((obj.get (utf8 "product")).toString [])) }
  rw [← Definition.loadDef_eq] at adds
  by_cases named : name ∈ front.map Definition.Node.name
  · obtain ⟨node, here, rfl⟩ := List.mem_map.mp named
    exact .inr ⟨node, longest.early.subset here, rfl, adds.objects node here⟩
  · exact .inl (adds.others name named)

theorem kept_objectsOf (obj : JsonObject) (rest : Rest R) :
    Kept (tableOf env obj) { objects := objectsOf env obj, rest } := by
  refine ⟨fun name => rfl, fun name ptr there => ?_⟩
  rcases objectsOf_cases env obj name with absent | ⟨node, -, rfl, ptr', made, held⟩
  · cases absent.symm.trans there
  · cases held.symm.trans there
    exact kept_created made

/-- No device is named as the project is. -/
theorem tableOf_global (obj : JsonObject) : tableOf env obj (utf8 "global") = none := by
  rcases objectsOf_cases env obj (utf8 "global") with absent | ⟨node, there, named, -⟩
  · rw [tableOf, absent]
    rfl
  · exact absurd named (Definition.name_ne_global there)

def savedKeys : List String :=
  ["brand_id", "image_save_path", "image_file_keep_days", "log_file_keep_days", "policystore_ip",
    "policystore_port", "image_max_interval", "image_infer_timeout_ms", "object_infer_timeout_ms",
    "box_queue_len", "box_min_elapsed", "image_orginal_rate", "image_binning_rate"]

theorem savedAttributes_keys (out : ProjectCalls (Site V R)) :
    (savedAttributes out).map Attribute.m_key = savedKeys.map utf8 := rfl

theorem not_saved {out : ProjectCalls (Site V R)} {key : String} (other : key ∉ savedKeys) :
    utf8 key ∉ (savedAttributes out).map Attribute.m_key := by
  rwa [savedAttributes_keys, List.mem_map_of_injective utf8_injective]

/-- No file sets the name of the project. -/
theorem name_not_besides (out : ProjectCalls (Site V R)) (call : EngineClass.Call (Site V R)) :
    utf8 "name" ∉ (project out).besides call := by
  have defs : utf8 "name" ∉ [utf8 "product", utf8 "algorithm_type"] := by decide
  have params : utf8 "name" ∉ (savedAttributes out).map Attribute.m_key := not_saved (by decide)
  unfold EngineClass.besides
  cases found : (project out).attrList.find? fun a => a.m_key = call.key with
  | none => exact List.not_mem_nil
  | some a =>
      rw [Option.bind_some]
      rcases project_plain out (List.mem_of_find?_eq_some found) with plain | rfl | rfl
      · have plain := Attribute.plain_iff.mpr plain
        cases setter : a.m_setter with
        | none => exact List.not_mem_nil
        | some setter' =>
            cases setter' with
            | device f => exact List.not_mem_nil
            | file sets load => exact absurd setter (plain sets load)
      · cases call.trusted with
        | false => exact List.not_mem_nil
        | true => exact defs
      · cases call.trusted with
        | false => exact List.not_mem_nil
        | true => exact params

/-- A call of the project leaves its name, but for one that sets it. -/
theorem setAttr_name {s : Console V R} {key : Bytes} (other : key ≠ utf8 "name") (value : Json)
    (trusted : Bool) :
    (setAttr env.cls.attrList s key value trusted).2.m_value (utf8 "name") =
      s.m_value (utf8 "name") := by
  have owns : env.cls.SetsOwn s { world := s.world, key, value, trusted } :=
    EngineClass.setsOwn s _
  have besides := name_not_besides env.calls { world := s.world, key, value, trusted }
  cases answer : (setAttr env.cls.attrList s key value trusted).1 with
  | false => exact owns.refused (congrArg (fun answer => [answer]) answer) _ besides
  | true => exact (owns.accepted (congrArg (fun answer => [answer]) answer)).2 _ besides other.symm

/-- What holds of a console: its values are in reach, it has its name, and its devices are kept. -/
structure Holds (env : Outside V R) (table : Bytes → Option (DeviceClass V)) (s : Console V R) :
    Prop where
  reached : Reached env.cls s
  named : s.m_value (utf8 "name") = .string (utf8 "global")
  kept : Kept table s.world

theorem Holds.name_eq {s : Console V R} (holds : Holds env table s) : s.name = utf8 "global" := by
  rw [EngineObject.name, holds.named]
  rfl

/-- A call of the project that loads no file and leaves its name. -/
theorem Holds.setAttr {s : Console V R} (holds : Holds env table s) {key : Bytes}
    (other : key ≠ utf8 "name") {trusted : Bool}
    (quiet : trusted = true → ∀ a ∈ env.cls.attrList, a.m_key = key → a.Plain) (value : Json) :
    Holds env table (setAttr env.cls.attrList s key value trusted).2 where
  reached := holds.reached.setAttr key value trusted
  named := (setAttr_name other value trusted).trans holds.named
  kept := setAttr_keepsWorld (fun _ own => project_keepsWorld own) quiet holds.kept value

/-- Loading the parameters keeps the devices. -/
theorem loadParams_kept {s : Console V R} (kept : Kept table s.world) (path : Bytes) :
    Kept table (loadParams env.calls s path).2.world := by
  unfold loadParams
  split
  next => exact kept
  cases readObject env.calls s.world path with
  | none => exact kept
  | some obj =>
      have loaded : Kept table
          (loadFromJson (savedAttributes env.calls) s (obj.get s.name)).world :=
        loadFromJson_keepsWorld
          (fun a saved => project_keepsWorld (savedAttributes_own env.calls saved).1)
        (fun a saved => (savedAttributes_own env.calls saved).2.2) kept (obj.get s.name)
      let s' : Console V R := loadFromJson (savedAttributes env.calls) s (obj.get s.name)
      have objects : Kept table (env.calls.loadObjects s'.world obj) :=
        loaded.map (f := fun _ ptr => ptr.loadFromJson (obj.get ptr.name)) (fun _ _ => rfl)
          (fun _ _ device => device.loadFromJson _) rfl
      let worlds := (env.init { s' with world := env.calls.loadObjects s'.world obj }).2.2
      exact objects.map (f := fun name ptr => ptr.outside (worlds name)) (fun _ _ => rfl)
        (fun _ _ device => device.outside _) rfl

/-- The file of a definition, at the start. -/
def Defines (env : Outside V R) (other : R) (definition : Bytes) (obj : JsonObject) : Prop :=
  definition ≠ [] ∧
    readObject env.calls { objects := .none, rest := { other, posted := [] } } definition = some obj

/-- **What is there behind the definition.** -/
theorem opened_holds {other : R} {definition : Bytes} {obj : JsonObject}
    (defines : Defines env other definition obj) :
    Holds env (tableOf env obj) (Console.opened env other definition) ∧
      (Console.opened env other definition).world =
        { objects := objectsOf env obj, rest := { other, posted := [] } } := by
  obtain ⟨given, read⟩ := defines
  have ne : utf8 "def" ≠ utf8 "name" := utf8_injective.ne (by decide)
  have reached : Reached env.cls (Console.constructed env other) := reached_constructed _
  have named : (Console.constructed env other).m_value (utf8 "name") =
      .string (utf8 "global") := rfl
  -- the class of the project is that of one whose definitions are loaded so
  have outside := (Definition.step_openCall env.creators env.calls reached.sound
    (Console.constructed env other).world definition).2
  obtain ⟨-, objects, rest⟩ := Definition.openDef_objects env.creators env.calls reached.sound
    given read
  have world : (Console.opened env other definition).world =
      { objects := objectsOf env obj, rest := { other, posted := [] } } := by
    refine outside.trans ?_
    exact congrArg₂ Surroundings.mk objects rest
  refine ⟨⟨reached.setAttr _ _ _, (setAttr_name ne _ _).trans named, ?_⟩, world⟩
  rw [world]
  exact kept_objectsOf obj _

/-- The call with the parameters, on a project with its definition. -/
theorem setParams {s : Console V R} (reached : Reached env.cls s) (path : Bytes) :
    let s' := (setAttr env.cls.attrList s (utf8 "params") (.string path) true).2
    s'.world = (loadParams env.calls s path).2.world ∧
      ∀ key ≠ utf8 "params", s'.m_value key = (loadParams env.calls s path).2.m_value key := by
  have own : m_params env.calls ∈ env.cls.attrList := mem_projectAttributes _ (by simp)
  have type : jsonType (.string path) = jsonType (s.m_value (m_params env.calls).m_key) :=
    (reached.sound _ own).1.symm
  have call : setAttr env.cls.attrList s (utf8 "params") (.string path) true =
      (m_params env.calls).setValue s (.string path) true := EngineClass.setAttr_own own ..
  intro s'
  have same : s' = ((m_params env.calls).setValue s (.string path) true).2 := congrArg Prod.snd call
  rw [same]
  exact ⟨Definition.setValue_trusted_world rfl type, (setValue_trusted rfl type).2⟩

/-- **What holds behind the start.** -/
theorem boot_holds {other : R} {definition : Bytes} {obj : JsonObject}
    (defines : Defines env other definition obj) (params : Bytes) :
    Holds env (tableOf env obj) (Console.boot env other definition params) := by
  obtain ⟨before, -⟩ := opened_holds defines
  have ne : utf8 "params" ≠ utf8 "name" := utf8_injective.ne (by decide)
  refine ⟨before.reached.setAttr _ _ _, (setAttr_name ne _ _).trans before.named, ?_⟩
  show Kept _ (setAttr env.cls.attrList (Console.opened env other definition) _ _ _).2.world
  rw [(setParams before.reached params).1]
  exact loadParams_kept before.kept params

/-- The parameters of a file that was written with these members. -/
theorem read_params {other : R} {definition path : Bytes} {obj members : JsonObject}
    (defines : Defines env other definition obj) (some' : members ≠ [])
    (holds : env.qt.Holds (.object members))
    (text : env.readAll other path = some (env.qt.toJson .Indented (.object members))) :
    readObject env.calls (Console.opened env other definition).world path = some members := by
  have read : env.calls.readAll (Console.opened env other definition).world path =
      some (env.qt.toJson .Indented (.object members)) := by
    rw [(opened_holds defines).2]
    exact text
  have object : env.calls.qt.object (env.qt.toJson .Indented (.object members)) = members :=
    env.qt.object_of_holds .Indented holds
  simp only [readObject, read, object, if_neg some']

/-- A path whose parameters are loaded is kept. -/
theorem boot_params {other : R} {definition params : Bytes} {obj file : JsonObject}
    (defines : Defines env other definition obj) (given : params ≠ [])
    (read : readObject env.calls (Console.opened env other definition).world params = some file)
    (ready : ∀ s, (env.init s).1 = true) :
    (Console.boot env other definition params).m_value (utf8 "params") = .string params := by
  obtain ⟨before, -⟩ := opened_holds defines
  have owns : env.cls.SetsOwn (Console.opened env other definition)
      { world := (Console.opened env other definition).world, key := utf8 "params"
        value := .string params, trusted := true } := EngineClass.setsOwn _ _
  have own : m_params env.calls ∈ env.cls.attrList := mem_projectAttributes _ (by simp)
  have type : jsonType (.string params) =
      jsonType ((Console.opened env other definition).m_value (m_params env.calls).m_key) :=
    (before.reached.sound _ own).1.symm
  have call : setAttr env.cls.attrList (Console.opened env other definition) (utf8 "params")
      (.string params) true =
        (m_params env.calls).setValue (Console.opened env other definition) (.string params) true :=
    EngineClass.setAttr_own own ..
  have loads : (loadParams env.calls (Console.opened env other definition) params).1 = true := by
    rw [loadParams, if_neg given, read]
    exact ready _
  have answer : (setAttr env.cls.attrList (Console.opened env other definition) (utf8 "params")
      (.string params) true).1 = true := by
    rw [call, (setValue_trusted (a := m_params env.calls) rfl type).1]
    exact loads
  exact (owns.accepted (congrArg (fun answer => [answer]) answer)).1

/-! ## Runs -/

/-- An event that names nothing anew. -/
def Event.Ordinary : Event V R → Prop
  | .set _ key _ => key ≠ utf8 "name"
  | _ => True

theorem step_holds {s : Console V R} (holds : Holds env table s) {e : Event V R}
    (ordinary : e.Ordinary) : Holds env table (Console.step env s e).1 := by
  cases e with
  | set name key value =>
      dsimp only [Console.step]
      split
      next => exact holds.setAttr ordinary (fun trusted => by cases trusted) value
      next =>
        refine ⟨holds.reached, holds.named, ?_⟩
        refine holds.kept.map
          (f := fun k ptr => if k = name then ptr.setAttr key value false else ptr)
          (fun k ptr => ?_) (fun k ptr device => ?_) rfl
        · split <;> rfl
        · split
          next => exact device.setAttr ordinary value false
          next => exact device
  | enable value =>
      have ne : utf8 "enabled" ≠ utf8 "name" := utf8_injective.ne (by decide)
      refine holds.setAttr ne (fun _ a own named => ?_) _
      rcases project_plain env.calls own with plain | rfl | rfl
      · exact Attribute.plain_iff.mpr plain
      · exact absurd named (utf8_injective.ne (by decide))
      · exact absurd named (utf8_injective.ne (by decide))
  | outside other worlds virtualCameras =>
      exact ⟨holds.reached, holds.named,
        holds.kept.map (f := fun name ptr => ptr.outside (worlds name)) (fun _ _ => rfl)
          (fun _ _ device => device.outside _) rfl⟩

theorem run_holds {s : Console V R} (holds : Holds env table s) {es : List (Event V R)}
    (ordinary : ∀ e ∈ es, e.Ordinary) :
    Holds env table (Machine.final (Console.step env) s es) := by
  induction es generalizing s with
  | nil => exact holds
  | cons e es ih =>
      exact ih (step_holds holds (ordinary e List.mem_cons_self))
        fun e later => ordinary e (List.mem_cons_of_mem _ later)

/-! ## Saving -/

/-- What `saveParams` saves. -/
def paramsOf (env : Outside V R) (s : Console V R) : JsonObject :=
  JsonObject.ofInserts ((s.name, saveToJson (savedAttributes env.calls) s
    ((s.m_value (utf8 "product")).toString [])) :: env.calls.m_objects s.world)

/-- `save` on the console. -/
def save : Event V R := .set (utf8 "global") (utf8 "save") (.bool true)

/-- A setter that works outside leaves what it leaves, whatever it answers. -/
theorem setValue_device {W : Type} {a : Attribute W}
    {f : EngineObject W → Json → Json → Bool → Bool × W}
    (setter : a.m_setter = some (.device f)) {s : EngineObject W} {value : Json}
    (type : jsonType value = jsonType (s.m_value a.m_key)) (trusted : Bool) :
    (a.setValue s value trusted).2.world = (f s value (s.m_value a.m_key) trusted).2 := by
  rw [Attribute.setValue, if_neg (not_not.mpr type), setter]
  dsimp only [Setter.run]
  split <;> rfl

/-- `save` is what `saveParams` does. -/
theorem step_save {s : Console V R} (holds : Holds env table s) :
    (Console.step env s save).1.world = (saveParams env.calls s).2 := by
  have own : m_save env.calls ∈ env.cls.attrList := mem_projectAttributes _ (by simp)
  have type : jsonType (.bool true) = jsonType (s.m_value (m_save env.calls).m_key) :=
    (holds.reached.sound _ own).1.symm
  have call : setAttr env.cls.attrList s (utf8 "save") (.bool true) false =
      (m_save env.calls).setValue s (.bool true) false := EngineClass.setAttr_own own ..
  dsimp only [Console.step, save]
  rw [if_pos holds.name_eq.symm, call]
  exact setValue_device rfl type false

/-- What `save` posts. -/
theorem save_posts {s : Console V R} (holds : Holds env table s) {path : Bytes} {json : Json}
    (posted : (Console.step env s save).1.world.rest.posted = s.world.rest.posted ++ [(path, json)]) :
    json = .object (paramsOf env s) ∧ path ≠ [] := by
  rw [step_save holds, saveParams] at posted
  dsimp only at posted
  split at posted
  next => simp at posted
  next given =>
    split at posted
    next => simp at posted
    next =>
      have same := List.append_cancel_left posted
      simp only [List.cons.injEq, Prod.mk.injEq, and_true] at same
      obtain ⟨rfl, rfl⟩ := same
      exact ⟨rfl, given⟩

/-- Where there are a path and a device, it posts. -/
theorem save_accepted {s : Console V R} (holds : Holds env table s) {path name : Bytes}
    (loaded : s.m_value (utf8 "params") = .string path) (given : path ≠ [])
    (there : (table name).isSome) :
    (Console.step env s save).1.world.rest.posted =
      s.world.rest.posted ++ [(path, .object (paramsOf env s))] := by
  have devices : env.calls.m_objects s.world ≠ [] := by
    rw [← holds.kept.kinds name, Option.isSome_map] at there
    have length := (env.each s.world.objects.m_objects).length_eq
    intro none
    have empty : env.order s.world.objects.m_objects = [] := List.map_eq_nil_iff.mp none
    rw [empty, List.length_nil, List.length_map, eq_comm, List.length_eq_zero_iff] at length
    have absent : name ∉ s.world.objects.m_objects := by
      show name ∉ s.world.objects.m_objects.entries.keys
      rw [length]
      exact List.not_mem_nil
    exact absent (AList.lookup_isSome.mp there)
  have path_eq : (s.m_value (utf8 "params")).toString [] = path := by rw [loaded]; rfl
  rw [step_save holds]
  simp only [saveParams, path_eq, if_neg given, if_neg devices]
  rfl

/-- The members that are saved: those of the project, and those of each device under its name. -/
theorem value_paramsOf {s : Console V R} (holds : Holds env table s)
    (apart : s.world.objects.m_objects.lookup (utf8 "global") = none) :
    (paramsOf env s).value (utf8 "global") =
        some (saveToJson (savedAttributes env.calls) s
          ((s.m_value (utf8 "product")).toString [])) ∧
      ∀ name ptr, s.world.objects.m_objects.lookup name = some ptr →
        (paramsOf env s).value name = some ptr.saveToJson := by
  set devices := s.world.objects.m_objects with here
  set own := saveToJson (savedAttributes env.calls) s ((s.m_value (utf8 "product")).toString [])
  let held (name : Bytes) : Json :=
    match devices.lookup name with
    | some ptr => ptr.saveToJson
    | none => own
  have entry : ∀ e : Bytes × Device V, e ∈ env.order devices ↔ devices.lookup e.1 = some e.2 := by
    intro e
    rw [(env.each devices).mem_iff, ← Option.mem_def, AList.mem_lookup_iff]
    constructor
    · intro there
      obtain ⟨⟨name, ptr⟩, inside, rfl⟩ := List.mem_map.mp there
      exact inside
    · exact fun inside => List.mem_map.mpr ⟨_, inside, rfl⟩
  have members : paramsOf env s = JsonObject.ofInserts
      ((utf8 "global" :: (env.order devices).map Prod.fst).map fun name => (name, held name)) := by
    have first : held (utf8 "global") = own := by simp only [held, apart]
    have others : (env.order devices).map (fun e => (e.2.name, e.2.saveToJson)) =
        ((env.order devices).map Prod.fst).map fun name => (name, held name) := by
      rw [List.map_map]
      refine List.map_congr_left fun e there => ?_
      have found := (entry e).mp there
      have named := (holds.kept.kept e.1 e.2 found).name_eq
      simp only [Function.comp_apply, held, found, named]
    rw [List.map_cons, first, ← others, paramsOf, holds.name_eq]
    rfl
  rw [members]
  constructor
  · rw [JsonObject.value_ofInserts, JsonObject.value_map, if_pos List.mem_cons_self]
    simp only [held, apart]
  · intro name ptr found
    have there : name ∈ (env.order devices).map Prod.fst :=
      List.mem_map.mpr ⟨(name, ptr), (entry _).mpr found, rfl⟩
    rw [JsonObject.value_ofInserts, JsonObject.value_map, if_pos (List.mem_cons_of_mem _ there)]
    simp only [held, found]

/-- The file holds the text of a save that nothing befell, after the next start as well. -/
theorem config_saved {disk : Disk} (existed : disk.config.isSome) {text : Bytes}
    (nonempty : text ≠ []) :
    (AuxTask.checkConfigFile ((AuxTask.saveConfigFileAsync text).final .none disk)).config =
      some text := by
  obtain ⟨old, before⟩ := Option.isSome_iff_exists.mp existed
  have whole : (AuxTask.saveConfigFileAsync text).final .none disk = AuxTask.replaceConfig.final .none
      { config := some old, temp := some text, backup := disk.backup, buffered := [] } := by
    rw [AuxTask.saveConfigFile_goesOn (by simp [AuxTask.abandonsTemp]), before]
    rfl
  rw [whole]
  rcases AuxTask.replaceConfig_spec old text disk.backup .none with
    ⟨keeps, -⟩ | ⟨loses, -⟩ | ⟨-, -, held, -⟩
  · cases keeps
  · cases loses
  · exact AuxTask.checkConfigFile_nonempty held nonempty

/-! ## The next start -/

/-- The saved attributes of the project, as a class. -/
def savedClass (out : ProjectCalls (Site V R)) : EngineClass (Site V R) :=
  .ofPlain (savedAttributes out)
    (distinct_of_keys savedKeys (savedAttributes_keys out) (by decide))
    fun _ saved => Attribute.plain_iff.mp (savedAttributes_own out saved).2.2

/-- What is saved of the project is there in another one that loads it. -/
theorem project_roundTrip {s fresh : Console V R} (reached : Reached env.cls s)
    (typed : Reached env.cls fresh) (productType : Bytes) {a : Attribute (Site V R)}
    (own : a ∈ savedAttributes env.calls) (saved : a.savedFor productType = true) :
    (loadFromJson (savedAttributes env.calls) fresh
      (saveToJson (savedAttributes env.calls) s productType)).m_value a.m_key =
        s.m_value a.m_key := by
  have inside : ∀ b ∈ savedAttributes env.calls, b ∈ env.cls.attrList :=
    fun b saves => (savedAttributes_own env.calls saves).1
  have roundTrip : (savedClass env.calls).RoundTrip productType s fresh :=
    EngineClass.roundTrip (fun b saves => reached.sound b (inside b saves))
      (fun b saves => reached.trusts (project_reaccepts env.calls) b (inside b saves))
      (fun b saves => typed.sound b (inside b saves)) productType
  exact roundTrip a own saved

variable (env) in
/-- Loading the project leaves its devices as they are. -/
theorem loadFromJson_objects (s : Console V R) (json : Json) :
    (loadFromJson (savedAttributes env.calls) s json).world.objects.m_objects =
      s.world.objects.m_objects := by
  refine loadFromJson_keepsWorld
    (P := fun w => w.objects.m_objects = s.world.objects.m_objects) (fun a saved => ?_)
    (fun a saved => (savedAttributes_own env.calls saved).2.2) rfl json
  have setters : a.m_setter = none ∨ a = m_imageMaxInterval ∨
      a.m_setter = some (rateSetter env.calls env.calls.originalReportRateSet) ∨
      a.m_setter = some (rateSetter env.calls env.calls.binningReportRateSet) := by
    revert a
    simp [savedAttributes, reportAttributes, m_brandId]
  intro f setter s' newValue oldValue trusted same
  rcases setters with free | rfl | original | binning
  · rw [free] at setter
    cases setter
  · cases setter
    exact same
  · cases original.symm.trans setter
    dsimp only
    split <;> exact same
  · cases binning.symm.trans setter
    dsimp only
    split <;> exact same

/-- What is loaded where the file holds these members. -/
theorem loadParams_eq {s : Console V R} {path : Bytes} {obj : JsonObject} (given : path ≠ [])
    (read : readObject env.calls s.world path = some obj) :
    (loadParams env.calls s path).2.m_value =
        (loadFromJson (savedAttributes env.calls) s (obj.get s.name)).m_value ∧
      ∃ worlds : Bytes → V, (loadParams env.calls s path).2.world.objects.m_objects =
        (s.world.objects.m_objects.mapValues fun _ ptr => ptr.loadFromJson (obj.get ptr.name)).mapValues
          fun name ptr => ptr.outside (worlds name) := by
  rw [loadParams, if_neg given, read]
  let s' : Console V R := loadFromJson (savedAttributes env.calls) s (obj.get s.name)
  refine ⟨rfl, (env.init { s' with world := env.calls.loadObjects s'.world obj }).2.2, ?_⟩
  rw [← loadFromJson_objects env s (obj.get s.name)]
  rfl

/-- What is loaded of the project where the file holds what was saved. -/
theorem boot_project {s : Console V R} {other : R} {definition path : Bytes}
    {obj : JsonObject} (holds : Holds env table s) (defines : Defines env other definition obj)
    (given : path ≠ [])
    (read : readObject env.calls (Console.opened env other definition).world path =
      some (paramsOf env s))
    (member : (paramsOf env s).value (utf8 "global") = some (saveToJson (savedAttributes env.calls) s
      ((s.m_value (utf8 "product")).toString []))) :
    ∀ a ∈ savedAttributes env.calls,
      a.savedFor ((s.m_value (utf8 "product")).toString []) = true →
        (Console.boot env other definition path).m_value a.m_key = s.m_value a.m_key := by
  intro a own saved
  obtain ⟨before, -⟩ := opened_holds defines
  have ne : a.m_key ≠ utf8 "params" := by
    intro same
    have absent : utf8 "params" ∉ (savedAttributes env.calls).map Attribute.m_key :=
      not_saved (by decide)
    exact absent (same ▸ List.mem_map_of_mem own)
  have loaded : (Console.boot env other definition path).m_value a.m_key =
      (loadParams env.calls (Console.opened env other definition) path).2.m_value a.m_key :=
    (setParams before.reached path).2 a.m_key ne
  rw [loaded, (loadParams_eq given read).1, before.name_eq, JsonObject.get, member]
  exact project_roundTrip holds.reached before.reached _ own saved

/-- What is loaded of a device where the file holds what was saved. -/
theorem boot_device {s : Console V R} {other : R} {definition path : Bytes}
    {obj : JsonObject} (holds : Holds env (tableOf env obj) s)
    (defines : Defines env other definition obj) (given : path ≠ [])
    (read : readObject env.calls (Console.opened env other definition).world path =
      some (paramsOf env s))
    {name : Bytes} {ptr : Device V} (found : s.world.objects.m_objects.lookup name = some ptr)
    (member : (paramsOf env s).value name = some ptr.saveToJson) :
    ∃ ptr', (Console.boot env other definition path).world.objects.m_objects.lookup name = some ptr' ∧
      ptr'.kind = ptr.kind ∧ ∀ a ∈ ptr.kind.attrList, a.m_save = true →
        ptr'.state.m_value a.m_key = ptr.state.m_value a.m_key := by
  obtain ⟨before, -⟩ := opened_holds defines
  obtain ⟨-, worlds, objects⟩ := loadParams_eq given read
  have world : (Console.boot env other definition path).world =
      (loadParams env.calls (Console.opened env other definition) path).2.world :=
    (setParams before.reached path).1
  have kind := before.kept.kinds name
  rw [← holds.kept.kinds name, found] at kind
  obtain ⟨fresh, there, same⟩ := Option.map_eq_some_iff.mp kind
  have typed := before.kept.kept name fresh there
  refine ⟨(fresh.loadFromJson ptr.saveToJson).outside (worlds name), ?_, same, ?_⟩
  · rw [world, objects, Hash.lookup_mapValues, Hash.lookup_mapValues, there, Option.map_some,
      Option.map_some, typed.name_eq, JsonObject.get, member]
    rfl
  · exact Device.loadFromJson_saveToJson (holds.kept.kept name ptr found) same typed

/-- **What is saved is there again after the next start.**  A console is started with a definition
and runs; what `save` posts is written to the file that was there, and nothing befalls that.  Then
another one is started with this definition and this file. -/
theorem settings_restored (env : Outside V R) {definition params path : Bytes} {obj : JsonObject}
    {other other' : R} (defines : Defines env other definition obj)
    (defines' : Defines env other' definition obj) {es : List (Event V R)}
    (ordinary : ∀ e ∈ es, e.Ordinary) {json : Json} (keeps : env.qt.Holds json) {disk : Disk}
    (existed : disk.config.isSome) :
    let s := Machine.final (Console.step env) (Console.boot env other definition params) es
    let s' := Console.boot env other' definition path
    (Console.step env s save).1.world.rest.posted = s.world.rest.posted ++ [(path, json)] →
    env.readAll other' path = (AuxTask.checkConfigFile
      ((AuxTask.saveConfigFileAsync (env.qt.toJson .Indented json)).final .none disk)).config →
    (∀ a ∈ savedAttributes env.calls,
      a.savedFor ((s.m_value (utf8 "product")).toString []) = true →
        s'.m_value a.m_key = s.m_value a.m_key) ∧
    ∀ name ptr, s.world.objects.m_objects.lookup name = some ptr →
      ∃ ptr', s'.world.objects.m_objects.lookup name = some ptr' ∧ ptr'.kind = ptr.kind ∧
        ∀ a ∈ ptr.kind.attrList, a.m_save = true →
          ptr'.state.m_value a.m_key = ptr.state.m_value a.m_key := by
  intro s s' posted file
  have holds : Holds env (tableOf env obj) s := run_holds (boot_holds defines params) ordinary
  obtain ⟨rfl, given⟩ := save_posts holds posted
  rw [config_saved existed (env.braces _)] at file
  have read :=
    read_params defines' (JsonObject.ofInserts_ne_nil (List.cons_ne_nil _ _)) keeps file
  have apart : s.world.objects.m_objects.lookup (utf8 "global") = none := by
    have kind := holds.kept.kinds (utf8 "global")
    rw [tableOf_global] at kind
    exact Option.map_eq_none_iff.mp kind
  obtain ⟨own, devices⟩ := value_paramsOf holds apart
  exact ⟨boot_project holds defines' given read own,
    fun name ptr found => boot_device holds defines' given read found (devices name ptr found)⟩

/-! ## A soft camera -/

/-- A soft camera of which nothing is seen outside. -/
def stillCamera : DeviceClass Unit :=
  softCameraClass
    { onStarted := fun _ => (), onStopped := fun _ => (), setCameraNameAsync := fun _ _ _ => ()
      setImageSrcPathAsync := fun _ _ _ _ => (), setIntervalAsync := fun _ _ _ => () }

/-- Soft cameras and a kick over UDP, and files under their paths. -/
def softSite : Outside Unit (Bytes → Option Bytes) where
  qt := .reference
  braces members empty := by
    have read := QtJson.reference.fromJson_toJson .Indented (.object members) rfl
    rw [empty] at read
    cases read
  readAll files path := files path
  s_creator vendor :=
    if vendor = utf8 "soft" then some fun _ => some ⟨stillCamera, stillCamera.constructed ()⟩
    else none
  fresh vendor creator id d known made := by
    split at known
    next =>
      cases known
      cases made
      exact ⟨(), rfl⟩
    next => cases known
  order devices := devices.entries.map fun e => (e.1, e.2)
  each devices := List.Perm.refl _
  getRunType _ := .RunType_Infer
  init s := (true, s.world.rest.other, fun _ => ())
  originalReportRateSet files _ := files
  binningReportRateSet files _ := files

/-- The definition, and a file of parameters. -/
def softFiles (params : Bytes) (path : Bytes) : Option Bytes :=
  if path = utf8 "def" then
    some (QtJson.reference.toJson .Compact (.object Definition.twoCameras))
  else some params

theorem softFiles_defines (params : Bytes) :
    Defines softSite (softFiles params) (utf8 "def") Definition.twoCameras := by
  refine ⟨by decide, ?_⟩
  have text : QtJson.reference.object
      (QtJson.reference.toJson .Compact (.object Definition.twoCameras)) = Definition.twoCameras :=
    QtJson.object_of_holds .reference .Compact (by decide +kernel)
  have members : Definition.twoCameras ≠ [] := List.cons_ne_nil _ _
  simp only [readObject, Outside.calls, softSite, softFiles, if_true, text, if_neg members]

theorem tableOf_soft : (tableOf softSite Definition.twoCameras (utf8 "camera-0")).isSome := by
  decide +kernel

theorem softFiles_params (params : Bytes) :
    softSite.readAll (softFiles params) (utf8 "params") = some params := by
  have ne : utf8 "params" ≠ utf8 "def" := utf8_injective.ne (by decide)
  show softFiles params (utf8 "params") = some params
  rw [softFiles, if_neg ne]

/-- The parameters that the first console starts with. -/
def softParams : JsonObject := [(utf8 "global", .null)]

/-- A console that starts with them, and is told another interval of a camera. -/
def softRun : Console Unit (Bytes → Option Bytes) :=
  Machine.final (Console.step softSite)
    (Console.boot softSite (softFiles (softSite.qt.toJson .Indented (.object softParams)))
      (utf8 "def") (utf8 "params"))
    [.set (utf8 "camera-0") (utf8 "interval") (.int 50)]

theorem softRun_ordinary : ∀ e ∈ [(.set (utf8 "camera-0") (utf8 "interval") (.int 50) :
    Event Unit (Bytes → Option Bytes))], e.Ordinary := by
  intro e there
  rw [List.mem_singleton.mp there]
  exact utf8_injective.ne (by decide)

theorem softRun_posted : (Console.step softSite softRun save).1.world.rest.posted =
    softRun.world.rest.posted ++ [(utf8 "params", .object (paramsOf softSite softRun))] := by
  have given : utf8 "params" ≠ [] := by decide
  have defines := softFiles_defines (softSite.qt.toJson .Indented (.object softParams))
  have start := boot_holds defines (utf8 "params")
  have read := read_params defines (List.cons_ne_nil _ _) (by decide +kernel) (softFiles_params _)
  have loaded : softRun.m_value (utf8 "params") = .string (utf8 "params") := by
    have other : utf8 "camera-0" ≠ (Console.boot softSite (softFiles (softSite.qt.toJson .Indented
        (.object softParams))) (utf8 "def") (utf8 "params")).name := by
      rw [start.name_eq]
      exact utf8_injective.ne (by decide)
    have same : softRun = (Console.step softSite (Console.boot softSite (softFiles
      (softSite.qt.toJson .Indented (.object softParams))) (utf8 "def") (utf8 "params"))
      (.set (utf8 "camera-0") (utf8 "interval") (.int 50))).1 := rfl
    rw [same]
    simp only [Console.step, if_neg other]
    exact boot_params defines given read fun _ => rfl
  exact save_accepted (run_holds start softRun_ordinary) loaded given tableOf_soft

theorem softRun_holds : softSite.qt.Holds (.object (paramsOf softSite softRun)) := by
  decide +kernel

/-- Another console starts with what is saved. -/
theorem settings_restored_soft :
    let text := softSite.qt.toJson .Indented (.object (paramsOf softSite softRun))
    ∀ ptr, softRun.world.objects.m_objects.lookup (utf8 "camera-0") = some ptr →
      ∃ ptr', (Console.boot softSite (softFiles text) (utf8 "def")
          (utf8 "params")).world.objects.m_objects.lookup (utf8 "camera-0") = some ptr' ∧
        ptr'.kind = ptr.kind ∧ ∀ a ∈ ptr.kind.attrList, a.m_save = true →
          ptr'.state.m_value a.m_key = ptr.state.m_value a.m_key := by
  intro text
  let disk : Disk := { config := some [], temp := none, backup := none, buffered := [] }
  have existed : disk.config.isSome := rfl
  have file := (softFiles_params text).trans (config_saved existed (softSite.braces _)).symm
  exact (settings_restored softSite (softFiles_defines _) (softFiles_defines _) softRun_ordinary
    softRun_holds existed softRun_posted file).2 (utf8 "camera-0")

end IsgConsole.BaseLib.Restart
