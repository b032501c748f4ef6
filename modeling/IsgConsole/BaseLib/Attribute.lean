/-
# BaseLib.Attribute — the attributes of an object, set, saved and loaded

An `EngineObject` has a list of attributes, each a JSON value under a key.  `setValue` refuses a
value of another JSON type and then asks the setter of the attribute, if it has one.  `saveToJson`
collects the attributes of a product, and `loadFromJson` sets them in the order of their definition,
as trusted values.

A setter is of one of two kinds (`Setter`): it works on a device or a file and leaves the attributes
alone, or it is trusted with the path of a file that sets certain other attributes.  `m_value` is
private to `Attribute`, so that one too has nothing but `setValue` (`Writes`).  No attribute has a
getter.

* `attributes_kept` — **what a run of `setAttr` leaves of the attributes, and that they can be saved
  and loaded.**
-/
import IsgConsole.Theory.Json.Value
import IsgConsole.Theory.Machine

namespace IsgConsole.BaseLib

open IsgConsole.Theory

set_option autoImplicit false

/-- `QJsonValue::type()`. -/
inductive JsonType where
  | Null | Bool | Double | String | Array | Object
  deriving DecidableEq

def jsonType : Json → JsonType
  | .null => .Null
  | .bool _ => .Bool
  | .number _ => .Double
  | .string _ => .String
  | .array _ => .Array
  | .object _ => .Object

/-! ## Objects -/

variable {W : Type}

/-- An object: the values of its attributes, and what is outside of it. -/
structure EngineObject (W : Type) where
  m_value : Bytes → Json
  world : W

namespace EngineObject

def put (s : EngineObject W) (key : Bytes) (value : Json) : EngineObject W :=
  { s with m_value := Function.update s.m_value key value }

@[simp] theorem m_value_put (s : EngineObject W) (key : Bytes) (value : Json) :
    (s.put key value).m_value = Function.update s.m_value key value := rfl

theorem put_self (s : EngineObject W) (key : Bytes) (value : Json) :
    (s.put key value).m_value key = value := Function.update_self ..

theorem put_other (s : EngineObject W) {key other : Bytes} (ne : other ≠ key) (value : Json) :
    (s.put key value).m_value other = s.m_value other := Function.update_of_ne ne ..

end EngineObject

/-- A setter, asked with the new and the old value and whether the new one is trusted. -/
inductive Setter (W : Type) where
  /-- It works outside of the object. -/
  | device (f : EngineObject W → Json → Json → Bool → Bool × W)
  /-- It loads the file at a trusted path, which sets the attributes with these keys. -/
  | file (sets : List Bytes) (load : EngineObject W → Bytes → Bool × EngineObject W)

def Setter.run (s : EngineObject W) (newValue oldValue : Json) (trusted : Bool) :
    Setter W → Bool × EngineObject W
  | .device f =>
      let (accepted, world) := f s newValue oldValue trusted
      (accepted, { s with world := world })
  | .file _ load => if trusted then load s (newValue.toString []) else (false, s)

/-- `Attribute`: the key, the value it is constructed with, whether and for which product it is
saved, and its setter. -/
structure Attribute (W : Type) where
  m_key : Bytes
  value : Json
  m_save : Bool := true
  m_product : Bytes := utf8 "all"
  m_setter : Option (Setter W) := none

namespace Attribute

/-- `Attribute::setValue`. -/
def setValue (a : Attribute W) (s : EngineObject W) (value : Json) (trusted : Bool) :
    Bool × EngineObject W :=
  let current := s.m_value a.m_key
  if jsonType value ≠ jsonType current then (false, s)
  else
    match a.m_setter with
    | none => (true, s.put a.m_key value)
    | some setter =>
        let (accepted, s) := setter.run s value current trusted
        if accepted then (true, s.put a.m_key value) else (false, s)

/-- The attribute is saved for a product. -/
def savedFor (productType : Bytes) (a : Attribute W) : Bool :=
  a.m_save ∧ (a.m_product = utf8 "all" ∨ a.m_product = productType)

end Attribute

section Operations

variable (attrList : List (Attribute W))

/-- `EngineObject::setAttr`. -/
def setAttr (s : EngineObject W) (key : Bytes) (value : Json) (trusted : Bool) :
    Bool × EngineObject W :=
  match attrList.find? fun a => a.m_key = key with
  | some a => a.setValue s value trusted
  | none => (false, s)

/-- One attribute in `loadFromJson`. -/
def loadAttr (obj : JsonObject) (s : EngineObject W) (a : Attribute W) : EngineObject W :=
  if a.m_save then
    match obj.value a.m_key with
    | some value => (setAttr attrList s a.m_key value true).2
    | none => s
  else s

/-- `EngineObject::loadFromJson`. -/
def loadFromJson (s : EngineObject W) : Json → EngineObject W
  | .object obj => attrList.foldl (loadAttr attrList obj) s
  | _ => s

/-- `EngineObject::saveToJson`, for a product type of the project. -/
def saveToJson (s : EngineObject W) (productType : Bytes) : Json :=
  .objectOf ((attrList.filter (Attribute.savedFor productType)).map fun a =>
    (a.m_key, s.m_value a.m_key))

end Operations

/-! ## Classes -/

/-- The setter of the attribute does not load a file. -/
def Attribute.Plain (a : Attribute W) : Prop := ∀ sets load, a.m_setter ≠ some (.file sets load)

/-- `Attribute.Plain`, to be computed. -/
def Attribute.isPlain (a : Attribute W) : Bool :=
  match a.m_setter with
  | some (.file _ _) => false
  | _ => true

theorem Attribute.plain_iff {a : Attribute W} : a.Plain ↔ a.isPlain = true := by
  unfold Attribute.Plain Attribute.isPlain
  cases a.m_setter with
  | none => simp
  | some setter =>
      cases setter with
      | device f => simp
      | file sets load => simp

theorem Attribute.exists_file {a : Attribute W} (loads : ¬ a.Plain) :
    ∃ sets load, a.m_setter = some (.file sets load) := by
  unfold Attribute.Plain at loads
  push Not at loads
  exact loads

/-- What a setter that loads a file can do: set attributes with these keys, and work outside of the
object. -/
inductive Writes (attrList : List (Attribute W)) (sets : List Bytes) (s : EngineObject W) :
    EngineObject W → Prop where
  | nothing : Writes attrList sets s s
  | outside {s' : EngineObject W} (before : Writes attrList sets s s') (world : W) :
      Writes attrList sets s { s' with world := world }
  | set {s' : EngineObject W} (before : Writes attrList sets s s') {a : Attribute W}
      (own : a ∈ attrList) (named : a.m_key ∈ sets) (plain : a.Plain) (value : Json)
      (trusted : Bool) :
      Writes attrList sets s (a.setValue s' value trusted).2

/-- A class of objects: its attributes in the order of their definition. -/
structure EngineClass (W : Type) where
  attrList : List (Attribute W)
  /-- `Q_ASSERT(!m_attrMap.contains(attr.key()))`. -/
  distinct : (attrList.map Attribute.m_key).Nodup
  /-- The attributes with the path of a file are not saved. -/
  unsaved : ∀ a ∈ attrList, a.m_save = true → a.Plain
  writes : ∀ a ∈ attrList, ∀ sets load, a.m_setter = some (.file sets load) →
    ∀ s path, Writes attrList sets s (load s path).2

namespace EngineClass

variable (cls : EngineClass W)

/-- An object as it is constructed. -/
def constructed (world : W) : EngineObject W :=
  { m_value := fun key =>
      match cls.attrList.find? fun a => a.m_key = key with
      | some a => a.value
      | none => .null
    world := world }

/-- A call of `setAttr`, and what is outside of the object at that moment. -/
structure Call (W : Type) where
  world : W
  key : Bytes
  value : Json
  trusted : Bool

def step (s : EngineObject W) (call : Call W) : EngineObject W × List Bool :=
  let (accepted, s) := setAttr cls.attrList { s with world := call.world } call.key call.value
    call.trusted
  (s, [accepted])

end EngineClass

/-! ## What an attribute may hold -/

namespace Attribute

/-- The setter of the attribute has accepted the value at some time. -/
def Accepted (a : Attribute W) (value : Json) : Prop :=
  ∀ f, a.m_setter = some (.device f) → ∃ s oldValue trusted, (f s value oldValue trusted).1 = true

/-- The setter of the attribute accepts the value, at any time, when it is trusted. -/
def Trusts (a : Attribute W) (value : Json) : Prop :=
  ∀ f, a.m_setter = some (.device f) → ∀ s oldValue, (f s value oldValue true).1 = true

/-- A value the attribute may have stored: of its type, and its first one or one its setter has
accepted. -/
def Stored (a : Attribute W) (value : Json) : Prop :=
  jsonType value = jsonType a.value ∧ (value = a.value ∨ a.Accepted value)

/-- What `setValue` does where the setter loads no file. -/
theorem setValue_plain {a : Attribute W} (plain : a.Plain) (s : EngineObject W) (value : Json)
    (trusted : Bool) :
    (a.setValue s value trusted).1 = false ∧ (a.setValue s value trusted).2.m_value = s.m_value ∨
      (a.setValue s value trusted).1 = true ∧
        (a.setValue s value trusted).2.m_value = Function.update s.m_value a.m_key value ∧
        jsonType value = jsonType (s.m_value a.m_key) ∧ a.Accepted value := by
  unfold setValue
  by_cases mismatch : jsonType value ≠ jsonType (s.m_value a.m_key)
  · exact .inl (by simp [mismatch])
  · have same := not_not.mp mismatch
    cases setter : a.m_setter with
    | none =>
        refine .inr ⟨by simp [same], by simp [same], same, fun f device => ?_⟩
        rw [setter] at device
        cases device
    | some setter' =>
        cases setter' with
        | file sets load => exact absurd setter (plain sets load)
        | device f =>
            cases answer : (f s value (s.m_value a.m_key) trusted).1 with
            | false => exact .inl (by simp [same, Setter.run, answer])
            | true =>
                refine .inr ⟨by simp [same, Setter.run, answer],
                  by simp [same, Setter.run, answer], same, fun g device => ?_⟩
                rw [setter] at device
                obtain rfl := Setter.device.inj (Option.some.inj device)
                exact ⟨s, s.m_value a.m_key, trusted, answer⟩

end Attribute

/-- A call sets an attribute with its key, or is refused as there is none. -/
theorem setAttr_cases (attrList : List (Attribute W)) (s : EngineObject W) (key : Bytes)
    (value : Json) (trusted : Bool) :
    (setAttr attrList s key value trusted = (false, s) ∧ ∀ a ∈ attrList, a.m_key ≠ key) ∨
      ∃ a ∈ attrList, a.m_key = key ∧
        setAttr attrList s key value trusted = a.setValue s value trusted := by
  unfold setAttr
  cases found : attrList.find? fun a => a.m_key = key with
  | none => exact .inl ⟨rfl, by simpa using List.find?_eq_none.mp found⟩
  | some a =>
      have named : a.m_key = key := by simpa using List.find?_some found
      exact .inr ⟨a, List.mem_of_find?_eq_some found, named, rfl⟩

/-- Where no setter loads a file, no call changes the type of a value. -/
theorem jsonType_setAttr {attrList : List (Attribute W)} (plain : ∀ a ∈ attrList, a.Plain)
    (s : EngineObject W) (key : Bytes) (value : Json) (trusted : Bool) (other : Bytes) :
    jsonType ((setAttr attrList s key value trusted).2.m_value other) =
      jsonType (s.m_value other) := by
  rcases setAttr_cases attrList s key value trusted with ⟨refused, -⟩ | ⟨a, own, -, set⟩
  · rw [refused]
  · rw [set]
    rcases Attribute.setValue_plain (plain a own) s value trusted with
      ⟨-, kept⟩ | ⟨-, stored, same, -⟩
    · rw [kept]
    · rw [stored]
      by_cases self : other = a.m_key
      · rw [self, Function.update_self, same]
      · rw [Function.update_of_ne self]

/-- Every attribute holds a value it may have stored. -/
def Sound (attrList : List (Attribute W)) (s : EngineObject W) : Prop :=
  ∀ a ∈ attrList, a.Stored (s.m_value a.m_key)

section Sound

variable {attrList : List (Attribute W)} {s s' : EngineObject W}

theorem eq_of_key (distinct : (attrList.map Attribute.m_key).Nodup) {a b : Attribute W}
    (here : a ∈ attrList) (there : b ∈ attrList) (same : a.m_key = b.m_key) : a = b :=
  List.inj_on_of_nodup_map distinct here there same

theorem Sound.put (sound : Sound attrList s) (distinct : (attrList.map Attribute.m_key).Nodup)
    {a : Attribute W} (own : a ∈ attrList) {value : Json} (stored : a.Stored value)
    (after : s'.m_value = Function.update s.m_value a.m_key value) : Sound attrList s' := by
  intro b known
  rw [after]
  by_cases same : b.m_key = a.m_key
  · obtain rfl := eq_of_key distinct known own same
    rw [Function.update_self]
    exact stored
  · rw [Function.update_of_ne same]
    exact sound b known

theorem Sound.setValue (sound : Sound attrList s)
    (distinct : (attrList.map Attribute.m_key).Nodup) {a : Attribute W} (own : a ∈ attrList)
    (plain : a.Plain) (value : Json) (trusted : Bool) :
    Sound attrList (a.setValue s value trusted).2 := by
  rcases Attribute.setValue_plain plain s value trusted with ⟨-, same⟩ | ⟨-, after, type, accepted⟩
  · intro b known
    rw [same]
    exact sound b known
  · exact sound.put distinct own ⟨type.trans (sound a own).1, .inr accepted⟩ after

theorem Sound.writes {sets : List Bytes} (sound : Sound attrList s)
    (distinct : (attrList.map Attribute.m_key).Nodup) (writes : Writes attrList sets s s') :
    Sound attrList s' := by
  induction writes with
  | nothing => exact sound
  | outside before world ih => exact ih
  | set before own named plain value trusted ih =>
      exact ih.setValue distinct own plain value trusted

/-- The other attributes stay. -/
theorem Writes.others {sets : List Bytes} (writes : Writes attrList sets s s') {key : Bytes}
    (other : key ∉ sets) : s'.m_value key = s.m_value key := by
  induction writes with
  | nothing => rfl
  | outside before world ih => exact ih
  | @set s' before a own named plain value trusted ih =>
      rcases Attribute.setValue_plain plain s' value trusted with ⟨-, same⟩ | ⟨-, after, -⟩
      · rw [same, ih]
      · have ne : key ≠ a.m_key := fun same => other (same ▸ named)
        rw [after, Function.update_of_ne ne, ih]

/-- So is loading one of some plain attributes. -/
theorem Writes.loadAttr {sets : List Bytes} {saved : List (Attribute W)}
    (before : Writes attrList sets s s')
    (own : ∀ a ∈ saved, a ∈ attrList ∧ a.m_key ∈ sets ∧ a.Plain) (obj : JsonObject)
    (a : Attribute W) : Writes attrList sets s (loadAttr saved obj s' a) := by
  unfold BaseLib.loadAttr
  split
  case isFalse => exact before
  case isTrue =>
    cases obj.value a.m_key with
    | none => exact before
    | some value =>
        dsimp only
        rcases setAttr_cases saved s' a.m_key value true with ⟨refused, -⟩ | ⟨b, there, -, set⟩
        · rw [refused]
          exact before
        · rw [set]
          obtain ⟨known, named, plain⟩ := own b there
          exact .set before known named plain value true

theorem Writes.loadFromJson {sets : List Bytes} {saved : List (Attribute W)}
    (before : Writes attrList sets s s')
    (own : ∀ a ∈ saved, a ∈ attrList ∧ a.m_key ∈ sets ∧ a.Plain) (json : Json) :
    Writes attrList sets s (loadFromJson saved s' json) := by
  cases json with
  | object obj =>
      exact List.foldlRecOn saved (BaseLib.loadAttr saved obj) before
        fun _ before a _ => before.loadAttr own obj a
  | null => exact before
  | bool b => exact before
  | number d => exact before
  | string text => exact before
  | array elements => exact before

end Sound

namespace EngineClass

variable {cls : EngineClass W}

theorem find_eq {a : Attribute W} (own : a ∈ cls.attrList) :
    (cls.attrList.find? fun b => b.m_key = a.m_key) = some a := by
  cases found : cls.attrList.find? fun b => b.m_key = a.m_key with
  | none => exact absurd (decide_eq_true rfl) (List.find?_eq_none.mp found a own)
  | some b =>
      have same : b.m_key = a.m_key := by simpa using List.find?_some found
      rw [eq_of_key cls.distinct (List.mem_of_find?_eq_some found) own same]

theorem setAttr_own {a : Attribute W} (own : a ∈ cls.attrList) (s : EngineObject W) (value : Json)
    (trusted : Bool) :
    setAttr cls.attrList s a.m_key value trusted = a.setValue s value trusted := by
  rw [setAttr, find_eq own]

theorem constructed_value {a : Attribute W} (own : a ∈ cls.attrList) (world : W) :
    (cls.constructed world).m_value a.m_key = a.value := by
  simp only [constructed, find_eq own]

theorem constructed_sound (world : W) : Sound cls.attrList (cls.constructed world) := by
  intro a own
  rw [constructed_value own]
  exact ⟨rfl, .inl rfl⟩

/-- An attribute with the path of a file holds what it may have stored, and so do those that the
file sets. -/
theorem sound_setFile {s : EngineObject W} (sound : Sound cls.attrList s) {a : Attribute W}
    (own : a ∈ cls.attrList) {sets : List Bytes}
    {load : EngineObject W → Bytes → Bool × EngineObject W}
    (setter : a.m_setter = some (.file sets load)) (value : Json) (trusted : Bool) :
    Sound cls.attrList (a.setValue s value trusted).2 := by
  unfold Attribute.setValue
  by_cases mismatch : jsonType value ≠ jsonType (s.m_value a.m_key)
  · rw [if_pos mismatch]
    exact sound
  · have same := (not_not.mp mismatch).trans (sound a own).1
    have loaded := sound.writes cls.distinct
      (cls.writes a own sets load setter s (value.toString []))
    have stored : a.Stored value := by
      refine ⟨same, .inr fun f device => ?_⟩
      rw [setter] at device
      cases device
    rw [if_neg mismatch, setter]
    cases trusted with
    | false => exact sound
    | true =>
        simp only [Setter.run, if_true]
        split
        · exact loaded.put cls.distinct own stored rfl
        · exact loaded

theorem sound_setAttr {s : EngineObject W} (sound : Sound cls.attrList s) (key : Bytes)
    (value : Json) (trusted : Bool) :
    Sound cls.attrList (setAttr cls.attrList s key value trusted).2 := by
  rcases setAttr_cases cls.attrList s key value trusted with ⟨refused, -⟩ | ⟨a, own, -, set⟩
  · rw [refused]
    exact sound
  · rw [set]
    by_cases plain : a.Plain
    · exact sound.setValue cls.distinct own plain value trusted
    · obtain ⟨sets, load, setter⟩ := Attribute.exists_file plain
      exact sound_setFile sound own setter value trusted

theorem sound_run (world : W) (calls : List (Call W)) :
    Sound cls.attrList (Machine.final cls.step (cls.constructed world) calls) := by
  refine Machine.run_induction cls.step (P := fun _ s => Sound cls.attrList s)
    (constructed_sound world) ?_ calls
  intro es call before
  exact sound_setAttr (s := { (Machine.final cls.step (cls.constructed world) es) with
    world := call.world }) before call.key call.value call.trusted

/-! ## One call -/

/-- The other attributes that a call may set: those of a file, if it trusts the path of one. -/
def besides (cls : EngineClass W) (call : Call W) : List Bytes :=
  match (cls.attrList.find? fun a => a.m_key = call.key).bind Attribute.m_setter with
  | some (.file sets _) => if call.trusted then sets else []
  | _ => []

/-- A call that is refused changes no attribute, and one that is accepted changes its own. -/
structure SetsOwn (cls : EngineClass W) (s : EngineObject W) (call : Call W) : Prop where
  refused : (cls.step s call).2 = [false] →
    ∀ key ∉ cls.besides call, (cls.step s call).1.m_value key = s.m_value key
  accepted : (cls.step s call).2 = [true] →
    (cls.step s call).1.m_value call.key = call.value ∧
    ∀ key ∉ cls.besides call, key ≠ call.key →
      (cls.step s call).1.m_value key = s.m_value key

/-- What `setValue` does where the setter loads a file. -/
theorem setValue_file {a : Attribute W} (own : a ∈ cls.attrList) {sets : List Bytes}
    {load : EngineObject W → Bytes → Bool × EngineObject W}
    (setter : a.m_setter = some (.file sets load)) (s : EngineObject W) (value : Json)
    (trusted : Bool) :
    ((a.setValue s value trusted).1 = false ∧ ∀ key ∉ (if trusted then sets else []),
      (a.setValue s value trusted).2.m_value key = s.m_value key) ∨
    ((a.setValue s value trusted).1 = true ∧
      (a.setValue s value trusted).2.m_value a.m_key = value ∧
      ∀ key ∉ (if trusted then sets else []), key ≠ a.m_key →
        (a.setValue s value trusted).2.m_value key = s.m_value key) := by
  unfold Attribute.setValue
  by_cases mismatch : jsonType value ≠ jsonType (s.m_value a.m_key)
  · exact .inl (by simp [mismatch])
  · rw [if_neg mismatch, setter]
    cases trusted with
    | false => exact .inl ⟨rfl, fun key other => rfl⟩
    | true =>
        have others : ∀ key ∉ sets, (load s (value.toString [])).2.m_value key = s.m_value key :=
          fun key other => (cls.writes a own sets load setter s _).others other
        simp only [Setter.run, if_true]
        cases answer : (load s (value.toString [])).1 with
        | false => exact .inl ⟨rfl, others⟩
        | true =>
            refine .inr ⟨rfl, EngineObject.put_self .., fun key other ne => ?_⟩
            exact (EngineObject.put_other _ ne value).trans (others key other)

/-- A call in terms of the attribute it names. -/
theorem step_eq {s : EngineObject W} {call : Call W} {a : Attribute W}
    (found : (cls.attrList.find? fun a => a.m_key = call.key) = some a) :
    cls.step s call = ((a.setValue { s with world := call.world } call.value call.trusted).2,
      [(a.setValue { s with world := call.world } call.value call.trusted).1]) := by
  simp only [step, setAttr, found]

/-- A call by its answer. -/
theorem setsOwn_of_answer {s : EngineObject W} {call : Call W} {r : Bool × EngineObject W}
    (answer : cls.step s call = (r.2, [r.1]))
    (either : (r.1 = false ∧ ∀ key ∉ cls.besides call, r.2.m_value key = s.m_value key) ∨
      (r.1 = true ∧ r.2.m_value call.key = call.value ∧
        ∀ key ∉ cls.besides call, key ≠ call.key → r.2.m_value key = s.m_value key)) :
    cls.SetsOwn s call := by
  rcases either with ⟨refused, same⟩ | ⟨accepted, changed⟩
  · constructor
    case refused => exact fun _ => by rw [answer]; exact same
    case accepted => exact fun this => by rw [answer, refused] at this; cases this
  · constructor
    case refused => exact fun this => by rw [answer, accepted] at this; cases this
    case accepted => exact fun _ => by rw [answer]; exact changed

theorem setsOwn (s : EngineObject W) (call : Call W) : cls.SetsOwn s call := by
  cases found : cls.attrList.find? fun a => a.m_key = call.key with
  | none =>
      have result : cls.step s call = ({ s with world := call.world }, [false]) := by
        simp only [step, setAttr, found]
      exact setsOwn_of_answer (r := (false, _)) result (.inl ⟨rfl, fun key _ => rfl⟩)
  | some a =>
      have own := List.mem_of_find?_eq_some found
      have same : a.m_key = call.key := by simpa using List.find?_some found
      apply setsOwn_of_answer (step_eq found)
      by_cases plain : a.Plain
      case pos =>
        rcases Attribute.setValue_plain plain { s with world := call.world } call.value
          call.trusted with ⟨refused, after⟩ | ⟨accepted, after, -⟩
        · exact .inl ⟨refused, fun key _ => by rw [after]⟩
        · refine .inr ⟨accepted, ?_⟩
          rw [after, ← same]
          exact ⟨Function.update_self .., fun key _ ne => Function.update_of_ne ne ..⟩
      case neg =>
        obtain ⟨sets, load, setter⟩ := Attribute.exists_file plain
        have others : cls.besides call = if call.trusted then sets else [] := by
          simp only [besides, found, Option.bind_some, setter]
        rw [others, ← same]
        exact setValue_file own setter { s with world := call.world } call.value call.trusted

/-! ## Saving and loading -/

/-- In every run the setters of the attributes that are saved accept, as trusted, the values that
are stored. -/
def Reaccepts (cls : EngineClass W) : Prop :=
  ∀ world calls, ∀ a ∈ cls.attrList, a.m_save = true →
    a.Trusts ((Machine.final cls.step (cls.constructed world) calls).m_value a.m_key)

/-- It is enough that the setters accept all they may have stored. -/
theorem reaccepts_of_stored
    (accepts : ∀ a ∈ cls.attrList, a.m_save = true → ∀ value, a.Stored value → a.Trusts value) :
    cls.Reaccepts := by
  intro world calls a own saved
  exact accepts a own saved _ (sound_run world calls a own)

/-- What was saved for a product is set in another object of the class. -/
def RoundTrip (cls : EngineClass W) (productType : Bytes) (s fresh : EngineObject W) : Prop :=
  ∀ a ∈ cls.attrList, a.savedFor productType = true →
    (loadFromJson cls.attrList fresh (saveToJson cls.attrList s productType)).m_value a.m_key =
      s.m_value a.m_key

/-- The members that `saveToJson` writes. -/
theorem value_saved (s : EngineObject W) (productType : Bytes) {a : Attribute W}
    (own : a ∈ cls.attrList) :
    ((saveToJson cls.attrList s productType).toObject).value a.m_key =
      if a.savedFor productType then some (s.m_value a.m_key) else none := by
  have keys : ((cls.attrList.filter (Attribute.savedFor productType)).map fun a =>
      (a.m_key, s.m_value a.m_key)) =
      ((cls.attrList.filter (Attribute.savedFor productType)).map Attribute.m_key).map
        fun k => (k, s.m_value k) := by
    rw [List.map_map]
    rfl
  have there : a.m_key ∈ (cls.attrList.filter (Attribute.savedFor productType)).map Attribute.m_key ↔
      a.savedFor productType = true := by
    constructor
    · intro here
      obtain ⟨b, kept, same⟩ := List.mem_map.mp here
      obtain ⟨known, saved⟩ := List.mem_filter.mp kept
      rwa [eq_of_key cls.distinct own known same.symm]
    · intro saved
      exact List.mem_map_of_mem (List.mem_filter.mpr ⟨own, saved⟩)
  show JsonObject.value a.m_key (JsonObject.ofInserts _) = _
  rw [JsonObject.value_ofInserts, keys, JsonObject.value_map]
  simp only [there]

/-- A value that an attribute can be loaded from. -/
structure Loadable (a : Attribute W) (value : Json) : Prop where
  saved : a.m_save = true
  type : jsonType value = jsonType a.value
  trusts : a.Trusts value

/-- A trusted value of the type is stored if the setter accepts it. -/
theorem setValue_trusts {s : EngineObject W} {a : Attribute W} (plain : a.Plain) {value : Json}
    (type : jsonType value = jsonType (s.m_value a.m_key)) (trusts : a.Trusts value) :
    (a.setValue s value true).2.m_value = Function.update s.m_value a.m_key value := by
  have accepted : (a.setValue s value true).1 = true := by
    unfold Attribute.setValue
    rw [if_neg (not_not.mpr type)]
    cases setter : a.m_setter with
    | none => rfl
    | some setter' =>
        cases setter' with
        | file sets load => exact absurd setter (plain sets load)
        | device f =>
            have accepts := trusts f setter s (s.m_value a.m_key)
            simp [Setter.run, accepts]
  rcases Attribute.setValue_plain plain s value true with ⟨refused, -⟩ | ⟨-, after, -⟩
  · rw [accepted] at refused
    cases refused
  · exact after

/-- One attribute is loaded, if there is a member for it. -/
theorem loadAttr_eq {s : EngineObject W} (sound : Sound cls.attrList s) (obj : JsonObject)
    {a : Attribute W} (own : a ∈ cls.attrList) {value : Json}
    (member : obj.value a.m_key = some value) (loadable : Loadable a value) :
    (loadAttr cls.attrList obj s a).m_value = Function.update s.m_value a.m_key value := by
  have result : loadAttr cls.attrList obj s a = (a.setValue s value true).2 := by
    simp only [loadAttr, loadable.saved, if_true, member, setAttr_own own]
  rw [result]
  exact setValue_trusts (cls.unsaved a own loadable.saved)
    (loadable.type.trans (sound a own).1.symm) loadable.trusts

theorem loadAttr_sound {s : EngineObject W} (sound : Sound cls.attrList s) (obj : JsonObject)
    (a : Attribute W) : Sound cls.attrList (loadAttr cls.attrList obj s a) := by
  unfold loadAttr
  split
  · cases obj.value a.m_key with
    | none => exact sound
    | some value => exact sound_setAttr sound a.m_key value true
  · exact sound

theorem loadAttr_value {s : EngineObject W} (sound : Sound cls.attrList s) {obj : JsonObject}
    {a : Attribute W} (own : a ∈ cls.attrList)
    (loadable : ∀ value, obj.value a.m_key = some value → Loadable a value) (key : Bytes) :
    (loadAttr cls.attrList obj s a).m_value key =
      if key = a.m_key then (obj.value key).getD (s.m_value key) else s.m_value key := by
  cases member : obj.value a.m_key with
  | none =>
      have same : loadAttr cls.attrList obj s a = s := by simp [loadAttr, member]
      rw [same]
      split
      case isTrue here => rw [here, member, Option.getD_none]
      case isFalse => rfl
  | some value =>
      rw [loadAttr_eq sound obj own member (loadable value member), Function.update_apply]
      split
      case isTrue here => rw [here, member, Option.getD_some]
      case isFalse => rfl

/-- What loading the attributes one after another leaves. -/
theorem foldl_loadAttr {obj : JsonObject} (attrs : List (Attribute W))
    (known : ∀ a ∈ attrs, a ∈ cls.attrList) (distinct : (attrs.map Attribute.m_key).Nodup)
    (loadable : ∀ a ∈ attrs, ∀ value, obj.value a.m_key = some value → Loadable a value)
    {s : EngineObject W} (sound : Sound cls.attrList s) (key : Bytes) :
    (attrs.foldl (loadAttr cls.attrList obj) s).m_value key =
      if key ∈ attrs.map Attribute.m_key then (obj.value key).getD (s.m_value key)
      else s.m_value key := by
  induction attrs generalizing s with
  | nil => rfl
  | cons a attrs ih =>
      rw [List.map_cons, List.nodup_cons] at distinct
      obtain ⟨fresh, distinct⟩ := distinct
      have first := loadAttr_value sound (known a List.mem_cons_self)
        (loadable a List.mem_cons_self) key
      rw [List.foldl_cons, ih (fun b later => known b (List.mem_cons_of_mem a later)) distinct
        (fun b later => loadable b (List.mem_cons_of_mem a later)) (loadAttr_sound sound obj a),
        first]
      by_cases here : key = a.m_key
      · subst here
        simp [fresh]
      · simp [here]

/-- **What is saved can be loaded.** -/
theorem roundTrip {s fresh : EngineObject W} (sound : Sound cls.attrList s)
    (trusts : ∀ a ∈ cls.attrList, a.m_save = true → a.Trusts (s.m_value a.m_key))
    (typed : Sound cls.attrList fresh) (productType : Bytes) :
    cls.RoundTrip productType s fresh := by
  intro a own saved
  have loadable : ∀ b ∈ cls.attrList, ∀ value,
      (saveToJson cls.attrList s productType).toObject.value b.m_key = some value →
        Loadable b value := by
    intro b known value member
    rw [value_saved s productType known, Option.ite_none_right_eq_some] at member
    obtain ⟨kept, same⟩ := member
    obtain rfl := Option.some.inj same
    have saves : b.m_save = true := (show _ ∧ _ from of_decide_eq_true kept).1
    exact ⟨saves, (sound b known).1, trusts b known saves⟩
  have loaded := foldl_loadAttr cls.attrList (fun b known => known) cls.distinct loadable typed
    a.m_key
  rw [if_pos (List.mem_map_of_mem own), value_saved s productType own, if_pos saved] at loaded
  exact loaded

end EngineClass

/-- **What a run of `setAttr` leaves of the attributes.**  Every attribute keeps its type; a call
changes its own attribute or none, apart from those of a file whose path it trusts; and what is
saved of the object is set again in another one, where the setters accept what they stored. -/
theorem attributes_kept (cls : EngineClass W) (reaccepts : cls.Reaccepts) (world : W)
    (calls : List (EngineClass.Call W)) :
    let s := Machine.final cls.step (cls.constructed world) calls
    (∀ a ∈ cls.attrList, jsonType (s.m_value a.m_key) = jsonType a.value) ∧
    (∀ call, cls.SetsOwn s call) ∧
    ∀ productType world' setUp, cls.RoundTrip productType s
      (Machine.final cls.step (cls.constructed world') setUp) := by
  have sound : Sound cls.attrList (Machine.final cls.step (cls.constructed world) calls) :=
    EngineClass.sound_run world calls
  refine ⟨fun a own => (sound a own).1, fun call => EngineClass.setsOwn _ call, ?_⟩
  intro productType world' setUp
  exact EngineClass.roundTrip sound (reaccepts world calls) (EngineClass.sound_run world' setUp)
    productType

end IsgConsole.BaseLib
