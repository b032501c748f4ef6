/-
# IopAgent.ConfigSetEffects — what the parameters of a body change

A parameter that is refused changes no attribute.  One that is set changes its own, with two
exceptions: `enabled` of the project is also set in all its objects, and a delay for the IO board is
sent instead.

* `turn_effect` — **one parameter**;
* `turn_switches`, `turn_unswitched` — which parameters switch the objects;
* `slot_run`, `switch_run`, `own_run`, `board_run` — an attribute of an object, the switching of the
  objects, an attribute of the project, and the board, over a list of parameters.
-/
import IsgConsole.IopAgent.ConfigSet

namespace IsgConsole.IopAgent.ConfigSet

open IsgConsole.Theory IsgConsole.BaseLib IsgConsole.Theory.Json

set_option autoImplicit false

variable {W : Type}

/-! ## One object -/

/-- The object has an attribute with this key. -/
def Devices.Has (d : Devices W) (name key : Bytes) : Prop :=
  ∃ cls a, d.m_objects.lookup name = some cls ∧ a ∈ cls.attrList ∧ a.m_key = key

/-- One value of one object replaced. -/
def placeValue (objects : Bytes → Bytes → Json) (name key : Bytes) (value : Json) :
    Bytes → Bytes → Json :=
  fun n k => if n = name ∧ k = key then value else objects n k

theorem placeValue_eq (objects : Bytes → Bytes → Json) (name key : Bytes) (value : Json) :
    Function.update objects name (Function.update (objects name) key value) =
      placeValue objects name key value := by
  funext n k
  unfold placeValue
  by_cases here : n = name
  · subst here
    rw [Function.update_self]
    by_cases same : k = key
    · subst same
      rw [Function.update_self, if_pos ⟨rfl, rfl⟩]
    · rw [Function.update_of_ne same, if_neg fun this => same this.2]
  · rw [Function.update_of_ne here, if_neg fun this => here this.1]

/-- What setting an attribute of an object does. -/
theorem setObjectAttr_cases (d : Devices W) (w : Outside W) (name key : Bytes) (value : Json) :
    let r := setObjectAttr d.m_objects w name key value
    r.2.kickDelays = w.kickDelays ∧
      (r.1 = false ∧ r.2.objects = w.objects ∨
        r.1 = true ∧ d.Has name key ∧ jsonType value = jsonType (w.objects name key) ∧
          r.2.objects = placeValue w.objects name key value) := by
  intro r
  cases named : d.m_objects.lookup name with
  | none =>
      have result : r = (false, w) := by
        show setObjectAttr d.m_objects w name key value = _
        rw [setObjectAttr, named]
      rw [result]
      exact ⟨rfl, .inl ⟨rfl, rfl⟩⟩
  | some cls =>
      set s : EngineObject W := { m_value := w.objects name, world := w.world } with object
      have result : r = ((setAttr cls.attrList s key value false).1,
          { w with
            objects := Function.update w.objects name (setAttr cls.attrList s key value false).2.m_value
            world := (setAttr cls.attrList s key value false).2.world }) := by
        show setObjectAttr d.m_objects w name key value = _
        rw [setObjectAttr, named]
      rw [result]
      refine ⟨rfl, ?_⟩
      dsimp only
      rcases setAttr_cases cls.attrList s key value false with
        ⟨refused, -⟩ | ⟨a, own, rfl, set⟩
      · left
        rw [refused]
        exact ⟨rfl, Function.update_eq_self ..⟩
      · rw [set]
        have plain := Attribute.plain_iff.mpr (d.plain name cls named a own)
        rcases Attribute.setValue_plain plain s value false with
          ⟨refused, same⟩ | ⟨accepted, after, type, -⟩
        · exact .inl ⟨refused, by rw [same, object]; exact Function.update_eq_self ..⟩
        · exact .inr ⟨accepted, ⟨cls, a, named, own, rfl⟩, type,
            by rw [after, object]; exact placeValue_eq ..⟩

/-- `enabled` of an object takes every value of its type. -/
theorem setObjectAttr_enabled (d : Devices W) (w : Outside W) (name : Bytes) (value : Json) :
    (setObjectAttr d.m_objects w name enabled value).1 = true ↔
      d.Has name enabled ∧ jsonType value = jsonType (w.objects name enabled) := by
  constructor
  · intro accepted
    rcases (setObjectAttr_cases d w name enabled value).2 with ⟨refused, -⟩ | ⟨-, has, type, -⟩
    · rw [accepted] at refused
      cases refused
    · exact ⟨has, type⟩
  · rintro ⟨⟨cls, a, named, own, key⟩, type⟩
    obtain ⟨switch, setter⟩ := d.switched name cls named a own key
    rw [setObjectAttr, named, ← key]
    dsimp only
    rw [EngineClass.setAttr_own own, Attribute.setValue, key, if_neg (not_not.mpr type), setter]
    rfl

/-- Switching all objects sets `enabled`, where it is a truth value. -/
theorem switchObjects_cases (d : Devices W) (value : Bool) (w : Outside W) :
    (switchObjects d.m_objects value w).kickDelays = w.kickDelays ∧
      ∀ n k, (switchObjects d.m_objects value w).objects n k = w.objects n k ∨
        k = enabled ∧ d.Has n enabled ∧ jsonType (w.objects n k) = .Bool ∧
          (switchObjects d.m_objects value w).objects n k = .bool value := by
  refine List.foldlRecOn d.m_objects.keys
    (fun w name => (setObjectAttr d.m_objects w name enabled (.bool value)).2)
    (motive := fun w' => w'.kickDelays = w.kickDelays ∧ ∀ n k, w'.objects n k = w.objects n k ∨
      k = enabled ∧ d.Has n enabled ∧ jsonType (w.objects n k) = .Bool ∧
        w'.objects n k = .bool value) ⟨rfl, fun _ _ => .inl rfl⟩ ?_
  rintro w' ⟨board, values⟩ name -
  obtain ⟨kept, cases'⟩ := setObjectAttr_cases d w' name enabled (.bool value)
  refine ⟨kept.trans board, fun n k => ?_⟩
  rcases cases' with ⟨-, same⟩ | ⟨-, has, type, after⟩
  · rw [same]
    exact values n k
  · rw [after, placeValue]
    split
    next here =>
        obtain ⟨rfl, rfl⟩ := here
        right
        refine ⟨rfl, has, ?_, rfl⟩
        rcases values n enabled with same | ⟨-, -, bool, -⟩
        · rw [← same]
          exact type.symm
        · exact bool
    next => exact values n k

/-- The attribute is switched with the project. -/
def Switchable (d : Devices W) (w : Outside W) (name key : Bytes) : Prop :=
  key = enabled ∧ d.Has name enabled ∧ jsonType (w.objects name key) = .Bool

/-- Switching leaves the rest alone. -/
theorem switchObjects_other {d : Devices W} {w : Outside W} {name key : Bytes}
    (other : ¬ Switchable d w name key) (value : Bool) :
    (switchObjects d.m_objects value w).objects name key = w.objects name key := by
  rcases (switchObjects_cases d value w).2 name key with same | ⟨is, has, bool, -⟩
  · exact same
  · exact absurd ⟨is, has, bool⟩ other

/-- An object that is switched has the value, and every object is. -/
theorem switchObjects_sets {d : Devices W} {w : Outside W} {name key : Bytes}
    (switchable : Switchable d w name key) (value : Bool) :
    (switchObjects d.m_objects value w).objects name key = .bool value := by
  obtain ⟨rfl, has, bool⟩ := switchable
  have there : name ∈ d.m_objects.keys := by
    obtain ⟨cls, a, found, -⟩ := has
    exact Hash.mem_of_lookup found
  -- Those that are behind in the loop leave it, or set it once more.
  have loop : ∀ (names : List Bytes) (w : Outside W), jsonType (w.objects name enabled) = .Bool →
      name ∈ names ∨ w.objects name enabled = .bool value →
      (names.foldl (fun w n => (setObjectAttr d.m_objects w n enabled (.bool value)).2) w).objects
        name enabled = .bool value := by
    intro names
    induction names with
    | nil => exact fun w _ here => here.resolve_left List.not_mem_nil
    | cons n names ih =>
        intro w bool here
        rw [List.foldl_cons]
        have next : (setObjectAttr d.m_objects w n enabled (.bool value)).2.objects name enabled =
            if n = name then .bool value else w.objects name enabled := by
          rcases (setObjectAttr_cases d w n enabled (.bool value)).2 with
            ⟨refused, same⟩ | ⟨-, -, -, after⟩
          · have apart : n ≠ name := by
              rintro rfl
              rw [(setObjectAttr_enabled d w n (.bool value)).mpr ⟨has, bool.symm⟩] at refused
              cases refused
            rw [same, if_neg apart]
          · rw [after, placeValue]
            simp [eq_comm]
        by_cases own : n = name
        · rw [if_pos own] at next
          exact ih _ (by rw [next]; rfl) (.inr next)
        · rw [if_neg own] at next
          refine ih _ (by rwa [next]) ?_
          rw [next]
          exact here.imp_left fun among => (List.mem_cons.mp among).resolve_left (Ne.symm own)
  exact loop _ w bool (.inl there)

/-! ## The project -/

/-- A value that is not trusted changes its own attribute or none. -/
theorem setValue_untrusted (a : Attribute (Outside W)) (s : Project W) (value : Json) :
    (a.setValue s value false).1 = false ∧ (a.setValue s value false).2.m_value = s.m_value ∨
      (a.setValue s value false).1 = true ∧
        (a.setValue s value false).2.m_value = Function.update s.m_value a.m_key value ∧
        jsonType value = jsonType (s.m_value a.m_key) := by
  by_cases plain : a.Plain
  · rcases Attribute.setValue_plain plain s value false with refused | ⟨accepted, after, type, -⟩
    · exact .inl refused
    · exact .inr ⟨accepted, after, type⟩
  · left
    obtain ⟨sets, load, setter⟩ := Attribute.exists_file plain
    by_cases mismatch : jsonType value ≠ jsonType (s.m_value a.m_key)
    · rw [Attribute.setValue, if_pos mismatch]
      exact ⟨rfl, rfl⟩
    · rw [Attribute.setValue, if_neg mismatch, setter]
      exact ⟨rfl, rfl⟩

/-- Switching everything sets `enabled` of objects, if anything. -/
theorem switchAll_cases (d : Devices W) (b : Bool) (s : Project W) :
    (d.switchAll b s).kickDelays = s.world.kickDelays ∧
      ∀ n k, (d.switchAll b s).objects n k = s.world.objects n k ∨
        k = enabled ∧ d.Has n enabled ∧ jsonType (s.world.objects n k) = .Bool ∧
          (d.switchAll b s).objects n k = .bool b := by
  unfold Devices.switchAll
  split
  next => exact switchObjects_cases d b s.world
  next => exact ⟨rfl, fun _ _ => .inl rfl⟩

/-- Two values of one type that read differently as truth values are truth values. -/
theorem bool_of_changed {value old : Json} (same : jsonType value = jsonType old)
    (changed : value.toBool ≠ old.toBool) : ∃ b, value = .bool b := by
  revert changed same
  cases value <;> cases old <;> simp [Json.toBool, jsonType]

/-- The setter of `enabled`, for a value of its type. -/
theorem setEnabled_world {c : Console W} {a : Attribute (Outside W)} (own : a ∈ c.attrList)
    (key : a.m_key = enabled) {s : Project W} {value : Json}
    (same : jsonType value = jsonType (s.m_value a.m_key)) :
    (a.setValue s value false).2.world =
      if value.toBool = (s.m_value a.m_key).toBool then s.world
      else if value.toBool then c.switchAll true s else c.switchAll false s := by
  rw [Attribute.setValue, if_neg (not_not.mpr same), c.own a own key]
  rfl

/-- `enabled` of the project is set in its objects too, where it changes. -/
theorem setEnabled_objects {c : Console W} {a : Attribute (Outside W)} (own : a ∈ c.attrList)
    (key : a.m_key = enabled) (s : Project W) (value : Json) :
    (a.setValue s value false).2.world.kickDelays = s.world.kickDelays ∧
      ∀ n k, (a.setValue s value false).2.world.objects n k = s.world.objects n k ∨
        k = enabled ∧ ∃ b, value = .bool b ∧ c.Has n enabled ∧
          jsonType (s.world.objects n k) = .Bool ∧
          (a.setValue s value false).2.world.objects n k = .bool b := by
  by_cases mismatch : jsonType value ≠ jsonType (s.m_value a.m_key)
  · rw [Attribute.setValue, if_pos mismatch]
    exact ⟨rfl, fun _ _ => .inl rfl⟩
  · rw [setEnabled_world own key (not_not.mp mismatch)]
    split
    next => exact ⟨rfl, fun _ _ => .inl rfl⟩
    next changed =>
        obtain ⟨b, is⟩ := bool_of_changed (not_not.mp mismatch) changed
        have picked : (if value.toBool = true then c.switchAll true s else c.switchAll false s) =
            c.switchAll b s := by
          rw [is]
          cases b <;> rfl
        rw [picked]
        obtain ⟨board, values⟩ := switchAll_cases c.toDevices b s
        refine ⟨board, fun n k => ?_⟩
        rcases values n k with same | ⟨here, has, type, after⟩
        · exact .inl same
        · exact .inr ⟨here, b, is, has, type, after⟩

/-! ## One parameter -/

/-- The parameter is for an attribute of an object. -/
def Request.ForObject (q : Request) : Prop := q.sec ≠ .global ∧ ¬ q.IsKick

instance (q : Request) : Decidable q.ForObject := inferInstanceAs (Decidable (_ ∧ _))

/-- Switching all objects has changed a value. -/
def Switched (c : Console W) (q : Request) (k : Bytes) (name : Bytes) (before after : Json) :
    Prop :=
  q.sec = .global ∧ q.param = enabled ∧ k = enabled ∧ ∃ b, q.value = .bool b ∧
    c.Has name enabled ∧ jsonType before = .Bool ∧ after = .bool b

/-- What setting one parameter does, where the answer is `accepted`. -/
structure Effect (c : Console W) (s : Project W) (q : Request) (accepted : Bool)
    (s' : Project W) : Prop where
  own : ∀ key, s'.m_value key =
    if accepted = true ∧ q.sec = .global ∧ q.param = key then q.value else s.m_value key
  ownType : accepted = true → q.sec = .global → jsonType q.value = jsonType (s.m_value q.param)
  board : s'.world.kickDelays =
    if accepted = true ∧ q.IsKick then s.world.kickDelays ++ [UInt16.ofInt q.value.toInt]
    else s.world.kickDelays
  objects : ∀ name key, s'.world.objects name key =
      (if accepted = true ∧ q.ForObject ∧ name = q.objName ∧ key = q.param then q.value
        else s.world.objects name key) ∨
    Switched c q key name (s.world.objects name key) (s'.world.objects name key)
  objectType : accepted = true → q.ForObject →
    jsonType q.value = jsonType (s.world.objects q.objName q.param)

theorem turn_own {c : Console W} (s : Project W) {q : Request} (global : q.sec = .global) :
    turn c s q = setAttr c.attrList s q.param q.value false := by
  rw [turn, global]

theorem turn_object {c : Console W} (s : Project W) {q : Request} (forObject : q.ForObject) :
    turn c s q = ((setObjectAttr c.m_objects s.world q.objName q.param q.value).1,
      { s with world := (setObjectAttr c.m_objects s.world q.objName q.param q.value).2 }) := by
  obtain ⟨notGlobal, notKick⟩ := forObject
  cases sec : q.sec with
  | global => exact absurd sec notGlobal
  | camera_param => rw [turn, sec]; exact if_neg notKick
  | executor_param => rw [turn, sec]; exact if_neg notKick

theorem turn_kick {c : Console W} (s : Project W) {q : Request} (kick : q.IsKick) :
    turn c s q = if c.pcp then
        (true, { s with world := { s.world with
          kickDelays := s.world.kickDelays ++ [UInt16.ofInt q.value.toInt] } })
      else (false, s) := by
  rw [turn, kick.1]
  exact if_pos kick

theorem forObject_or (q : Request) : q.sec = .global ∨ q.IsKick ∨ q.ForObject := by
  by_cases sec : q.sec = .global
  · exact .inl sec
  · by_cases kick : q.IsKick
    · exact .inr (.inl kick)
    · exact .inr (.inr ⟨sec, kick⟩)

/-- An attribute of the project that is set leaves the board alone, and the objects but for what it
switches. -/
theorem setOwn_outside {c : Console W} {a : Attribute (Outside W)} (own : a ∈ c.attrList)
    (s : Project W) {q : Request} (sec : q.sec = .global) (key : a.m_key = q.param) :
    (a.setValue s q.value false).2.world.kickDelays = s.world.kickDelays ∧
      ∀ n k, (a.setValue s q.value false).2.world.objects n k = s.world.objects n k ∨
        Switched c q k n (s.world.objects n k)
          ((a.setValue s q.value false).2.world.objects n k) := by
  by_cases switches : a.m_key = enabled
  · obtain ⟨board, values⟩ := setEnabled_objects own switches s q.value
    refine ⟨board, fun n k => ?_⟩
    rcases values n k with same | ⟨here, b, is, has, type, after⟩
    · exact .inl same
    · exact .inr ⟨sec, key.symm.trans switches, here, b, is, has, type, after⟩
  · obtain ⟨objects, board⟩ := c.leaves a own switches s q.value
    exact ⟨board, fun n k => .inl (by rw [objects])⟩

theorem effect_own (c : Console W) (s : Project W) {q : Request} (sec : q.sec = .global) :
    Effect c s q (turn c s q).1 (turn c s q).2 := by
  have notObject : ¬ q.ForObject := fun this => this.1 sec
  have notKick := Request.not_kick_of_global sec
  rw [turn_own s sec]
  rcases setAttr_cases c.attrList s q.param q.value false with ⟨refused, -⟩ | ⟨a, own, key, set⟩
  · rw [refused]
    exact {
      own := fun _ => by simp
      ownType := fun this => by cases this
      board := by simp
      objects := fun _ _ => .inl (by simp)
      objectType := fun this => by cases this }
  · rw [set]
    obtain ⟨unsent, kept⟩ := setOwn_outside own s sec key
    have board : (a.setValue s q.value false).2.world.kickDelays =
        if (a.setValue s q.value false).1 = true ∧ q.IsKick then
          s.world.kickDelays ++ [UInt16.ofInt q.value.toInt] else s.world.kickDelays := by
      rw [if_neg fun this => notKick this.2]
      exact unsent
    have objects : ∀ n k, (a.setValue s q.value false).2.world.objects n k =
        (if (a.setValue s q.value false).1 = true ∧ q.ForObject ∧ n = q.objName ∧ k = q.param
          then q.value else s.world.objects n k) ∨
        Switched c q k n (s.world.objects n k)
          ((a.setValue s q.value false).2.world.objects n k) := by
      intro n k
      rw [if_neg fun this => notObject this.2.1]
      exact kept n k
    rcases setValue_untrusted a s q.value with ⟨refused, same⟩ | ⟨accepted, after, type⟩
    · exact {
        own := fun _ => by rw [same, refused]; simp
        ownType := fun this => by rw [refused] at this; cases this
        board := board
        objects := objects
        objectType := fun _ this => absurd this notObject }
    · exact {
        own := fun k => by rw [after, accepted, key, Function.update_apply]; simp [sec, eq_comm]
        ownType := fun _ _ => by rw [← key]; exact type
        board := board
        objects := objects
        objectType := fun _ this => absurd this notObject }

/-- The parameter switches all objects: it changes `enabled` of a project that infers. -/
structure Switches (c : Console W) (s : Project W) (q : Request) (b : Bool) : Prop where
  sec : q.sec = .global
  param : q.param = enabled
  value : q.value = .bool b
  has : ∃ a ∈ c.attrList, a.m_key = enabled
  changes : s.m_value enabled = .bool (!b)
  inferring : c.inferring s.world.world = true

theorem turn_switches {c : Console W} {s : Project W} {q : Request} {b : Bool}
    (switches : Switches c s q b) :
    (turn c s q).2.world.objects = (switchObjects c.m_objects b s.world).objects := by
  rw [turn_own s switches.sec, switches.param, switches.value]
  rcases setAttr_cases c.attrList s enabled (.bool b) false with ⟨-, none'⟩ | ⟨a, own, key, set⟩
  · obtain ⟨a, own, key⟩ := switches.has
    exact absurd key (none' a own)
  · have same : jsonType (.bool b) = jsonType (s.m_value a.m_key) := by
      rw [key, switches.changes]
      rfl
    have switched : c.switchAll b s = switchObjects c.m_objects b s.world := by
      rw [Devices.switchAll, if_pos switches.inferring]
    rw [set, setEnabled_world own key same, key, switches.changes]
    cases b with
    | false => exact congrArg Outside.objects switched
    | true => exact congrArg Outside.objects switched

/-- Any other parameter of the project leaves the objects alone. -/
theorem turn_unswitched {c : Console W} {s : Project W} {q : Request} (sec : q.sec = .global)
    (still : ∀ b, ¬ Switches c s q b) : (turn c s q).2.world.objects = s.world.objects := by
  rw [turn_own s sec]
  rcases setAttr_cases c.attrList s q.param q.value false with ⟨refused, -⟩ | ⟨a, own, key, set⟩
  · rw [refused]
  · rw [set]
    by_cases enables : a.m_key = enabled
    · by_cases mismatch : jsonType q.value ≠ jsonType (s.m_value a.m_key)
      · rw [Attribute.setValue, if_pos mismatch]
      · rw [setEnabled_world own enables (not_not.mp mismatch)]
        split
        next => rfl
        next changed =>
            obtain ⟨b, is⟩ := bool_of_changed (not_not.mp mismatch) changed
            have old : s.m_value enabled = .bool !b := by
              rw [is, enables] at mismatch changed
              revert mismatch changed
              cases s.m_value enabled <;> cases b <;> simp [jsonType, Json.toBool]
            have idle : ¬ c.inferring s.world.world = true := fun infers =>
              still b ⟨sec, key.symm.trans enables, is, ⟨a, own, enables⟩, old, infers⟩
            have unswitched : ∀ b, (c.switchAll b s).objects = s.world.objects := by
              intro b
              rw [Devices.switchAll, if_neg idle]
            split
            · exact unswitched true
            · exact unswitched false
    · exact (c.leaves a own enables s q.value).1

theorem effect_kick (c : Console W) (s : Project W) {q : Request} (kick : q.IsKick) :
    Effect c s q (turn c s q).1 (turn c s q).2 := by
  have notGlobal : q.sec ≠ .global := fun sec => Request.not_kick_of_global sec kick
  have notObject : ¬ q.ForObject := fun this => this.2 kick
  rw [turn_kick s kick]
  cases c.pcp with
  | true => exact {
      own := fun _ => by simp [notGlobal]
      ownType := fun _ this => absurd this notGlobal
      board := by simp [kick]
      objects := fun _ _ => .inl (by simp [notObject])
      objectType := fun _ this => absurd this notObject }
  | false => exact {
      own := fun _ => by simp
      ownType := fun _ this => absurd this notGlobal
      board := by simp
      objects := fun _ _ => .inl (by simp)
      objectType := fun _ this => absurd this notObject }

theorem effect_object (c : Console W) (s : Project W) {q : Request} (forObject : q.ForObject) :
    Effect c s q (turn c s q).1 (turn c s q).2 := by
  obtain ⟨notGlobal, notKick⟩ := forObject
  rw [turn_object s ⟨notGlobal, notKick⟩]
  obtain ⟨board, cases'⟩ := setObjectAttr_cases c.toDevices s.world q.objName q.param q.value
  rcases cases' with ⟨refused, same⟩ | ⟨accepted, -, type, after⟩
  · exact {
      own := fun _ => by simp [notGlobal]
      ownType := fun _ this => absurd this notGlobal
      board := by simpa [notKick] using board
      objects := fun _ _ => .inl (by simp [refused, same])
      objectType := fun this _ => by rw [refused] at this; cases this }
  · exact {
      own := fun _ => by simp [notGlobal]
      ownType := fun _ this => absurd this notGlobal
      board := by simpa [notKick] using board
      objects := fun n k => .inl (by
        rw [accepted]
        simp [Request.ForObject, notGlobal, notKick, after, placeValue])
      objectType := fun _ _ => type }

/-- **What setting one parameter does.** -/
theorem turn_effect (c : Console W) (s : Project W) (q : Request) :
    Effect c s q (turn c s q).1 (turn c s q).2 := by
  rcases forObject_or q with sec | kick | forObject
  · exact effect_own c s sec
  · exact effect_kick c s kick
  · exact effect_object c s forObject

/-! ## Many parameters -/

@[simp] theorem refused_transition (c : Console W) (s : Project W) (q : Request) :
    Refused (Machine.transition (step c) s q) ↔ (turn c s q).1 = false := by
  simp [Refused, Machine.transition, step]

/-- The turn sets this value of this object. -/
def SetsObject (name key : Bytes) (t : Turn W) : Prop :=
  t.event.ForObject ∧ t.event.objName = name ∧ t.event.param = key ∧ ¬ Refused t

/-- The turn sets this value of the project. -/
def SetsOwn (key : Bytes) (t : Turn W) : Prop :=
  t.event.sec = .global ∧ t.event.param = key ∧ ¬ Refused t

section Runs

variable (c : Console W) (s : Project W)

/-- A step of a run, from what it does. -/
theorem final_step (qs : List Request) (q : Request) :
    Effect c (Machine.final (step c) s qs) q (turn c (Machine.final (step c) s qs) q).1
      (Machine.final (step c) s (qs ++ [q])) := by
  rw [Machine.final_snoc]
  exact turn_effect c _ q

/-- No parameter changes the type of a value. -/
theorem types_run (qs : List Request) :
    (∀ name key, jsonType ((Machine.final (step c) s qs).world.objects name key) =
      jsonType (s.world.objects name key)) ∧
    ∀ key, jsonType ((Machine.final (step c) s qs).m_value key) = jsonType (s.m_value key) := by
  induction qs using List.reverseRecOn with
  | nil => exact ⟨fun _ _ => rfl, fun _ => rfl⟩
  | append_singleton qs q ih =>
      have effect := final_step c s qs q
      constructor
      · intro name key
        rw [← ih.1 name key]
        rcases effect.objects name key with set | ⟨-, -, -, b, -, -, bool, after⟩
        · rw [set]
          split
          next here =>
              obtain ⟨accepted, forObject, rfl, rfl⟩ := here
              exact effect.objectType accepted forObject
          next => rfl
        · rw [after, bool]
          rfl
      · intro key
        rw [← ih.2 key, effect.own key]
        split
        next here =>
            obtain ⟨accepted, global, rfl⟩ := here
            exact effect.ownType accepted global
        next => rfl

/-- **A value of an object**, where all parameters that set it have one value: it is that value if
one of them is there. -/
theorem slot_run {name key : Bytes} {v : Json} (qs : List Request)
    (forObjects : ∀ q ∈ qs, q.sec ≠ .global)
    (same : ∀ t ∈ Machine.trace (step c) s qs, SetsObject name key t → t.event.value = v) :
    ((Machine.final (step c) s qs).world.objects name key = v ∧
        ∃ t ∈ Machine.trace (step c) s qs, SetsObject name key t) ∨
      ((Machine.final (step c) s qs).world.objects name key = s.world.objects name key ∧
        ∀ t ∈ Machine.trace (step c) s qs, ¬ SetsObject name key t) := by
  induction qs using List.reverseRecOn with
  | nil => exact .inr ⟨rfl, fun t here => by cases here⟩
  | append_singleton qs q ih =>
      rw [Machine.trace_snoc] at same ⊢
      have before := ih (fun q here => forObjects q (List.mem_append_left _ here))
        fun t here => same t (List.mem_append_left _ here)
      have effect := final_step c s qs q
      rcases effect.objects name key with set | switched
      · by_cases here : (turn c (Machine.final (step c) s qs) q).1 = true ∧ q.ForObject ∧
            name = q.objName ∧ key = q.param
        · -- This parameter sets the value.
          rw [if_pos here] at set
          obtain ⟨accepted, forObject, rfl, rfl⟩ := here
          have sets : SetsObject q.objName q.param
              (Machine.transition (step c) (Machine.final (step c) s qs) q) := by
            refine ⟨forObject, rfl, rfl, ?_⟩
            rw [refused_transition, accepted]
            exact Bool.noConfusion
          have last := List.mem_append_right (Machine.trace (step c) s qs)
            (List.mem_singleton_self (Machine.transition (step c) (Machine.final (step c) s qs) q))
          exact .inl ⟨set.trans (same _ last sets), _, last, sets⟩
        · rw [if_neg here] at set
          rw [set]
          rcases before with ⟨is, t, there, sets⟩ | ⟨kept, none'⟩
          · exact .inl ⟨is, t, List.mem_append_left _ there, sets⟩
          · refine .inr ⟨kept, fun t there sets => ?_⟩
            rcases List.mem_append.mp there with earlier | last
            · exact none' t earlier sets
            · obtain rfl := List.mem_singleton.mp last
              obtain ⟨forObject, named, keyed, accepted⟩ := sets
              rw [refused_transition, Bool.not_eq_false] at accepted
              exact here ⟨accepted, forObject, named.symm, keyed.symm⟩
      · exact absurd switched.1 (forObjects q (by simp))

/-- **The switching of the objects**, by parameters of the project of which those for `enabled` have
one value. -/
theorem switch_run {v : Json} (qs : List Request) (own : ∀ q ∈ qs, q.sec = .global)
    (same : ∀ q ∈ qs, q.param = enabled → q.value = v) :
    ((Machine.final (step c) s qs).world.objects = s.world.objects ∧
        ∀ t ∈ Machine.trace (step c) s qs, ∀ b, ¬ Switches c t.before t.event b) ∨
      ∃ t ∈ Machine.trace (step c) s qs, ∃ b, v = .bool b ∧ Switches c t.before t.event b ∧
        ∀ name key, (Switchable c.toDevices s.world name key →
            (Machine.final (step c) s qs).world.objects name key = .bool b) ∧
          (¬ Switchable c.toDevices s.world name key →
            (Machine.final (step c) s qs).world.objects name key = s.world.objects name key) := by
  induction qs using List.reverseRecOn with
  | nil => exact .inl ⟨rfl, fun t here => by cases here⟩
  | append_singleton qs q ih =>
      have before := ih (fun q here => own q (List.mem_append_left _ here))
        fun q here => same q (List.mem_append_left _ here)
      have sec := own q (by simp)
      have types := (types_run c s qs).1
      have switchable : ∀ name key,
          Switchable c.toDevices (Machine.final (step c) s qs).world name key ↔
            Switchable c.toDevices s.world name key := by
        intro name key
        rw [Switchable, Switchable, types]
      rw [Machine.trace_snoc, Machine.final_snoc]
      show (turn c (Machine.final (step c) s qs) q).2.world.objects = _ ∧ _ ∨ ∃ t ∈ _, ∃ b, _ ∧ _ ∧
        ∀ name key, (_ → (turn c (Machine.final (step c) s qs) q).2.world.objects name key = _) ∧
          (_ → (turn c (Machine.final (step c) s qs) q).2.world.objects name key = _)
      by_cases here : ∃ b, Switches c (Machine.final (step c) s qs) q b
      · obtain ⟨b, switches⟩ := here
        have value := (same q (by simp) switches.param).symm.trans switches.value
        right
        refine ⟨_, List.mem_append_right _ (List.mem_singleton_self _), b, value, switches, ?_⟩
        intro name key
        rw [turn_switches switches]
        refine ⟨fun here => switchObjects_sets ((switchable name key).mpr here) b, fun other => ?_⟩
        rw [switchObjects_other (mt (switchable name key).mp other)]
        rcases before with ⟨kept, -⟩ | ⟨_, -, _, -, -, after⟩
        · rw [kept]
        · exact (after name key).2 other
      · have still := fun b switches => here ⟨b, switches⟩
        rw [turn_unswitched sec still]
        rcases before with ⟨kept, none'⟩ | ⟨t, there, after⟩
        · refine .inl ⟨kept, fun t there => ?_⟩
          rcases List.mem_append.mp there with earlier | last
          · exact none' t earlier
          · rw [List.mem_singleton.mp last]
            exact still
        · exact .inr ⟨t, List.mem_append_left _ there, after⟩

/-- **A value of the project**, where all parameters for it ask for one value. -/
theorem own_run {key : Bytes} {v : Json} (qs : List Request)
    (same : ∀ q ∈ qs, q.sec = .global → q.param = key → q.value = v) :
    ((Machine.final (step c) s qs).m_value key = v ∧
        ∃ t ∈ Machine.trace (step c) s qs, SetsOwn key t) ∨
      ((Machine.final (step c) s qs).m_value key = s.m_value key ∧
        ∀ t ∈ Machine.trace (step c) s qs, ¬ SetsOwn key t) := by
  induction qs using List.reverseRecOn with
  | nil => exact .inr ⟨rfl, fun t here => by cases here⟩
  | append_singleton qs q ih =>
      have before := ih fun q here => same q (List.mem_append_left _ here)
      have set := (final_step c s qs q).own key
      rw [Machine.trace_snoc]
      by_cases here : (turn c (Machine.final (step c) s qs) q).1 = true ∧ q.sec = .global ∧
          q.param = key
      · rw [if_pos here] at set
        obtain ⟨accepted, global, keyed⟩ := here
        left
        refine ⟨set.trans (same q (by simp) global keyed), _, List.mem_append_right _
          List.mem_cons_self, global, keyed, ?_⟩
        rw [refused_transition, accepted]
        exact Bool.noConfusion
      · rw [if_neg here] at set
        rw [set]
        rcases before with ⟨is, t, there, sets⟩ | ⟨kept, none'⟩
        · exact .inl ⟨is, t, List.mem_append_left _ there, sets⟩
        · refine .inr ⟨kept, fun t there sets => ?_⟩
          rcases List.mem_append.mp there with earlier | last
          · exact none' t earlier sets
          · obtain rfl := List.mem_singleton.mp last
            obtain ⟨global, keyed, accepted⟩ := sets
            rw [refused_transition, Bool.not_eq_false] at accepted
            exact here ⟨accepted, global, keyed⟩

/-- **The delays that are sent.** -/
theorem board_run (qs : List Request) : ∃ delays,
    (Machine.final (step c) s qs).world.kickDelays = s.world.kickDelays ++ delays ∧
    (∀ t ∈ Machine.trace (step c) s qs, t.event.IsKick → ¬ Refused t →
      UInt16.ofInt t.event.value.toInt ∈ delays) ∧
    (c.pcp = false → delays = []) := by
  induction qs using List.reverseRecOn with
  | nil => exact ⟨[], by simp [Machine.final], (fun t here => nomatch here), fun _ => rfl⟩
  | append_singleton qs q ih =>
      obtain ⟨delays, board, sent, off⟩ := ih
      have after := (final_step c s qs q).board
      rw [board] at after
      have earlier : ∀ t ∈ Machine.trace (step c) s (qs ++ [q]), t.event.IsKick → ¬ Refused t →
          UInt16.ofInt t.event.value.toInt ∈ delays ∨
            t = Machine.transition (step c) (Machine.final (step c) s qs) q := by
        intro t here kick accepted
        rw [Machine.trace_snoc] at here
        rcases List.mem_append.mp here with there | last
        · exact .inl (sent t there kick accepted)
        · exact .inr (List.mem_singleton.mp last)
      by_cases here : (turn c (Machine.final (step c) s qs) q).1 = true ∧ q.IsKick
      · refine ⟨delays ++ [UInt16.ofInt q.value.toInt], ?_, fun t there kick accepted => ?_,
          fun none' => ?_⟩
        · rw [after, if_pos here, List.append_assoc]
        · rcases earlier t there kick accepted with old | rfl
          · exact List.mem_append_left _ old
          · exact List.mem_append_right _ List.mem_cons_self
        · have answer := here.1
          rw [turn_kick _ here.2, none'] at answer
          cases answer
      · refine ⟨delays, ?_, fun t there kick accepted => ?_, off⟩
        · rw [after, if_neg here]
        · rcases earlier t there kick accepted with old | rfl
          · exact old
          · rw [refused_transition, Bool.not_eq_false] at accepted
            exact absurd ⟨accepted, kick⟩ here

/-- Whether the project would save does not change. -/
theorem saves_run (qs : List Request) :
    saves c.attrList (Machine.final (step c) s qs) = saves c.attrList s := by
  induction qs using List.reverseRecOn with
  | nil => rfl
  | append_singleton qs q ih =>
      rw [Machine.final_snoc, ← ih]
      show saves c.attrList (turn c (Machine.final (step c) s qs) q).2 = _
      rcases forObject_or q with global | kick | forObject
      · rw [turn_own _ global]
        exact c.steady _ _ _
      · rw [turn_kick _ kick]
        split
        · exact c.outside _ _
        · rfl
      · rw [turn_object _ forObject]
        exact c.outside _ _

end Runs

end IsgConsole.IopAgent.ConfigSet
