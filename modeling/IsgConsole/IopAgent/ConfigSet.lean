/-
# IopAgent.ConfigSet — setting parameters for the policy store

`TcpClient::setParam` takes a body with parameters for the cameras, for the executors and for the
project itself.  It sets them one after another and collects the names of those that were refused,
under the name of their object, for the reply.

The objects are of any classes.  An object that is enabled or disabled may do anything outside of
itself; the project then switches all its objects.

* `failItem_setObjects` — what one section leaves of the reply;
* `listed_iff` — a name is listed under an object exactly when the last section that had something
  refused there refused it.
-/
import IsgConsole.BaseLib.ObjectAttributes

namespace IsgConsole.IopAgent.ConfigSet

open IsgConsole.Theory IsgConsole.BaseLib IsgConsole.Theory.Json

set_option autoImplicit false

/-! ## The console -/

/-- What is outside of the attributes of the project: the values of its objects, the delays that
went to the IO board, and the rest. -/
structure Outside (W : Type) where
  objects : Bytes → Bytes → Json
  kickDelays : List UInt16
  world : W

abbrev Project (W : Type) := EngineObject (Outside W)

def enabled : Bytes := utf8 "enabled"
def save : Bytes := utf8 "save"
def global : Bytes := utf8 "global"
def kick_delay : Bytes := utf8 "kick_delay"

variable {W : Type}

/-- `findObject(name)` and `setAttr` of what it finds. -/
def setObjectAttr (m_objects : Hash Bytes (EngineClass W)) (w : Outside W) (name key : Bytes)
    (value : Json) : Bool × Outside W :=
  match m_objects.lookup name with
  | none => (false, w)
  | some cls =>
      let (accepted, ptr) := setAttr cls.attrList
        { m_value := w.objects name, world := w.world } key value false
      (accepted, { w with
        objects := Function.update w.objects name ptr.m_value
        world := ptr.world })

/-- The loop of `EngineProject::onStarted` and `onStopped` over the objects. -/
def switchObjects (m_objects : Hash Bytes (EngineClass W)) (value : Bool) (w : Outside W) :
    Outside W :=
  m_objects.keys.foldl (fun w name => (setObjectAttr m_objects w name enabled (.bool value)).2) w

/-- The objects of a project, and what it switches. -/
structure Devices (W : Type) where
  m_objects : Hash Bytes (EngineClass W)
  plain : ∀ name cls, m_objects.lookup name = some cls → ∀ a ∈ cls.attrList, a.isPlain = true
  /-- The setter of `enabled` is that of `EngineObject`. -/
  switched : ∀ name cls, m_objects.lookup name = some cls → ∀ a ∈ cls.attrList,
    a.m_key = enabled → ∃ switch, a.m_setter = some (enabledSetter switch)
  /-- `getRunType() == RunType_Infer`. -/
  inferring : W → Bool
  /-- The virtual cameras are switched. -/
  switchVirtual : Bool → W → W

/-- `EngineProject::onStarted` and `onStopped`. -/
def Devices.switchAll (d : Devices W) (value : Bool) (s : Project W) : Outside W :=
  if d.inferring s.world.world then switchObjects d.m_objects value s.world
  else { s.world with world := d.switchVirtual value s.world.world }

/-- Whether the project would save. -/
def saves (attrList : List (Attribute (Outside W))) (s : Project W) : Bool :=
  (setAttr attrList s save (.bool true) false).1

/-- A project, with its attributes. -/
structure Console (W : Type) extends Devices W where
  attrList : List (Attribute (Outside W))
  /-- `PCPUdpCtrl::getInstance()`. -/
  pcp : Bool
  own : ∀ a ∈ attrList, a.m_key = enabled → a.m_setter = some (enabledSetter
    { onStarted := toDevices.switchAll true, onStopped := toDevices.switchAll false })
  /-- Its other setters leave the objects and the board alone. -/
  leaves : ∀ a ∈ attrList, a.m_key ≠ enabled → ∀ s value,
    (a.setValue s value false).2.world.objects = s.world.objects ∧
      (a.setValue s value false).2.world.kickDelays = s.world.kickDelays
  /-- Whether it would save depends on attributes that only trusted calls change. -/
  steady : ∀ s key value, saves attrList (setAttr attrList s key value false).2 = saves attrList s
  outside : ∀ s w, saves attrList { s with world := w } = saves attrList s

/-! ## Parameters -/

inductive Section where
  | camera_param
  | executor_param
  | global
  deriving DecidableEq

/-- The order in which the sections are worked on. -/
def Section.place : Section → Nat
  | .camera_param => 0
  | .executor_param => 1
  | .global => 2

/-- One parameter of a body. -/
structure Request where
  sec : Section
  objName : Bytes
  param : Bytes
  value : Json

/-- It is a delay for the IO board. -/
def Request.IsKick (q : Request) : Prop := q.sec = .executor_param ∧ q.param = kick_delay

instance (q : Request) : Decidable q.IsKick := inferInstanceAs (Decidable (_ ∧ _))

theorem Request.not_kick_of_global {q : Request} (own : q.sec = .global) : ¬ q.IsKick :=
  fun kick => absurd (kick.1.symm.trans own) (by decide)

theorem Request.not_kick_of_enabled {q : Request} (enables : q.param = enabled) : ¬ q.IsKick :=
  fun kick => utf8_injective.ne (by decide) (enables.symm.trans kick.2)

section SetParam

variable (c : Console W)

/-- A parameter is set, and whether it was. -/
def turn (s : Project W) (q : Request) : Bool × Project W :=
  match q.sec with
  | .global => setAttr c.attrList s q.param q.value false
  | .camera_param | .executor_param =>
      if q.IsKick then
        if c.pcp then
          (true, { s with world := { s.world with
            kickDelays := s.world.kickDelays ++ [UInt16.ofInt q.value.toInt] } })
        else (false, s)
      else
        let (accepted, w) := setObjectAttr c.m_objects s.world q.objName q.param q.value
        (accepted, { s with world := w })

/-- The loop over the parameters of an object: the names of those that were refused. -/
def setParams (sec : Section) (objName : Bytes) :
    Project W → JsonObject → Project W × List Bytes
  | s, [] => (s, [])
  | s, (param, value) :: params =>
      let (accepted, s) := turn c s { sec, objName, param, value }
      let (s, refused) := setParams sec objName s params
      (s, if accepted then refused else param :: refused)

/-- `failItem.insert(name, arr)`, unless the array is empty. -/
def addFails (failItem : JsonObject) (name : Bytes) (refused : List Bytes) : JsonObject :=
  if refused = [] then failItem else failItem.insert name (.array (refused.map .string))

/-- The loop over the objects of a section. -/
def setObjects (sec : Section) : Project W → JsonObject → JsonObject → Project W × JsonObject
  | s, failItem, [] => (s, failItem)
  | s, failItem, (objName, params) :: objects =>
      let (s, refused) := setParams c sec objName s params.toObject
      setObjects sec s (addFails failItem objName refused) objects

/-- The member of a body under a key, and the body without it. -/
def take (jsonObj : JsonObject) (key : Bytes) : Json × JsonObject :=
  (jsonObj.get key, jsonObj.filter fun m => m.1 ≠ key)

def CTRL_SUCCESS : Int := 200
def CTRL_ERROR : Int := 400

/-- The body of the reply. -/
def ctrlResult (failItem : JsonObject) : JsonObject :=
  if failItem = [] then
    JsonObject.insert (utf8 "message") (.string (utf8 "Success"))
      (JsonObject.insert (utf8 "code") (int CTRL_SUCCESS) [])
  else
    JsonObject.insert (utf8 "which") (.object failItem)
      (JsonObject.insert (utf8 "message") (.string (utf8 "Bad Request"))
        (JsonObject.insert (utf8 "code") (int CTRL_ERROR) []))

/-- What `setParam` leaves and sends. -/
structure Answer (W : Type) where
  project : Project W
  /-- What goes to the alarm device. -/
  alarm : Option JsonObject
  ctrlResult : JsonObject

/-- `TcpClient::setParam`. -/
def setParam (s : Project W) (jsonObj : JsonObject) : Answer W :=
  let (bNeedSave, jsonObj) := take jsonObj save
  let (camera, jsonObj) := take jsonObj (utf8 "camera_param")
  let (s, failItem) := setObjects c .camera_param s [] camera.toObject
  let alarm := (jsonObj.value (utf8 "alarm_param")).map Json.toObject
  let (executor, jsonObj) := take jsonObj (utf8 "executor_param")
  let (s, failItem) := setObjects c .executor_param s failItem executor.toObject
  let (config, _) := take jsonObj global
  let (s, refused) := setParams c .global global s config.toObject
  let failItem := addFails failItem global refused
  let s := if bNeedSave.toBool then (setAttr c.attrList s save (.bool true) false).2 else s
  { project := s, alarm := alarm, ctrlResult := ctrlResult failItem }

end SetParam

/-! ## A body as requests -/

/-- The objects of a section; the project is the one of the last. -/
def objectsOf (body : JsonObject) : Section → JsonObject
  | .camera_param => (body.get (utf8 "camera_param")).toObject
  | .executor_param => (body.get (utf8 "executor_param")).toObject
  | .global => [(global, body.get global)]

def requestsFor (sec : Section) (objName : Bytes) (params : JsonObject) : List Request :=
  params.map fun m => { sec, objName, param := m.1, value := m.2 }

def requestsIn (sec : Section) (objects : JsonObject) : List Request :=
  objects.flatMap fun m => requestsFor sec m.1 m.2.toObject

theorem requestsIn_cons (sec : Section) (objName : Bytes) (params : Json) (objects : JsonObject) :
    requestsIn sec ((objName, params) :: objects) =
      requestsFor sec objName params.toObject ++ requestsIn sec objects :=
  List.flatMap_cons

/-- The parameters of a body in the order in which they are set. -/
def requests (body : JsonObject) : List Request :=
  requestsIn .camera_param (objectsOf body .camera_param) ++
    requestsIn .executor_param (objectsOf body .executor_param) ++
    requestsIn .global (objectsOf body .global)

/-- The keys of an object are distinct, as they are in every `QJsonObject`. -/
def WellFormed (body : JsonObject) : Prop :=
  ∀ sec, ((objectsOf body sec).map Prod.fst).Nodup ∧
    ∀ m ∈ objectsOf body sec, (m.2.toObject.map Prod.fst).Nodup

/-- Setting one parameter as a step of a run. -/
def step (c : Console W) (s : Project W) (q : Request) : Project W × List Bool :=
  ((turn c s q).2, [(turn c s q).1])

abbrev Turn (W : Type) := Machine.Transition (Project W) Request Bool

def Refused (t : Turn W) : Prop := t.outputs = [false]

instance (t : Turn W) : Decidable (Refused t) := inferInstanceAs (Decidable (_ = _))

/-- The names that were refused for an object. -/
def refusedFor (objName : Bytes) (run : List (Turn W)) : List Bytes :=
  run.filterMap fun t => if Refused t ∧ t.event.objName = objName then some t.event.param else none

/-- All turns of a body. -/
def turns (c : Console W) (s : Project W) (body : JsonObject) : List (Turn W) :=
  Machine.trace (step c) s (requests body)

/-! ## The loops as runs -/

section Loops

variable {c : Console W}

theorem refusedFor_append (objName : Bytes) (run later : List (Turn W)) :
    refusedFor objName (run ++ later) = refusedFor objName run ++ refusedFor objName later :=
  List.filterMap_append

theorem refusedFor_cons (objName : Bytes) (t : Turn W) (run : List (Turn W)) :
    refusedFor objName (t :: run) =
      if Refused t ∧ t.event.objName = objName then t.event.param :: refusedFor objName run
      else refusedFor objName run := by
  rw [refusedFor, List.filterMap_cons]
  split <;> simp_all [refusedFor]

theorem mem_refusedFor {objName param : Bytes} {run : List (Turn W)} :
    param ∈ refusedFor objName run ↔
      ∃ t ∈ run, Refused t ∧ t.event.objName = objName ∧ t.event.param = param := by
  unfold refusedFor
  rw [List.mem_filterMap]
  constructor
  · rintro ⟨t, here, some'⟩
    obtain ⟨⟨refused, same⟩, named⟩ := Option.ite_none_right_eq_some.mp some'
    exact ⟨t, here, refused, same, Option.some.inj named⟩
  · rintro ⟨t, here, refused, same, named⟩
    exact ⟨t, here, by rw [if_pos ⟨refused, same⟩, named]⟩

/-- Nothing is refused for an object that is not asked for. -/
theorem refusedFor_other {objName : Bytes} {s : Project W} {qs : List Request}
    (other : ∀ q ∈ qs, q.objName ≠ objName) :
    refusedFor objName (Machine.trace (step c) s qs) = [] := by
  refine List.eq_nil_iff_forall_not_mem.mpr fun param listed => ?_
  obtain ⟨t, here, -, same, -⟩ := mem_refusedFor.mp listed
  have asked : t.event ∈ qs := by
    rw [← Machine.events_trace (step c) s qs]
    exact List.mem_map_of_mem here
  exact other _ asked same

/-- The loop over parameters is a run, and it collects what the run refuses. -/
theorem setParams_eq (sec : Section) (objName : Bytes) (s : Project W) (params : JsonObject) :
    setParams c sec objName s params =
      (Machine.final (step c) s (requestsFor sec objName params),
        refusedFor objName (Machine.trace (step c) s (requestsFor sec objName params))) := by
  induction params generalizing s with
  | nil => rfl
  | cons m params ih =>
      obtain ⟨param, value⟩ := m
      have run : Machine.trace (step c) s (requestsFor sec objName ((param, value) :: params)) =
          Machine.transition (step c) s { sec, objName, param, value } ::
            Machine.trace (step c) (turn c s { sec, objName, param, value }).2
              (requestsFor sec objName params) := rfl
      rw [setParams]
      dsimp only
      rw [ih, run, refusedFor_cons]
      refine Prod.ext rfl ?_
      cases answer : (turn c s { sec, objName, param, value }).1 with
      | true => simp [Refused, Machine.transition, step, answer]
      | false => simp [Refused, Machine.transition, step, answer]

theorem addFails_value (failItem : JsonObject) (name : Bytes) (refused : List Bytes)
    (objName : Bytes) :
    (addFails failItem name refused).value objName =
      if name = objName ∧ refused ≠ [] then some (.array (refused.map .string))
      else failItem.value objName := by
  unfold addFails
  by_cases none' : refused = []
  · simp [none']
  · by_cases here : name = objName
    · subst here
      rw [if_neg none', if_pos ⟨rfl, none'⟩, JsonObject.value_insert_self]
    · rw [if_neg none', if_neg fun this => here this.1, JsonObject.value_insert_other _ _ here]

theorem addFails_eq_nil {failItem : JsonObject} {name : Bytes} {refused : List Bytes} :
    addFails failItem name refused = [] ↔ failItem = [] ∧ refused = [] := by
  unfold addFails
  split
  next none' => simp [none']
  next refuses => simp [JsonObject.insert_ne_nil, refuses]

theorem setObjects_final (sec : Section) (s : Project W) (failItem objects : JsonObject) :
    (setObjects c sec s failItem objects).1 =
      Machine.final (step c) s (requestsIn sec objects) := by
  induction objects generalizing s failItem with
  | nil => rfl
  | cons m objects ih =>
      obtain ⟨objName, params⟩ := m
      rw [setObjects, setParams_eq]
      dsimp only
      rw [ih, requestsIn_cons, Machine.final_append]

/-- **What one section leaves of the reply**: it replaces what stood under an object, where it
refuses something there. -/
theorem failItem_setObjects (sec : Section) (s : Project W) (failItem : JsonObject)
    {objects : JsonObject} (distinct : (objects.map Prod.fst).Nodup) (objName : Bytes) :
    (setObjects c sec s failItem objects).2.value objName =
      if refusedFor objName (Machine.trace (step c) s (requestsIn sec objects)) = [] then
        failItem.value objName
      else some (.array
        ((refusedFor objName (Machine.trace (step c) s (requestsIn sec objects))).map .string)) := by
  induction objects generalizing s failItem with
  | nil => rfl
  | cons m objects ih =>
      obtain ⟨name, params⟩ := m
      rw [List.map_cons, List.nodup_cons] at distinct
      obtain ⟨fresh, distinct⟩ := distinct
      rw [setObjects, setParams_eq]
      dsimp only
      rw [ih _ _ distinct, addFails_value, requestsIn_cons, Machine.trace_append,
        refusedFor_append]
      by_cases here : name = objName
      · subst here
        have later : refusedFor name (Machine.trace (step c)
            (Machine.final (step c) s (requestsFor sec name params.toObject))
            (requestsIn sec objects)) = [] := by
          refine refusedFor_other fun q asked same => fresh ?_
          obtain ⟨m, there, asks⟩ := List.mem_flatMap.mp asked
          obtain ⟨_, -, rfl⟩ := List.mem_map.mp asks
          exact List.mem_map.mpr ⟨m, there, same⟩
        rw [later, List.append_nil]
        by_cases none' : refusedFor name
            (Machine.trace (step c) s (requestsFor sec name params.toObject)) = []
        · simp [none']
        · simp [none']
      · have earlier : refusedFor objName
            (Machine.trace (step c) s (requestsFor sec name params.toObject)) = [] := by
          refine refusedFor_other fun q asked same => here ?_
          obtain ⟨_, -, rfl⟩ := List.mem_map.mp asked
          exact same
        rw [earlier, List.nil_append, if_neg (fun this : name = objName ∧ _ => here this.1)]

theorem setObjects_eq_nil (sec : Section) (s : Project W) (failItem objects : JsonObject) :
    (setObjects c sec s failItem objects).2 = [] ↔
      failItem = [] ∧ ∀ t ∈ Machine.trace (step c) s (requestsIn sec objects), ¬ Refused t := by
  induction objects generalizing s failItem with
  | nil => simp [setObjects, requestsIn, Machine.trace]
  | cons m objects ih =>
      obtain ⟨name, params⟩ := m
      have first : refusedFor name
          (Machine.trace (step c) s (requestsFor sec name params.toObject)) = [] ↔
          ∀ t ∈ Machine.trace (step c) s (requestsFor sec name params.toObject), ¬ Refused t := by
        rw [List.eq_nil_iff_forall_not_mem]
        constructor
        · intro none' t here refused
          have asked : t.event ∈ requestsFor sec name params.toObject := by
            rw [← Machine.events_trace (step c) s (requestsFor sec name params.toObject)]
            exact List.mem_map_of_mem here
          obtain ⟨_, -, same⟩ := List.mem_map.mp asked
          exact none' t.event.param (mem_refusedFor.mpr ⟨t, here, refused, by rw [← same], rfl⟩)
        · intro none' param listed
          obtain ⟨t, here, refused, -⟩ := mem_refusedFor.mp listed
          exact none' t here refused
      rw [setObjects, setParams_eq]
      dsimp only
      rw [ih, addFails_eq_nil, first, requestsIn_cons, Machine.trace_append,
        List.forall_mem_append, and_assoc]

end Loops

/-! ## The reply -/

/-- The turns of one section. -/
def turnsIn (c : Console W) (s : Project W) (body : JsonObject) : Section → List (Turn W)
  | .camera_param =>
      Machine.trace (step c) s (requestsIn .camera_param (objectsOf body .camera_param))
  | .executor_param =>
      Machine.trace (step c)
        (Machine.final (step c) s (requestsIn .camera_param (objectsOf body .camera_param)))
        (requestsIn .executor_param (objectsOf body .executor_param))
  | .global =>
      Machine.trace (step c)
        (Machine.final (step c)
          (Machine.final (step c) s (requestsIn .camera_param (objectsOf body .camera_param)))
          (requestsIn .executor_param (objectsOf body .executor_param)))
        (requestsIn .global (objectsOf body .global))

/-- What the last section that refused something for an object refused there. -/
def lastRefused (c : Console W) (s : Project W) (body : JsonObject) (objName : Bytes) :
    List Bytes :=
  if refusedFor objName (turnsIn c s body .global) ≠ [] then
    refusedFor objName (turnsIn c s body .global)
  else if refusedFor objName (turnsIn c s body .executor_param) ≠ [] then
    refusedFor objName (turnsIn c s body .executor_param)
  else refusedFor objName (turnsIn c s body .camera_param)

/-- The state after a body, before it is saved. -/
def afterAll (c : Console W) (s : Project W) (body : JsonObject) : Project W :=
  Machine.final (step c) s (requests body)

/-- The parameter is listed in the reply, under the object. -/
def Listed (reply : JsonObject) (objName param : Bytes) : Prop :=
  .string param ∈ ((reply.get (utf8 "which")).toObject.get objName).toArray

theorem value_take {jsonObj : JsonObject} {key other : Bytes} (ne : key ≠ other) :
    JsonObject.value other (take jsonObj key).2 = jsonObj.value other :=
  JsonObject.value_filter_other ne

theorem get_take {jsonObj : JsonObject} {key other : Bytes} (ne : key ≠ other) :
    JsonObject.get (take jsonObj key).2 other = jsonObj.get other :=
  congrArg (fun v => v.getD .null) (value_take ne)

section Reply

variable (c : Console W) (s : Project W) (body : JsonObject)

theorem turns_eq : turns c s body =
    turnsIn c s body .camera_param ++ turnsIn c s body .executor_param ++
      turnsIn c s body .global := by
  rw [turns, requests, Machine.trace_append, Machine.trace_append, Machine.final_append]
  rfl

/-- What was refused, as the sections leave it. -/
def failItem : JsonObject :=
  let camera := setObjects c .camera_param s [] (objectsOf body .camera_param)
  let executor := setObjects c .executor_param camera.1 camera.2 (objectsOf body .executor_param)
  (setObjects c .global executor.1 executor.2 (objectsOf body .global)).2

/-- `setParam` sets the parameters one after another and saves in the end. -/
theorem setParam_eq : setParam c s body =
    { project := if (body.get save).toBool then
        (setAttr c.attrList (afterAll c s body) save (.bool true) false).2
        else afterAll c s body
      alarm := (body.value (utf8 "alarm_param")).map Json.toObject
      ctrlResult := ctrlResult (failItem c s body) } := by
  have keys : ∀ {a b : String}, a ≠ b → utf8 a ≠ utf8 b := fun ne => utf8_injective.ne ne
  have camera : ((take body save).2).get (utf8 "camera_param") = body.get (utf8 "camera_param") :=
    get_take (keys (by decide))
  have executor : ((take (take body save).2 (utf8 "camera_param")).2).get (utf8 "executor_param") =
      body.get (utf8 "executor_param") :=
    (get_take (keys (by decide))).trans (get_take (keys (by decide)))
  have config : ((take (take (take body save).2 (utf8 "camera_param")).2
      (utf8 "executor_param")).2).get global = body.get global :=
    (get_take (keys (by decide))).trans
      ((get_take (keys (by decide))).trans (get_take (keys (by decide))))
  have alarm : (take (take body save).2 (utf8 "camera_param")).2.value (utf8 "alarm_param") =
      body.value (utf8 "alarm_param") :=
    (value_take (keys (by decide))).trans (value_take (keys (by decide)))
  have first : ∀ jsonObj key, (take jsonObj key).1 = JsonObject.get jsonObj key := fun _ _ => rfl
  have last : ∀ s' fails, setObjects c .global s' fails (objectsOf body .global) =
      ((setParams c .global global s' (body.get global).toObject).1,
        addFails fails global (setParams c .global global s' (body.get global).toObject).2) :=
    fun _ _ => rfl
  have after : afterAll c s body =
      (setObjects c .global
        (setObjects c .executor_param (setObjects c .camera_param s [] (objectsOf body .camera_param)).1
          (setObjects c .camera_param s [] (objectsOf body .camera_param)).2
          (objectsOf body .executor_param)).1 (failItem c s body) (objectsOf body .global)).1 := by
    rw [setObjects_final, setObjects_final, setObjects_final, afterAll, requests,
      Machine.final_append, Machine.final_append]
  rw [after, failItem, last, last]
  unfold setParam
  dsimp only
  rw [first, first, first, first, camera, executor, config, alarm]
  rfl

/-- The list under an object is that of the last section that refused something there. -/
theorem failItem_value (wellFormed : WellFormed body) (objName : Bytes) :
    (failItem c s body).value objName =
      if lastRefused c s body objName = [] then none
      else some (.array ((lastRefused c s body objName).map .string)) := by
  unfold failItem lastRefused
  dsimp only
  rw [failItem_setObjects _ _ _ (wellFormed .global).1,
    failItem_setObjects _ _ _ (wellFormed .executor_param).1,
    failItem_setObjects _ _ _ (wellFormed .camera_param).1, setObjects_final, setObjects_final]
  unfold turnsIn
  dsimp only
  split
  next none₃ =>
      rw [if_neg (not_not.mpr none₃)]
      split
      next none₂ =>
          rw [if_neg (not_not.mpr none₂)]
          rfl
      next => simp
  next => simp

/-- **When a parameter is listed.** -/
theorem listed_iff (wellFormed : WellFormed body) (objName param : Bytes) :
    Listed (setParam c s body).ctrlResult objName param ↔
      param ∈ lastRefused c s body objName := by
  have which : ((setParam c s body).ctrlResult.get (utf8 "which")).toObject = failItem c s body := by
    rw [setParam_eq]
    dsimp only
    unfold ctrlResult
    split
    next none' =>
        rw [none', JsonObject.get,
          JsonObject.value_insert_other _ _ (utf8_injective.ne (by decide)),
          JsonObject.value_insert_other _ _ (utf8_injective.ne (by decide))]
        rfl
    next => rw [JsonObject.get, JsonObject.value_insert_self]; rfl
  rw [Listed, which, JsonObject.get, failItem_value c s body wellFormed]
  split
  next none' => simp [none', Json.toArray]
  next =>
      rw [Option.getD_some, Json.toArray, List.mem_map]
      constructor
      · rintro ⟨other, here, same⟩
        rwa [← Json.string.inj same]
      · exact fun here => ⟨param, here, rfl⟩

/-- **When the code is 200**: nothing was refused. -/
theorem code_iff : (setParam c s body).ctrlResult.get (utf8 "code") = int CTRL_SUCCESS ↔
    ∀ t ∈ turns c s body, ¬ Refused t := by
  have nothing : failItem c s body = [] ↔ ∀ t ∈ turns c s body, ¬ Refused t := by
    unfold failItem
    dsimp only
    rw [setObjects_eq_nil, setObjects_eq_nil, setObjects_eq_nil, setObjects_final,
      setObjects_final, turns_eq, List.forall_mem_append, List.forall_mem_append, and_assoc]
    simp [turnsIn, and_assoc]
  rw [← nothing, setParam_eq]
  dsimp only
  unfold ctrlResult
  have message : utf8 "message" ≠ utf8 "code" := utf8_injective.ne (by decide)
  have which : utf8 "which" ≠ utf8 "code" := utf8_injective.ne (by decide)
  split
  next none' =>
      refine iff_of_true ?_ none'
      rw [JsonObject.get, JsonObject.value_insert_other _ _ message, JsonObject.value_insert_self]
      rfl
  next some' =>
      refine iff_of_false ?_ some'
      rw [JsonObject.get, JsonObject.value_insert_other _ _ which,
        JsonObject.value_insert_other _ _ message, JsonObject.value_insert_self]
      exact fun same => absurd (Json.number.inj same) (by decide)

end Reply

end IsgConsole.IopAgent.ConfigSet
