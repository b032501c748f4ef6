/-
# IopAgent.ConfigSetProbes — the bodies that are not answered exactly

For every body that is not clear there is a console, in some state, that answers it wrongly.  Few
attributes are enough: one of the project, or one of an object.

* `exact_iff_clear` — **the bodies that are answered exactly are the clear ones.**
-/
import IsgConsole.IopAgent.ConfigSetExact
import IsgConsole.IopAgent.ConfigSetProject

namespace IsgConsole.IopAgent.ConfigSet

open IsgConsole.Theory IsgConsole.BaseLib IsgConsole.Theory.Json

set_option autoImplicit false

variable {W : Type}

/-! ## Small consoles -/

/-- An attribute that takes every value of its type. -/
def plainAttribute (switch : Switch W) (param : Bytes) : Attribute W :=
  { m_key := param, value := .null
    m_setter := if param = enabled then some (enabledSetter switch) else none }

theorem plainAttribute_isPlain (switch : Switch W) (param : Bytes) :
    (plainAttribute switch param).isPlain = true := by
  unfold plainAttribute Attribute.isPlain
  dsimp only
  split_ifs <;> rfl

theorem plainAttribute_switched (switch : Switch W) (param : Bytes)
    (key : (plainAttribute switch param).m_key = enabled) :
    (plainAttribute switch param).m_setter = some (enabledSetter switch) :=
  if_pos key

theorem plainAttribute_accepts (switch : Switch W) (param : Bytes) (s : EngineObject W)
    (value : Json) : ((plainAttribute switch param).setValue s value false).1 =
      decide (jsonType value = jsonType (s.m_value param)) := by
  have key : (plainAttribute switch param).m_key = param := rfl
  by_cases same : jsonType value = jsonType (s.m_value param)
  · rw [Attribute.setValue, key, if_neg (not_not.mpr same), decide_eq_true same]
    unfold plainAttribute
    dsimp only
    split_ifs <;> rfl
  · rw [Attribute.setValue, key, if_pos same, decide_eq_false same]

/-- A project without objects. -/
def noDevices : Devices Unit where
  m_objects := ∅
  plain name cls found := by rw [AList.lookup_empty] at found; cases found
  switched name cls found := by rw [AList.lookup_empty] at found; cases found
  inferring _ := true
  switchVirtual _ w := w

/-- A class with one attribute. -/
def oneClass (a : Attribute W) (plain : a.isPlain = true) : EngineClass W :=
  .ofPlain [a] (List.nodup_singleton _) fun _ here => (List.mem_singleton.mp here) ▸ plain

/-- One object with one attribute. -/
def oneDevice (objName : Bytes) (a : Attribute W) (plain : a.isPlain = true)
    (switched : a.m_key = enabled → ∃ switch, a.m_setter = some (enabledSetter switch)) :
    Devices W where
  m_objects := AList.insert objName (oneClass a plain) ∅
  plain name cls found b here := by
    rcases Hash.of_lookup_insert found with ⟨-, rfl⟩ | ⟨-, none'⟩
    · exact (List.mem_singleton.mp here) ▸ plain
    · rw [AList.lookup_empty] at none'
      cases none'
  switched name cls found b here := by
    rcases Hash.of_lookup_insert found with ⟨-, rfl⟩ | ⟨-, none'⟩
    · exact (List.mem_singleton.mp here) ▸ switched
    · rw [AList.lookup_empty] at none'
      cases none'
  inferring _ := true
  switchVirtual _ w := w

section OneDevice

variable {objName : Bytes} {a : Attribute W} (plain : a.isPlain = true)
  (switched : a.m_key = enabled → ∃ switch, a.m_setter = some (enabledSetter switch))

theorem oneDevice_lookup :
    (oneDevice objName a plain switched).m_objects.lookup objName = some (oneClass a plain) :=
  AList.lookup_insert _

/-- What setting its attribute does. -/
theorem setObjectAttr_one (w : Outside W) (value : Json) :
    setObjectAttr (oneDevice objName a plain switched).m_objects w objName a.m_key value =
      let s : EngineObject W := { m_value := w.objects objName, world := w.world }
      ((a.setValue s value false).1, { w with
        objects := Function.update w.objects objName (a.setValue s value false).2.m_value
        world := (a.setValue s value false).2.world }) := by
  rw [setObjectAttr, oneDevice_lookup]
  simp [setAttr, oneClass, EngineClass.ofPlain]

/-- Whatever else is set is refused. -/
theorem setObjectAttr_other {name key : Bytes} (other : ¬ (name = objName ∧ key = a.m_key))
    (w : Outside W) (value : Json) :
    (setObjectAttr (oneDevice objName a plain switched).m_objects w name key value).1 = false ∧
      (setObjectAttr (oneDevice objName a plain switched).m_objects w name key value).2.world =
        w.world := by
  by_cases named : name = objName
  · subst named
    have absent : a.m_key ≠ key := fun same => other ⟨rfl, same.symm⟩
    rw [setObjectAttr, oneDevice_lookup]
    simp [setAttr, oneClass, EngineClass.ofPlain, absent]
  · have unknown : (oneDevice objName a plain switched).m_objects.lookup name = none :=
      (AList.lookup_insert_ne named).trans (AList.lookup_empty _)
    rw [setObjectAttr, unknown]
    exact ⟨rfl, rfl⟩

end OneDevice

section PlainConsole

variable (d : Devices W)

/-- `onStarted` and `onStopped` of the project. -/
def Devices.switch : Switch (Outside W) :=
  { onStarted := d.switchAll true, onStopped := d.switchAll false }

def plainAttributes (params : List Bytes) : List (Attribute (Outside W)) :=
  params.map (plainAttribute d.switch)

theorem plainAttributes_find (params : List Bytes) (key : Bytes) :
    (plainAttributes d params).find? (fun a => a.m_key = key) =
      if key ∈ params then some (plainAttribute d.switch key) else none := by
  induction params with
  | nil => rfl
  | cons param params ih =>
      rw [plainAttributes, List.map_cons, List.find?_cons]
      by_cases here : param = key
      · subst here
        simp [plainAttribute]
      · have other : decide ((plainAttribute d.switch param).m_key = key) = false :=
          decide_eq_false here
        rw [other]
        dsimp only
        rw [← plainAttributes, ih]
        simp [Ne.symm here]

/-- A plain project takes a value for a parameter it has, if the type is right. -/
theorem plainAttributes_accept (params : List Bytes) (s : Project W) (key : Bytes) (value : Json) :
    (setAttr (plainAttributes d params) s key value false).1 =
      decide (key ∈ params ∧ jsonType value = jsonType (s.m_value key)) := by
  rw [setAttr, plainAttributes_find]
  by_cases here : key ∈ params
  · rw [if_pos here]
    dsimp only
    rw [plainAttribute_accepts]
    simp [here]
  · simp [here]

theorem plainAttributes_plain (params : List Bytes) : ∀ a ∈ plainAttributes d params, a.Plain := by
  intro a own
  obtain ⟨param, -, rfl⟩ := List.mem_map.mp own
  exact Attribute.plain_iff.mpr (plainAttribute_isPlain _ _)

/-- A project with these parameters. -/
def plainConsole (pcp : Bool) (params : List Bytes) : Console W where
  toDevices := d
  attrList := plainAttributes d params
  pcp := pcp
  own a own key := by
    obtain ⟨param, -, rfl⟩ := List.mem_map.mp own
    exact plainAttribute_switched _ _ key
  leaves a own other s value := by
    obtain ⟨param, -, rfl⟩ := List.mem_map.mp own
    have setter : (plainAttribute d.switch param).m_setter = none := if_neg other
    rw [Attribute.setValue, setter]
    split <;> exact ⟨rfl, rfl⟩
  steady s key value := by
    rw [saves, saves, plainAttributes_accept, plainAttributes_accept,
      jsonType_setAttr (plainAttributes_plain d params)]
  outside s w := by
    rw [saves, saves, plainAttributes_accept, plainAttributes_accept]

end PlainConsole

/-- A state of a project with these values. -/
def projectWith (m_value : Bytes → Json) (objects : Bytes → Bytes → Json) (world : W) : Project W :=
  { m_value := m_value, world := { objects := objects, kickDelays := [], world := world } }

/-! ## An attribute that is set once -/

/-- Its setter accepts where the world is `true`, once. -/
def onceAttribute (param : Bytes) : Attribute Bool :=
  { m_key := param, value := .null
    m_setter := some (.device fun s _ _ _ => (s.world, false)) }

/-- A project where one attribute of one object is set once, and nothing else. -/
def onceConsole (objName : Bytes) {param : Bytes} (other : param ≠ enabled) : Console Bool :=
  plainConsole (oneDevice objName (onceAttribute param) rfl fun key => absurd key other) false []

section Once

variable (objName : Bytes) {param : Bytes} (other : param ≠ enabled)

/-- The request asks for that attribute, with a value of its type. -/
def Asks (param : Bytes) (s : Project Bool) (q : Request) : Prop :=
  q.ForObject ∧ q.objName = objName ∧ q.param = param ∧
    jsonType q.value = jsonType (s.world.objects objName param)

theorem once_turn (s : Project Bool) (q : Request) :
    (Asks objName param s q → (turn (onceConsole objName other) s q).1 = s.world.world ∧
      (turn (onceConsole objName other) s q).2.world.world = false) ∧
    (¬ Asks objName param s q → (turn (onceConsole objName other) s q).1 = false ∧
      (turn (onceConsole objName other) s q).2.world.world = s.world.world) := by
  rcases forObject_or q with sec | kick | forObject
  · rw [turn_own _ sec]
    exact ⟨fun asks => absurd sec asks.1.1, fun _ => ⟨rfl, rfl⟩⟩
  · rw [turn_kick _ kick]
    exact ⟨fun asks => absurd kick asks.1.2, fun _ => ⟨rfl, rfl⟩⟩
  · rw [turn_object _ forObject]
    dsimp only
    by_cases slot : q.objName = objName ∧ q.param = param
    · obtain ⟨rfl, rfl⟩ := slot
      have key : (onceAttribute q.param).m_key = q.param := rfl
      have set : setObjectAttr (onceConsole q.objName other).m_objects s.world q.objName q.param
          q.value = _ :=
        setObjectAttr_one (a := onceAttribute q.param) rfl (fun key => absurd key other) s.world
          q.value
      rw [set]
      by_cases type : jsonType q.value = jsonType (s.world.objects q.objName q.param)
      · refine ⟨fun _ => ?_, fun none' => absurd ⟨forObject, rfl, rfl, type⟩ none'⟩
        cases s.world.world with
        | true => simp [Attribute.setValue, type, onceAttribute, Setter.run, EngineObject.put]
        | false => simp [Attribute.setValue, type, onceAttribute, Setter.run]
      · refine ⟨fun asks => absurd asks.2.2.2 type, fun _ => ?_⟩
        simp [Attribute.setValue, key, type]
    · refine ⟨fun asks => absurd ⟨asks.2.1, asks.2.2.1⟩ slot, fun _ => ?_⟩
      exact setObjectAttr_other (a := onceAttribute param) rfl (fun key => absurd key other)
        slot s.world q.value

/-- What is known behind a run: it has set the attribute at most once, not at all while it is
`ready`, and else by one of its turns. -/
structure SetOnce (param : Bytes) (s : Project Bool) (run : List (Turn Bool)) (ready : Bool) :
    Prop where
  single : run.Pairwise fun t t' => Refused t ∨ Refused t'
  unused : ready = true → ∀ t ∈ run, Refused t ∧ ¬ Asks objName param s t.event
  used : s.world.world = true → ready = false → ∃ t ∈ run, ¬ Refused t

variable {objName} {s : Project Bool} {run : List (Turn Bool)} {t : Turn Bool}

theorem SetOnce.refused {ready : Bool} (once : SetOnce objName param s run ready)
    (refused : Refused t) (ignored : ready = true → ¬ Asks objName param s t.event) :
    SetOnce objName param s (run ++ [t]) ready where
  single := by
    refine List.pairwise_append.mpr ⟨once.single, List.pairwise_singleton _ _, ?_⟩
    intro _ _ t' here
    rw [List.mem_singleton.mp here]
    exact .inr refused
  unused ready t' here := by
    rcases List.mem_append.mp here with earlier | own
    · exact once.unused ready t' earlier
    · rw [List.mem_singleton.mp own]
      exact ⟨refused, ignored ready⟩
  used start spent := by
    obtain ⟨t', here, accepted⟩ := once.used start spent
    exact ⟨t', List.mem_append_left _ here, accepted⟩

theorem SetOnce.accepted (once : SetOnce objName param s run true) (accepted : ¬ Refused t) :
    SetOnce objName param s (run ++ [t]) false where
  single := by
    refine List.pairwise_append.mpr ⟨once.single, List.pairwise_singleton _ _, ?_⟩
    exact fun t' here _ _ => .inl (once.unused rfl t' here).1
  unused ready := by cases ready
  used _ _ := ⟨t, by simp, accepted⟩

/-- **It is set once**: by the first turn that asks for it. -/
theorem once_run (s : Project Bool) (qs : List Request) :
    SetOnce objName param s (Machine.trace (step (onceConsole objName other)) s qs)
      (Machine.final (step (onceConsole objName other)) s qs).world.world := by
  set c := onceConsole objName other
  induction qs using List.reverseRecOn with
  | nil =>
      exact {
        single := List.Pairwise.nil
        unused := fun _ t here => by cases here
        used := fun ready used => absurd (ready.symm.trans used) (by decide) }
  | append_singleton qs q ih =>
      have type := (types_run c s qs).1 objName param
      obtain ⟨asked, ignored⟩ := once_turn objName other (Machine.final (step c) s qs) q
      rw [Asks, type] at asked ignored
      rw [Machine.trace_snoc, Machine.final_snoc]
      have refuses := refused_transition c (Machine.final (step c) s qs) q
      show SetOnce objName param s _ (turn c (Machine.final (step c) s qs) q).2.world.world
      by_cases asks : Asks objName param s q
      · obtain ⟨answer, after⟩ := asked asks
        rw [after]
        cases ready : (Machine.final (step c) s qs).world.world with
        | true =>
            rw [ready] at ih answer
            exact ih.accepted (mt refuses.mp (by rw [answer]; decide))
        | false =>
            rw [ready] at ih answer
            exact ih.refused (refuses.mpr answer) Bool.noConfusion
      · obtain ⟨answer, after⟩ := ignored asks
        rw [after]
        exact ih.refused (refuses.mpr answer) fun _ => asks

end Once

/-! ## An object that is enabled -/

/-- An object with `enabled`, which does nothing else. -/
def enabledDevice (objName : Bytes) : Devices Unit :=
  oneDevice objName (plainAttribute { onStarted := fun s => s.world, onStopped := fun s => s.world }
    enabled) (plainAttribute_isPlain _ _) fun key => ⟨_, plainAttribute_switched _ _ key⟩

theorem enabledDevice_has (objName : Bytes) : (enabledDevice objName).Has objName enabled :=
  ⟨_, _, AList.lookup_insert _, List.mem_singleton_self _, rfl⟩

/-- The project has `enabled` too. -/
def enabledConsole (objName : Bytes) : Console Unit :=
  plainConsole (enabledDevice objName) false [enabled]

/-! ## A delay, and `save` -/

section Necessary

variable {body : JsonObject}

theorem delays_of_exact (exact : ∀ (W : Type) (c : Console W) (s : Project W), Exact c s body)
    {q : Request} (asked : q ∈ requests body) (kick : q.IsKick) :
    ∃ delay : UInt16, q.value = int delay.toNat :=
  (exact _ (plainConsole noDevices true [])
    (projectWith (fun _ => .null) (fun _ _ => .null) ())).delays rfl asked kick

theorem saves_of_exact (wellFormed : WellFormed body)
    (exact : ∀ (W : Type) (c : Console W) (s : Project W), Exact c s body)
    (asks : (body.get save).toBool = true) {q : Request} (asked : q ∈ requests body)
    (sec : q.sec = .global) (param : q.param = save) : q.value = .bool true := by
  let c := plainConsole noDevices false [save]
  let s : Project Unit := projectWith (fun _ => .bool false) (fun _ _ => .null) ()
  obtain ⟨t, here, rfl⟩ := turn_of_asked (c := c) (s := s) asked
  have ready : saves c.attrList s = true := by
    rw [saves]
    exact (plainAttributes_accept ..).trans (decide_eq_true ⟨List.mem_singleton_self _, rfl⟩)
  have value := ((exact _ c s).clearFor wellFormed).saves asks ready t here sec param
  unfold told at value
  split at value
  next =>
      rw [valueOf, if_pos sec] at value
      cases value
  next => exact value

/-- A project with nothing in it refuses everything. -/
theorem nothing_accepts {t : Turn Unit} {s : Project Unit}
    (here : t ∈ turns (plainConsole noDevices false []) s body) : Refused t := by
  obtain ⟨before, same⟩ := turn_spec here
  rw [same, refused_transition]
  rcases forObject_or t.event with sec | kick | forObject
  · rw [turn_own _ sec]
    exact plainAttributes_accept ..
  · rw [turn_kick _ kick]
    rfl
  · rw [turn_object _ forObject]
    rfl

/-! ## Two sections with one object -/

section Apart

variable (exact : ∀ (W : Type) (c : Console W) (s : Project W), Exact c s body)
include exact

/-- What an earlier section asks for, a later one asks for too. -/
theorem later_twin (wellFormed : WellFormed body) {q q' : Request} (asked : q ∈ requests body)
    (asked' : q' ∈ requests body) (object : q.objName = q'.objName)
    (earlier : q.sec.place < q'.sec.place) :
    ∃ r ∈ requests body, r.objName = q.objName ∧ r.param = q.param ∧
      q.sec.place < r.sec.place := by
  let c := plainConsole noDevices false []
  let s : Project Unit := projectWith (fun _ => .null) (fun _ _ => .null) ()
  obtain ⟨t, here, rfl⟩ := turn_of_asked (c := c) (s := s) asked
  obtain ⟨t', there, rfl⟩ := turn_of_asked (c := c) (s := s) asked'
  obtain ⟨r, asked₂, object₂, param₂, behind⟩ := ((exact _ c s).clearFor wellFormed).hidden
    t here t' there object earlier (nothing_accepts here) (nothing_accepts there)
  exact ⟨r, asked₂, object₂, param₂, Nat.lt_of_lt_of_le earlier behind⟩

/-- The project is no object: its parameters are accepted where those of an object are not. -/
theorem twin_not_global {q r : Request} (asked : q ∈ requests body) (asked' : r ∈ requests body)
    (object : q.objName = r.objName) (param : q.param = r.param)
    (earlier : q.sec.place < r.sec.place) : r.sec ≠ .global := by
  intro sec
  let c := plainConsole noDevices false [r.param]
  let s : Project Unit := projectWith (fun _ => r.value) (fun _ _ => .null) ()
  obtain ⟨t, here, rfl⟩ := turn_of_asked (c := c) (s := s) asked
  obtain ⟨t', there, rfl⟩ := turn_of_asked (c := c) (s := s) asked'
  have accepted : ¬ Refused t' := by
    obtain ⟨before, same⟩ := turn_spec there
    have type := (types_run c s before).2 t'.event.param
    rw [same, refused_transition, turn_own _ sec, Bool.not_eq_false]
    exact (plainAttributes_accept ..).trans
      (decide_eq_true ⟨List.mem_singleton_self _, type.symm⟩)
  have refused : Refused t := by
    obtain ⟨before, same⟩ := turn_spec here
    rw [same, refused_transition]
    rcases forObject_or t.event with own | kick | forObject
    · rw [own, sec] at earlier
      exact absurd earlier (by decide)
    · rw [turn_kick _ kick]
      rfl
    · rw [turn_object _ forObject]
      rfl
  exact accepted (((exact _ c s).twins here there object param).mp refused)

/-- A parameter that is set once is set by one of two sections. -/
theorem twin_enabled {q r : Request} (asked : q ∈ requests body) (asked' : r ∈ requests body)
    (object : q.objName = r.objName) (param : q.param = r.param) (camera : q.sec = .camera_param)
    (executor : r.sec = .executor_param) : q.param = enabled := by
  by_contra other
  let c := onceConsole q.objName other
  let s : Project Bool := projectWith (fun _ => .null) (fun _ _ => q.value) true
  obtain ⟨t, here, rfl⟩ := turn_of_asked (c := c) (s := s) asked
  obtain ⟨t', there, rfl⟩ := turn_of_asked (c := c) (s := s) asked'
  obtain ⟨once, unused, used⟩ : SetOnce t.event.objName t.event.param s (turns c s body) _ :=
    once_run other s (requests body)
  have same := (exact _ c s).twins here there object param
  have forObject : t.event.ForObject := by
    constructor
    · rw [camera]
      decide
    · exact fun kick => absurd (camera.symm.trans kick.1) (by decide)
  have apart : t ≠ t' := by
    rintro rfl
    exact absurd (camera.symm.trans executor) (by decide)
  have some' : (Machine.final (step c) s (requests body)).world.world = false := by
    rw [← Bool.not_eq_true]
    intro ready
    exact (unused ready t here).2 ⟨forObject, rfl, rfl, rfl⟩
  have accepted : ¬ Refused t := by
    obtain ⟨t₂, here₂, accepted₂⟩ := used rfl some'
    have slot : t₂.event.objName = t.event.objName ∧ t₂.event.param = t.event.param := by
      obtain ⟨before, same₂⟩ := turn_spec here₂
      by_contra apart₂
      refine accepted₂ ?_
      rw [same₂, refused_transition]
      exact ((once_turn t.event.objName other _ _).2
        fun asks => apart₂ ⟨asks.2.1, asks.2.2.1⟩).1
    exact mt ((exact _ c s).twins here₂ here slot.1 slot.2).mpr accepted₂
  have symmetric : Std.Symm fun u u' : Turn Bool => Refused u ∨ Refused u' :=
    ⟨fun _ _ => Or.symm⟩
  rcases once.forall here there apart with refused | refused
  · exact accepted refused
  · exact accepted (same.mpr refused)

/-- An object with `enabled` takes both values, and keeps the last. -/
theorem twin_value (wellFormed : WellFormed body) {q r : Request} (asked : q ∈ requests body)
    (asked' : r ∈ requests body) (object : q.objName = r.objName) (param : q.param = enabled)
    (param' : r.param = enabled) (sec : q.sec ≠ .global) (sec' : r.sec ≠ .global) :
    q.value = r.value := by
  let c := enabledConsole q.objName
  let s : Project Unit := projectWith (fun _ => .null) (fun _ _ => q.value) ()
  obtain ⟨t, here, rfl⟩ := turn_of_asked (c := c) (s := s) asked
  obtain ⟨t', there, rfl⟩ := turn_of_asked (c := c) (s := s) asked'
  have clear := (exact _ c s).clearFor wellFormed
  have forObject : t.event.ForObject := ⟨sec, Request.not_kick_of_enabled param⟩
  have accepted : ¬ Refused t := by
    rw [enabled_refused here forObject param, not_not]
    exact ⟨enabledDevice_has _, rfl⟩
  have accepted' := mt (clear.agree t here t' there object (param.trans param'.symm)).mpr accepted
  exact clear.twins t here t' there _ _ ⟨forObject, rfl, rfl, accepted⟩
    ⟨⟨sec', Request.not_kick_of_enabled param'⟩, object.symm, param'.trans param.symm, accepted'⟩

/-- A project that is switched switches the object. -/
theorem switch_of_exact (wellFormed : WellFormed body) {q r : Request}
    (asked : q ∈ requests body) (sec : q.sec = .global) (param : q.param = enabled) {b : Bool}
    (value : q.value = .bool b) (asked' : r ∈ requests body) (sec' : r.sec ≠ .global)
    (param' : r.param = enabled) : r.value = .bool b := by
  let c := enabledConsole r.objName
  let s : Project Unit := projectWith (fun _ => .bool !b) (fun _ _ => .bool !b) ()
  obtain ⟨t, here, rfl⟩ := turn_of_asked (c := c) (s := s) asked
  obtain ⟨t', there, rfl⟩ := turn_of_asked (c := c) (s := s) asked'
  have before := own_before wellFormed here sec
  rw [param] at before
  have switches : Switches c t.before t.event b :=
    ⟨sec, param, value, ⟨_, List.mem_singleton_self _, rfl⟩, before, rfl⟩
  have switchable : Switchable c.toDevices s.world t'.event.objName t'.event.param :=
    ⟨param', enabledDevice_has _, rfl⟩
  have value' := ((exact _ c s).clearFor wellFormed).switch t here b switches t' there
    ⟨sec', Request.not_kick_of_enabled param'⟩ switchable
  unfold told at value'
  split at value'
  next =>
      rw [valueOf, if_neg sec'] at value'
      cases b <;> cases value'
  next => exact value'

end Apart

/-- **Which bodies are answered exactly**, by every console in every state. -/
theorem exact_iff_clear (wellFormed : WellFormed body) :
    (∀ (W : Type) (c : Console W) (s : Project W), Exact c s body) ↔ Clear body := by
  constructor
  · intro exact
    refine ⟨fun q asked q' asked' object earlier => ?_,
      fun q asked kick => delays_of_exact exact asked kick,
      fun q asked sec param b value r asked' sec' param' =>
        switch_of_exact exact wellFormed asked sec param value asked' sec' param',
      fun asks q asked sec param => saves_of_exact wellFormed exact asks asked sec param⟩
    obtain ⟨r, there, object₂, param₂, later⟩ :=
      later_twin exact wellFormed asked asked' object earlier
    have notGlobal := twin_not_global exact asked there object₂.symm param₂.symm later
    have camera : q.sec = .camera_param ∧ r.sec = .executor_param := by
      revert later notGlobal
      cases q.sec <;> cases r.sec <;> simp [Section.place]
    have enables := twin_enabled exact asked there object₂.symm param₂.symm camera.1 camera.2
    have value := twin_value exact wellFormed asked there object₂.symm enables (param₂.trans enables)
      (by rw [camera.1]; decide) (by rw [camera.2]; decide)
    have twin : { q with sec := .executor_param } = r := by
      obtain ⟨sec, objName, param, v⟩ := r
      obtain ⟨_, rfl⟩ := camera
      cases object₂
      cases param₂
      cases value
      rfl
    refine ⟨?_, enables, by rwa [twin]⟩
    -- `r` stands in front of the parameters of the project, and would have a twin there as well.
    have notGlobal' : q'.sec ≠ .global := by
      intro sec
      obtain ⟨r', there', object', param', later'⟩ :=
        later_twin exact wellFormed there asked' (object₂.trans object) (by
          rw [camera.2, sec]
          decide)
      refine twin_not_global exact there there' object'.symm param'.symm later' ?_
      revert later'
      rw [camera.2]
      cases r'.sec <;> simp [Section.place]
    revert earlier notGlobal'
    rw [camera.1]
    cases q'.sec <;> simp [Section.place]
  · exact fun clear W c s => exact_of_clear c s wellFormed clear

end Necessary

/-! ## A camera and a board -/

/-- A project with the camera `"cam"`. -/
def cameraDevices : Devices Unit where
  m_objects := AList.insert (utf8 "cam") (softCamera
    { onStarted := fun s => s.world, onStopped := fun s => s.world
      setCameraNameAsync := fun w _ _ => w, setImageSrcPathAsync := fun w _ _ _ => w
      setIntervalAsync := fun w _ _ => w }) ∅
  plain name cls found a own := by
    rcases Hash.of_lookup_insert found with ⟨-, rfl⟩ | ⟨-, none'⟩
    · revert a
      simp [softCamera, EngineClass.ofPlain, softCameraAttributes, engineAttributes,
        Attribute.isPlain, enabledSetter]
    · rw [AList.lookup_empty] at none'
      cases none'
  switched name cls found a own key := by
    rcases Hash.of_lookup_insert found with ⟨-, rfl⟩ | ⟨-, none'⟩
    · have first := EngineClass.find_eq own
      rw [key] at first
      exact ⟨_, by rw [← Option.some.inj first]⟩
    · rw [AList.lookup_empty] at none'
      cases none'
  inferring _ := true
  switchVirtual _ w := w

/-- It saves to nowhere. -/
def cameraCalls : ProjectCalls (Outside Unit) where
  onStarted := cameraDevices.switchAll true
  onStopped := cameraDevices.switchAll false
  qt := .reference
  readAll _ _ := none
  loadDefNodes s _ := (true, s.world)
  loadObjects w _ := w
  init s := (true, s.world)
  m_objects _ := [(utf8 "cam", .null)]
  saveConfigFile w _ _ := w
  objectResult _ := false
  originalReportRateSet w _ := w
  binningReportRateSet w _ := w

def cameraConsole : Console Unit :=
  projectConsole cameraDevices cameraCalls true
    { onStarted := rfl, onStopped := rfl
      saveConfigFile := fun _ _ _ => ⟨rfl, rfl⟩
      originalReportRateSet := fun _ _ => ⟨rfl, rfl⟩
      binningReportRateSet := fun _ _ => ⟨rfl, rfl⟩
      m_objects := fun _ _ => Iff.rfl }

/-- As it is constructed. -/
def cameraProject : Project Unit :=
  projectWith ((project cameraCalls).constructed { objects := fun _ _ => .null, kickDelays := []
                                                   world := () }).m_value
    (fun _ key => if key = utf8 "enabled" ∨ key = utf8 "loop" then .bool false else int 0) ()

/-- A body with a delay for the board. -/
def delayBody (delay : Int) : JsonObject :=
  [(utf8 "camera_param", .object [(utf8 "cam", .object [(enabled, .bool true)])]),
   (utf8 "executor_param", .object [(utf8 "pcp", .object [(kick_delay, int delay)])])]

theorem delayBody_requests (delay : Int) : requests (delayBody delay) =
    [{ sec := .camera_param, objName := utf8 "cam", param := enabled, value := .bool true },
     { sec := .executor_param, objName := utf8 "pcp", param := kick_delay, value := int delay }] :=
  rfl

theorem delayBody_wellFormed (delay : Int) : WellFormed (delayBody delay) := by
  intro sec
  cases sec with
  | camera_param =>
      have objects : objectsOf (delayBody delay) .camera_param =
          [(utf8 "cam", .object [(enabled, .bool true)])] := rfl
      simp [objects, Json.toObject]
  | executor_param =>
      have objects : objectsOf (delayBody delay) .executor_param =
          [(utf8 "pcp", .object [(kick_delay, int delay)])] := rfl
      simp [objects, Json.toObject]
  | global =>
      have objects : objectsOf (delayBody delay) .global = [(global, .null)] := rfl
      simp [objects, Json.toObject]

theorem delayBody_clear (delay : UInt16) : Clear (delayBody delay.toNat) := by
  have notCamera : utf8 "cam" ≠ utf8 "pcp" := utf8_injective.ne (by decide)
  constructor
  · intro q asked q' asked' object earlier
    rw [delayBody_requests] at asked asked'
    rcases List.mem_pair.mp asked with rfl | rfl <;> rcases List.mem_pair.mp asked' with rfl | rfl
    · exact absurd earlier (Nat.lt_irrefl _)
    · exact absurd object notCamera
    · exact absurd object notCamera.symm
    · exact absurd earlier (Nat.lt_irrefl _)
  · intro q asked kick
    rw [delayBody_requests] at asked
    rcases List.mem_pair.mp asked with rfl | rfl
    · exact absurd kick.1 (by decide)
    · exact ⟨delay, rfl⟩
  · intro q asked sec
    rw [delayBody_requests] at asked
    rcases List.mem_pair.mp asked with rfl | rfl <;> cases sec
  · intro _ q asked sec
    rw [delayBody_requests] at asked
    rcases List.mem_pair.mp asked with rfl | rfl <;> cases sec

/-- A body that sets attributes of the camera under both sections. -/
def bothBody : JsonObject :=
  [(utf8 "camera_param", .object [(utf8 "cam", .object [(enabled, .bool true)])]),
   (utf8 "executor_param", .object [(utf8 "cam", .object [(utf8 "loop", .bool true)])])]

theorem bothBody_requests : requests bothBody =
    [{ sec := .camera_param, objName := utf8 "cam", param := enabled, value := .bool true },
     { sec := .executor_param, objName := utf8 "cam", param := utf8 "loop", value := .bool true }] :=
  rfl

theorem bothBody_wellFormed : WellFormed bothBody := by
  intro sec
  cases sec with
  | camera_param =>
      have objects : objectsOf bothBody .camera_param =
          [(utf8 "cam", .object [(enabled, .bool true)])] := rfl
      simp [objects, Json.toObject]
  | executor_param =>
      have objects : objectsOf bothBody .executor_param =
          [(utf8 "cam", .object [(utf8 "loop", .bool true)])] := rfl
      simp [objects, Json.toObject]
  | global =>
      have objects : objectsOf bothBody .global = [(global, .null)] := rfl
      simp [objects, Json.toObject]

/-- The camera takes both. -/
theorem bothBody_accepted {t : Turn Unit} (here : t ∈ turns cameraConsole cameraProject bothBody) :
    ¬ Refused t := by
  have answers : (turns cameraConsole cameraProject bothBody).map Machine.Transition.outputs =
      [[true], [true]] := rfl
  have among := List.mem_map_of_mem (f := Machine.Transition.outputs) here
  rw [answers] at among
  intro refused
  rw [Refused] at refused
  rw [refused] at among
  simp at among

theorem bothBody_clearFor : ClearFor cameraConsole cameraProject bothBody := by
  have notLoop : enabled ≠ utf8 "loop" := utf8_injective.ne (by decide)
  have notKick : utf8 "loop" ≠ kick_delay := utf8_injective.ne (by decide)
  have asked : ∀ {t : Turn Unit}, t ∈ turns cameraConsole cameraProject bothBody → _ :=
    fun here => List.mem_pair.mp (bothBody_requests ▸ asked_of_turn here)
  constructor
  case agree =>
    intro t here t' there _ _
    exact iff_of_false (bothBody_accepted here) (bothBody_accepted there)
  case twins =>
    rintro t here t' there name key ⟨-, -, rfl, -⟩ ⟨-, -, param, -⟩
    rcases asked here with is | is <;> rcases asked there with is' | is' <;> rw [is, is'] at param ⊢
  case hidden =>
    intro t here _ _ _ _ refused
    exact absurd refused (bothBody_accepted here)
  case delays =>
    intro _ q there kick
    rw [bothBody_requests] at there
    rcases List.mem_pair.mp there with rfl | rfl
    · exact absurd kick.1 (by decide)
    · exact absurd kick.2 notKick
  case switch =>
    intro t here b switches
    have sec := switches.sec
    rcases asked here with is | is <;> rw [is] at sec <;> cases sec
  case saves =>
    intro asks
    cases asks

/-- The body is not clear for every console, and this one answers it exactly. -/
theorem both_answered : Exact cameraConsole cameraProject bothBody ∧ ¬ Clear bothBody := by
  refine ⟨(exact_iff_clearFor _ _ bothBody_wellFormed).mpr bothBody_clearFor, fun clear => ?_⟩
  have apart := clear.apart
  rw [bothBody_requests] at apart
  obtain ⟨-, -, twin⟩ := apart _ (List.mem_pair.mpr (.inl rfl)) _ (List.mem_pair.mpr (.inr rfl)) rfl
    (by decide)
  rcases List.mem_pair.mp twin with same | same
  · cases congrArg Request.sec same
  · exact utf8_injective.ne (by decide) (congrArg Request.param same)

theorem delay_answered : Exact cameraConsole cameraProject (delayBody 40) :=
  (exact_iff_clear (delayBody_wellFormed 40)).mpr (delayBody_clear 40) Unit cameraConsole
    cameraProject

/-- A delay of 65537 is sent as 1, and the reply says that it was set. -/
theorem delay_wrapped : ¬ Exact cameraConsole cameraProject (delayBody 65537) ∧
    (setParam cameraConsole cameraProject (delayBody 65537)).project.world.kickDelays = [1] ∧
    (setParam cameraConsole cameraProject (delayBody 65537)).ctrlResult.get (utf8 "code") =
      int CTRL_SUCCESS := by
  refine ⟨fun exact => ?_, rfl, rfl⟩
  have asked : { sec := .executor_param, objName := utf8 "pcp", param := kick_delay
                 value := int 65537 } ∈ requests (delayBody 65537) := by
    simp [delayBody_requests]
  obtain ⟨delay, same⟩ := exact.delays rfl asked ⟨rfl, rfl⟩
  have mantissa : (65537 : Int) = delay.toNat :=
    congrArg Decimal.mantissa (Json.number.inj same)
  have bound := delay.toNat_lt
  omega

end IsgConsole.IopAgent.ConfigSet
