/-
# IopAgent.ConfigSetExact — when the reply to a body says what became of it

The reply names the parameters that were refused.  It can say something else in four ways: the list
of an object in one section replaces the one of an earlier section; a delay is sent as a 16-bit
number; `enabled` of the project is set in its objects after theirs; and `save` is set last.

* `exact_iff_clearFor` — **which bodies a console answers exactly**, in the state it is in;
* `exact_of_clear` — the bodies that every console answers exactly in every state.
-/
import IsgConsole.IopAgent.ConfigSetEffects
import Mathlib.Data.List.Nodup

namespace IsgConsole.IopAgent.ConfigSet

open IsgConsole.Theory IsgConsole.BaseLib IsgConsole.Theory.Json

set_option autoImplicit false

variable {W : Type}

/-! ## What the reply is to say -/

/-- The parameter has the value that was asked for; of a delay, that the board was sent it. -/
def Applied (s s' : Project W) (q : Request) : Prop :=
  if q.IsKick then
    ∃ delays, s'.world.kickDelays = s.world.kickDelays ++ delays ∧
      ∃ delay ∈ delays, q.value = int delay.toNat
  else if q.sec = .global then s'.m_value q.param = q.value
  else s'.world.objects q.objName q.param = q.value

/-- The parameter has its old value. -/
def Kept (s s' : Project W) (q : Request) : Prop :=
  if q.IsKick then s'.world.kickDelays = s.world.kickDelays
  else if q.sec = .global then s'.m_value q.param = s.m_value q.param
  else s'.world.objects q.objName q.param = s.world.objects q.objName q.param

/-- **The reply is exact.** -/
structure Exact (c : Console W) (s : Project W) (body : JsonObject) : Prop where
  code : (setParam c s body).ctrlResult.get (utf8 "code") = int CTRL_SUCCESS ↔
    ∀ t ∈ turns c s body, ¬ Refused t
  listed : ∀ t ∈ turns c s body,
    Listed (setParam c s body).ctrlResult t.event.objName t.event.param ↔ Refused t
  nothingElse : ∀ objName param, Listed (setParam c s body).ctrlResult objName param →
    ∃ t ∈ turns c s body, t.event.objName = objName ∧ t.event.param = param
  applied : ∀ t ∈ turns c s body,
    ¬ Listed (setParam c s body).ctrlResult t.event.objName t.event.param →
      Applied s (setParam c s body).project t.event
  kept : ∀ t ∈ turns c s body,
    Listed (setParam c s body).ctrlResult t.event.objName t.event.param →
      Kept s (setParam c s body).project t.event

/-- The value of a parameter, unless it is a delay. -/
def valueOf (s : Project W) (q : Request) : Json :=
  if q.sec = .global then s.m_value q.param else s.world.objects q.objName q.param

/-- The value the reply is to tell: the one asked for, or the old one where it was refused. -/
def told (s : Project W) (t : Turn W) : Json :=
  if Refused t then valueOf s t.event else t.event.value

/-- **The bodies that a console answers exactly**, in a state.  A parameter is refused when the
object, the board or the attribute is not there, or does not take the value when its turn comes. -/
structure ClearFor (c : Console W) (s : Project W) (body : JsonObject) : Prop where
  /-- One parameter of one name under two sections is set or refused by both. -/
  agree : ∀ t ∈ turns c s body, ∀ t' ∈ turns c s body, t.event.objName = t'.event.objName →
    t.event.param = t'.event.param → (Refused t ↔ Refused t')
  /-- It is set to one value. -/
  twins : ∀ t ∈ turns c s body, ∀ t' ∈ turns c s body, ∀ name key, SetsObject name key t →
    SetsObject name key t' → t.event.value = t'.event.value
  /-- Where a later section refuses something of the object, it asks for what was refused before,
  or one behind it does. -/
  hidden : ∀ t ∈ turns c s body, ∀ t' ∈ turns c s body, t.event.objName = t'.event.objName →
    t.event.sec.place < t'.event.sec.place → Refused t → Refused t' →
    ∃ q ∈ requests body, q.objName = t.event.objName ∧ q.param = t.event.param ∧
      t'.event.sec.place ≤ q.sec.place
  delays : c.pcp = true → ∀ q ∈ requests body, q.IsKick → ∃ delay : UInt16, q.value = int delay.toNat
  /-- Where the project switches its objects, those that the body enables have its value. -/
  switch : ∀ t ∈ turns c s body, ∀ b, Switches c t.before t.event b → ∀ t' ∈ turns c s body,
    t'.event.ForObject → Switchable c.toDevices s.world t'.event.objName t'.event.param →
    told s t' = .bool b
  /-- Where the project saves in the end, `save` has that value. -/
  saves : (body.get save).toBool = true → saves c.attrList s = true → ∀ t ∈ turns c s body,
    t.event.sec = .global → t.event.param = save → told s t = .bool true

/-- The bodies that are clear for every console in every state. -/
structure Clear (body : JsonObject) : Prop where
  /-- An object has parameters in one section only; a camera may be enabled in both of the first
  two, to the same value. -/
  apart : ∀ q ∈ requests body, ∀ q' ∈ requests body, q.objName = q'.objName →
    q.sec.place < q'.sec.place → q'.sec = .executor_param ∧ q.param = enabled ∧
      { q with sec := .executor_param } ∈ requests body
  delays : ∀ q ∈ requests body, q.IsKick → ∃ delay : UInt16, q.value = int delay.toNat
  switch : ∀ q ∈ requests body, q.sec = .global → q.param = enabled → ∀ b, q.value = .bool b →
    ∀ r ∈ requests body, r.sec ≠ .global → r.param = enabled → r.value = .bool b
  saves : (body.get save).toBool = true →
    ∀ q ∈ requests body, q.sec = .global → q.param = save → q.value = .bool true

/-! ## Turns and requests -/

/-- Where a parameter stands in a body. -/
def Request.spot (q : Request) : Section × Bytes × Bytes := (q.sec, q.objName, q.param)

theorem mem_requestsIn {sec : Section} {objects : JsonObject} {q : Request} :
    q ∈ requestsIn sec objects ↔ q.sec = sec ∧
      ∃ m ∈ objects, m.1 = q.objName ∧ (q.param, q.value) ∈ m.2.toObject := by
  unfold requestsIn requestsFor
  rw [List.mem_flatMap]
  constructor
  · rintro ⟨m, here, asked⟩
    obtain ⟨p, there, rfl⟩ := List.mem_map.mp asked
    exact ⟨rfl, m, here, rfl, there⟩
  · rintro ⟨rfl, m, here, named, there⟩
    exact ⟨m, here, List.mem_map.mpr ⟨_, there, by rw [named]⟩⟩

theorem mem_requests {body : JsonObject} {q : Request} :
    q ∈ requests body ↔ q ∈ requestsIn q.sec (objectsOf body q.sec) := by
  have own : ∀ {sec}, q ∈ requestsIn sec (objectsOf body sec) → q.sec = sec :=
    fun here => (mem_requestsIn.mp here).1
  rw [requests, List.mem_append, List.mem_append]
  constructor
  · rintro ((camera | executor) | global)
    · rw [own camera]
      exact camera
    · rw [own executor]
      exact executor
    · rw [own global]
      exact global
  · intro here
    cases sec : q.sec with
    | camera_param =>
        rw [sec] at here
        exact .inl (.inl here)
    | executor_param =>
        rw [sec] at here
        exact .inl (.inr here)
    | global =>
        rw [sec] at here
        exact .inr here

theorem spots_in {sec : Section} {objects : JsonObject} (names : (objects.map Prod.fst).Nodup)
    (params : ∀ m ∈ objects, (m.2.toObject.map Prod.fst).Nodup) :
    ((requestsIn sec objects).map Request.spot).Nodup := by
  induction objects with
  | nil => exact List.nodup_nil
  | cons m objects ih =>
      obtain ⟨objName, value⟩ := m
      rw [List.map_cons, List.nodup_cons] at names
      obtain ⟨fresh, names⟩ := names
      rw [requestsIn_cons, List.map_append, List.nodup_append]
      refine ⟨?_, ih names fun m later => params m (List.mem_cons_of_mem _ later), ?_⟩
      · have own := (params (objName, value) List.mem_cons_self).map
          (f := fun param => (sec, objName, param)) fun a b same => (Prod.mk.inj
            (Prod.mk.inj same).2).2
        rw [List.map_map] at own
        rw [requestsFor, List.map_map]
        exact own
      · rintro spot here spot' there rfl
        obtain ⟨q, asked, rfl⟩ := List.mem_map.mp here
        obtain ⟨q', asked', same⟩ := List.mem_map.mp there
        obtain ⟨p, -, rfl⟩ := List.mem_map.mp asked
        obtain ⟨-, m, later, named, -⟩ := mem_requestsIn.mp asked'
        have named' : q'.objName = objName := (Prod.mk.inj (Prod.mk.inj same).2).1
        exact fresh (List.mem_map.mpr ⟨m, later, named.trans named'⟩)

/-- No spot of a body has two parameters. -/
theorem spots {body : JsonObject} (wellFormed : WellFormed body) :
    ((requests body).map Request.spot).Nodup := by
  have one : ∀ sec, ((requestsIn sec (objectsOf body sec)).map Request.spot).Nodup :=
    fun sec => spots_in (wellFormed sec).1 (wellFormed sec).2
  have sections : ∀ {sec sec'}, sec ≠ sec' →
      ∀ a ∈ (requestsIn sec (objectsOf body sec)).map Request.spot,
        ∀ b ∈ (requestsIn sec' (objectsOf body sec')).map Request.spot, a ≠ b := by
    rintro sec sec' ne a here b there rfl
    obtain ⟨q, asked, rfl⟩ := List.mem_map.mp here
    obtain ⟨q', asked', same⟩ := List.mem_map.mp there
    exact ne ((mem_requestsIn.mp asked).1.symm.trans
      ((Prod.mk.inj same).1.symm.trans (mem_requestsIn.mp asked').1))
  rw [requests, List.map_append, List.map_append, List.nodup_append, List.nodup_append]
  refine ⟨⟨one _, one _, sections (by decide)⟩, one _, fun a here b there => ?_⟩
  rcases List.mem_append.mp here with camera | executor
  · exact sections (by decide) a camera b there
  · exact sections (by decide) a executor b there

section Turns

variable {c : Console W} {s : Project W} {body : JsonObject} {t t' : Turn W}

theorem asked_of_turn (here : t ∈ turns c s body) : t.event ∈ requests body := by
  rw [← Machine.events_trace (step c) s (requests body)]
  exact List.mem_map_of_mem here

theorem turn_of_asked {q : Request} (asked : q ∈ requests body) :
    ∃ t ∈ turns c s body, t.event = q := by
  rw [← Machine.events_trace (step c) s (requests body)] at asked
  exact List.mem_map.mp asked

/-- A spot has one turn. -/
theorem turn_unique (wellFormed : WellFormed body) (here : t ∈ turns c s body)
    (there : t' ∈ turns c s body) (same : t.event.spot = t'.event.spot) : t = t' := by
  have distinct : ((turns c s body).map fun t => t.event.spot).Nodup := by
    have all := spots wellFormed
    rw [← Machine.events_trace (step c) s (requests body), List.map_map] at all
    exact all
  exact List.inj_on_of_nodup_map distinct here there same

theorem asked_unique (wellFormed : WellFormed body) {q q' : Request} (asked : q ∈ requests body)
    (asked' : q' ∈ requests body) (same : q.spot = q'.spot) : q = q' :=
  List.inj_on_of_nodup_map (spots wellFormed) asked asked' same

theorem mem_turnsIn {sec : Section} :
    t ∈ turnsIn c s body sec ↔ t ∈ turns c s body ∧ t.event.sec = sec := by
  have sections : ∀ sec, ∀ t ∈ turnsIn c s body sec, t.event.sec = sec := by
    intro sec t here
    have asked : t.event ∈ requestsIn sec (objectsOf body sec) := by
      cases sec
      all_goals
        obtain ⟨first, rest, split, -⟩ := Machine.exists_of_mem_trace _ here
        rw [split]
        simp
    exact (mem_requestsIn.mp asked).1
  rw [turns_eq, List.mem_append, List.mem_append]
  constructor
  · intro here
    refine ⟨?_, sections sec t here⟩
    cases sec
    · exact .inl (.inl here)
    · exact .inl (.inr here)
    · exact .inr here
  · rintro ⟨(camera | executor) | global, rfl⟩
    · rw [sections _ t camera]
      exact camera
    · rw [sections _ t executor]
      exact executor
    · rw [sections _ t global]
      exact global

/-- The turn of a parameter behind those in front of it. -/
theorem turn_spec (here : t ∈ turns c s body) :
    ∃ before, t = Machine.transition (step c) (Machine.final (step c) s before) t.event := by
  obtain ⟨before, -, -, same⟩ := Machine.exists_of_mem_trace _ here
  exact ⟨before, same⟩

/-- `enabled` of an object is set wherever the object is there and the type is right. -/
theorem enabled_refused (here : t ∈ turns c s body) (forObject : t.event.ForObject)
    (param : t.event.param = enabled) :
    Refused t ↔ ¬ (c.Has t.event.objName enabled ∧
      jsonType t.event.value = jsonType (s.world.objects t.event.objName enabled)) := by
  obtain ⟨before, same⟩ := turn_spec here
  have answer := setObjectAttr_enabled c.toDevices
    (Machine.final (step c) s before).world t.event.objName t.event.value
  rw [(types_run c s before).1] at answer
  rw [← answer, Bool.not_eq_true]
  conv_lhs => rw [same]
  rw [refused_transition, turn_object _ forObject, param]

end Turns

/-! ## The lists -/

section Lists

variable {c : Console W} {s : Project W} {body : JsonObject} {t : Turn W}

theorem place_injective : Function.Injective Section.place := by
  intro a b same
  cases a <;> cases b <;> first | rfl | cases same

/-- The list of an object is that of the last section that refuses something there. -/
theorem lastRefused_cases (c : Console W) (s : Project W) (body : JsonObject) (objName : Bytes) :
    (lastRefused c s body objName = [] ∧
      ∀ sec, refusedFor objName (turnsIn c s body sec) = []) ∨
    ∃ sec, lastRefused c s body objName = refusedFor objName (turnsIn c s body sec) ∧
      refusedFor objName (turnsIn c s body sec) ≠ [] ∧
      ∀ sec' : Section, refusedFor objName (turnsIn c s body sec') ≠ [] →
        sec'.place ≤ sec.place := by
  unfold lastRefused
  split
  next some₃ => exact .inr ⟨.global, rfl, some₃, fun sec' _ => by cases sec' <;> decide⟩
  next none₃ =>
      rw [not_not] at none₃
      split
      next some₂ =>
          refine .inr ⟨.executor_param, rfl, some₂, fun sec' some' => ?_⟩
          cases sec' with
          | camera_param | executor_param => decide
          | global => exact absurd none₃ some'
      next none₂ =>
          rw [not_not] at none₂
          by_cases none₁ : refusedFor objName (turnsIn c s body .camera_param) = []
          · refine .inl ⟨none₁, fun sec => ?_⟩
            cases sec with
            | camera_param => exact none₁
            | executor_param => exact none₂
            | global => exact none₃
          · refine .inr ⟨.camera_param, rfl, none₁, fun sec' some' => ?_⟩
            cases sec' with
            | camera_param => decide
            | executor_param => exact absurd none₂ some'
            | global => exact absurd none₃ some'

theorem mem_refusedIn (here : t ∈ turns c s body) (refused : Refused t) :
    t.event.param ∈ refusedFor t.event.objName (turnsIn c s body t.event.sec) :=
  mem_refusedFor.mpr ⟨t, mem_turnsIn.mpr ⟨here, rfl⟩, refused, rfl, rfl⟩

theorem of_mem_refusedIn {objName param : Bytes} {sec : Section}
    (listed : param ∈ refusedFor objName (turnsIn c s body sec)) :
    ∃ t ∈ turns c s body, Refused t ∧ t.event.sec = sec ∧ t.event.objName = objName ∧
      t.event.param = param := by
  obtain ⟨t, there, refused, object, same⟩ := mem_refusedFor.mp listed
  obtain ⟨here, own⟩ := mem_turnsIn.mp there
  exact ⟨t, here, refused, own, object, same⟩

theorem refused_of_lastRefused {objName param : Bytes}
    (listed : param ∈ lastRefused c s body objName) :
    ∃ t ∈ turns c s body, Refused t ∧ t.event.objName = objName ∧ t.event.param = param := by
  rcases lastRefused_cases c s body objName with ⟨none', -⟩ | ⟨sec, last, -, -⟩
  · rw [none'] at listed
    cases listed
  · rw [last] at listed
    obtain ⟨t, here, refused, -, object, param⟩ := of_mem_refusedIn listed
    exact ⟨t, here, refused, object, param⟩

/-- **When the reply lists just what was refused.** -/
theorem listed_of_clearFor (wellFormed : WellFormed body) (clear : ClearFor c s body)
    (here : t ∈ turns c s body) :
    Listed (setParam c s body).ctrlResult t.event.objName t.event.param ↔ Refused t := by
  rw [listed_iff c s body wellFormed]
  constructor
  · intro listed
    obtain ⟨t', there, refused, object, param⟩ := refused_of_lastRefused listed
    exact (clear.agree t here t' there object.symm param.symm).mpr refused
  · intro refused
    have own := mem_refusedIn here refused
    rcases lastRefused_cases c s body t.event.objName with
      ⟨-, none'⟩ | ⟨sec, last, some', latest⟩
    · rw [none'] at own
      cases own
    · rw [last]
      have before := latest _ (List.ne_nil_of_mem own)
      rcases Nat.lt_or_eq_of_le before with earlier | same
      · -- The last section refuses something, so it asks for this one, too.
        obtain ⟨_, there⟩ := List.exists_mem_of_ne_nil _ some'
        obtain ⟨t', there', refused', rfl, object, -⟩ := of_mem_refusedIn there
        obtain ⟨q, asked, object', param, behind⟩ :=
          clear.hidden t here t' there' object.symm earlier refused refused'
        obtain ⟨t₂, here₂, rfl⟩ := turn_of_asked (c := c) (s := s) asked
        have refused₂ := (clear.agree t₂ here₂ t here object' param).mpr refused
        have listed := mem_refusedIn here₂ refused₂
        rw [object', param] at listed
        have place : t₂.event.sec = t'.event.sec :=
          place_injective (Nat.le_antisymm (latest _ (List.ne_nil_of_mem listed)) behind)
        rwa [place] at listed
      · rwa [place_injective same] at own

/-- What the lists of an exact reply say of the turns. -/
theorem hidden_of_listed (wellFormed : WellFormed body)
    (listed : ∀ t ∈ turns c s body,
      Listed (setParam c s body).ctrlResult t.event.objName t.event.param ↔ Refused t)
    {t t' : Turn W} (here : t ∈ turns c s body) (there : t' ∈ turns c s body)
    (object : t.event.objName = t'.event.objName) (refused : Refused t) (refused' : Refused t') :
    ∃ q ∈ requests body, q.objName = t.event.objName ∧ q.param = t.event.param ∧
      t'.event.sec.place ≤ q.sec.place := by
  have found := (listed_iff c s body wellFormed _ _).mp ((listed t here).mpr refused)
  have some' := List.ne_nil_of_mem (mem_refusedIn there refused')
  rw [← object] at some'
  rcases lastRefused_cases c s body t.event.objName with ⟨-, none'⟩ | ⟨sec, last, -, latest⟩
  · exact absurd (none' _) some'
  · rw [last] at found
    obtain ⟨t₂, here₂, -, rfl, object₂, param₂⟩ := of_mem_refusedIn found
    exact ⟨t₂.event, asked_of_turn here₂, object₂, param₂, latest _ some'⟩

end Lists

/-! ## The values -/

section Values

variable {c : Console W} {s : Project W} {body : JsonObject} {t t' : Turn W}

/-- Saving leaves the objects and the board alone. -/
theorem project_of_setParam (c : Console W) (s : Project W) (body : JsonObject) :
    (∀ name key, (setParam c s body).project.world.objects name key =
      (afterAll c s body).world.objects name key) ∧
    (setParam c s body).project.world.kickDelays = (afterAll c s body).world.kickDelays ∧
    (∀ key ≠ save, (setParam c s body).project.m_value key = (afterAll c s body).m_value key) ∧
    (setParam c s body).project.m_value save =
      if (body.get save).toBool = true ∧ saves c.attrList s = true then .bool true
      else (afterAll c s body).m_value save := by
  rw [setParam_eq]
  dsimp only
  split
  next asks =>
      have steady : saves c.attrList (afterAll c s body) = saves c.attrList s :=
        saves_run c s (requests body)
      have effect := turn_effect c (afterAll c s body)
        { sec := .global, objName := global, param := save, value := .bool true }
      have notEnabled : save ≠ enabled := utf8_injective.ne (by decide)
      refine ⟨fun name key => ?_, ?_, fun key other => ?_, ?_⟩
      · rcases effect.objects name key with same | ⟨-, switch, -⟩
        · rw [if_neg fun this => this.2.1.1 rfl] at same
          exact same
        · exact absurd switch notEnabled
      · have board := effect.board
        rw [if_neg fun this => absurd this.2.1 (by decide)] at board
        exact board
      · have own := effect.own key
        rw [if_neg fun this => other this.2.2.symm] at own
        exact own
      · rw [← steady]
        have own := effect.own save
        rw [turn_own _ rfl] at own
        simpa [asks, saves] using own
  next silent => exact ⟨fun _ _ => rfl, rfl, fun _ _ => rfl, by simp [silent]⟩

/-- The parameters of a body for its objects. -/
def objectRequests (body : JsonObject) : List Request :=
  requestsIn .camera_param (objectsOf body .camera_param) ++
    requestsIn .executor_param (objectsOf body .executor_param)

/-- The state between the sections of the objects and that of the project. -/
def afterObjects (c : Console W) (s : Project W) (body : JsonObject) : Project W :=
  Machine.final (step c) s (objectRequests body)

theorem turns_split (c : Console W) (s : Project W) (body : JsonObject) : turns c s body =
    Machine.trace (step c) s (objectRequests body) ++
      Machine.trace (step c) (afterObjects c s body) (requestsIn .global (objectsOf body .global)) :=
  Machine.trace_append ..

theorem not_global_of_objects {q : Request} (asked : q ∈ objectRequests body) : q.sec ≠ .global := by
  rcases List.mem_append.mp asked with camera | executor
  · rw [(mem_requestsIn.mp camera).1]
    decide
  · rw [(mem_requestsIn.mp executor).1]
    decide

/-- The turns of the objects come first. -/
theorem mem_objectTurns : t ∈ Machine.trace (step c) s (objectRequests body) ↔
    t ∈ turns c s body ∧ t.event.sec ≠ .global := by
  have event : ∀ {s' qs}, t ∈ Machine.trace (step c) s' qs → t.event ∈ qs := by
    intro s' qs here
    rw [← Machine.events_trace (step c) s' qs]
    exact List.mem_map_of_mem here
  rw [turns_split, List.mem_append]
  constructor
  · intro here
    exact ⟨.inl here, not_global_of_objects (event here)⟩
  · rintro ⟨first | last, notGlobal⟩
    · exact first
    · exact absurd (mem_requestsIn.mp (event last)).1 notGlobal

theorem global_object {q : Request} (asked : q ∈ requests body) (sec : q.sec = .global) :
    q.objName = global := by
  obtain ⟨-, m, there, named, -⟩ := mem_requestsIn.mp (mem_requests.mp asked)
  rw [sec] at there
  rw [← named, List.mem_singleton.mp there]

/-- The project has one parameter of a name. -/
theorem own_unique (wellFormed : WellFormed body) {q q' : Request} (asked : q ∈ requests body)
    (asked' : q' ∈ requests body) (sec : q.sec = .global) (sec' : q'.sec = .global)
    (param : q.param = q'.param) : q = q' :=
  asked_unique wellFormed asked asked' (show (_, _, _) = (_, _, _) by
    rw [sec, sec', param, global_object asked sec, global_object asked' sec'])

/-- In front of a parameter of the project its attribute is as it was. -/
theorem own_before (wellFormed : WellFormed body) (here : t ∈ turns c s body)
    (sec : t.event.sec = .global) : t.before.m_value t.event.param = s.m_value t.event.param := by
  obtain ⟨first, rest, split, same⟩ := Machine.exists_of_mem_trace (step c) here
  have distinct := spots wellFormed
  rw [split, List.map_append, List.map_cons] at distinct
  have fresh : ∀ q ∈ first, q.sec = .global → q.param ≠ t.event.param := by
    intro q asked own param
    have asked' : q ∈ requests body := by rw [split]; exact List.mem_append_left _ asked
    have same := own_unique wellFormed asked' (asked_of_turn here) own sec param
    rw [same] at asked
    exact (List.nodup_append.mp distinct).2.2 _ (List.mem_map_of_mem asked) _ List.mem_cons_self rfl
  rw [same]
  show (Machine.final (step c) s first).m_value t.event.param = _
  rcases own_run c s first (v := .null) fun q asked own param => absurd param (fresh q asked own) with
    ⟨-, t', there, own, param, -⟩ | ⟨kept, -⟩
  · refine absurd param (fresh t'.event ?_ own)
    rw [← Machine.events_trace (step c) s first]
    exact List.mem_map_of_mem there
  · exact kept

/-- **The attributes of the objects**: as their own sections leave them, or switched. -/
theorem objects_after (wellFormed : WellFormed body) :
    ((afterAll c s body).world.objects = (afterObjects c s body).world.objects ∧
        ∀ t ∈ turns c s body, ∀ b, ¬ Switches c t.before t.event b) ∨
      ∃ t ∈ turns c s body, ∃ b, Switches c t.before t.event b ∧ ∀ name key,
        (Switchable c.toDevices s.world name key →
          (afterAll c s body).world.objects name key = .bool b) ∧
        (¬ Switchable c.toDevices s.world name key →
          (afterAll c s body).world.objects name key =
            (afterObjects c s body).world.objects name key) := by
  obtain ⟨v, same⟩ : ∃ v, ∀ q ∈ requestsIn .global (objectsOf body .global),
      q.param = enabled → q.value = v := by
    have asked : ∀ q ∈ requestsIn .global (objectsOf body .global),
        q ∈ requests body ∧ q.sec = .global := by
      intro q here
      have sec := (mem_requestsIn.mp here).1
      exact ⟨mem_requests.mpr (by rwa [sec]), sec⟩
    by_cases there : ∃ q ∈ requestsIn .global (objectsOf body .global), q.param = enabled
    · obtain ⟨q, here, param⟩ := there
      refine ⟨q.value, fun q' here' param' => ?_⟩
      rw [own_unique wellFormed (asked q' here').1 (asked q here).1 (asked q' here').2
        (asked q here).2 (param'.trans param.symm)]
    · exact ⟨.null, fun q here param => absurd ⟨q, here, param⟩ there⟩
  have types := (types_run c s (objectRequests body)).1
  have after : afterAll c s body = Machine.final (step c) (afterObjects c s body)
      (requestsIn .global (objectsOf body .global)) := Machine.final_append ..
  have switchable : ∀ name key, Switchable c.toDevices (afterObjects c s body).world name key ↔
      Switchable c.toDevices s.world name key := by
    intro name key
    rw [Switchable, Switchable, afterObjects, types]
  rw [after, turns_split]
  rcases switch_run c (afterObjects c s body) (requestsIn .global (objectsOf body .global))
    (fun q here => (mem_requestsIn.mp here).1) same with ⟨kept, none'⟩ | ⟨t, here, b, -, is, sets⟩
  · refine .inl ⟨kept, fun t there b switches => ?_⟩
    rcases List.mem_append.mp there with first | last
    · exact (mem_objectTurns.mp first).2 switches.sec
    · exact none' t last b switches
  · refine .inr ⟨t, List.mem_append_right _ here, b, is, fun name key => ?_⟩
    rw [← switchable]
    exact sets name key

/-- What the sections of the objects leave of a parameter. -/
theorem objects_between (clear : ∀ t ∈ turns c s body, ∀ t' ∈ turns c s body,
      t.event.objName = t'.event.objName → t.event.param = t'.event.param →
      (Refused t ↔ Refused t'))
    (twins : ∀ t ∈ turns c s body, ∀ t' ∈ turns c s body, ∀ name key, SetsObject name key t →
      SetsObject name key t' → t.event.value = t'.event.value)
    (here : t ∈ turns c s body) (forObject : t.event.ForObject) :
    (afterObjects c s body).world.objects t.event.objName t.event.param = told s t := by
  have first := mem_objectTurns.mpr ⟨here, forObject.1⟩
  have own : valueOf s t.event = s.world.objects t.event.objName t.event.param :=
    if_neg forObject.1
  have same : ∀ t' ∈ Machine.trace (step c) s (objectRequests body),
      SetsObject t.event.objName t.event.param t' → t'.event.value = t.event.value := by
    intro t' there sets
    have there' := (mem_objectTurns.mp there).1
    have accepted : ¬ Refused t :=
      mt (clear t' there' t here sets.2.1 sets.2.2.1).mpr sets.2.2.2
    exact twins t' there' t here _ _ sets ⟨forObject, rfl, rfl, accepted⟩
  rw [told, own]
  rcases slot_run c s (objectRequests body) (fun q => not_global_of_objects) same with
    ⟨is, t', there, sets⟩ | ⟨kept, none'⟩
  · rw [if_neg (mt (clear t' (mem_objectTurns.mp there).1 t here sets.2.1 sets.2.2.1).mpr
      sets.2.2.2)]
    exact is
  · rw [if_pos (not_not.mp fun accepted => none' t first ⟨forObject, rfl, rfl, accepted⟩)]
    exact kept

/-- An attribute of the project behind its section. -/
theorem own_after (wellFormed : WellFormed body) (here : t ∈ turns c s body)
    (sec : t.event.sec = .global) : (afterAll c s body).m_value t.event.param = told s t := by
  have own : valueOf s t.event = s.m_value t.event.param := if_pos sec
  have common : ∀ q ∈ requests body, q.sec = .global → q.param = t.event.param →
      q.value = t.event.value := by
    intro q asked sec' param
    rw [own_unique wellFormed asked (asked_of_turn here) sec' sec param]
  rw [told, own]
  rcases own_run c s (requests body) common with ⟨is, t', there, sec', param, accepted⟩ | ⟨kept, none'⟩
  · obtain rfl : t' = t := turn_unique wellFormed there here (congrArg Request.spot
      (own_unique wellFormed (asked_of_turn there) (asked_of_turn here) sec' sec param))
    rw [if_neg accepted]
    exact is
  · rw [if_pos (not_not.mp fun accepted => none' t here ⟨sec, rfl, accepted⟩)]
    exact kept

/-- A delay is read as itself. -/
theorem delay_of_int (delay : UInt16) : UInt16.ofInt (int delay.toNat).toInt = delay := by
  have bound := delay.toNat_lt
  rw [toInt_int, if_pos (by omega)]
  apply UInt16.toNat.inj
  rw [UInt16.ofInt, UInt16.toNat_ofNat']
  omega

/-- A refused delay is not sent, and one that is sent arrives as a 16-bit number. -/
theorem board_after (here : t ∈ turns c s body) (kick : t.event.IsKick) :
    (Refused t → (setParam c s body).project.world.kickDelays = s.world.kickDelays) ∧
      (¬ Refused t → (∃ delay : UInt16, t.event.value = int delay.toNat) →
        Applied s (setParam c s body).project t.event) := by
  obtain ⟨-, board, -⟩ := project_of_setParam c s body
  obtain ⟨delays, after, sent, off⟩ := board_run c s (requests body)
  constructor
  · intro refused
    obtain ⟨before, same⟩ := turn_spec here
    have none' : c.pcp = false := by
      rw [same, refused_transition, turn_kick _ kick] at refused
      cases there : c.pcp with
      | true => rw [there] at refused; cases refused
      | false => rfl
    rw [board, afterAll, after, off none', List.append_nil]
  · rintro accepted ⟨delay, value⟩
    rw [Applied, if_pos kick]
    refine ⟨delays, board.trans after, delay, ?_, value⟩
    have here' := sent t here kick accepted
    rwa [value, delay_of_int] at here'

/-- With a board every delay is taken. -/
theorem kick_accepted (board : c.pcp = true) (here : t ∈ turns c s body) (kick : t.event.IsKick) :
    ¬ Refused t := by
  obtain ⟨before, same⟩ := turn_spec here
  rw [same, refused_transition, turn_kick _ kick, board]
  exact Bool.noConfusion

theorem kick_refused (off : c.pcp = false) (here : t ∈ turns c s body) (kick : t.event.IsKick) :
    Refused t := by
  obtain ⟨before, same⟩ := turn_spec here
  rw [same, refused_transition, turn_kick _ kick, off]
  rfl

theorem applied_iff {s' : Project W} {q : Request} (notKick : ¬ q.IsKick) :
    Applied s s' q ↔ valueOf s' q = q.value := by
  rw [Applied, if_neg notKick, valueOf]
  split <;> exact Iff.rfl

theorem kept_iff {s' : Project W} {q : Request} (notKick : ¬ q.IsKick) :
    Kept s s' q ↔ valueOf s' q = valueOf s q := by
  rw [Kept, if_neg notKick, valueOf, valueOf]
  split <;> exact Iff.rfl

end Values

/-! ## Exact replies -/

section ExactReply

variable {c : Console W} {s : Project W} {body : JsonObject} {t t' : Turn W}

/-- What an exact reply tells of a parameter is its value. -/
theorem Exact.told (exact : Exact c s body) (here : t ∈ turns c s body)
    (notKick : ¬ t.event.IsKick) : valueOf (setParam c s body).project t.event = told s t := by
  unfold ConfigSet.told
  split
  next refused => exact (kept_iff notKick).mp (exact.kept t here ((exact.listed t here).mpr refused))
  next accepted =>
      exact (applied_iff notKick).mp (exact.applied t here (mt (exact.listed t here).mp accepted))

/-- With a board, every delay is sent. -/
theorem Exact.delays (exact : Exact c s body) (board : c.pcp = true) {q : Request}
    (asked : q ∈ requests body) (kick : q.IsKick) :
    ∃ delay : UInt16, q.value = int delay.toNat := by
  obtain ⟨t, here, rfl⟩ := turn_of_asked (c := c) (s := s) asked
  have accepted := kick_accepted board here kick
  have applied := exact.applied t here (mt (exact.listed t here).mp accepted)
  rw [Applied, if_pos kick] at applied
  obtain ⟨-, -, delay, -, value⟩ := applied
  exact ⟨delay, value⟩

/-- One name cannot stand for a refused and an accepted parameter. -/
theorem Exact.twins (exact : Exact c s body) (here : t ∈ turns c s body)
    (there : t' ∈ turns c s body) (object : t.event.objName = t'.event.objName)
    (param : t.event.param = t'.event.param) : Refused t ↔ Refused t' := by
  rw [← exact.listed t here, ← exact.listed t' there, object, param]

/-- What an exact reply tells of an attribute of an object. -/
theorem Exact.object (exact : Exact c s body) (here : t ∈ turns c s body)
    (forObject : t.event.ForObject) :
    (afterAll c s body).world.objects t.event.objName t.event.param = ConfigSet.told s t := by
  rw [← exact.told here forObject.2, valueOf, if_neg forObject.1]
  exact ((project_of_setParam c s body).1 _ _).symm

theorem Exact.clearFor (exact : Exact c s body) (wellFormed : WellFormed body) :
    ClearFor c s body where
  agree t here t' there := exact.twins here there
  twins t here t' there name key sets sets' := by
    obtain ⟨forObject, rfl, rfl, accepted⟩ := sets
    obtain ⟨forObject', object, param, accepted'⟩ := sets'
    have first := exact.object here forObject
    have second := exact.object there forObject'
    rw [ConfigSet.told, if_neg accepted] at first
    rw [ConfigSet.told, if_neg accepted', object, param] at second
    exact first.symm.trans second
  hidden t here t' there object _ refused refused' :=
    hidden_of_listed wellFormed exact.listed here there object refused refused'
  delays board q asked kick := exact.delays board asked kick
  switch t here b switches t' there forObject switchable := by
    rw [← exact.object there forObject]
    rcases objects_after (c := c) (s := s) wellFormed with ⟨-, none'⟩ | ⟨t₂, here₂, b₂, is, after⟩
    · exact absurd switches (none' t here b)
    · obtain same := own_unique wellFormed (asked_of_turn here₂) (asked_of_turn here) is.sec
        switches.sec (is.param.trans switches.param.symm)
      have value := is.value
      rw [same, switches.value] at value
      rw [(after _ _).1 switchable, ← Json.bool.inj value]
  saves asks ready t here sec param := by
    have told := exact.told here (Request.not_kick_of_global sec)
    obtain ⟨-, -, -, saved⟩ := project_of_setParam c s body
    rw [valueOf, if_pos sec, param, saved, if_pos ⟨asks, ready⟩] at told
    exact told.symm

/-- The values behind a clear body are those that the reply tells. -/
theorem ClearFor.told (clear : ClearFor c s body) (wellFormed : WellFormed body)
    (here : t ∈ turns c s body) (notKick : ¬ t.event.IsKick) :
    valueOf (setParam c s body).project t.event = ConfigSet.told s t := by
  obtain ⟨objects, -, other, saved⟩ := project_of_setParam c s body
  by_cases sec : t.event.sec = .global
  · rw [valueOf, if_pos sec]
    by_cases saving : t.event.param = save
    · rw [saving, saved]
      split
      next asks => exact (clear.saves asks.1 asks.2 t here sec saving).symm
      next => rw [← saving, own_after wellFormed here sec]
    · rw [other _ saving, own_after wellFormed here sec]
  · have forObject : t.event.ForObject := ⟨sec, notKick⟩
    rw [valueOf, if_neg sec, objects, ← objects_between clear.agree clear.twins here forObject]
    rcases objects_after (c := c) (s := s) wellFormed with ⟨kept, -⟩ | ⟨t', there, b, is, after⟩
    · rw [kept]
    · by_cases switchable : Switchable c.toDevices s.world t.event.objName t.event.param
      · rw [(after _ _).1 switchable, objects_between clear.agree clear.twins here forObject]
        exact (clear.switch t' there b is t here forObject switchable).symm
      · exact (after _ _).2 switchable

/-- Then the reply is exact. -/
theorem ClearFor.exact (clear : ClearFor c s body) (wellFormed : WellFormed body) :
    Exact c s body := by
  have listed : ∀ t ∈ turns c s body,
      Listed (setParam c s body).ctrlResult t.event.objName t.event.param ↔ Refused t :=
    fun t here => listed_of_clearFor wellFormed clear here
  constructor
  case code => exact code_iff c s body
  case listed => exact listed
  case nothingElse =>
    intro objName param there
    rw [listed_iff c s body wellFormed] at there
    obtain ⟨t, here, -, object, same⟩ := refused_of_lastRefused there
    exact ⟨t, here, object, same⟩
  case applied =>
    intro t here unlisted
    have accepted := mt (listed t here).mpr unlisted
    by_cases kick : t.event.IsKick
    · have board : c.pcp = true := by
        by_contra off
        exact accepted (kick_refused (Bool.eq_false_iff.mpr off) here kick)
      exact (board_after here kick).2 accepted (clear.delays board _ (asked_of_turn here) kick)
    · rw [applied_iff kick, clear.told wellFormed here kick, ConfigSet.told, if_neg accepted]
  case kept =>
    intro t here refusal
    have refused := (listed t here).mp refusal
    by_cases kick : t.event.IsKick
    · rw [Kept, if_pos kick]
      exact (board_after here kick).1 refused
    · rw [kept_iff kick, clear.told wellFormed here kick, ConfigSet.told, if_pos refused]

/-- **Which bodies are answered exactly**, by a console in a state. -/
theorem exact_iff_clearFor (c : Console W) (s : Project W) (wellFormed : WellFormed body) :
    Exact c s body ↔ ClearFor c s body :=
  ⟨fun exact => exact.clearFor wellFormed, fun clear => clear.exact wellFormed⟩

end ExactReply

/-! ## Clear bodies are answered exactly -/

section Sufficient

variable {c : Console W} {s : Project W} {body : JsonObject} {t t' : Turn W}

/-- Two parameters of one name for one object switch a camera twice. -/
theorem twins (wellFormed : WellFormed body) (clear : Clear body) {q q' : Request}
    (asked : q ∈ requests body) (asked' : q' ∈ requests body) (object : q.objName = q'.objName)
    (param : q.param = q'.param) (earlier : q.sec.place < q'.sec.place) :
    q'.sec = .executor_param ∧ q.param = enabled ∧ q'.value = q.value := by
  obtain ⟨sec, switch, twin⟩ := clear.apart q asked q' asked' object earlier
  have same := asked_unique wellFormed twin asked'
    (show (Section.executor_param, q.objName, q.param) = (q'.sec, q'.objName, q'.param) by
      rw [sec, object, param])
  exact ⟨sec, switch, by rw [← same]⟩

theorem earlier_or {a b : Section} (ne : a ≠ b) : a.place < b.place ∨ b.place < a.place :=
  Nat.lt_or_gt_of_ne fun same => ne (place_injective same)

/-- They ask for one value, and both are set or both refused. -/
theorem same_outcome (wellFormed : WellFormed body) (clear : Clear body)
    (here : t ∈ turns c s body) (there : t' ∈ turns c s body)
    (object : t.event.objName = t'.event.objName) (param : t.event.param = t'.event.param) :
    t.event.value = t'.event.value ∧ (Refused t ↔ Refused t') := by
  by_cases sec : t.event.sec = t'.event.sec
  · obtain rfl := turn_unique wellFormed here there
      (show (_, _, _) = (_, _, _) by rw [sec, object, param])
    exact ⟨rfl, Iff.rfl⟩
  · have switch : t.event.param = enabled ∧ t.event.value = t'.event.value ∧
        t.event.sec ≠ .global ∧ t'.event.sec ≠ .global := by
      rcases earlier_or sec with first | second
      · obtain ⟨is, enables, same⟩ := twins wellFormed clear (asked_of_turn here)
          (asked_of_turn there) object param first
        refine ⟨enables, same.symm, fun this => ?_, fun this => ?_⟩
        · rw [is, this] at first
          exact absurd first (by decide)
        · rw [is] at this
          cases this
      · obtain ⟨is, enables, same⟩ := twins wellFormed clear (asked_of_turn there)
          (asked_of_turn here) object.symm param.symm second
        refine ⟨param.trans enables, same, fun this => ?_, fun this => ?_⟩
        · rw [is] at this
          cases this
        · rw [is, this] at second
          exact absurd second (by decide)
    obtain ⟨enables, value, first, second⟩ := switch
    have forObject : t.event.ForObject := ⟨first, Request.not_kick_of_enabled enables⟩
    have forObject' : t'.event.ForObject :=
      ⟨second, Request.not_kick_of_enabled (param.symm.trans enables)⟩
    refine ⟨value, ?_⟩
    rw [enabled_refused here forObject enables,
      enabled_refused there forObject' (param.symm.trans enables), object, value]

/-- A project that would save takes a parameter that saves. -/
theorem save_accepted (here : t ∈ turns c s body) (sec : t.event.sec = .global)
    (param : t.event.param = save) (value : t.event.value = .bool true)
    (ready : saves c.attrList s = true) : ¬ Refused t := by
  obtain ⟨before, same⟩ := turn_spec here
  rw [same, refused_transition, turn_own _ sec, param, value]
  have steady := saves_run c s before
  rw [ready, saves] at steady
  rw [steady]
  exact Bool.noConfusion

/-- **A clear body is clear for every console**, in every state. -/
theorem clearFor_of_clear (c : Console W) (s : Project W) (wellFormed : WellFormed body)
    (clear : Clear body) : ClearFor c s body where
  agree t here t' there object param :=
    (same_outcome wellFormed clear here there object param).2
  twins t here t' there name key sets sets' :=
    (same_outcome wellFormed clear here there (sets.2.1.trans sets'.2.1.symm)
      (sets.2.2.1.trans sets'.2.2.1.symm)).1
  hidden t here t' there object earlier _ _ := by
    obtain ⟨executor, -, twin⟩ := clear.apart _ (asked_of_turn here) _ (asked_of_turn there) object
      earlier
    exact ⟨_, twin, rfl, rfl, by rw [executor]⟩
  delays _ := clear.delays
  switch t here b switches t' there forObject switchable := by
    obtain ⟨param, has, bool⟩ := switchable
    have value := clear.switch _ (asked_of_turn here) switches.sec switches.param b switches.value
      t'.event (asked_of_turn there) forObject.1 param
    have accepted : ¬ Refused t' := by
      rw [enabled_refused there forObject param, not_not, ← param, value, bool]
      exact ⟨param ▸ has, rfl⟩
    rw [told, if_neg accepted, value]
  saves asks ready t here sec param := by
    have value := clear.saves asks t.event (asked_of_turn here) sec param
    rw [told, if_neg (save_accepted here sec param value ready), value]

/-- A clear body is answered exactly, by every console in every state. -/
theorem exact_of_clear (c : Console W) (s : Project W) (wellFormed : WellFormed body)
    (clear : Clear body) : Exact c s body :=
  (clearFor_of_clear c s wellFormed clear).exact wellFormed

end Sufficient

end IsgConsole.IopAgent.ConfigSet
