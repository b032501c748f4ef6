/-
# IasAgent.ChannelReferences — the locators detectors refer to

A detector is anchored at a locator for each direction, which it names by id in the
configuration it loads.  `addDetector` and `updateDetector` ask whether the locators of the
request exist; `removeLocator` does not ask whether a detector is anchored at the one it
removes.

* `addDetector_resolved`, `removeLocator_resolved`, .. — what each operation does;
* `reached_resolved_iff` — **the runs after which no reference dangles.**
-/
import IsgConsole.IasAgent.ChannelInfer

namespace IsgConsole.IasAgent

open IsgConsole.Theory IsgConsole.BaseLib IsgConsole.IasBase IsgConsole.Theory.Json

set_option autoImplicit false

namespace ChannelInfer

variable {qt : QtJson} {alg : DtAlgorithms qt}

/-- The locators a detector is anchored at. -/
def anchorsOf (detector : alg.Detector) : Int × Int :=
  (alg.getLocateIdX detector, alg.getLocateIdY detector)

/-- Two locator ids are registered. -/
def Anchored (s : ChannelInfer alg) (ids : Int × Int) : Prop :=
  ids.1 ∈ s.m_locators ∧ ids.2 ∈ s.m_locators

/-- **Every registered detector is anchored at registered locators.** -/
def Resolved (s : ChannelInfer alg) : Prop :=
  ∀ id item, s.m_detectors.lookup id = some item → Anchored s (anchorsOf item.m_base.self)

/-- What a detector that loads this configuration is anchored at. -/
def loadedAnchors (qt : QtJson) (inputJson : JsonObject) : Int × Int :=
  anchors (configuration qt (IasJsonParser.toQString qt inputJson))

/-- A registered detector is anchored at this locator. -/
def Referenced (s : ChannelInfer alg) (locator_id : Int) : Prop :=
  ∃ id item, s.m_detectors.lookup id = some item ∧
    ((anchorsOf item.m_base.self).1 = locator_id ∨ (anchorsOf item.m_base.self).2 = locator_id)

/-- The detector of a configuration is loaded and registered. -/
def AcceptsDetector (s : ChannelInfer alg) (inputJson : JsonObject) : Prop :=
  IasJsonParser.getId inputJson ∉ s.m_detectors ∧
  ∃ made locate_point, alg.getDetector (IasJsonParser.getMethod inputJson) = some made ∧
    s.getLocatePointOf inputJson = some locate_point ∧
    (s.loadNewDetector inputJson locate_point made).isSome

/-- The registered detector of a configuration is asked to update. -/
def UpdatesDetector (s : ChannelInfer alg) (inputJson : JsonObject) : Prop :=
  IasJsonParser.getId inputJson ∈ s.m_detectors ∧ (s.getLocatePointOf inputJson).isSome

section Tables

variable {s s' : ChannelInfer alg}

theorem Resolved.of_same (resolved : Resolved s) (detectors : s'.m_detectors = s.m_detectors)
    (locators : ∀ id, id ∈ s.m_locators → id ∈ s'.m_locators) : Resolved s' := by
  intro id item found
  rw [detectors] at found
  obtain ⟨x, y⟩ := resolved id item found
  exact ⟨locators _ x, locators _ y⟩

/-- Detectors that keep their anchors, over the same locators, keep their references. -/
theorem Resolved.mapValues {f : Int → ChannelItem alg.Detector → ChannelItem alg.Detector}
    (resolved : Resolved s) (detectors : s'.m_detectors = s.m_detectors.mapValues f)
    (locators : ∀ id, id ∈ s'.m_locators ↔ id ∈ s.m_locators)
    (same : ∀ id item, s.m_detectors.lookup id = some item →
      anchorsOf (f id item).m_base.self = anchorsOf item.m_base.self) : Resolved s' := by
  intro id item found
  rw [detectors, Hash.lookup_mapValues] at found
  obtain ⟨old, there, rfl⟩ := Option.map_eq_some_iff.mp found
  rw [same id old there]
  obtain ⟨x, y⟩ := resolved id old there
  exact ⟨(locators _).mpr x, (locators _).mpr y⟩

end Tables

/-! ## The operations -/

section Operations

variable (s : ChannelInfer alg) (inputJson : JsonObject)

theorem addLocator_resolved (resolved : Resolved s) : Resolved (s.addLocator inputJson).2 := by
  have addition := s.addLocator_cases inputJson
  generalize s.addLocator inputJson = done at addition ⊢
  cases addition with
  | known | noFactory | threw => exact resolved
  | added made loaded fresh factory load =>
      refine resolved.of_same rfl fun id there => ?_
      exact (AList.mem_insert _).mpr (.inr there)

theorem loadNewDetector_anchors {locate_point : Point2d} {made : alg.Detector}
    {loaded : Bool × alg.Detector}
    (load : s.loadNewDetector inputJson locate_point made = some loaded) :
    anchorsOf loaded.2 = loadedAnchors qt inputJson :=
  alg.load_ids _ _ _ _ load

/-- An addition keeps the references there are, and adds those of the detector it registers. -/
theorem addDetector_resolved : Resolved (s.addDetector inputJson).2 ↔
    Resolved s ∧ (AcceptsDetector s inputJson → Anchored s (loadedAnchors qt inputJson)) := by
  have addition := s.addDetector_cases inputJson
  generalize s.addDetector inputJson = done at addition ⊢
  cases addition with
  | known there => exact (and_iff_left fun accepts => absurd there accepts.1).symm
  | noFactory missing =>
      refine (and_iff_left ?_).symm
      rintro ⟨-, made, locate_point, factory, -⟩
      rw [missing] at factory
      cases factory
  | noLocator missing =>
      refine (and_iff_left ?_).symm
      rintro ⟨-, made, locate_point, -, located, -⟩
      rw [missing] at located
      cases located
  | threw made locate_point fresh factory located threw =>
      refine (and_iff_left ?_).symm
      rintro ⟨-, made', locate_point', factory', located', load⟩
      obtain rfl := Option.some.inj (factory.symm.trans factory')
      obtain rfl := Option.some.inj (located.symm.trans located')
      rw [threw] at load
      cases load
  | added made locate_point loaded fresh factory located load =>
      have anchored := s.loadNewDetector_anchors inputJson load
      constructor
      · intro resolved
        constructor
        · intro id item found
          refine resolved id item ?_
          have apart : id ≠ IasJsonParser.getId inputJson := by
            rintro rfl
            exact fresh (Hash.mem_of_lookup found)
          exact (AList.lookup_insert_ne apart).trans found
        · intro _
          rw [← anchored]
          exact resolved (IasJsonParser.getId inputJson) _ (AList.lookup_insert _)
      · rintro ⟨resolved, anchors⟩ id item found
        rcases Hash.of_lookup_insert found with ⟨-, rfl⟩ | ⟨-, old⟩
        · show Anchored s (anchorsOf loaded.2)
          rw [anchored]
          apply anchors
          exact ⟨fresh, made, locate_point, factory, located, by rw [load]; rfl⟩
        · exact resolved id item old

/-- A removal breaks exactly the references to the locator it removes. -/
theorem removeLocator_resolved (resolved : Resolved s) :
    Resolved (s.removeLocator inputJson).2 ↔ ¬ Referenced s (IasJsonParser.getId inputJson) := by
  simp only [removeLocator]
  split
  next there =>
      constructor
      · rintro kept ⟨id, item, found, x | y⟩
        · exact (AList.mem_erase.mp (kept id item found).1).1 x
        · exact (AList.mem_erase.mp (kept id item found).2).1 y
      · intro free id item found
        obtain ⟨x, y⟩ := resolved id item found
        exact ⟨AList.mem_erase.mpr ⟨fun same => free ⟨id, item, found, .inl same⟩, x⟩,
          AList.mem_erase.mpr ⟨fun same => free ⟨id, item, found, .inr same⟩, y⟩⟩
  next absent =>
      refine iff_of_true resolved ?_
      rintro ⟨id, item, found, x | y⟩
      · exact absent (x ▸ (resolved id item found).1)
      · exact absent (y ▸ (resolved id item found).2)

theorem removeDetector_resolved (resolved : Resolved s) :
    Resolved (s.removeDetector inputJson).2 := by
  simp only [removeDetector]
  split
  next => exact fun id item found => resolved id item (Hash.of_lookup_erase found).2
  next => exact resolved

theorem relocate_anchors (channelDetector : ChannelItem alg.Detector) :
    anchorsOf (s.relocate channelDetector).m_base.self = anchorsOf channelDetector.m_base.self := by
  simp only [relocate]
  split
  next => exact alg.setLocateRoot_ids _ _
  next => rfl

theorem updateLocator_resolved (resolved : Resolved s) :
    Resolved (s.updateLocator inputJson).2 := by
  simp only [updateLocator]
  split
  next => exact resolved
  next =>
      split
      next =>
          exact resolved.mapValues rfl (fun _ => Hash.mem_mapValues)
            fun _ item _ => relocate_anchors _ item
      next => exact resolved.of_same rfl fun _ there => Hash.mem_mapValues.mpr there

/-- An update of a detector moves its anchors, whether it succeeds or not. -/
theorem updateDetector_resolved (resolved : Resolved s) :
    Resolved (s.updateDetector inputJson).2 ↔
      (UpdatesDetector s inputJson → Anchored s (loadedAnchors qt inputJson)) := by
  simp only [updateDetector]
  split
  next absent =>
      refine iff_of_true resolved fun updates => ?_
      have there := AList.lookup_isSome.mpr updates.1
      rw [absent] at there
      cases there
  next channelDetector held =>
      split
      next missing =>
          refine iff_of_true resolved fun updates => ?_
          have located := updates.2
          rw [missing] at located
          cases located
      next locatePoint located =>
          generalize updated : alg.updateDetector _ _ = done
          have moved : anchorsOf done.2 = loadedAnchors qt inputJson := by
            rw [← updated]
            exact alg.update_ids _ _
          have asked : UpdatesDetector s inputJson :=
            ⟨Hash.mem_of_lookup held, by rw [located]; rfl⟩
          constructor
          · intro kept _
            have entry := kept (IasJsonParser.getId inputJson) (channelDetector.withSelf done.2)
            rw [← moved]
            apply entry
            simp [Hash.modify, held]
          · intro anchored id item found
            obtain ⟨old, there, rfl⟩ := Option.map_eq_some_iff.mp
              ((Hash.lookup_mapValues _ _ _).symm.trans found)
            split
            next =>
                show Anchored s (anchorsOf done.2)
                rw [moved]
                exact anchored asked
            next => exact resolved id old there

theorem askLocator_resolved
    (call : BaseObject alg.Locator → Option (Bool × Bytes) × alg.Locator)
    (resultJson : JsonObject) (resolved : Resolved s) :
    Resolved (s.askLocator call inputJson resultJson).2.2 := by
  simp only [askLocator]
  split
  next => exact resolved
  next => exact resolved.of_same rfl fun _ there => Hash.mem_mapValues.mpr there

theorem askDetector_resolved
    {call : BaseObject alg.Detector → Option (Bool × Bytes) × alg.Detector}
    (same : ∀ detector, anchorsOf (call detector).2 = anchorsOf detector.self)
    (resultJson : JsonObject) (resolved : Resolved s) :
    Resolved (s.askDetector call inputJson resultJson).2.2 := by
  simp only [askDetector]
  split
  next => exact resolved
  next channelDetector held =>
      refine resolved.mapValues rfl (fun _ => Iff.rfl) fun id item there => ?_
      split
      next here =>
          obtain rfl : item = channelDetector := by
            rw [here, held] at there
            exact (Option.some.inj there).symm
          exact same item.m_base
      next => rfl

end Operations

/-! ## Runs -/

/-- The detectors of a configuration file, added to a channel, are anchored at what is there. -/
def DetectorsAnchored (s : ChannelInfer alg) (detectors : List JsonObject) : Prop :=
  Machine.Always (fun first inputJson =>
    let before := first.foldl (fun s json => (s.addDetector json).2) s
    AcceptsDetector before inputJson → Anchored before (loadedAnchors qt inputJson)) detectors

/-- The condition on an event: no locator is deleted while a detector is anchored at it, and what
a detector that is added or updated reads from its configuration is registered. -/
def Careful (s : ChannelInfer alg) : Event → Prop
  | .initModel locators detectors =>
      DetectorsAnchored
        ((([] : JsonObject) :: locators).foldl (fun s json => (s.addLocator json).2) s) detectors
  | .releaseModel => True
  | .onOperateInfer op_type dt_type inputJson _ =>
      (op_type = DT_OPERATION_DEL → dt_type = DT_TYPE_LOCATOR →
        ¬ Referenced s (IasJsonParser.getId inputJson)) ∧
      (op_type = DT_OPERATION_ADD → dt_type = DT_TYPE_DETECTOR →
        AcceptsDetector s inputJson → Anchored s (loadedAnchors qt inputJson)) ∧
      (op_type = DT_OPERATION_UPDATE_PARAM → dt_type = DT_TYPE_DETECTOR →
        UpdatesDetector s inputJson → Anchored s (loadedAnchors qt inputJson))

theorem addDetectors_resolved {s : ChannelInfer alg} (resolved : Resolved s)
    (detectors : List JsonObject) :
    Resolved (detectors.foldl (fun s json => (s.addDetector json).2) s) ↔
      DetectorsAnchored s detectors := by
  induction detectors using List.reverseRecOn with
  | nil => exact iff_of_true resolved Machine.always_nil
  | append_singleton detectors json ih =>
      rw [List.foldl_append, DetectorsAnchored, Machine.always_snoc, ← DetectorsAnchored, ← ih]
      exact addDetector_resolved _ json

theorem initModel_resolved {s : ChannelInfer alg} (resolved : Resolved s)
    (locators detectors : List JsonObject) : Resolved (s.initModel locators detectors) ↔
      Careful s (.initModel locators detectors) := by
  apply addDetectors_resolved
  exact List.foldlRecOn _ _ resolved fun s kept json _ => addLocator_resolved s json kept

/-- One request. -/
theorem onOperateInfer_resolved {s : ChannelInfer alg} (resolved : Resolved s)
    (op_type dt_type : Int) (inputJson : JsonObject) (fileOpens : Bool) :
    Resolved (s.onOperateInfer op_type dt_type inputJson [] fileOpens).2.2 ↔
      Careful s (.onOperateInfer op_type dt_type inputJson fileOpens) := by
  have operation := s.onOperateInfer_cases inputJson op_type dt_type [] fileOpens
  generalize s.onOperateInfer op_type dt_type inputJson [] fileOpens = done
    at operation ⊢
  -- the request meets the conditions on the other operations
  have unconcerned : op_type ≠ DT_OPERATION_ADD → op_type ≠ DT_OPERATION_DEL →
      op_type ≠ DT_OPERATION_UPDATE_PARAM →
      Careful s (.onOperateInfer op_type dt_type inputJson fileOpens) :=
    fun add del update => ⟨(absurd · del), (absurd · add), (absurd · update)⟩
  cases operation with
  | addLocator op dt =>
      subst op dt
      refine iff_of_true (addLocator_resolved s inputJson resolved) ?_
      exact ⟨nofun, nofun, nofun⟩
  | addDetector op dt =>
      subst op dt
      rw [addDetector_resolved s inputJson, and_iff_right resolved]
      exact ⟨fun adds => ⟨nofun, fun _ _ => adds, nofun⟩, fun careful => careful.2.1 rfl rfl⟩
  | removeLocator op dt =>
      subst op dt
      rw [removeLocator_resolved s inputJson resolved]
      exact ⟨fun free => ⟨fun _ _ => free, nofun, nofun⟩, fun careful => careful.1 rfl rfl⟩
  | removeDetector op dt =>
      subst op dt
      refine iff_of_true (removeDetector_resolved s inputJson resolved) ?_
      exact ⟨nofun, nofun, nofun⟩
  | updateLocator op dt =>
      subst op dt
      refine iff_of_true (updateLocator_resolved s inputJson resolved) ?_
      exact ⟨nofun, nofun, nofun⟩
  | updateDetector op dt =>
      subst op dt
      rw [updateDetector_resolved s inputJson resolved]
      exact ⟨fun moves => ⟨nofun, nofun, fun _ _ => moves⟩, fun careful => careful.2.2 rfl rfl⟩
  | resetLocator op | execLocator op =>
      subst op
      refine iff_of_true (askLocator_resolved s inputJson _ [] resolved) ?_
      exact unconcerned (by decide) (by decide) (by decide)
  | resetDetector op =>
      subst op
      refine iff_of_true (askDetector_resolved s inputJson alg.reset_ids [] resolved) ?_
      exact unconcerned (by decide) (by decide) (by decide)
  | execDetector op =>
      subst op
      refine iff_of_true (askDetector_resolved s inputJson alg.exec_ids [] resolved) ?_
      exact unconcerned (by decide) (by decide) (by decide)
  | updateImage op | saved op =>
      subst op
      exact iff_of_true resolved (unconcerned (by decide) (by decide) (by decide))
  | refused other =>
      refine iff_of_true resolved ?_
      rcases other with ⟨noLocator, noDetector⟩ | ⟨add, del, update⟩
      · exact ⟨fun _ dt => absurd dt noLocator, fun _ dt => absurd dt noDetector,
          fun _ dt => absurd dt noDetector⟩
      · exact unconcerned add del update

theorem step_resolved (s : ChannelInfer alg) (e : Event) (resolved : Resolved s) :
    Resolved (s.step e).1 ↔ Careful s e := by
  cases e with
  | initModel locators detectors => exact initModel_resolved resolved locators detectors
  | releaseModel =>
      refine iff_of_true (fun id item found => ?_) trivial
      cases found
  | onOperateInfer op_type dt_type inputJson fileOpens =>
      exact onOperateInfer_resolved resolved op_type dt_type inputJson fileOpens

/-- **No reference dangles in any state of a run exactly when every event is careful.** -/
theorem reached_resolved_iff (alg : DtAlgorithms qt) (channel_id : Int) (path : Bytes)
    (es : List Event) :
    (∀ first, first <+: es → Resolved (Machine.final step (start alg channel_id path) first)) ↔
      Machine.Always (fun first e =>
        Careful (Machine.final step (start alg channel_id path) first) e) es := by
  apply Machine.prefixes_iff_always
  · intro id item found
    cases found
  · exact step_resolved

/-! A configuration in ASCII is read as it was sent, so an addition or update that is accepted
has asked for the right locators. -/

theorem loadedAnchors_of_ascii {inputJson : JsonObject} (ascii : AsciiValue (.object inputJson))
    (holds : qt.Holds (.object inputJson)) :
    loadedAnchors qt inputJson =
      (IasJsonParser.getLocateIdX inputJson, IasJsonParser.getLocateIdY inputJson) := by
  have text := qt.toLocal8Bit_of_ascii (qt.toJson_ascii .Indented _ ascii)
  rw [loadedAnchors, configuration, IasJsonParser.toQString, text,
    qt.object_of_holds _ holds]
  rfl

theorem anchored_of_getLocatePointOf {s : ChannelInfer alg} {inputJson : JsonObject}
    (located : (s.getLocatePointOf inputJson).isSome) : Anchored s
      (IasJsonParser.getLocateIdX inputJson, IasJsonParser.getLocateIdY inputJson) := by
  unfold getLocatePointOf getLocatePoint at located
  split at located
  next x y => exact ⟨Hash.mem_of_lookup x, Hash.mem_of_lookup y⟩
  next => cases located

/-- An operation with an ASCII configuration is careful unless it deletes a locator some detector
is anchored at. -/
theorem careful_of_ascii {s : ChannelInfer alg} {op_type dt_type : Int} {inputJson : JsonObject}
    {fileOpens : Bool} (ascii : AsciiValue (.object inputJson))
    (holds : qt.Holds (.object inputJson)) :
    Careful s (.onOperateInfer op_type dt_type inputJson fileOpens) ↔
      (op_type = DT_OPERATION_DEL → dt_type = DT_TYPE_LOCATOR →
        ¬ Referenced s (IasJsonParser.getId inputJson)) := by
  refine and_iff_left ⟨fun _ _ accepts => ?_, fun _ _ updates => ?_⟩
  · obtain ⟨-, made, locate_point, -, located, -⟩ := accepts
    rw [loadedAnchors_of_ascii ascii holds]
    apply anchored_of_getLocatePointOf
    rw [located]
    rfl
  · rw [loadedAnchors_of_ascii ascii holds]
    exact anchored_of_getLocatePointOf updates.2

/-! A detector outlives the locator it is anchored at. -/

def locatorJson : JsonObject := [(utf8 "id", int 5)]

def detectorJson : JsonObject := [(utf8 "id", int 1), (utf8 "locator_x_id", int 5)]

def anchorGone : List Event :=
  [.initModel [] [], .onOperateInfer DT_OPERATION_ADD DT_TYPE_LOCATOR locatorJson true,
   .onOperateInfer DT_OPERATION_ADD DT_TYPE_DETECTOR detectorJson true,
   .onOperateInfer DT_OPERATION_DEL DT_TYPE_LOCATOR locatorJson true]

theorem anchorGone_dangles : ¬ ∀ first, first <+: anchorGone → Resolved (Machine.final step
    (start (.reference QtJson.reference fun _ => false) 1 []) first) := by
  intro all
  have resolved := all anchorGone List.prefix_rfl
  have held : ((Machine.final step (start (.reference QtJson.reference fun _ => false) 1 [])
      anchorGone).m_detectors.lookup 1).map (fun item => anchorsOf item.m_base.self)
      = some (5, 0) := by decide
  obtain ⟨item, found, ids⟩ := Option.map_eq_some_iff.mp held
  have dangling := (resolved 1 item found).1
  rw [ids] at dangling
  exact absurd dangling (by decide)

end ChannelInfer

end IsgConsole.IasAgent
