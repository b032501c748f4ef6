/-
# IasAgent.ChannelVerdict — what a channel answers for a picture

`inferImage` runs the items of a channel stage by stage: group 1 before group 2, and in a
group the feature items before the others.  The answer is that of group 1 unless one of its
feature items fails and the channel has two groups, which it takes from the flag `m_bGroup`.

* `inferImage_ok_iff` — the answer in terms of the four stages and the flag;
* `m_bGroup_iff` — the flag tells whether an item of group 2 was ever registered;
* `follows_iff` — **when the verdict follows the items that are registered.**
-/
import IsgConsole.IasAgent.ChannelInfer

namespace IsgConsole.IasAgent

open IsgConsole.Theory IsgConsole.BaseLib IsgConsole.IasBase IsgConsole.Inspector
open IsgConsole.Theory.Json

set_option autoImplicit false

namespace ChannelInfer

variable {qt : QtJson} {alg : DtAlgorithms qt}

/-! ## Inference -/

/-- What the objects of a channel answer for one picture: a locator by its id, a detector by
its id and the point it is handed. -/
structure Answers where
  locate : Int → BaseDTResult
  detect : Int → Point2d → BaseDTResult

/-- The results of a picture so far, groups and features counted from 0. -/
structure Inference where
  result : Nat → Nat → Bool
  locator_results : Nat → Hash Int BaseDTResult
  detector_results : Nat → Hash Int BaseDTResult

namespace Inference

def start : Inference :=
  { result := fun _ _ => true, locator_results := fun _ => ∅, detector_results := fun _ => ∅ }

def fail (w : Inference) (group feature : Nat) : Inference :=
  { w with result := fun g f => if g = group ∧ f = feature then false else w.result g f }

def insertLocated (w : Inference) (group : Nat) (r : BaseDTResult) : Inference :=
  { w with locator_results := fun g =>
      if g = group then (w.locator_results g).insert r.m_id r else w.locator_results g }

def insertDetected (w : Inference) (group : Nat) (r : BaseDTResult) : Inference :=
  { w with detector_results := fun g =>
      if g = group then (w.detector_results g).insert r.m_id r else w.detector_results g }

/-- Take the result of a locator; that of the default one is there for group 2 as well. -/
def takeLocated (group feature : Nat) (w : Inference) (r : BaseDTResult) : Inference :=
  let w := w.insertLocated group r
  let w := if r.m_id = DEFAULT_LOCATE_ID then w.insertLocated 1 r else w
  if r.m_result then w else w.fail group feature

def takeDetected (group feature : Nat) (w : Inference) (r : BaseDTResult) : Inference :=
  let w := w.insertDetected group r
  if r.m_result then w else w.fail group feature

end Inference

/-- `ChannelInfer::locate`. -/
def locate (self : ChannelInfer alg) (answers : Answers) (locator_id : Int) : BaseDTResult :=
  if locator_id ∈ self.m_locators then answers.locate locator_id
  else { BaseDTResult.start with m_result := false }

/-- `ChannelInfer::detect` of a detector of the table: a locator without a result counts as a
default-constructed one. -/
def detect (alg : DtAlgorithms qt) (answers : Answers) (detector_id : Int)
    (baseDetector : alg.Detector) (locator_results : Hash Int BaseDTResult) : BaseDTResult :=
  let x := (locator_results.lookup (alg.getLocateIdX baseDetector)).getD .start
  let y := (locator_results.lookup (alg.getLocateIdY baseDetector)).getD .start
  answers.detect detector_id ⟨x.m_locate_point.x, y.m_locate_point.y⟩

/-- The items of a stage. -/
def chosen {α : Type} (items : Hash Int (ChannelItem α)) (group feature : Nat) :
    List (Sigma fun _ : Int => ChannelItem α) :=
  items.entries.filter fun e => e.2.m_group = group + 1 ∧ e.2.m_feature = feature + 1

def located (self : ChannelInfer alg) (answers : Answers) (group feature : Nat) :
    List BaseDTResult :=
  (chosen self.m_locators group feature).map fun e => self.locate answers e.1

def detected (self : ChannelInfer alg) (answers : Answers) (group feature : Nat)
    (locator_results : Hash Int BaseDTResult) : List BaseDTResult :=
  (chosen self.m_detectors group feature).map fun e =>
    detect alg answers e.1 e.2.m_base.self locator_results

/-- The locators of a stage and, when none of them fails, its detectors. -/
def runStage (self : ChannelInfer alg) (answers : Answers) (group feature : Nat)
    (w : Inference) : Inference :=
  let w := (self.located answers group feature).foldl (Inference.takeLocated group feature) w
  if w.result group feature then
    (self.detected answers group feature (w.locator_results group)).foldl
      (Inference.takeDetected group feature) w
  else w

/-- The stages of a group; a failed feature item ends it. -/
def runGroup (self : ChannelInfer alg) (answers : Answers) (group : Nat) (w : Inference) :
    Inference :=
  let w := if w.result group 0 then self.runStage answers group 0 w else w
  if w.result group 0 then self.runStage answers group 1 w else w

/-- `ChannelInfer::resultJsonToByteArray`. -/
def resultJsonToByteArray (qt : QtJson) (m_channelID : Int)
    (locator_results detector_results : Hash Int BaseDTResult) (group : Nat) : Bytes :=
  let position (r : BaseDTResult) : Json := .object (qt.object (qt.toLocal8Bit r.m_position_info))
  let located := locator_results.entries.filter fun e => e.1 ≠ DEFAULT_LOCATE_ID
  let postionInfo := (located.map fun e => position e.2)
    ++ (detector_results.entries.map fun e => position e.2)
  qt.toJson .Compact (objectOf
    [(utf8 "channel_id", int m_channelID),
     (utf8 "is_label_show", .bool false),
     (utf8 "group", int (group + 1)),
     (utf8 "pos_info", .array postionInfo),
     (utf8 "algo_type", int IAS_DT.toNat)])

/-- The result that is emitted for a group. -/
def output (self : ChannelInfer alg) (imageData : ImageData) (w : Inference) (group : Nat) :
    ImageIasResult :=
  { objectId := imageData.objectId
    cameraId := imageData.cameraId
    imageId := imageData.imageId
    iasType := IAS_DT
    channelID := UInt32.ofInt self.m_channelID
    result := if w.result group 0 && w.result group 1 then RESULT_OK else RESULT_NG
    jsonData := resultJsonToByteArray qt self.m_channelID (w.locator_results group)
      (w.detector_results group) group }

/-- `ChannelInfer::inferImage`; whether group 1 decides is asked after each group. -/
def inferImage (self : ChannelInfer alg) (answers : Answers) (imageData : ImageData) :
    ImageIasResult :=
  let w := self.runGroup answers 0 .start
  if w.result 0 0 || !self.m_bGroup then self.output imageData w 0
  else
    let w := self.runGroup answers 1 w
    if w.result 0 0 || !self.m_bGroup then self.output imageData w 0
    else self.output imageData w 1

/-! ## The outcome of a stage -/

/-- An assignment of outcomes: whether a detector passes does not depend on the point it is
handed. -/
structure Outcomes extends Answers where
  passes : Int → Bool
  detect_passes : ∀ id point, (detect id point).m_result = passes id

/-- Every item of a stage passes. -/
def stagePasses (self : ChannelInfer alg) (outcomes : Outcomes) (group feature : Nat) : Bool :=
  (chosen self.m_locators group feature).all (fun e => (outcomes.locate e.1).m_result) &&
    (chosen self.m_detectors group feature).all fun e => outcomes.passes e.1

namespace Inference

theorem takeLocated_result (group feature : Nat) (w : Inference) (r : BaseDTResult) (g f : Nat) :
    (takeLocated group feature w r).result g f =
      if r.m_result then w.result g f else (w.fail group feature).result g f := by
  unfold takeLocated
  split <;> split <;> rfl

theorem takeDetected_result (group feature : Nat) (w : Inference) (r : BaseDTResult) (g f : Nat) :
    (takeDetected group feature w r).result g f =
      if r.m_result then w.result g f else (w.fail group feature).result g f := by
  unfold takeDetected
  split <;> rfl

variable {group feature g f : Nat} {take : Inference → BaseDTResult → Inference}

/-- Taking results spoils a stage exactly when one of them is a failure. -/
theorem foldl_result_self
    (turn : ∀ w r, (take w r).result group feature =
      if r.m_result then w.result group feature else (w.fail group feature).result group feature)
    (rs : List BaseDTResult) (w : Inference) :
    (rs.foldl take w).result group feature =
      (w.result group feature && rs.all fun r => r.m_result) := by
  induction rs generalizing w with
  | nil => simp
  | cons r rs ih =>
      rw [List.foldl_cons, ih, turn, List.all_cons]
      cases r.m_result <;> simp [fail]

/-- It leaves the other stages alone. -/
theorem foldl_result_other (other : ¬ (g = group ∧ f = feature))
    (turn : ∀ w r, (take w r).result g f =
      if r.m_result then w.result g f else (w.fail group feature).result g f)
    (rs : List BaseDTResult) (w : Inference) : (rs.foldl take w).result g f = w.result g f := by
  induction rs generalizing w with
  | nil => rfl
  | cons r rs ih =>
      rw [List.foldl_cons, ih, turn]
      simp only [fail, if_neg other, ite_self]

end Inference

section Stage

variable {self : ChannelInfer alg} {outcomes : Outcomes} {group feature g f : Nat}

theorem mem_of_mem_chosen {α : Type} {items : Hash Int (ChannelItem α)}
    {e : Sigma fun _ : Int => ChannelItem α} (there : e ∈ chosen items group feature) :
    e.1 ∈ items :=
  List.mem_keys_of_mem (List.mem_of_mem_filter there)

theorem located_all :
    ((self.located outcomes.toAnswers group feature).all fun r => r.m_result) =
      (chosen self.m_locators group feature).all
        fun e => (outcomes.locate e.1).m_result := by
  have found : self.located outcomes.toAnswers group feature =
      (chosen self.m_locators group feature).map fun e => outcomes.locate e.1 :=
    List.map_congr_left fun e there => if_pos (mem_of_mem_chosen there)
  rw [found, List.all_map]
  rfl

theorem detected_all (locator_results : Hash Int BaseDTResult) :
    ((self.detected outcomes.toAnswers group feature locator_results).all fun r => r.m_result) =
      (chosen self.m_detectors group feature).all fun e => outcomes.passes e.1 := by
  rw [detected, List.all_map]
  congr 1
  funext e
  exact outcomes.detect_passes _ _

theorem runStage_self (w : Inference) :
    (self.runStage outcomes.toAnswers group feature w).result group feature =
      (w.result group feature && self.stagePasses outcomes group feature) := by
  have afterLocators := Inference.foldl_result_self
    (fun w r => Inference.takeLocated_result group feature w r group feature)
    (self.located outcomes.toAnswers group feature) w
  rw [located_all] at afterLocators
  simp only [runStage]
  split
  next fine =>
      rw [Inference.foldl_result_self
        (fun w r => Inference.takeDetected_result group feature w r group feature), detected_all,
        afterLocators, stagePasses, Bool.and_assoc]
  next spoilt =>
      rw [afterLocators, Bool.not_eq_true] at spoilt
      rw [afterLocators, stagePasses, ← Bool.and_assoc, spoilt, Bool.false_and]

theorem runStage_other (other : ¬ (g = group ∧ f = feature)) (w : Inference) :
    (self.runStage outcomes.toAnswers group feature w).result g f = w.result g f := by
  have afterLocators := Inference.foldl_result_other other
    (fun w r => Inference.takeLocated_result group feature w r g f)
    (self.located outcomes.toAnswers group feature) w
  simp only [runStage]
  split
  next =>
      rw [Inference.foldl_result_other other
        (fun w r => Inference.takeDetected_result group feature w r g f), afterLocators]
  next => exact afterLocators

/-- A group leaves the results of the other one alone. -/
theorem runGroup_other (other : g ≠ group) (w : Inference) :
    (self.runGroup outcomes.toAnswers group w).result g f = w.result g f := by
  have elsewhere (feature : Nat) : ¬ (g = group ∧ f = feature) := fun same => other same.1
  have turn (feature : Nat) (w : Inference) :
      (if w.result group 0 then self.runStage outcomes.toAnswers group feature w
        else w).result g f = w.result g f := by
    split
    next => exact runStage_other (elsewhere feature) w
    next => rfl
  simp only [runGroup, turn]

/-- The feature items of a group and, when they pass, the others. -/
theorem runGroup_self (w : Inference) (fresh : ∀ feature, w.result group feature = true) :
    (self.runGroup outcomes.toAnswers group w).result group 0 = self.stagePasses outcomes group 0 ∧
    ((self.runGroup outcomes.toAnswers group w).result group 0 &&
        (self.runGroup outcomes.toAnswers group w).result group 1) =
      (self.stagePasses outcomes group 0 && self.stagePasses outcomes group 1) := by
  have features : (self.runStage outcomes.toAnswers group 0 w).result group 0 =
      self.stagePasses outcomes group 0 := by
    rw [runStage_self, fresh 0, Bool.true_and]
  simp only [runGroup, fresh 0, if_true, features]
  cases passes : self.stagePasses outcomes group 0 with
  | false => simp [features, passes]
  | true =>
      have others : (self.runStage outcomes.toAnswers group 1
          (self.runStage outcomes.toAnswers group 0 w)).result group 1 =
          self.stagePasses outcomes group 1 := by
        rw [runStage_self, runStage_other (by simp), fresh 1, Bool.true_and]
      simp [runStage_other, features, others, passes]

end Stage

/-- The answer is OK or NG. -/
theorem inferImage_result (self : ChannelInfer alg) (answers : Answers) (imageData : ImageData) :
    (self.inferImage answers imageData).result = RESULT_OK ∨
      (self.inferImage answers imageData).result = RESULT_NG := by
  have output (w : Inference) (group : Nat) : (self.output imageData w group).result = RESULT_OK ∨
      (self.output imageData w group).result = RESULT_NG := by
    show (if _ then RESULT_OK else RESULT_NG) = _ ∨ (if _ then RESULT_OK else RESULT_NG) = _
    split
    next => exact .inl rfl
    next => exact .inr rfl
  simp only [inferImage]
  split
  next => exact output _ _
  next => split <;> exact output _ _

theorem output_ok (self : ChannelInfer alg) (imageData : ImageData) (w : Inference)
    (group : Nat) : (self.output imageData w group).result = RESULT_OK ↔
      (w.result group 0 && w.result group 1) = true := by
  show (if w.result group 0 && w.result group 1 then RESULT_OK else RESULT_NG) = RESULT_OK ↔ _
  cases w.result group 0 && w.result group 1 <;> decide

/-- **The answer for a picture.** -/
theorem inferImage_ok_iff (self : ChannelInfer alg) (outcomes : Outcomes)
    (imageData : ImageData) :
    (self.inferImage outcomes.toAnswers imageData).result = RESULT_OK ↔
      if self.stagePasses outcomes 0 0 ∨ self.m_bGroup = false then
        self.stagePasses outcomes 0 0 ∧ self.stagePasses outcomes 0 1
      else self.stagePasses outcomes 1 0 ∧ self.stagePasses outcomes 1 1 := by
  have first := @runGroup_self _ _ self outcomes 0 .start fun _ => rfl
  have second := @runGroup_self _ _ self outcomes 1 (self.runGroup outcomes.toAnswers 0 .start)
    fun _ => runGroup_other (by decide) _
  have kept : ∀ f, (self.runGroup outcomes.toAnswers 1
      (self.runGroup outcomes.toAnswers 0 .start)).result 0 f =
      (self.runGroup outcomes.toAnswers 0 .start).result 0 f :=
    fun f => runGroup_other (by decide) _
  simp only [inferImage, kept, first.1]
  by_cases decides : self.stagePasses outcomes 0 0 = true ∨ self.m_bGroup = false
  · have decides' : (self.stagePasses outcomes 0 0 || !self.m_bGroup) = true := by
      simpa using decides
    rw [if_pos decides, if_pos decides', output_ok, first.2, Bool.and_eq_true]
  · have decides' : ¬ (self.stagePasses outcomes 0 0 || !self.m_bGroup) = true := by
      simpa using decides
    rw [if_neg decides, if_neg decides', if_neg decides', output_ok, second.2, Bool.and_eq_true]

/-! ## The kinds of items a channel holds -/

/-- Group and feature of an item. -/
def kind {α : Type} (item : ChannelItem α) : Int × Int := (item.m_group, item.m_feature)

/-- Group and feature of a configuration. -/
def kindOf (inputJson : JsonObject) : Int × Int :=
  (IasJsonParser.getGroup inputJson, IasJsonParser.getFeature inputJson)

def Holds {α : Type} (items : Hash Int (ChannelItem α)) (k : Int × Int) : Prop :=
  ∃ id item, items.lookup id = some item ∧ kind item = k

section Holds

variable {α : Type} {items : Hash Int (ChannelItem α)} {k : Int × Int}

theorem holds_iff_mem : Holds items k ↔ k ∈ items.entries.map fun e => kind e.2 := by
  simp only [Holds, List.mem_map, Sigma.exists, ← AList.mem_lookup_iff, Option.mem_def]

instance : Decidable (Holds items k) := decidable_of_iff' _ holds_iff_mem

theorem not_holds_empty : ¬ Holds (∅ : Hash Int (ChannelItem α)) k := by
  rintro ⟨id, item, found, -⟩
  simp at found

theorem holds_insert {id : Int} {item : ChannelItem α} (fresh : id ∉ items) :
    Holds (items.insert id item) k ↔ Holds items k ∨ k = kind item := by
  constructor
  · rintro ⟨other, held, found, rfl⟩
    rcases Hash.of_lookup_insert found with ⟨-, rfl⟩ | ⟨-, old⟩
    · exact .inr rfl
    · exact .inl ⟨other, held, old, rfl⟩
  · rintro (⟨other, held, found, rfl⟩ | rfl)
    · have apart : other ≠ id := by
        rintro rfl
        exact fresh (Hash.mem_of_lookup found)
      exact ⟨other, held, by rw [AList.lookup_insert_ne apart, found], rfl⟩
    · exact ⟨id, item, AList.lookup_insert items, rfl⟩

theorem of_holds_erase {id : Int} (holds : Holds (items.erase id) k) : Holds items k := by
  obtain ⟨other, held, found, same⟩ := holds
  exact ⟨other, held, (Hash.of_lookup_erase found).2, same⟩

theorem holds_mapValues {f : Int → ChannelItem α → ChannelItem α}
    (same : ∀ id item, kind (f id item) = kind item) :
    Holds (items.mapValues f) k ↔ Holds items k := by
  simp only [Holds, Hash.lookup_mapValues, Option.map_eq_some_iff]
  constructor
  · rintro ⟨id, -, ⟨item, found, rfl⟩, rfl⟩
    exact ⟨id, item, found, (same id item).symm⟩
  · rintro ⟨id, item, found, rfl⟩
    exact ⟨id, f id item, ⟨item, found, rfl⟩, same id item⟩

theorem holds_modify {id : Int} {self : α} :
    Holds (items.modify id fun item => item.withSelf self) k ↔ Holds items k := by
  apply holds_mapValues
  intro other item
  split <;> rfl

end Holds

/-- An item of this kind is registered. -/
def Registered (s : ChannelInfer alg) (kind : Int × Int) : Prop :=
  Holds s.m_locators kind ∨ Holds s.m_detectors kind

/-- An item of group 2 is registered. -/
def HasGroup2 (s : ChannelInfer alg) : Prop := ∃ feature, Registered s (2, feature)

instance (s : ChannelInfer alg) (kind : Int × Int) : Decidable (Registered s kind) :=
  inferInstanceAs (Decidable (_ ∨ _))

theorem hasGroup2_iff_mem (s : ChannelInfer alg) : HasGroup2 s ↔
    (∃ e ∈ s.m_locators.entries, e.2.m_group = 2) ∨
      ∃ e ∈ s.m_detectors.entries, e.2.m_group = 2 := by
  have group {α : Type} (items : Hash Int (ChannelItem α)) :
      (∃ feature, Holds items (2, feature)) ↔ ∃ e ∈ items.entries, e.2.m_group = 2 := by
    simp only [holds_iff_mem, List.mem_map]
    constructor
    · rintro ⟨feature, e, there, same⟩
      exact ⟨e, there, congrArg Prod.fst same⟩
    · rintro ⟨e, there, same⟩
      exact ⟨e.2.m_feature, e, there, Prod.ext same rfl⟩
  simp only [HasGroup2, Registered, exists_or, group]

instance (s : ChannelInfer alg) : Decidable (HasGroup2 s) :=
  have := List.decidableBEx (fun e : Sigma fun _ : Int => ChannelItem alg.Locator => e.2.m_group = 2)
    s.m_locators.entries
  have := List.decidableBEx (fun e : Sigma fun _ : Int => ChannelItem alg.Detector => e.2.m_group = 2)
    s.m_detectors.entries
  decidable_of_iff' _ s.hasGroup2_iff_mem

/-- A step that registers an item of some kind. -/
structure Adds (kind : Int × Int) (s s' : ChannelInfer alg) : Prop where
  kinds : ∀ other, Registered s' other ↔ Registered s other ∨ other = kind
  flag : s'.m_bGroup = if 1 < kind.1 then true else s.m_bGroup

/-- A step that registers nothing. -/
structure Keeps (s s' : ChannelInfer alg) : Prop where
  kinds : ∀ other, Registered s' other → Registered s other
  flag : s'.m_bGroup = s.m_bGroup

theorem Keeps.refl (s : ChannelInfer alg) : Keeps s s := ⟨fun _ => id, rfl⟩

section Steps

variable (s : ChannelInfer alg) (inputJson : JsonObject)

theorem addLocator_adds : (s.addLocator inputJson).2 = s ∨
    Adds (kindOf inputJson) s (s.addLocator inputJson).2 := by
  have addition := s.addLocator_cases inputJson
  generalize s.addLocator inputJson = done at addition ⊢
  cases addition with
  | known | noFactory | threw => exact .inl rfl
  | added made loaded fresh factory load =>
      refine .inr ⟨fun other => ?_, rfl⟩
      simp only [Registered, insertLocator, itemOf, holds_insert fresh, or_right_comm]
      rfl

theorem addDetector_adds : (s.addDetector inputJson).2 = s ∨
    Adds (kindOf inputJson) s (s.addDetector inputJson).2 := by
  have addition := s.addDetector_cases inputJson
  generalize s.addDetector inputJson = done at addition ⊢
  cases addition with
  | known | noFactory | noLocator | threw => exact .inl rfl
  | added made locate_point loaded fresh factory located load =>
      refine .inr ⟨fun other => ?_, rfl⟩
      simp only [Registered, insertDetector, itemOf, holds_insert fresh, or_assoc]
      rfl

theorem removeLocator_keeps : Keeps s (s.removeLocator inputJson).2 := by
  simp only [removeLocator]
  split
  next => exact ⟨fun _ => Or.imp_left of_holds_erase, rfl⟩
  next => exact .refl s

theorem removeDetector_keeps : Keeps s (s.removeDetector inputJson).2 := by
  simp only [removeDetector]
  split
  next => exact ⟨fun _ => Or.imp_right of_holds_erase, rfl⟩
  next => exact .refl s

theorem relocate_kind (channelDetector : ChannelItem alg.Detector) :
    kind (s.relocate channelDetector) = kind channelDetector := by
  simp only [relocate]
  split <;> rfl

theorem updateLocator_keeps : Keeps s (s.updateLocator inputJson).2 := by
  simp only [updateLocator]
  split
  next => exact .refl s
  next =>
      split
      next =>
          refine ⟨fun other => ?_, rfl⟩
          simp only [Registered, holds_modify, holds_mapValues fun _ => relocate_kind _]
          exact id
      next =>
          refine ⟨fun other => ?_, rfl⟩
          simp only [Registered, holds_modify]
          exact id

theorem updateDetector_keeps : Keeps s (s.updateDetector inputJson).2 := by
  simp only [updateDetector]
  split
  next => exact .refl s
  next =>
      split
      next => exact .refl s
      next =>
          refine ⟨fun other => ?_, rfl⟩
          simp only [Registered, holds_modify]
          exact id

theorem askLocator_keeps (call : BaseObject alg.Locator → Option (Bool × Bytes) × alg.Locator)
    (resultJson : JsonObject) : Keeps s (s.askLocator call inputJson resultJson).2.2 := by
  simp only [askLocator]
  split
  next => exact .refl s
  next => exact ⟨fun _ => Or.imp_left holds_modify.mp, rfl⟩

theorem askDetector_keeps
    (call : BaseObject alg.Detector → Option (Bool × Bytes) × alg.Detector)
    (resultJson : JsonObject) : Keeps s (s.askDetector call inputJson resultJson).2.2 := by
  simp only [askDetector]
  split
  next => exact .refl s
  next => exact ⟨fun _ => Or.imp_right holds_modify.mp, rfl⟩

/-- An operation registers what an addition names, or nothing. -/
theorem onOperateInfer_moves (op_type dt_type : Int) (resultJson : JsonObject)
    (fileOpens : Bool) :
    Keeps s (s.onOperateInfer op_type dt_type inputJson resultJson fileOpens).2.2 ∨
      op_type = DT_OPERATION_ADD ∧ Adds (kindOf inputJson) s
        (s.onOperateInfer op_type dt_type inputJson resultJson fileOpens).2.2 := by
  have operation := s.onOperateInfer_cases inputJson op_type dt_type resultJson fileOpens
  generalize s.onOperateInfer op_type dt_type inputJson resultJson fileOpens = done
    at operation ⊢
  cases operation with
  | addLocator op =>
      rcases s.addLocator_adds inputJson with same | adds
      · left
        rw [same]
        exact .refl s
      · exact .inr ⟨op, adds⟩
  | addDetector op =>
      rcases s.addDetector_adds inputJson with same | adds
      · left
        rw [same]
        exact .refl s
      · exact .inr ⟨op, adds⟩
  | removeLocator => exact .inl (s.removeLocator_keeps inputJson)
  | removeDetector => exact .inl (s.removeDetector_keeps inputJson)
  | updateLocator => exact .inl (s.updateLocator_keeps inputJson)
  | updateDetector => exact .inl (s.updateDetector_keeps inputJson)
  | resetLocator | execLocator => exact .inl (s.askLocator_keeps inputJson _ resultJson)
  | resetDetector | execDetector => exact .inl (s.askDetector_keeps inputJson _ resultJson)
  | updateImage | saved | refused => exact .inl (.refl s)

end Steps

/-! ## The flag `m_bGroup` -/

/-- Groups and features are 1 or 2. -/
def InRange (kind : Int × Int) : Prop := (kind.1 = 1 ∨ kind.1 = 2) ∧ (kind.2 = 1 ∨ kind.2 = 2)

instance (kind : Int × Int) : Decidable (InRange kind) := inferInstanceAs (Decidable (_ ∧ _))

/-- An event that registers items of groups 1 and 2 and features 1 and 2 only. -/
def Event.Grouped : Event → Prop
  | .initModel locators detectors =>
      (∀ json ∈ locators, InRange (kindOf json)) ∧ ∀ json ∈ detectors, InRange (kindOf json)
  | .releaseModel => True
  | .onOperateInfer op_type _ inputJson _ =>
      op_type = DT_OPERATION_ADD → InRange (kindOf inputJson)

/-- The items are in range, and the flag tells what was registered: `past`, or an item of
group 2 that is there. -/
structure Flagged (past : Prop) (s : ChannelInfer alg) : Prop where
  inRange : ∀ kind, Registered s kind → InRange kind
  flag : s.m_bGroup = true ↔ past ∨ HasGroup2 s

section Flagged

variable {past : Prop} {s s' : ChannelInfer alg}

theorem Flagged.adds {kind : Int × Int} (flagged : Flagged past s) (inRange : InRange kind)
    (adds : Adds kind s s') : Flagged past s' := by
  constructor
  · intro other registered
    rcases (adds.kinds other).mp registered with old | rfl
    · exact flagged.inRange other old
    · exact inRange
  · have second : HasGroup2 s' ↔ HasGroup2 s ∨ 1 < kind.1 := by
      constructor
      · rintro ⟨feature, registered⟩
        rcases (adds.kinds _).mp registered with old | rfl
        · exact .inl ⟨feature, old⟩
        · exact .inr one_lt_two
      · rintro (⟨feature, old⟩ | group)
        · exact ⟨feature, (adds.kinds _).mpr (.inl old)⟩
        · have two : kind.1 = 2 := by rcases inRange.1 with one | two <;> omega
          refine ⟨kind.2, (adds.kinds _).mpr (.inr ?_)⟩
          rw [← two]
    rw [adds.flag, second, ← or_assoc, ← flagged.flag]
    split
    next group => simp [group]
    next group => simp [group]

/-- What was registered may be gone after the step. -/
theorem Flagged.keeps (flagged : Flagged past s) (seen : HasGroup2 s → past)
    (keeps : Keeps s s') : Flagged past s' := by
  constructor
  · intro kind registered
    exact flagged.inRange kind (keeps.kinds kind registered)
  · have before : HasGroup2 s' → past := by
      rintro ⟨feature, registered⟩
      exact seen ⟨feature, keeps.kinds _ registered⟩
    rw [keeps.flag, flagged.flag, or_iff_left_of_imp seen, or_iff_left_of_imp before]

theorem Flagged.initModel (flagged : Flagged past s) {locators detectors : List JsonObject}
    (located : ∀ json ∈ locators, InRange (kindOf json))
    (detected : ∀ json ∈ detectors, InRange (kindOf json)) :
    Flagged past (s.initModel locators detectors) := by
  refine List.foldlRecOn _ _ (List.foldlRecOn _ _ flagged ?_) ?_
  · intro s flagged json there
    have inRange : InRange (kindOf json) := by
      rcases List.mem_cons.mp there with rfl | there
      · decide
      · exact located json there
    rcases s.addLocator_adds json with same | adds
    · rw [same]
      exact flagged
    · exact flagged.adds inRange adds
  · intro s flagged json there
    rcases s.addDetector_adds json with same | adds
    · rw [same]
      exact flagged
    · exact flagged.adds (detected json there) adds

theorem releaseModel_keeps (s : ChannelInfer alg) : Keeps s s.releaseModel := by
  refine ⟨fun kind registered => ?_, rfl⟩
  rcases registered with locator | detector
  · exact absurd locator not_holds_empty
  · exact absurd detector not_holds_empty

theorem Flagged.step (flagged : Flagged past s) (seen : HasGroup2 s → past) {e : Event}
    (grouped : e.Grouped) : Flagged past (s.step e).1 := by
  cases e with
  | initModel locators detectors => exact flagged.initModel grouped.1 grouped.2
  | releaseModel => exact flagged.keeps seen (releaseModel_keeps s)
  | onOperateInfer op_type dt_type inputJson fileOpens =>
      rcases s.onOperateInfer_moves inputJson op_type dt_type [] fileOpens with keeps | ⟨add, adds⟩
      · exact flagged.keeps seen keeps
      · exact flagged.adds (grouped add) adds

end Flagged

/-- The state of a channel after a run. -/
abbrev reached (alg : DtAlgorithms qt) (channel_id : Int) (path : Bytes) (es : List Event) :
    ChannelInfer alg :=
  Machine.final step (start alg channel_id path) es

section Runs

variable (alg) (channel_id : Int) (path : Bytes)

/-- An item of group 2 was registered at some time of the run. -/
def EverGroup2 (es : List Event) : Prop :=
  ∃ first, first <+: es ∧ HasGroup2 (reached alg channel_id path first)

theorem everGroup2_snoc (es : List Event) (e : Event) :
    EverGroup2 alg channel_id path (es ++ [e]) ↔
      EverGroup2 alg channel_id path es ∨ HasGroup2 (reached alg channel_id path (es ++ [e])) := by
  constructor
  · rintro ⟨first, here, group⟩
    rcases List.prefix_concat_iff.mp here with rfl | before
    · exact .inr group
    · exact .inl ⟨first, before, group⟩
  · rintro (⟨first, before, group⟩ | group)
    · exact ⟨first, before.trans (List.prefix_append es [e]), group⟩
    · exact ⟨es ++ [e], List.prefix_rfl, group⟩

/-- **The flag tells what was ever registered.** -/
theorem reached_flagged {es : List Event} (grouped : ∀ e ∈ es, e.Grouped) :
    Flagged (EverGroup2 alg channel_id path es) (reached alg channel_id path es) := by
  induction es using List.reverseRecOn with
  | nil =>
      have nothing (kind : Int × Int) : ¬ Registered (start alg channel_id path) kind := by
        rintro (locator | detector)
        · exact not_holds_empty locator
        · exact not_holds_empty detector
      have noGroup : ¬ HasGroup2 (start alg channel_id path) := fun ⟨_, there⟩ => nothing _ there
      constructor
      · intro kind there
        exact absurd there (nothing kind)
      · constructor
        · intro flag
          cases flag
        · rintro (⟨first, here, group⟩ | group)
          · obtain rfl := List.prefix_nil.mp here
            exact absurd group noGroup
          · exact absurd group noGroup
  | append_singleton es e ih =>
      have before := ih fun e there => grouped e (List.mem_append_left _ there)
      have after := before.step (fun group => ⟨es, List.prefix_rfl, group⟩)
        (grouped e (List.mem_append_right _ (List.mem_singleton.mpr rfl)))
      rw [← Machine.final_snoc] at after
      refine ⟨after.inRange, ?_⟩
      rw [after.flag, everGroup2_snoc, or_assoc, or_self]

end Runs

/-! ## What the verdict should be -/

/-- The items of a group, or of a feature of it, all pass. -/
def Passes (s : ChannelInfer alg) (outcomes : Outcomes) (counts : Int × Int → Prop) : Prop :=
  (∀ id item, s.m_locators.lookup id = some item → counts (kind item) →
    (outcomes.locate id).m_result = true) ∧
  ∀ id item, s.m_detectors.lookup id = some item → counts (kind item) → outcomes.passes id = true

def GroupPasses (s : ChannelInfer alg) (outcomes : Outcomes) (group : Int) : Prop :=
  Passes s outcomes fun kind => kind.1 = group

/-- The feature items of group 1 all pass. -/
def FeaturesPass (s : ChannelInfer alg) (outcomes : Outcomes) : Prop :=
  Passes s outcomes fun kind => kind = (1, 1)

/-- The result is OK when something holds, and NG when it does not. -/
def Verdict (result : Int) (fine : Prop) : Prop :=
  fine ∧ result = RESULT_OK ∨ ¬ fine ∧ result = RESULT_NG

/-- The answer for a picture follows the items that are registered: group 1 decides when its
feature items pass or there is no group 2, and group 2 decides otherwise. -/
def Follows (s : ChannelInfer alg) (outcomes : Outcomes) (result : Int) : Prop :=
  (FeaturesPass s outcomes ∨ ¬ HasGroup2 s → Verdict result (GroupPasses s outcomes 1)) ∧
  (¬ (FeaturesPass s outcomes ∨ ¬ HasGroup2 s) → Verdict result (GroupPasses s outcomes 2))

section Follows

variable {s : ChannelInfer alg} {outcomes : Outcomes}

theorem chosen_all {α : Type} {items : Hash Int (ChannelItem α)} {group feature : Nat}
    (passes : Int → Bool) :
    (chosen items group feature).all (fun e => passes e.1) = true ↔
      ∀ id item, items.lookup id = some item → kind item = ((group : Int) + 1, (feature : Int) + 1) →
        passes id = true := by
  simp only [List.all_eq_true, chosen, List.mem_filter, decide_eq_true_eq, Sigma.forall, and_imp]
  constructor
  · intro all id item found same
    obtain ⟨group, feature⟩ := Prod.mk.inj same
    exact all id item (AList.mem_lookup_iff.mp found) group feature
  · intro all id item there group feature
    exact all id item (AList.mem_lookup_iff.mpr there) (Prod.mk.injEq .. ▸ ⟨group, feature⟩)

theorem stagePasses_iff {group feature : Nat} : s.stagePasses outcomes group feature = true ↔
    Passes s outcomes fun kind => kind = ((group : Int) + 1, (feature : Int) + 1) := by
  rw [stagePasses, Bool.and_eq_true, chosen_all fun id => (outcomes.locate id).m_result,
    chosen_all outcomes.passes]
  rfl

theorem groupPasses_iff {past : Prop} (flagged : Flagged past s) (group : Nat) :
    GroupPasses s outcomes (group + 1) ↔
      s.stagePasses outcomes group 0 = true ∧ s.stagePasses outcomes group 1 = true := by
  rw [stagePasses_iff, stagePasses_iff]
  constructor
  · rintro ⟨locators, detectors⟩
    constructor <;> constructor
    · intro id item found same
      exact locators id item found (congrArg Prod.fst same)
    · intro id item found same
      exact detectors id item found (congrArg Prod.fst same)
    · intro id item found same
      exact locators id item found (congrArg Prod.fst same)
    · intro id item found same
      exact detectors id item found (congrArg Prod.fst same)
  · rintro ⟨features, others⟩
    have split (kind : Int × Int) (inRange : InRange kind) (here : kind.1 = group + 1) :
        kind = ((group : Int) + 1, ((0 : Nat) : Int) + 1) ∨
          kind = ((group : Int) + 1, ((1 : Nat) : Int) + 1) := by
      rcases inRange.2 with one | two
      · exact .inl (Prod.ext here one)
      · exact .inr (Prod.ext here two)
    constructor
    · intro id item found here
      rcases split _ (flagged.inRange _ (.inl ⟨id, item, found, rfl⟩)) here with same | same
      · exact features.1 id item found same
      · exact others.1 id item found same
    · intro id item found here
      rcases split _ (flagged.inRange _ (.inr ⟨id, item, found, rfl⟩)) here with same | same
      · exact features.2 id item found same
      · exact others.2 id item found same

/-- Without items of a kind there is nothing to fail. -/
theorem passes_of_none {counts : Int × Int → Prop}
    (none : ∀ kind, counts kind → ¬ Registered s kind) : Passes s outcomes counts := by
  constructor
  · intro id item found here
    exact absurd (.inl ⟨id, item, found, rfl⟩) (none _ here)
  · intro id item found here
    exact absurd (.inr ⟨id, item, found, rfl⟩) (none _ here)

/-- The assignment under which every item fails. -/
def allFail : Outcomes where
  locate _ := { BaseDTResult.start with m_result := false }
  detect _ _ := { BaseDTResult.start with m_result := false }
  passes _ := false
  detect_passes _ _ := rfl

theorem not_passes_allFail {kind : Int × Int} (there : Registered s kind)
    {counts : Int × Int → Prop} (here : counts kind) : ¬ Passes s allFail counts := by
  rintro ⟨locators, detectors⟩
  rcases there with ⟨id, item, found, rfl⟩ | ⟨id, item, found, rfl⟩
  · cases locators id item found here
  · cases detectors id item found here

theorem verdict_of_ok_iff {imageData : ImageData} {fine : Prop}
    (ok : (s.inferImage outcomes.toAnswers imageData).result = RESULT_OK ↔ fine) :
    Verdict (s.inferImage outcomes.toAnswers imageData).result fine := by
  rcases inferImage_result s outcomes.toAnswers imageData with fine | bad
  · exact .inl ⟨ok.mp fine, fine⟩
  · refine .inr ⟨fun fine => ?_, bad⟩
    rw [ok.mpr fine] at bad
    exact absurd bad (by decide)

theorem featuresPass_iff : FeaturesPass s outcomes ↔ s.stagePasses outcomes 0 0 = true := by
  rw [stagePasses_iff]
  rfl

/-- The verdict follows the items exactly when the flag does not stand for a group 2 that is
gone while a feature item of group 1 is there. -/
theorem follows_state_iff {past : Prop} (flagged : Flagged past s) :
    (∀ outcomes imageData,
        Follows s outcomes (s.inferImage outcomes.toAnswers imageData).result) ↔
      (past → HasGroup2 s ∨ ¬ Registered s (1, 1)) := by
  constructor
  · intro follows before
    by_contra! wrong
    obtain ⟨noGroup, feature⟩ := wrong
    have imageData : ImageData := ⟨0, false, false, 0, 0, ⟨0, 0, 0, []⟩, 0⟩
    have flag : s.m_bGroup = true := flagged.flag.mpr (.inl before)
    have fails : ¬ s.stagePasses allFail 0 0 = true := by
      rw [← featuresPass_iff]
      exact not_passes_allFail feature rfl
    have fine : (s.inferImage allFail.toAnswers imageData).result = RESULT_OK := by
      rw [inferImage_ok_iff, if_neg (by simp [fails, flag]), ← groupPasses_iff flagged]
      apply passes_of_none
      rintro ⟨group, item⟩ rfl there
      exact noGroup ⟨item, there⟩
    have failed : ¬ GroupPasses s allFail 1 := not_passes_allFail feature rfl
    rcases (follows allFail imageData).1 (.inr noGroup) with ⟨passes, -⟩ | ⟨-, bad⟩
    · exact failed passes
    · rw [fine] at bad
      exact absurd bad (by decide)
  · intro holds outcomes imageData
    constructor
    · intro first
      apply verdict_of_ok_iff
      have decides : s.stagePasses outcomes 0 0 = true ∨ s.m_bGroup = false := by
        by_contra! second
        obtain ⟨fails, flag⟩ := second
        rw [ne_eq, ← featuresPass_iff] at fails
        have noGroup := first.resolve_left fails
        have before := (flagged.flag.mp (by simpa using flag)).resolve_right noGroup
        have noFeature := (holds before).resolve_left noGroup
        exact fails (passes_of_none fun kind here => here ▸ noFeature)
      rw [inferImage_ok_iff, if_pos decides, ← groupPasses_iff flagged]
      rfl
    · intro second
      apply verdict_of_ok_iff
      have fails : ¬ s.stagePasses outcomes 0 0 = true := by
        rw [← featuresPass_iff]
        exact fun features => second (.inl features)
      have group : HasGroup2 s := by
        by_contra noGroup
        exact second (.inr noGroup)
      have flag : s.m_bGroup = true := flagged.flag.mpr (.inr group)
      rw [inferImage_ok_iff, if_neg (by simp [fails, flag]), ← groupPasses_iff flagged]
      rfl

/-- **The verdict of a channel.** -/
theorem follows_iff (alg : DtAlgorithms qt) (channel_id : Int) (path : Bytes) (es : List Event)
    (grouped : ∀ e ∈ es, e.Grouped) :
    (∀ outcomes imageData, Follows (reached alg channel_id path es) outcomes
        ((reached alg channel_id path es).inferImage outcomes.toAnswers imageData).result) ↔
      (EverGroup2 alg channel_id path es →
        HasGroup2 (reached alg channel_id path es) ∨
          ¬ Registered (reached alg channel_id path es) (1, 1)) :=
  follows_state_iff (reached_flagged alg channel_id path grouped)

/-! A group 2 that comes and goes leaves its mark: afterwards a feature item of group 1 may fail
and the picture is still OK. -/

/-- A configuration of an item. -/
def itemJson (id group feature : Int) : JsonObject :=
  [(utf8 "id", int id), (utf8 "group", int group), (utf8 "is_feature", int feature)]

/-- A locator of group 2 and a feature detector of group 1. -/
def twoGroups : List Event :=
  [.initModel [] [], .onOperateInfer DT_OPERATION_ADD DT_TYPE_LOCATOR (itemJson 5 2 2) true,
   .onOperateInfer DT_OPERATION_ADD DT_TYPE_DETECTOR (itemJson 1 1 1) true]

/-- The locator is deleted again. -/
def groupGone : List Event :=
  twoGroups ++ [.onOperateInfer DT_OPERATION_DEL DT_TYPE_LOCATOR (itemJson 5 2 2) true]

abbrev plain : DtAlgorithms QtJson.reference := .reference QtJson.reference fun _ => false

theorem twoGroups_grouped : ∀ e ∈ twoGroups, e.Grouped := by
  simp only [twoGroups, List.forall_mem_cons]
  exact ⟨⟨nofun, nofun⟩, fun _ => by decide, fun _ => by decide, nofun⟩

theorem twoGroups_follows : HasGroup2 (reached plain 1 [] twoGroups) ∧
    ∀ outcomes imageData, Follows (reached plain 1 [] twoGroups) outcomes
      ((reached plain 1 [] twoGroups).inferImage outcomes.toAnswers imageData).result := by
  have group : HasGroup2 (reached plain 1 [] twoGroups) := by decide
  exact ⟨group, (follows_iff plain 1 [] twoGroups twoGroups_grouped).mpr fun _ => .inl group⟩

/-- With no item of group 2 registered, a picture that fails the only check of group 1 is OK. -/
theorem groupGone_ok : (∀ e ∈ groupGone, e.Grouped) ∧
    ¬ HasGroup2 (reached plain 1 [] groupGone) ∧ ∀ imageData,
      let result := ((reached plain 1 [] groupGone).inferImage allFail.toAnswers imageData).result
      result = RESULT_OK ∧ ¬ Follows (reached plain 1 [] groupGone) allFail result := by
  have grouped : ∀ e ∈ groupGone, e.Grouped := by
    intro e there
    rcases List.mem_append.mp there with there | there
    · exact twoGroups_grouped e there
    · rw [List.mem_singleton.mp there]
      exact nofun
  have noGroup : ¬ HasGroup2 (reached plain 1 [] groupGone) := by decide
  have feature : Registered (reached plain 1 [] groupGone) (1, 1) := by decide
  refine ⟨grouped, noGroup, fun imageData => ?_⟩
  have fine : ((reached plain 1 [] groupGone).inferImage allFail.toAnswers imageData).result
      = RESULT_OK := by
    rw [inferImage_ok_iff]
    decide
  have failed : ¬ GroupPasses (reached plain 1 [] groupGone) allFail 1 :=
    not_passes_allFail feature rfl
  refine ⟨fine, fun follows => ?_⟩
  rcases follows.1 (.inr noGroup) with ⟨passes, -⟩ | ⟨-, bad⟩
  · exact failed passes
  · rw [fine] at bad
    exact absurd bad (by decide)

end Follows

end ChannelInfer

end IsgConsole.IasAgent
