/-
# IasAgent.ImageGroup — pictures of one object, handed to an inference together

`ImageGroup` gathers the pictures of an object and emits them as one group: when the
pictures of all online cameras are there, at once when there is nothing to wait for, or when
the group has waited too long.

`conserved_run` is the balance: the pictures received are those of the waiting groups and of
the emitted ones.  `onImageGroup_answers` takes it on to `BatchInfer`, which emits one result
for each picture of a group.

The loop over the groups takes them in the iteration order of the hash, which Qt leaves
open: the order is part of the event.
-/
import IsgConsole.BaseLib.EngineProject
import IsgConsole.IasAgent.BatchInfer
import IsgConsole.IasCore.PatchCoreInference
import IsgConsole.Theory.Loop
import IsgConsole.Theory.Machine

namespace IsgConsole.IasAgent

open IsgConsole.Theory IsgConsole.BaseLib IsgConsole.Inspector IsgConsole.IasCore
open scoped List

set_option autoImplicit false

/-! ## The model -/

/-- `IMAGE_DATA` with its picture as the inferences read it. -/
structure CvImageData extends ImageData where
  imageDataCV : Mat

structure ImageGroup where
  m_Batch : Bool
  m_groupHash : Hash UInt64 ImageGroupData

namespace ImageGroup

/-- `ImageGroup` as it is set up. -/
def start (m_Batch : Bool) : ImageGroup := { m_Batch := m_Batch, m_groupHash := ∅ }

/-- The group with one more picture. -/
def pushBack (imageGroupData : ImageGroupData) (imageData : CvImageData) : ImageGroupData :=
  { imageGroupData with
    cameraIdVector := imageGroupData.cameraIdVector ++ [imageData.cameraId]
    imageIdVector := imageGroupData.imageIdVector ++ [imageData.imageId]
    imageDataVector := imageGroupData.imageDataVector ++ [imageData.imageDataCV] }

/-- A group without a picture. -/
def newGroup (objectId : UInt64) (now : Int) : ImageGroupData :=
  { objectId := objectId, cameraIdVector := [], imageIdVector := [], imageDataVector := [],
    genTimeStamp := now }

/-- `ImageGroup::onImageData`, and the groups it emits. -/
def onImageData (s : ImageGroup) (imageData : CvImageData) (cameraCount : Int)
    (runType : RunTypeEnum) (now : Int) : ImageGroup × List ImageGroupData :=
  match s.m_groupHash.lookup imageData.objectId with
  | some imageGroupData =>
      let imageGroupData := pushBack imageGroupData imageData
      let m_groupHash := s.m_groupHash.insert imageData.objectId imageGroupData
      if runType = .RunType_Infer ∧ cameraCount ≤ imageGroupData.imageIdVector.length then
        ({ s with m_groupHash := m_groupHash.erase imageData.objectId }, [imageGroupData])
      else ({ s with m_groupHash := m_groupHash }, [])
  | none =>
      let imageGroupData := pushBack (newGroup imageData.objectId now) imageData
      if ¬ s.m_Batch ∨ cameraCount ≤ 1 ∨ runType = .RunType_Spot then (s, [imageGroupData])
      else
        ({ s with m_groupHash := s.m_groupHash.insert imageData.objectId imageGroupData }, [])

/-- A turn of the loop of `onTimeout`. -/
def expire (nowTime imageMaxInterval : Int) (r : ImageGroup × List ImageGroupData)
    (objectId : UInt64) : ImageGroup × List ImageGroupData :=
  match r.1.m_groupHash.lookup objectId with
  | some item =>
      if imageMaxInterval ≤ nowTime - item.genTimeStamp then
        ({ r.1 with m_groupHash := r.1.m_groupHash.erase objectId }, r.2 ++ [item])
      else r
  | none => r

/-- `ImageGroup::onTimeout`, and the groups it emits. -/
def onTimeout (s : ImageGroup) (nowTime imageMaxInterval : Int) (order : List UInt64) :
    ImageGroup × List ImageGroupData :=
  order.foldl (expire nowTime imageMaxInterval) (s, [])

/-- A signal `ImageGroup` serves. -/
inductive Event where
  | onImageData (imageData : CvImageData) (cameraCount : Int) (runType : RunTypeEnum) (now : Int)
  | onTimeout (nowTime imageMaxInterval : Int) (order : List UInt64)

def step (s : ImageGroup) : Event → ImageGroup × List ImageGroupData
  | .onImageData imageData cameraCount runType now =>
      s.onImageData imageData cameraCount runType now
  | .onTimeout nowTime imageMaxInterval order => s.onTimeout nowTime imageMaxInterval order

/-! ## Pictures in groups -/

/-- What a group keeps of a picture. -/
structure Member where
  objectId : UInt64
  cameraId : UInt32
  imageId : UInt64
  imageDataCV : Mat

def member (imageData : CvImageData) : Member :=
  { objectId := imageData.objectId, cameraId := imageData.cameraId, imageId := imageData.imageId,
    imageDataCV := imageData.imageDataCV }

/-- The vectors of a group have an entry for each picture. -/
structure Aligned (imageGroup : ImageGroupData) : Prop where
  imageIds : imageGroup.imageIdVector.length = imageGroup.cameraIdVector.length
  images : imageGroup.imageDataVector.length = imageGroup.cameraIdVector.length

/-- The pictures of a group, read off its vectors. -/
def members (imageGroup : ImageGroupData) : List Member :=
  (imageGroup.cameraIdVector.zip
      (imageGroup.imageIdVector.zip imageGroup.imageDataVector)).map fun entry =>
    { objectId := imageGroup.objectId, cameraId := entry.1, imageId := entry.2.1,
      imageDataCV := entry.2.2 }

/-- The pictures of the groups that wait. -/
def waiting (s : ImageGroup) : List Member :=
  s.m_groupHash.entries.flatMap fun item => members item.2

/-- The pictures of groups that have been emitted. -/
def sent (imageGroups : List ImageGroupData) : List Member := imageGroups.flatMap members

/-- The picture an event brings. -/
def Event.received : Event → Option Member
  | .onImageData imageData _ _ _ => some (member imageData)
  | .onTimeout _ _ _ => none

/-- Every stored group is aligned and under its object id. -/
def Filed (s : ImageGroup) : Prop :=
  ∀ objectId imageGroup, s.m_groupHash.lookup objectId = some imageGroup →
    imageGroup.objectId = objectId ∧ Aligned imageGroup

theorem pushBack_aligned {imageGroupData : ImageGroupData} (aligned : Aligned imageGroupData)
    (imageData : CvImageData) : Aligned (pushBack imageGroupData imageData) := by
  constructor
  · simp [pushBack, aligned.imageIds]
  · simp [pushBack, aligned.images]

theorem newGroup_aligned (objectId : UInt64) (now : Int) : Aligned (newGroup objectId now) :=
  ⟨rfl, rfl⟩

/-- A picture of its object becomes the last of the group. -/
theorem members_pushBack {imageGroupData : ImageGroupData} (aligned : Aligned imageGroupData)
    {imageData : CvImageData} (own : imageGroupData.objectId = imageData.objectId) :
    members (pushBack imageGroupData imageData) = members imageGroupData ++ [member imageData] := by
  unfold members pushBack
  dsimp only
  rw [List.zip_append (aligned.imageIds.trans aligned.images.symm),
    List.zip_append (by simp [aligned.imageIds, aligned.images]), List.map_append, own]
  rfl

/-! ## One step -/

theorem waiting_insert (s : ImageGroup) (objectId : UInt64) (imageGroup : ImageGroupData) :
    waiting { s with m_groupHash := s.m_groupHash.insert objectId imageGroup } =
      members imageGroup ++ waiting { s with m_groupHash := s.m_groupHash.erase objectId } := by
  unfold waiting
  dsimp only
  rw [AList.entries_insert, List.flatMap_cons]
  rfl

/-- The pictures that wait are those of one group and of the others. -/
theorem waiting_perm {s : ImageGroup} {objectId : UInt64} {imageGroup : ImageGroupData}
    (held : s.m_groupHash.lookup objectId = some imageGroup) :
    waiting s ~
      members imageGroup ++ waiting { s with m_groupHash := s.m_groupHash.erase objectId } :=
  (Hash.entries_perm held).flatMap_right _

theorem Filed.insert {s : ImageGroup} (filed : Filed s) {objectId : UInt64}
    {imageGroup : ImageGroupData} (own : imageGroup.objectId = objectId)
    (aligned : Aligned imageGroup) :
    Filed { s with m_groupHash := s.m_groupHash.insert objectId imageGroup } := by
  intro other stored held
  rcases Hash.of_lookup_insert held with ⟨rfl, rfl⟩ | ⟨-, old⟩
  · exact ⟨own, aligned⟩
  · exact filed other stored old

theorem Filed.erase {s : ImageGroup} (filed : Filed s) (objectId : UInt64) :
    Filed { s with m_groupHash := s.m_groupHash.erase objectId } := by
  intro other stored held
  exact filed other stored (Hash.of_lookup_erase held).2

/-- What a step makes of the pictures that wait and the one that comes. -/
structure Conserves (s : ImageGroup) (arrived : List Member)
    (r : ImageGroup × List ImageGroupData) : Prop where
  balance : waiting s ++ arrived ~ waiting r.1 ++ sent r.2
  filed : Filed r.1
  aligned : ∀ imageGroup ∈ r.2, Aligned imageGroup

theorem sent_single (imageGroup : ImageGroupData) : sent [imageGroup] = members imageGroup :=
  List.append_nil _

/-- A picture of a waiting group leaves with the group or waits in it. -/
theorem joins_conserves {s : ImageGroup} (filed : Filed s) {imageData : CvImageData}
    {imageGroupData : ImageGroupData}
    (held : s.m_groupHash.lookup imageData.objectId = some imageGroupData) :
    Conserves s [member imageData]
        ({ s with m_groupHash := s.m_groupHash.erase imageData.objectId },
          [pushBack imageGroupData imageData]) ∧
      Conserves s [member imageData]
        ({ s with
            m_groupHash := s.m_groupHash.insert imageData.objectId
              (pushBack imageGroupData imageData) }, []) := by
  obtain ⟨own, aligned⟩ := filed _ _ held
  have pushed := pushBack_aligned aligned imageData
  let others := waiting { s with m_groupHash := s.m_groupHash.erase imageData.objectId }
  have balance : waiting s ++ [member imageData] ~
      members (pushBack imageGroupData imageData) ++ others :=
    calc waiting s ++ [member imageData]
      _ ~ members imageGroupData ++ others ++ [member imageData] :=
          (waiting_perm held).append_right _
      _ ~ members imageGroupData ++ ([member imageData] ++ others) := by
          rw [List.append_assoc]
          exact List.perm_append_comm.append_left _
      _ = members (pushBack imageGroupData imageData) ++ others := by
          rw [members_pushBack aligned own, List.append_assoc]
  constructor
  · refine ⟨?_, filed.erase _, ?_⟩
    · rw [sent_single]
      exact balance.trans List.perm_append_comm
    · intro imageGroup emitted
      obtain rfl := List.mem_singleton.mp emitted
      exact pushed
  · refine ⟨?_, filed.insert own pushed, nofun⟩
    show waiting s ++ [member imageData] ~ waiting { s with m_groupHash := _ } ++ []
    rw [waiting_insert, List.append_nil]
    exact balance

/-- A picture of no waiting group is emitted at once or starts a group. -/
theorem starts_conserves {s : ImageGroup} (filed : Filed s) {imageData : CvImageData}
    (now : Int) (absent : s.m_groupHash.lookup imageData.objectId = none) :
    Conserves s [member imageData]
        (s, [pushBack (newGroup imageData.objectId now) imageData]) ∧
      Conserves s [member imageData]
        ({ s with
            m_groupHash := s.m_groupHash.insert imageData.objectId
              (pushBack (newGroup imageData.objectId now) imageData) }, []) := by
  have pushed := pushBack_aligned (newGroup_aligned imageData.objectId now) imageData
  have only : members (pushBack (newGroup imageData.objectId now) imageData) =
      [member imageData] :=
    members_pushBack (newGroup_aligned imageData.objectId now) rfl
  constructor
  · refine ⟨?_, filed, ?_⟩
    · rw [sent_single, only]
    · intro imageGroup emitted
      obtain rfl := List.mem_singleton.mp emitted
      exact pushed
  · refine ⟨?_, filed.insert rfl pushed, nofun⟩
    show waiting s ++ [member imageData] ~ waiting { s with m_groupHash := _ } ++ []
    rw [waiting_insert, only, List.append_nil,
      Hash.erase_of_not_mem (AList.lookup_eq_none.mp absent)]
    exact List.perm_append_comm

theorem onImageData_conserves {s : ImageGroup} (filed : Filed s) (imageData : CvImageData)
    (cameraCount : Int) (runType : RunTypeEnum) (now : Int) :
    Conserves s [member imageData] (s.onImageData imageData cameraCount runType now) := by
  unfold onImageData
  cases held : s.m_groupHash.lookup imageData.objectId with
  | some imageGroupData =>
      obtain ⟨leaves, stays⟩ := joins_conserves filed held
      dsimp only
      rw [Hash.erase_insert_self]
      split
      · exact leaves
      · exact stays
  | none =>
      obtain ⟨leaves, stays⟩ := starts_conserves filed now held
      dsimp only
      split
      · exact leaves
      · exact stays

/-- A turn of `onTimeout` moves a group from those that wait to the emitted ones. -/
theorem expire_conserves {s : ImageGroup} {r : ImageGroup × List ImageGroupData}
    (conserves : Conserves s [] r) (nowTime imageMaxInterval : Int) (objectId : UInt64) :
    Conserves s [] (expire nowTime imageMaxInterval r objectId) := by
  unfold expire
  cases held : r.1.m_groupHash.lookup objectId with
  | none => exact conserves
  | some item =>
      dsimp only
      split
      · refine ⟨?_, conserves.filed.erase _, ?_⟩
        · let others := waiting { r.1 with m_groupHash := r.1.m_groupHash.erase objectId }
          calc waiting s ++ []
            _ ~ waiting r.1 ++ sent r.2 := conserves.balance
            _ ~ members item ++ others ++ sent r.2 := (waiting_perm held).append_right _
            _ ~ others ++ sent r.2 ++ members item := by
                rw [List.append_assoc]
                exact List.perm_append_comm
            _ = others ++ sent (r.2 ++ [item]) := by
                rw [sent, sent, List.flatMap_append, List.append_assoc, List.flatMap_singleton]
        · intro imageGroup emitted
          rcases List.mem_append.mp emitted with before | now
          · exact conserves.aligned _ before
          · obtain rfl := List.mem_singleton.mp now
            exact (conserves.filed _ _ held).2
      · exact conserves

theorem onTimeout_conserves {s : ImageGroup} (filed : Filed s)
    (nowTime imageMaxInterval : Int) (order : List UInt64) :
    Conserves s [] (s.onTimeout nowTime imageMaxInterval order) := by
  refine Loop.foldl_keeps (P := fun r => Conserves s [] r) ?_ ?_
  · intro r objectId conserves
    exact expire_conserves conserves nowTime imageMaxInterval objectId
  · exact ⟨.refl _, filed, nofun⟩

theorem step_conserves {s : ImageGroup} (filed : Filed s) (e : Event) :
    Conserves s e.received.toList (step s e) := by
  cases e with
  | onImageData imageData cameraCount runType now =>
      exact onImageData_conserves filed imageData cameraCount runType now
  | onTimeout nowTime imageMaxInterval order =>
      exact onTimeout_conserves filed nowTime imageMaxInterval order

/-! ## A run -/

section Run

variable (m_Batch : Bool)

/-- The state after a run from the start. -/
abbrev after (events : List Event) : ImageGroup := Machine.final step (start m_Batch) events

/-- The groups a run emits. -/
abbrev emitted (events : List Event) : List ImageGroupData :=
  Machine.outputs step (start m_Batch) events

/-- The pictures a run receives. -/
def received (events : List Event) : List Member := events.filterMap Event.received

/-- Every picture received is in a waiting group or an emitted one, and in one only. -/
structure Conserved (events : List Event) : Prop where
  once : received events ~ waiting (after m_Batch events) ++ sent (emitted m_Batch events)
  filed : Filed (after m_Batch events)
  aligned : ∀ imageGroup ∈ emitted m_Batch events, Aligned imageGroup

theorem conserved_run (events : List Event) : Conserved m_Batch events := by
  induction events using List.reverseRecOn with
  | nil => exact ⟨.refl _, nofun, nofun⟩
  | append_singleton events e ih =>
      have one := step_conserves ih.filed e
      have last : after m_Batch (events ++ [e]) = (step (after m_Batch events) e).1 :=
        Machine.final_snoc step (start m_Batch) events e
      have more : emitted m_Batch (events ++ [e]) =
          emitted m_Batch events ++ (step (after m_Batch events) e).2 :=
        Machine.outputs_snoc step (start m_Batch) events e
      constructor
      case once =>
        rw [last, more, received, Machine.observe_snoc, sent, List.flatMap_append]
        let old := sent (emitted m_Batch events)
        let r := step (after m_Batch events) e
        calc received events ++ e.received.toList
          _ ~ waiting (after m_Batch events) ++ old ++ e.received.toList := ih.once.append_right _
          _ ~ old ++ waiting (after m_Batch events) ++ e.received.toList :=
              List.perm_append_comm.append_right _
          _ ~ old ++ (waiting r.1 ++ sent r.2) := by
              rw [List.append_assoc]
              exact one.balance.append_left _
          _ ~ waiting r.1 ++ (old ++ sent r.2) := by
              rw [← List.append_assoc, ← List.append_assoc]
              exact List.perm_append_comm.append_right _
      case filed =>
        rw [last]
        exact one.filed
      case aligned =>
        rw [more]
        intro imageGroup there
        rcases List.mem_append.mp there with before | now
        · exact ih.aligned _ before
        · exact one.aligned _ now

end Run

/-! ## Through the inference -/

/-- The result is for the picture. -/
structure Answers (picture : Member) (iasResult : ImageIasResult) : Prop where
  objectId : iasResult.objectId = picture.objectId
  cameraId : iasResult.cameraId = picture.cameraId
  imageId : iasResult.imageId = picture.imageId

/-- An inference returns one result for each id of the group it is handed. -/
def OneResultPerId (infer : List Int → List Mat → Option (List BaseAIResult))
    (imageGroup : ImageGroupData) : Prop :=
  let ids := imageGroup.cameraIdVector.map fun id => id.toInt32.toInt
  ∃ results, infer ids imageGroup.imageDataVector = some results ∧ results.length = ids.length

/-- A loop over the pictures of a group that returns the right ids answers them. -/
theorem answers_of_loop {imageGroup : ImageGroupData} (aligned : Aligned imageGroup)
    {f : UInt32 × Nat → Option ImageIasResult}
    (turn : ∀ cameraId i imageId, imageGroup.imageIdVector[i]? = some imageId →
      ∃ result, f (cameraId, i) = some result ∧ result.objectId = imageGroup.objectId ∧
        result.cameraId = cameraId ∧ result.imageId = imageId) :
    ∃ results, imageGroup.cameraIdVector.zipIdx.mapM f = some results ∧
      List.Forall₂ Answers (members imageGroup) results := by
  have each : ∀ p ∈ imageGroup.cameraIdVector.zipIdx, ∃ result, f p = some result ∧
      (result.objectId = imageGroup.objectId ∧ result.cameraId = p.1 ∧
        imageGroup.imageIdVector[p.2]? = some result.imageId) := by
    rintro ⟨cameraId, i⟩ there
    have inside : i < imageGroup.imageIdVector.length := by
      rw [aligned.imageIds]
      exact List.snd_lt_of_mem_zipIdx there
    obtain ⟨result, ran, own, camera, image⟩ :=
      turn cameraId i _ (List.getElem?_eq_getElem inside)
    exact ⟨result, ran, own, camera, by rw [image, List.getElem?_eq_getElem inside]⟩
  obtain ⟨results, ran, answered⟩ := Loop.mapM_exists each
  refine ⟨results, ran, ?_⟩
  rw [List.forall₂_iff_get] at answered ⊢
  obtain ⟨same, answered⟩ := answered
  rw [List.length_zipIdx] at same
  have long : (members imageGroup).length = imageGroup.cameraIdVector.length := by
    simp [members, aligned.imageIds, aligned.images]
  refine ⟨long.trans same, ?_⟩
  intro i first second
  obtain ⟨own, camera, image⟩ := answered i (by rw [List.length_zipIdx, same]; exact second) second
  have bound : i < imageGroup.cameraIdVector.length := by
    rw [same]
    exact second
  have bound' : i < imageGroup.imageIdVector.length := by
    rw [aligned.imageIds]
    exact bound
  simp only [List.get_eq_getElem, List.getElem_zipIdx, Nat.zero_add] at own camera image ⊢
  rw [List.getElem?_eq_getElem bound'] at image
  constructor
  · simpa [members] using own
  · simpa [members] using camera
  · simpa [members] using (Option.some.inj image).symm

theorem resultVectorToByteArray_some (qt : QtJson) (ids : List Int) (results : List BaseAIResult)
    (same : results.length = ids.length) :
    ∃ byteArrayVector, BatchInfer.resultVectorToByteArray qt ids results = some byteArrayVector ∧
      byteArrayVector.length = ids.length := by
  have each : ∀ p ∈ ids.zipIdx, ∃ json, (do
      let baseResult ← results[p.2]?
      return qt.toJson .Compact (.object (BatchInfer.resultJson qt p.1 baseResult))) =
        some json ∧ True := by
    rintro ⟨id, i⟩ there
    have inside : i < results.length := by
      rw [same]
      exact List.snd_lt_of_mem_zipIdx there
    exact ⟨_, by rw [List.getElem?_eq_getElem inside]; rfl, trivial⟩
  obtain ⟨byteArrayVector, ran, all⟩ := Loop.mapM_exists each
  refine ⟨byteArrayVector, ran, ?_⟩
  rw [← all.length_eq, List.length_zipIdx]

/-- The loop over the cameras copies the pictures. -/
theorem imageDataVector_copied {imageGroup : ImageGroupData} (aligned : Aligned imageGroup) :
    (imageGroup.cameraIdVector.zipIdx.mapM fun p => imageGroup.imageDataVector[p.2]?) =
      some imageGroup.imageDataVector := by
  have pictures : ∀ p ∈ imageGroup.cameraIdVector.zipIdx, ∃ image,
      imageGroup.imageDataVector[p.2]? = some image ∧
        imageGroup.imageDataVector[p.2]? = some image := by
    rintro ⟨id, i⟩ there
    have inside : i < imageGroup.imageDataVector.length := by
      rw [aligned.images]
      exact List.snd_lt_of_mem_zipIdx there
    exact ⟨_, List.getElem?_eq_getElem inside, List.getElem?_eq_getElem inside⟩
  obtain ⟨copied, read, all⟩ := Loop.mapM_exists pictures
  rw [List.forall₂_iff_get] at all
  obtain ⟨long, each⟩ := all
  rw [List.length_zipIdx] at long
  have same : copied = imageGroup.imageDataVector := by
    refine List.ext_getElem (long.symm.trans aligned.images.symm) fun i first second => ?_
    have this := each i (by rw [List.length_zipIdx, long]; exact first) first
    simp only [List.get_eq_getElem, List.getElem_zipIdx, Nat.zero_add] at this
    rw [List.getElem?_eq_getElem second] at this
    exact (Option.some.inj this).symm
  rw [read, same]

/-- `BatchInfer` emits one result for each picture of a group, loaded or not. -/
theorem onImageGroup_answers (self : BatchInfer) (qt : QtJson) {imageGroup : ImageGroupData}
    (one : self.m_bInitOK = true → OneResultPerId self.m_aiInference imageGroup)
    (aligned : Aligned imageGroup) :
    ∃ results, self.onImageGroup qt imageGroup = some results ∧
      List.Forall₂ Answers (members imageGroup) results := by
  unfold BatchInfer.onImageGroup
  by_cases loaded : self.m_bInitOK
  · let ids := imageGroup.cameraIdVector.map fun id => id.toInt32.toInt
    have long : ids.length = imageGroup.cameraIdVector.length := List.length_map _
    obtain ⟨resultVector, inferred, results⟩ := one loaded
    obtain ⟨byteArrayVector, wrapped, texts⟩ :=
      resultVectorToByteArray_some qt ids resultVector results
    simp only [loaded]
    have emits := answers_of_loop aligned (f := fun p => do
      let result ← resultVector[p.2]?
      let jsonData ← byteArrayVector[p.2]?
      let imageId ← imageGroup.imageIdVector[p.2]?
      return { objectId := imageGroup.objectId, cameraId := p.1, imageId := imageId
               iasType := IAS_AI, channelID := self.m_channelID
               result := if result.m_result then RESULT_OK else RESULT_NG
               jsonData := jsonData }) (by
      intro cameraId i imageId held
      have inside := (List.getElem?_eq_some_iff.mp held).1
      rw [aligned.imageIds, ← long] at inside
      rw [held, List.getElem?_eq_getElem (results ▸ inside),
        List.getElem?_eq_getElem (texts ▸ inside)]
      exact ⟨_, rfl, rfl, rfl, rfl⟩)
    obtain ⟨emitted, ran, answered⟩ := emits
    refine ⟨emitted, ?_, answered⟩
    rw [if_neg (by simp), imageDataVector_copied aligned]
    show (self.m_aiInference ids imageGroup.imageDataVector).bind _ = _
    rw [inferred]
    show (BatchInfer.resultVectorToByteArray qt ids resultVector).bind _ = _
    rw [wrapped]
    exact ran
  · simp only [loaded]
    refine answers_of_loop aligned ?_
    intro cameraId i imageId held
    rw [held]
    exact ⟨_, rfl, rfl, rfl, rfl⟩

/-- **Every picture received comes out once**, and each of an emitted group gets one result,
whether or not the model is loaded. -/
theorem images_come_out_once (m_Batch : Bool) (events : List Event) :
    Conserved m_Batch events ∧
      ∀ imageGroup ∈ emitted m_Batch events, ∀ (self : BatchInfer) (qt : QtJson),
        (self.m_bInitOK = true → OneResultPerId self.m_aiInference imageGroup) →
        ∃ results, self.onImageGroup qt imageGroup = some results ∧
          List.Forall₂ Answers (members imageGroup) results := by
  have conserved := conserved_run m_Batch events
  refine ⟨conserved, ?_⟩
  intro imageGroup there self qt one
  exact onImageGroup_answers self qt one (conserved.aligned imageGroup there)

/-! ## A packet and a spot picture -/

/-- Anomaly detection answers a group of one picture with the finding and a larger one with
refusals; only an empty group would leave it without an id to read. -/
theorem patchCore_oneResultPerId (inference : PatchCoreInference) (qt : QtJson)
    {imageGroup : ImageGroupData} (some' : imageGroup.cameraIdVector ≠ []) :
    OneResultPerId (inference.infer qt) imageGroup := by
  unfold OneResultPerId PatchCoreInference.infer
  dsimp only
  split
  case isTrue several => exact ⟨_, rfl, List.length_replicate⟩
  case isFalse single =>
    obtain ⟨id, rest, held⟩ := List.exists_cons_of_ne_nil some'
    obtain rfl : rest = [] := by
      rw [held] at single
      simpa using single
    rw [held]
    cases known : inference.m_camera_map id.toInt32.toInt with
    | none => exact ⟨_, by simp [known]; rfl, rfl⟩
    | some patchCore => exact ⟨_, by simp [known]; rfl, rfl⟩

/-- A picture of packet 7. -/
def packetPicture (cameraId : UInt32) (imageId : UInt64) : CvImageData :=
  { objectId := 7, bReportOrignal := false, bReportBinning := false, cameraId := cameraId,
    imageId := imageId, imageData := { depth := 24, width := 1, height := 1, jpg := [] },
    genTimeStamp := 0, imageDataCV := { cols := 1, rows := 1, pixel := fun _ _ => 0 } }

/-- A picture of packet 8. -/
def spotPicture : CvImageData := { packetPicture 1 259 with objectId := 8 }

/-- Both cameras are online and deliver their pictures of packet 7; the picture of packet 8 is
taken in the spot mode. -/
def twoPackets : List Event :=
  [.onImageData (packetPicture 1 257) 2 .RunType_Infer 0,
   .onImageData (packetPicture 2 258) 2 .RunType_Infer 5,
   .onImageData spotPicture 2 .RunType_Spot 9]

/-- The group the second picture completes. -/
def packetGroup : ImageGroupData :=
  pushBack (pushBack (newGroup 7 0) (packetPicture 1 257)) (packetPicture 2 258)

/-- The group of the spot picture. -/
def spotGroup : ImageGroupData := pushBack (newGroup 8 9) spotPicture

/-- A loaded anomaly detection that finds a defect in every picture of the first camera. -/
def anomalies : BatchInfer :=
  let inference : PatchCoreInference :=
    { m_camera_map := fun id =>
        if id = 1 then some fun _ => { result := false, ltx := 0, lty := 0, rbx := 1, rby := 1 }
        else none }
  { m_channelID := 0, m_bInitOK := true, m_aiInference := inference.infer QtJson.reference }

theorem twoPackets_come_out : Conserved true twoPackets ∧
    (∃ results, anomalies.onImageGroup QtJson.reference packetGroup = some results ∧
      List.Forall₂ Answers (members packetGroup) results) ∧
    ∃ results, anomalies.onImageGroup QtJson.reference spotGroup = some results ∧
      List.Forall₂ Answers (members spotGroup) results := by
  obtain ⟨conserved, answered⟩ := images_come_out_once true twoPackets
  have out : emitted true twoPackets = [packetGroup, spotGroup] := rfl
  refine ⟨conserved, ?_, ?_⟩
  · exact answered packetGroup (by simp [out]) anomalies QtJson.reference
      fun _ => patchCore_oneResultPerId _ _ (List.cons_ne_nil _ _)
  · exact answered spotGroup (by simp [out]) anomalies QtJson.reference
      fun _ => patchCore_oneResultPerId _ _ (List.cons_ne_nil _ _)

end ImageGroup

end IsgConsole.IasAgent
