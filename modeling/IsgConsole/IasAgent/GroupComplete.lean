/-
# IasAgent.GroupComplete — when the pictures of an object are a full group

`ImageGroup` waits for the pictures of the cameras of its list.  `init` subscribes to the cameras
the list contains, but `onImageData` counts the online cameras with an id between the first
and the last entry of the list.  A group leaves when it is complete, in every run and for
every set of cameras, exactly when the list is that interval (`emits_when_complete`).
-/
import IsgConsole.IasAgent.IasJsonParser
import IsgConsole.IasAgent.ImageGroup

namespace IsgConsole.IasAgent.ImageGroup

open IsgConsole.Theory IsgConsole.BaseLib IsgConsole.Inspector IsgConsole.IasCore
  IsgConsole.Theory.Json

set_option autoImplicit false

/-! ## Cameras -/

/-- What an image source is asked for. -/
structure ImageSrcDev where
  m_id : Int
  m_online : Bool
  m_isSpotCamera : Bool

/-- `ImageSrcDev::getRealOnlineCameraCount`. -/
def getRealOnlineCameraCount (s_imageSrcDevices : List ImageSrcDev) (min max : Int) : Int :=
  s_imageSrcDevices.countP fun device =>
    ¬ device.m_isSpotCamera ∧ device.m_online ∧ min ≤ device.m_id ∧ device.m_id ≤ max

/-- `m_cameraIdList`; `first` and `last` of an empty one are undefined. -/
structure CameraIdList where
  ids : List Int
  configured : ids ≠ []

/-- The ids `BatchInfer::loadAlgorithmConfig` appends to the list. -/
def cameraIds (jsonObj : JsonObject) : List Int :=
  ((jsonObj.get (utf8 "cameraId")).toArray.map (toIntOr (-1))).filter
    fun cameraId => -1 < cameraId

/-- `batch` of the configuration, for `setBatch`. -/
def batch (jsonObj : JsonObject) : Bool := (jsonObj.get (utf8 "batch")).toBool

namespace CameraIdList

variable (m_cameraIdList : CameraIdList)

def first : Int := m_cameraIdList.ids.head m_cameraIdList.configured
def last : Int := m_cameraIdList.ids.getLast m_cameraIdList.configured

/-- What `onImageData` takes for the number of pictures of a group. -/
def cameraCount (devices : List ImageSrcDev) : Int :=
  getRealOnlineCameraCount devices m_cameraIdList.first m_cameraIdList.last

/-- The online cameras of the list. -/
def onlineCameras (devices : List ImageSrcDev) : Int :=
  devices.countP fun device =>
    ¬ device.m_isSpotCamera ∧ device.m_online ∧ device.m_id ∈ m_cameraIdList.ids

/-- The list holds the ids from its first entry to its last, in any order. -/
def IsInterval : Prop :=
  ∀ id, id ∈ m_cameraIdList.ids ↔ m_cameraIdList.first ≤ id ∧ id ≤ m_cameraIdList.last

theorem first_mem : m_cameraIdList.first ∈ m_cameraIdList.ids := List.head_mem _
theorem last_mem : m_cameraIdList.last ∈ m_cameraIdList.ids := List.getLast_mem _

theorem cameraCount_of_interval (interval : m_cameraIdList.IsInterval)
    (devices : List ImageSrcDev) :
    m_cameraIdList.cameraCount devices = m_cameraIdList.onlineCameras devices := by
  unfold cameraCount onlineCameras getRealOnlineCameraCount
  refine congrArg _ (List.countP_congr ?_)
  intro device _
  simp only [decide_eq_true_eq, interval device.m_id]

/-- Two online cameras with these ids. -/
def twoOnline (a b : Int) : List ImageSrcDev :=
  [{ m_id := a, m_online := true, m_isSpotCamera := false },
    { m_id := b, m_online := true, m_isSpotCamera := false }]

/-- Of two online cameras, a group waits for both or does not wait. -/
theorem twoOnline_agree {a b : Int}
    (agree : max 1 (m_cameraIdList.cameraCount (twoOnline a b)) =
      max 1 (m_cameraIdList.onlineCameras (twoOnline a b))) :
    ((m_cameraIdList.first ≤ a ∧ a ≤ m_cameraIdList.last) ∧
        m_cameraIdList.first ≤ b ∧ b ≤ m_cameraIdList.last) ↔
      a ∈ m_cameraIdList.ids ∧ b ∈ m_cameraIdList.ids := by
  simp only [cameraCount, onlineCameras, getRealOnlineCameraCount, twoOnline, List.countP_cons,
    List.countP_nil, Bool.false_eq_true, not_false_eq_true, true_and, decide_eq_true_eq] at agree
  split_ifs at agree <;> simp_all

theorem interval_of_agree
    (agree : ∀ devices : List ImageSrcDev, (devices.map ImageSrcDev.m_id).Nodup →
      max 1 (m_cameraIdList.cameraCount devices) = max 1 (m_cameraIdList.onlineCameras devices)) :
    m_cameraIdList.IsInterval := by
  have pair {a b : Int} (apart : a ≠ b) :=
    m_cameraIdList.twoOnline_agree (agree (twoOnline a b) (by simp [twoOnline, apart]))
  have ordered : m_cameraIdList.first ≤ m_cameraIdList.last := by
    by_contra reversed
    have inside := (pair (by omega)).mpr ⟨m_cameraIdList.first_mem, m_cameraIdList.last_mem⟩
    exact reversed inside.1.2
  intro id
  by_cases same : id = m_cameraIdList.first
  · rw [same]
    exact ⟨fun _ => ⟨le_refl _, ordered⟩, fun _ => m_cameraIdList.first_mem⟩
  · have both := pair (Ne.symm same)
    constructor
    · intro listed
      exact (both.mpr ⟨m_cameraIdList.first_mem, listed⟩).2
    · intro inside
      exact (both.mp ⟨⟨le_refl _, ordered⟩, inside⟩).2

end CameraIdList

/-! ## Signals -/

/-- A picture of a camera `init` subscribed to. -/
structure Picture (m_cameraIdList : CameraIdList) extends CvImageData where
  subscribed : ∃ id ∈ m_cameraIdList.ids, cameraId = UInt32.ofInt id

/-- A signal that reaches the group, with the cameras there are when it does. -/
inductive Signal (m_cameraIdList : CameraIdList) where
  | imageData (devices : List ImageSrcDev) (picture : Picture m_cameraIdList)
      (runType : RunTypeEnum) (now : Int)
  | timeout (nowTime imageMaxInterval : Int) (order : List UInt64)

/-- A picture of the first camera of the list. -/
def CameraIdList.somePicture (m_cameraIdList : CameraIdList) : Picture m_cameraIdList :=
  { packetPicture (UInt32.ofInt m_cameraIdList.first) 1 with
    subscribed := ⟨_, m_cameraIdList.first_mem, rfl⟩ }

section Runs

variable {m_cameraIdList : CameraIdList}

def Signal.event : Signal m_cameraIdList → Event
  | .imageData devices picture runType now =>
      .onImageData picture.toCvImageData (m_cameraIdList.cameraCount devices) runType now
  | .timeout nowTime imageMaxInterval order => .onTimeout nowTime imageMaxInterval order

/-- The state after these signals, with batching on. -/
def reached (signals : List (Signal m_cameraIdList)) : ImageGroup :=
  after true (signals.map Signal.event)

/-- The group of the object with the picture that comes. -/
def gathered (s : ImageGroup) (imageData : CvImageData) (now : Int) : ImageGroupData :=
  pushBack ((s.m_groupHash.lookup imageData.objectId).getD (newGroup imageData.objectId now))
    imageData

/-- The number of its pictures. -/
def gatheredCount (s : ImageGroup) (imageData : CvImageData) (now : Int) : Nat :=
  (gathered s imageData now).imageIdVector.length

/-- The group leaves with this picture exactly when the online cameras of the list have no more
pictures to give. -/
def EmitsComplete (s : ImageGroup) (devices : List ImageSrcDev)
    (picture : Picture m_cameraIdList) (now : Int) : Prop :=
  (s.onImageData picture.toCvImageData (m_cameraIdList.cameraCount devices) .RunType_Infer now).2 =
    if m_cameraIdList.onlineCameras devices ≤ gatheredCount s picture.toCvImageData now then
      [gathered s picture.toCvImageData now]
    else []

theorem gatheredCount_pos (s : ImageGroup) (imageData : CvImageData) (now : Int) :
    1 ≤ gatheredCount s imageData now := by
  simp [gatheredCount, gathered, pushBack]

/-- What a picture does in inference mode with batching on. -/
theorem onImageData_infer {s : ImageGroup} (batching : s.m_Batch = true)
    (imageData : CvImageData) (cameraCount now : Int) :
    (s.onImageData imageData cameraCount .RunType_Infer now).2 =
        (if cameraCount ≤ gatheredCount s imageData now then [gathered s imageData now]
          else []) ∧
      (¬ cameraCount ≤ gatheredCount s imageData now →
        (s.onImageData imageData cameraCount .RunType_Infer now).1.m_groupHash.lookup
          imageData.objectId = some (gathered s imageData now)) := by
  unfold onImageData gatheredCount gathered
  cases s.m_groupHash.lookup imageData.objectId with
  | some imageGroupData =>
      dsimp only [Option.getD_some]
      simp only [true_and]
      split
      next complete => exact ⟨rfl, absurd complete⟩
      next => exact ⟨rfl, fun _ => AList.lookup_insert _⟩
  | none =>
      have one : (pushBack (newGroup imageData.objectId now) imageData).imageIdVector.length = 1 :=
        rfl
      dsimp only [Option.getD_none]
      simp only [batching, one, Nat.cast_one, not_true_eq_false, false_or, reduceCtorEq, or_false]
      split
      next complete => exact ⟨rfl, absurd complete⟩
      next => exact ⟨rfl, fun _ => AList.lookup_insert _⟩

theorem onImageData_batch (s : ImageGroup) (imageData : CvImageData) (cameraCount : Int)
    (runType : RunTypeEnum) (now : Int) :
    (s.onImageData imageData cameraCount runType now).1.m_Batch = s.m_Batch := by
  unfold onImageData
  cases s.m_groupHash.lookup imageData.objectId with
  | some imageGroupData =>
      dsimp only
      split <;> rfl
  | none =>
      dsimp only
      split <;> rfl

theorem onTimeout_batch (s : ImageGroup) (nowTime imageMaxInterval : Int) (order : List UInt64) :
    (s.onTimeout nowTime imageMaxInterval order).1.m_Batch = s.m_Batch := by
  let Same (r : ImageGroup × List ImageGroupData) : Prop := r.1.m_Batch = s.m_Batch
  refine Loop.foldl_keeps (P := Same) ?_ rfl
  intro r objectId same
  unfold Same expire
  cases r.1.m_groupHash.lookup objectId with
  | none => exact same
  | some item =>
      dsimp only
      split <;> exact same

/-- No signal turns batching off. -/
theorem reached_batch (signals : List (Signal m_cameraIdList)) :
    (reached signals).m_Batch = true := by
  refine Machine.run_induction (P := fun _ s => s.m_Batch = true) step rfl ?_ _
  intro es e batching
  cases e with
  | onImageData imageData cameraCount runType now =>
      exact (onImageData_batch _ imageData cameraCount runType now).trans batching
  | onTimeout nowTime imageMaxInterval order =>
      exact (onTimeout_batch _ nowTime imageMaxInterval order).trans batching

theorem emitsComplete_iff {s : ImageGroup} (batching : s.m_Batch = true)
    {devices : List ImageSrcDev} {picture : Picture m_cameraIdList} {now : Int} :
    EmitsComplete s devices picture now ↔
      (m_cameraIdList.cameraCount devices ≤ gatheredCount s picture.toCvImageData now ↔
        m_cameraIdList.onlineCameras devices ≤ gatheredCount s picture.toCvImageData now) := by
  unfold EmitsComplete
  rw [(onImageData_infer batching _ _ _).1]
  by_cases counted : m_cameraIdList.cameraCount devices ≤
      gatheredCount s picture.toCvImageData now <;>
    by_cases listed : m_cameraIdList.onlineCameras devices ≤
      gatheredCount s picture.toCvImageData now <;>
    simp [counted, listed]

/-! ## As many pictures as are waited for -/

/-- Pictures of one object that do not complete its group are all in it. -/
theorem gatheredCount_repeated {devices : List ImageSrcDev} (picture : Picture m_cameraIdList)
    (now : Int) {n : Nat} (waited : n < max 1 (m_cameraIdList.cameraCount devices)) :
    gatheredCount (reached (List.replicate n (.imageData devices picture .RunType_Infer now)))
      picture.toCvImageData now = n + 1 := by
  induction n with
  | zero => rfl
  | succ n ih =>
      have before := ih (by omega)
      let s := reached (List.replicate n (.imageData devices picture .RunType_Infer now))
      have next : reached (List.replicate (n + 1) (.imageData devices picture .RunType_Infer now)) =
          (s.onImageData picture.toCvImageData (m_cameraIdList.cameraCount devices)
            .RunType_Infer now).1 := by
        rw [List.replicate_succ', reached, List.map_append]
        exact Machine.final_snoc step (start true) _ _
      have stored := (onImageData_infer (s := s) (reached_batch _) picture.toCvImageData
        (m_cameraIdList.cameraCount devices) now).2 (by rw [before]; omega)
      rw [next, gatheredCount, gathered, stored, Option.getD_some, pushBack]
      dsimp only
      rw [List.length_append]
      exact congrArg (· + 1) before

/-- For one set of cameras: the numbers agree where there is something to wait for. -/
theorem emitsComplete_devices (devices : List ImageSrcDev) :
    (∀ (signals : List (Signal m_cameraIdList)) (picture : Picture m_cameraIdList) (now : Int),
      EmitsComplete (reached signals) devices picture now) ↔
    max 1 (m_cameraIdList.cameraCount devices) = max 1 (m_cameraIdList.onlineCameras devices) := by
  constructor
  · intro complete
    let picture := m_cameraIdList.somePicture
    let n := (min (max 1 (m_cameraIdList.cameraCount devices))
      (max 1 (m_cameraIdList.onlineCameras devices)) - 1).toNat
    let signals : List (Signal m_cameraIdList) :=
      List.replicate n (.imageData devices picture .RunType_Infer 0)
    have waits : gatheredCount (reached signals) picture.toCvImageData 0 = n + 1 :=
      gatheredCount_repeated picture 0 (by omega)
    have law := complete signals picture 0
    rw [emitsComplete_iff (reached_batch _), waits] at law
    omega
  · intro agree signals picture now
    rw [emitsComplete_iff (reached_batch signals)]
    have pos := gatheredCount_pos (reached signals) picture.toCvImageData now
    omega

end Runs

/-- **A group is emitted when it is complete**, for one set of cameras exactly when as many are
between the first and the last entry of the list as are on it, one or none counting the
same; and for every set exactly when the list is that interval. -/
theorem emits_when_complete (m_cameraIdList : CameraIdList) :
    (∀ devices : List ImageSrcDev,
      (∀ (signals : List (Signal m_cameraIdList)) (picture : Picture m_cameraIdList) (now : Int),
        EmitsComplete (reached signals) devices picture now) ↔
      max 1 (m_cameraIdList.cameraCount devices) =
        max 1 (m_cameraIdList.onlineCameras devices)) ∧
    ((∀ devices : List ImageSrcDev, (devices.map ImageSrcDev.m_id).Nodup →
      ∀ (signals : List (Signal m_cameraIdList)) (picture : Picture m_cameraIdList) (now : Int),
        EmitsComplete (reached signals) devices picture now) ↔
      m_cameraIdList.IsInterval) := by
  refine ⟨emitsComplete_devices, ?_⟩
  constructor
  · intro complete
    refine m_cameraIdList.interval_of_agree ?_
    intro devices distinct
    exact (emitsComplete_devices devices).mp (complete devices distinct)
  · intro interval devices _
    refine (emitsComplete_devices devices).mpr ?_
    rw [m_cameraIdList.cameraCount_of_interval interval]

/-- A configuration that names its cameras the other way round. -/
def reversedJson : JsonObject :=
  [(utf8 "batch", .bool true), (utf8 "cameraId", .array [int 3, int 1])]

/-- The list it gives. -/
def reversedList : CameraIdList := { ids := [3, 1], configured := nofun }

/-- No camera is between 3 and 1: with both online, a first picture leaves alone. -/
theorem reversed_not_complete :
    batch reversedJson = true ∧ cameraIds reversedJson = reversedList.ids ∧
      ¬ EmitsComplete (reached ([] : List (Signal reversedList))) (CameraIdList.twoOnline 1 3)
        reversedList.somePicture 0 := by
  refine ⟨by decide +kernel, by decide +kernel, ?_⟩
  rw [emitsComplete_iff rfl]
  decide

end IsgConsole.IasAgent.ImageGroup
