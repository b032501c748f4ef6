/-
# Multipler.ImageIds — which images get an id of their own

`ImageSrcDev::sendImageDataAsync` numbers an image by the clock and the camera: the reading in
milliseconds above the low byte, the id of the camera in it.  The signal waits in the queue of the
camera's `CImageMultipler`, which keeps its records under these ids and drops an image whose id it
has.

* `imgId_eq_iff` — cameras never share an id; one camera gives it twice for readings that agree in
  their low 56 bits;
* `Flow` — a record is always that of an image the camera has sent and the multipler has served;
* `imageIds_exact` — when all ids of a run differ, and no image is dropped.
-/
import IsgConsole.Multipler.ImageMultipler
import Mathlib.Data.List.Nodup
import Mathlib.Data.UInt

namespace IsgConsole.Multipler.ImageIds

open IsgConsole.Theory IsgConsole.BaseLib IsgConsole.Inspector IsgConsole.IopAgent

set_option autoImplicit false

/-! ## Sending an image -/

inductive Format where
  | Format_Grayscale8
  | Format_BGR888
  | Format_RGB32
  | other
  deriving DecidableEq

/-- A picture of a camera, and what `convertToFormat(QImage::Format_BGR888)` makes of it. -/
structure Frame where
  format : Format
  image : QImage
  bgr888 : QImage
  deriving DecidableEq

/-- The picture in a format the algorithms take. -/
def Frame.converted (frame : Frame) : QImage :=
  match frame.format with
  | .Format_Grayscale8 | .Format_BGR888 | .Format_RGB32 => frame.image
  | .other => frame.bgr888

/-- What `sendImageDataAsync` reads elsewhere while it runs. -/
structure Reading where
  /-- `QDateTime::currentMSecsSinceEpoch()`, for the id and, later, for the object. -/
  now : UInt64
  later : UInt64
  /-- `project()->getRunType() == RunType_Spot`. -/
  runTypeSpot : Bool
  /-- What `objectResult()->preInfer` fills in. -/
  objectId : UInt64
  bReportOrignal : Bool
  bReportBinning : Bool
  deriving DecidableEq

/-- `id() | (QDateTime::currentMSecsSinceEpoch() << 8)`. -/
def imgId (id : UInt32) (now : UInt64) : UInt64 := id.toUInt64 ||| (now <<< 8)

/-- What `sendImageDataAsync` reads and keeps of a camera. -/
structure ImageSrcDev where
  m_isSpotCamera : Bool
  m_detectTotalCount : Int
  deriving DecidableEq

/-- `ImageSrcDev::sendImageDataAsync`: the image that is signalled. -/
def sendImageDataAsync (id : UInt32) (s : ImageSrcDev) (reading : Reading) (frame : Frame)
    (imageGenerateTime fileNameId : UInt64) : ImageData × ImageSrcDev :=
  let count := if s.m_isSpotCamera then 0 else 1
  let imgId := if s.m_isSpotCamera then fileNameId else imgId id reading.now
  ({ objectId := if reading.runTypeSpot then reading.later else reading.objectId
     bReportOrignal := if reading.runTypeSpot then true else reading.bReportOrignal
     bReportBinning := if reading.runTypeSpot then false else reading.bReportBinning
     cameraId := id
     imageId := imgId
     imageData := frame.converted
     genTimeStamp := imageGenerateTime },
    { s with m_detectTotalCount := s.m_detectTotalCount + count })

/-! ## Ids -/

/-- The number of a camera. -/
structure CameraId where
  id : UInt32
  inRange : 1 ≤ id ∧ id ≤ 32
  deriving DecidableEq

theorem CameraId.ext {a b : CameraId} (same : a.id = b.id) : a = b := by
  cases a
  cases b
  cases same
  rfl

theorem CameraId.toNat_lt (camera : CameraId) : camera.id.toNat < 2 ^ 8 := by
  have small : camera.id.toNat ≤ 32 := UInt32.le_iff_toNat_le.mp camera.inRange.2
  omega

/-- The id is the camera in the low byte and the low 56 bits of the clock above it. -/
theorem toNat_imgId (camera : CameraId) (now : UInt64) :
    (imgId camera.id now).toNat = 2 ^ 8 * (now.toNat % 2 ^ 56) + camera.id.toNat := by
  have shifted : (now <<< 8).toNat = 2 ^ 8 * (now.toNat % 2 ^ 56) := by
    rw [UInt64.toNat_shiftLeft, Nat.shiftLeft_eq]
    show now.toNat * 2 ^ 8 % 2 ^ 64 = _
    omega
  rw [imgId, UInt64.toNat_or, UInt32.toNat_toUInt64, shifted,
    Nat.two_pow_add_eq_or_of_lt camera.toNat_lt, Nat.or_comm]

/-- **When two images share an id**: one camera at readings that agree in their low 56 bits. -/
theorem imgId_eq_iff (a b : CameraId) (now now' : UInt64) :
    imgId a.id now = imgId b.id now' ↔ a = b ∧ now.toNat % 2 ^ 56 = now'.toNat % 2 ^ 56 := by
  have smallA := a.toNat_lt
  have smallB := b.toNat_lt
  rw [← UInt64.toNat_inj, toNat_imgId, toNat_imgId]
  constructor
  · intro same
    refine ⟨CameraId.ext (UInt32.toNat_inj.mp ?_), ?_⟩ <;> omega
  · rintro ⟨rfl, same⟩
    rw [same]

/-! ## Cameras and multiplers -/

/-- A real camera, the signals on their way to its multipler and the multipler. -/
structure Line where
  m_detectTotalCount : Int
  queued : List ImageData
  multipler : CImageMultipler
  deriving DecidableEq

/-- All cameras. -/
abbrev Lines := CameraId → Line

def start : Lines := fun _ =>
  { m_detectTotalCount := 0, queued := [], multipler := CImageMultipler.start }

def Lines.put (s : Lines) (camera : CameraId) (line : Line) : Lines :=
  fun other => if other = camera then line else s other

@[simp] theorem Lines.put_self (s : Lines) (camera : CameraId) (line : Line) :
    s.put camera line camera = line := if_pos rfl

theorem Lines.put_other (s : Lines) {camera other : CameraId} (line : Line)
    (apart : other ≠ camera) : s.put camera line other = s other := if_neg apart

/-- A camera works on its next image, or its multipler on the next signal; `order` is the iteration
order of the record table. -/
inductive Event where
  | sendImageDataAsync (camera : CameraId) (reading : Reading) (frame : Frame)
      (imageGenerateTime fileNameId : UInt64)
  | onImageData (camera : CameraId)
  | onImageIasResult (camera : CameraId) (env : Surroundings) (iasResult : ImageIasResult)
  | onTimeout (camera : CameraId) (env : Surroundings) (nowTime : UInt64) (order : List UInt64)
  deriving DecidableEq

inductive Output where
  | imageDataSignal (imageData : ImageData)
  | multipler (output : Multipler.Output)

section Run

variable (cfg : CameraId → ImageMultiplerConfig) (qt : QtJson)

/-- The multipler of a camera serves a signal. -/
def serve (s : Lines) (camera : CameraId) (queued : List ImageData)
    (event : CImageMultipler.Event) : Lines × List Output :=
  let served := (s camera).multipler.step (cfg camera) qt event
  (s.put camera { s camera with queued := queued, multipler := served.1 },
    served.2.map .multipler)

def step (s : Lines) : Event → Lines × List Output
  | .sendImageDataAsync camera reading frame imageGenerateTime fileNameId =>
      let sent := sendImageDataAsync camera.id
        { m_isSpotCamera := false, m_detectTotalCount := (s camera).m_detectTotalCount }
        reading frame imageGenerateTime fileNameId
      (s.put camera { s camera with
          m_detectTotalCount := sent.2.m_detectTotalCount
          queued := (s camera).queued ++ [sent.1] },
        [.imageDataSignal sent.1])
  | .onImageData camera =>
      match (s camera).queued with
      | [] => (s, [])
      | imageData :: queued => serve cfg qt s camera queued (.onImageData imageData)
  | .onImageIasResult camera env iasResult =>
      serve cfg qt s camera (s camera).queued (.onImageIasResult env iasResult)
  | .onTimeout camera env nowTime order =>
      serve cfg qt s camera (s camera).queued (.onTimeout env nowTime order)

end Run

/-! ## What a step does -/

/-- The signals among the outputs of a step. -/
def signalsIn (outputs : List Output) : List ImageData :=
  outputs.filterMap fun
    | .imageDataSignal imageData => some imageData
    | .multipler _ => none

abbrev History := List (Machine.Transition Lines Event Output)

/-- The images a history has sent. -/
def sent (h : History) : List ImageData := h.flatMap fun t => signalsIn t.outputs

/-- `onImageData` finds a record under the id of the image it serves, and drops the image. -/
def Discards (t : Machine.Transition Lines Event Output) : Prop :=
  ∃ camera imageData queued, t.event = .onImageData camera ∧
    (t.before camera).queued = imageData :: queued ∧
    imageData.imageId ∈ (t.before camera).multipler.m_imageResultRecord

/-- The camera that works on an image, and the reading it numbers the image by. -/
def processed : Event → Option (CameraId × UInt64)
  | .sendImageDataAsync camera reading _ _ _ => some (camera, reading.now)
  | _ => none

theorem sent_snoc (h : History) (t : Machine.Transition Lines Event Output) :
    sent (h ++ [t]) = sent h ++ signalsIn t.outputs := by
  rw [sent, List.flatMap_append, List.flatMap_singleton]
  rfl

section Steps

variable {cfg : CameraId → ImageMultiplerConfig} {qt : QtJson} {s : Lines}

@[simp] theorem signalsIn_serve (camera : CameraId) (queued : List ImageData)
    (event : CImageMultipler.Event) :
    signalsIn (serve cfg qt s camera queued event).2 = [] := by
  rw [serve, signalsIn, List.filterMap_map]
  exact List.filterMap_eq_nil_iff.mpr fun _ _ => rfl

theorem serve_self (camera : CameraId) (queued : List ImageData)
    (event : CImageMultipler.Event) :
    (serve cfg qt s camera queued event).1 camera =
      { s camera with
        queued := queued
        multipler := ((s camera).multipler.step (cfg camera) qt event).1 } :=
  Lines.put_self s camera _

theorem serve_other {camera other : CameraId} (queued : List ImageData)
    (event : CImageMultipler.Event) (apart : other ≠ camera) :
    (serve cfg qt s camera queued event).1 other = s other :=
  Lines.put_other s _ apart

/-- The id of the image a step sends. -/
theorem signalsIn_step (e : Event) :
    (signalsIn (step cfg qt s e).2).map ImageData.imageId =
      (processed e).toList.map fun work => imgId work.1.id work.2 := by
  cases e with
  | sendImageDataAsync => rfl
  | onImageData camera =>
      rw [step]
      split
      next => rfl
      next => rw [signalsIn_serve]; rfl
  | onImageIasResult => rw [step, signalsIn_serve]; rfl
  | onTimeout => rw [step, signalsIn_serve]; rfl

/-- A result writes a record that was there, and whatever follows only takes it out. -/
theorem record_of_result {cfg : ImageMultiplerConfig} {s : CImageMultipler} {env : Surroundings}
    {iasResult : ImageIasResult} {i : UInt64}
    (held : i ∈ (s.onImageIasResult cfg qt env iasResult).1.m_imageResultRecord) :
    i ∈ s.m_imageResultRecord := by
  rw [CImageMultipler.onImageIasResult] at held
  split at held
  next => exact held
  next =>
      split at held
      next => exact held
      next stored found =>
          have written : i ∈ s.m_imageResultRecord.insert iasResult.imageId
              (CImageMultipler.merge stored iasResult) := by
            dsimp only at held
            split at held
            next => exact (AList.mem_erase.mp held).2
            next =>
                split at held
                next => exact held
                next =>
                    split at held
                    next => exact held
                    next => exact (AList.mem_erase.mp held).2
          rcases (AList.mem_insert _).mp written with rfl | old
          · exact Hash.mem_of_lookup found
          · exact old

/-- A multipler gets a record with an image, and in no other way. -/
theorem record_of_step {cfg : ImageMultiplerConfig} {s : CImageMultipler}
    {event : CImageMultipler.Event} {i : UInt64}
    (held : i ∈ (s.step cfg qt event).1.m_imageResultRecord) :
    i ∈ s.m_imageResultRecord ∨ ∃ imageData, event = .onImageData imageData ∧
      i = imageData.imageId := by
  cases event with
  | onImageData imageData =>
      simp only [CImageMultipler.step, CImageMultipler.onImageData] at held
      split at held
      next => exact .inl held
      next =>
          rcases (AList.mem_insert _).mp held with new | old
          · exact .inr ⟨imageData, rfl, new⟩
          · exact .inl old
  | onImageIasResult env iasResult => exact .inl (record_of_result held)
  | onTimeout env nowTime order =>
      left
      simp only [CImageMultipler.step, CImageMultipler.onTimeout] at held
      split at held
      next => exact held
      next => exact (AList.mem_erase.mp held).2

end Steps

/-! ## Runs -/

/-- **What records stand for**: the images of a camera, in the order it sent them, are those its
multipler has served and those that wait, and every record is of one that was served. -/
def Flow (images : List ImageData) (s : Lines) : Prop :=
  ∀ camera : CameraId, ∃ served,
    (images.filter fun imageData => imageData.cameraId = camera.id) =
      served ++ (s camera).queued ∧
    ∀ i ∈ (s camera).multipler.m_imageResultRecord, i ∈ served.map ImageData.imageId

theorem flow_start : Flow [] start := by
  intro camera
  refine ⟨[], rfl, ?_⟩
  intro i held
  cases held

section Runs

variable {cfg : CameraId → ImageMultiplerConfig} {qt : QtJson} {s : Lines}
  {images : List ImageData}

theorem flow_serve (flow : Flow images s) {camera : CameraId} {taken queued : List ImageData}
    (split : (s camera).queued = taken ++ queued) (event : CImageMultipler.Event)
    (own : ∀ imageData, event = .onImageData imageData → imageData ∈ taken) :
    Flow images (serve cfg qt s camera queued event).1 := by
  intro other
  obtain ⟨served, order, recorded⟩ := flow other
  by_cases this : other = camera
  · subst this
    refine ⟨served ++ taken, ?_, ?_⟩
    · rw [order, split, serve_self, List.append_assoc]
    · intro i held
      rw [serve_self] at held
      rw [List.map_append, List.mem_append]
      rcases record_of_step held with old | ⟨imageData, rfl, rfl⟩
      · exact .inl (recorded i old)
      · exact .inr (List.mem_map_of_mem (own imageData rfl))
  · refine ⟨served, ?_, ?_⟩
    · rw [serve_other _ _ this]
      exact order
    · rw [serve_other _ _ this]
      exact recorded

theorem flow_step (flow : Flow images s) (e : Event) :
    Flow (images ++ signalsIn (step cfg qt s e).2) (step cfg qt s e).1 := by
  cases e with
  | sendImageDataAsync camera reading frame imageGenerateTime fileNameId =>
      intro other
      obtain ⟨served, order, recorded⟩ := flow other
      refine ⟨served, ?_, ?_⟩
      · rw [List.filter_append, order, List.append_assoc]
        by_cases this : other = camera
        · subst this
          simp [step, signalsIn, sendImageDataAsync]
        · have apart : camera.id ≠ other.id := fun same => this (CameraId.ext same.symm)
          simp [step, signalsIn, sendImageDataAsync, Lines.put_other _ _ this, apart]
      · by_cases this : other = camera
        · subst this
          simpa [step] using recorded
        · simpa [step, Lines.put_other _ _ this] using recorded
  | onImageData camera =>
      rw [step]
      split
      next =>
          rw [show signalsIn [] = [] from rfl, List.append_nil]
          exact flow
      next imageData queued front =>
          rw [signalsIn_serve, List.append_nil]
          refine flow_serve flow (show _ = [imageData] ++ queued from front) _ ?_
          rintro served ⟨⟩
          exact List.mem_singleton_self _
  | onImageIasResult camera env iasResult =>
      rw [step, signalsIn_serve, List.append_nil]
      exact flow_serve flow (show _ = [] ++ _ from rfl) _ (by rintro _ ⟨⟩)
  | onTimeout camera env nowTime order =>
      rw [step, signalsIn_serve, List.append_nil]
      exact flow_serve flow (show _ = [] ++ _ from rfl) _ (by rintro _ ⟨⟩)

/-- In a run whose images have different ids none is dropped. -/
theorem not_discards (flow : Flow images s) (distinct : (images.map ImageData.imageId).Nodup)
    (e : Event) : ¬ Discards (Machine.transition (step cfg qt) s e) := by
  rintro ⟨camera, imageData, queued, -, front, recorded⟩
  obtain ⟨served, order, own⟩ := flow camera
  replace front : (s camera).queued = imageData :: queued := front
  -- The image waits, so it is not one of those that were served.
  have apart : (served.map ImageData.imageId ++
      (imageData :: queued).map ImageData.imageId).Nodup := by
    rw [← List.map_append, ← front, ← order]
    exact distinct.sublist (List.filter_sublist.map _)
  exact (List.nodup_append.mp apart).2.2 _ (own _ recorded) _ List.mem_cons_self rfl

end Runs

/-- No camera works on two images at readings that agree in their low 56 bits. -/
def Spaced (events : List Event) : Prop :=
  (events.filterMap processed).Pairwise fun a b =>
    a.1 = b.1 → a.2.toNat % 2 ^ 56 ≠ b.2.toNat % 2 ^ 56

section Main

variable (cfg : CameraId → ImageMultiplerConfig) (qt : QtJson) (events : List Event)

/-- The history of the cameras and multiplers. -/
abbrev history : History := Machine.trace (step cfg qt) start events

theorem flow_run : Flow (sent (history cfg qt events)) (Machine.final (step cfg qt) start events) :=
  Machine.run_induction (step cfg qt) (P := fun h s => Flow (sent h) s) flow_start
    (fun _ e flow => by rw [sent_snoc]; exact flow_step flow e) events

/-- The ids of the images that are sent. -/
theorem ids_run : (sent (history cfg qt events)).map ImageData.imageId =
    (events.filterMap processed).map fun work => imgId work.1.id work.2 := by
  unfold history
  induction events using List.reverseRecOn with
  | nil => rfl
  | append_singleton first e ih =>
      rw [Machine.trace_snoc, sent_snoc, List.map_append, ih, Machine.observe_snoc, List.map_append]
      exact congrArg _ (signalsIn_step e)

theorem nodup_ids_iff :
    ((sent (history cfg qt events)).map ImageData.imageId).Nodup ↔ Spaced events := by
  rw [ids_run, List.Nodup, List.pairwise_map, Spaced]
  refine List.Pairwise.iff fun a b => ?_
  rw [ne_eq, imgId_eq_iff, not_and]

/-- **Images have ids of their own, and none is dropped, exactly when** no camera works on two
images within one millisecond. -/
theorem imageIds_exact :
    (((sent (history cfg qt events)).map ImageData.imageId).Nodup ∧
      ∀ t ∈ history cfg qt events, ¬ Discards t) ↔ Spaced events := by
  rw [← nodup_ids_iff cfg qt]
  constructor
  · exact And.left
  · intro distinct
    refine ⟨distinct, ?_⟩
    have all : ((sent (history cfg qt events)).map ImageData.imageId).Nodup →
        ∀ t ∈ history cfg qt events, ¬ Discards t := by
      refine Machine.run_induction (step cfg qt) (P := fun h _ =>
        ((sent h).map ImageData.imageId).Nodup → ∀ t ∈ h, ¬ Discards t) ?_ ?_ events
      · intro _ t none
        cases none
      · intro es e ih distinct t here
        rw [sent_snoc, List.map_append] at distinct
        have before := (List.nodup_append.mp distinct).1
        rcases List.mem_append.mp here with earlier | last
        · exact ih before t earlier
        · obtain rfl := List.mem_singleton.mp last
          exact not_discards (flow_run cfg qt es) before e
    exact all distinct

end Main

/-! ## Two frames of one camera -/

/-- Two frames of camera 1 wait in its thread, and it works on both at 5 ms. -/
def twoFrames : List Event :=
  let first : CameraId := { id := 1, inRange := by decide }
  let black : QImage := { depth := 24, width := 1, height := 1, jpg := [] }
  let reading : Reading :=
    { now := 5, later := 5, runTypeSpot := false, objectId := 5, bReportOrignal := true,
      bReportBinning := false }
  let frame : Frame := { format := .Format_BGR888, image := black, bgr888 := black }
  [.sendImageDataAsync first reading frame 3 0, .sendImageDataAsync first reading frame 4 0,
    .onImageData first, .onImageData first]

/-- Every camera has one algorithm. -/
def oneAlgorithm (camera : CameraId) : ImageMultiplerConfig :=
  { id := camera.id, m_inferTimeout := 200, m_IasCount := 1 }

/-- The clock does not go back, the two images get one id, and the second is dropped. -/
theorem second_frame_dropped :
    (twoFrames.filterMap processed).Pairwise (fun a b => a.2 ≤ b.2) ∧
      ((sent (history oneAlgorithm .reference twoFrames)).map ImageData.imageId) = [1281, 1281] ∧
      ∃ t ∈ history oneAlgorithm .reference twoFrames, Discards t := by
  refine ⟨by decide, ?_, ?_⟩
  · rw [ids_run]
    decide
  · refine ⟨_, List.getLast_mem (List.cons_ne_nil _ _), { id := 1, inRange := by decide }, _, [],
      rfl, rfl, ?_⟩
    decide

end IsgConsole.Multipler.ImageIds
