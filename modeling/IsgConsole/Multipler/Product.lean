/-
# Multipler.Product — the pictures of one product

The pictures of a product come from different cameras at about the same time.  What a run
does to them is said here: which of them have passed, under which object ids they are
handed back, how many packets are counted and how many kicks are sent for them
(`OnePacket`), what belongs to such a run (`ProductRun`), and what may go wrong with the
packet of the product (`Undisturbed`).
-/
import IsgConsole.Multipler.PacketHistory

namespace IsgConsole.Multipler.CPacketResult

open IsgConsole.Theory IsgConsole.Inspector

set_option autoImplicit false

/-! ## A product -/

/-- The pictures of a product in the order they pass: of different cameras, taken within
the interval of the first. -/
structure Product (cfg : Config) where
  first : ImageData
  others : List ImageData
  images : ((first :: others).map ImageData.imageId).Nodup
  cameras : ((first :: others).map ImageData.cameraId).Nodup
  window : ∀ imageData ∈ others,
    distance imageData.genTimeStamp first.genTimeStamp ≤ cfg.m_maxInterval

/-- Another picture of the packet than this one has no result. -/
def Lacks (record : PacketObject) (imageId : UInt64) : Prop :=
  ∃ other ∈ record.imageCameraIdHash.keys, other ≠ imageId ∧ other ∉ record.imageResultHash

instance (record : PacketObject) (imageId : UInt64) : Decidable (Lacks record imageId) :=
  List.decidableBEx (fun other => other ≠ imageId ∧ other ∉ record.imageResultHash) _

def Event.imageData? : Event → Option ImageData
  | .preInferAsync imageData _ _ _ => some imageData
  | _ => none

namespace Product

variable {cfg : Config} (product : Product cfg)

def pictures : List ImageData := product.first :: product.others

/-- The image is one of the product's. -/
def Has (imageId : UInt64) : Prop := imageId ∈ product.pictures.map ImageData.imageId

instance (imageId : UInt64) : Decidable (product.Has imageId) :=
  inferInstanceAs (Decidable (_ ∈ _))

/-- The packet has a picture of the product. -/
def Meets (record : PacketObject) : Prop :=
  ∃ imageId ∈ record.imageCameraIdHash.keys, product.Has imageId

instance (record : PacketObject) : Decidable (product.Meets record) :=
  List.decidableBEx (fun imageId => product.Has imageId) _

/-- The packet has a picture of the product, and pictures are still to come. -/
def Waits (record : PacketObject) : Prop :=
  product.Meets record ∧ record.imageCameraIdHash.keys.length < product.pictures.length

instance (record : PacketObject) : Decidable (product.Waits record) :=
  inferInstanceAs (Decidable (_ ∧ _))

/-- The picture of the product that passes with an event. -/
def passing (e : Event) : Option ImageData :=
  e.imageData?.filter fun imageData => product.Has imageData.imageId

/-- The pictures of the product that have passed. -/
def passed (events : List Event) : List ImageData := events.filterMap product.passing

/-- The pictures of the product as they are handed back. -/
def handed (outputs : List Output) : List ImageData :=
  (handedIn outputs).filter fun imageData => product.Has imageData.imageId

/-- The packets a step counts for a picture of the product. -/
def detected (t : Machine.Transition CPacketResult Event Output) : Int :=
  if (product.passing t.event).isSome then
    t.after.m_detectTotalCount - t.before.m_detectTotalCount
  else 0

/-- The kicks of a step that closes a packet with a picture of the product. -/
def kicks (t : Machine.Transition CPacketResult Event Output) : Nat :=
  if ∃ objRecord ∈ closedIn t.outputs, product.Meets objRecord then kicksIn t.outputs else 0

/-! ## A run of the product -/

/-- What a run of the product asks of an event: other pictures are not in the window of the
product, the cameras are online, the loops visit the stored packets, a result follows its
picture and carries the object id the picture was handed, and no timeout strikes a packet
of the product that waits for pictures. -/
def Served (s : CPacketResult) (outputs : List Output) : Event → Prop
  | .preInferAsync imageData _ realOnlineCameraCount order =>
      (¬ product.Has imageData.imageId →
        cfg.m_maxInterval < distance imageData.genTimeStamp product.first.genTimeStamp) ∧
      (product.pictures.length : Int) ≤ realOnlineCameraCount ∧ order.Perm s.m_packetHash.keys
  | .onImageResult _ objectImageResult realOnlineCameraCount =>
      (product.Has objectImageResult.imageId → ∃ imageData ∈ handedIn outputs,
        imageData.imageId = objectImageResult.imageId ∧
          imageData.objectId = objectImageResult.objectId) ∧
      (product.pictures.length : Int) ≤ realOnlineCameraCount
  | .onTimeout _ nowTime _ _ =>
      ∀ key ∈ s.m_packetHash.keys, ∀ record ∈ s.m_packetHash.lookup key,
        product.Waits record → ¬ isDue cfg nowTime record

/-- What may go wrong with the packet of a product, and does not: a picture of the product
finds the packet of another within its interval first; while the packet waits for pictures,
another starts under its id, or the last result it lacks arrives. -/
def Undisturbed (s : CPacketResult) : Event → Prop
  | .preInferAsync imageData now realOnlineCameraCount order =>
      (product.Has imageData.imageId →
        ∀ packet ∈ (s.packets order).find? fun packet => near cfg imageData packet.2,
          product.Meets packet.2) ∧
      (Starts cfg s imageData realOnlineCameraCount order →
        ∀ record ∈ s.m_packetHash.lookup now, ¬ product.Waits record)
  | .onImageResult _ objectImageResult _ =>
      product.Has objectImageResult.imageId →
        ∀ record ∈ s.m_packetHash.lookup objectImageResult.objectId, product.Waits record →
          Lacks record objectImageResult.imageId
  | .onTimeout .. => True

instance (s : CPacketResult) (outputs : List Output) (e : Event) :
    Decidable (product.Served s outputs e) :=
  match e with
  | .preInferAsync .. => inferInstanceAs (Decidable (_ ∧ _ ∧ _))
  | .onImageResult .. => inferInstanceAs (Decidable (_ ∧ _))
  | .onTimeout _ nowTime _ _ => List.decidableBAll
      (fun key => ∀ record ∈ s.m_packetHash.lookup key,
        product.Waits record → ¬ isDue cfg nowTime record) _

instance (s : CPacketResult) (e : Event) : Decidable (product.Undisturbed s e) :=
  match e with
  | .preInferAsync .. => inferInstanceAs (Decidable (_ ∧ _))
  | .onImageResult .. => inferInstanceAs (Decidable (_ → ∀ _ ∈ _, _ → _))
  | .onTimeout .. => inferInstanceAs (Decidable True)

end Product

section

variable (cfg : Config) (product : Product cfg)

/-- A run in which the pictures of the product pass, each once, and their results arrive. -/
structure ProductRun (events : List Event) : Prop where
  passes : product.passed events <+: product.pictures
  served : Machine.Always
    (fun first e => product.Served (after cfg first) (outputs cfg first) e) events

/-- One object id, one packet, at most one kick. -/
structure OnePacket (events : List Event) : Prop where
  oneId : ∃ objectId, ∀ imageData ∈ product.handed (outputs cfg events),
    imageData.objectId = objectId
  oneDetected : ((history cfg events).map product.detected).sum =
    if product.passed events = [] then 0 else 1
  oneKick : ((history cfg events).map product.kicks).sum ≤ 1

end

/-! ## The pictures so far -/

section Pictures

variable {cfg : Config} {product : Product cfg} {passed : List ImageData} {imageData : ImageData}

theorem has_of_passed (sofar : passed <+: product.pictures) (there : imageData ∈ passed) :
    product.Has imageData.imageId :=
  List.mem_map_of_mem (sofar.subset there)

/-- The next picture is of no image and no camera there was. -/
theorem next_new (next : passed ++ [imageData] <+: product.pictures) :
    imageData.imageId ∉ passed.map ImageData.imageId ∧
      imageData.cameraId ∉ passed.map ImageData.cameraId := by
  have images := product.images.sublist (next.sublist.map ImageData.imageId)
  have cameras := product.cameras.sublist (next.sublist.map ImageData.cameraId)
  rw [List.map_append] at images cameras
  constructor
  · intro there
    exact List.disjoint_of_nodup_append images there (List.mem_singleton_self _)
  · intro there
    exact List.disjoint_of_nodup_append cameras there (List.mem_singleton_self _)

/-- A picture of the product is taken within the interval of the first. -/
theorem near_first (there : imageData ∈ product.pictures) :
    distance imageData.genTimeStamp product.first.genTimeStamp ≤ cfg.m_maxInterval := by
  rcases List.mem_cons.mp there with rfl | other
  · have same : distance product.first.genTimeStamp product.first.genTimeStamp = 0 := by
      unfold distance
      rw [if_neg (UInt64.lt_irrefl _), if_neg (UInt64.lt_irrefl _)]
    rw [same]
    exact UInt64.zero_le
  · exact product.window imageData other

theorem distance_comm (a b : UInt64) : distance a b = distance b a := by
  unfold distance
  by_cases less : b < a
  · rw [if_pos less, if_neg (UInt64.lt_asymm less), if_pos less]
  · rw [if_neg less, if_neg less]

end Pictures

end IsgConsole.Multipler.CPacketResult
