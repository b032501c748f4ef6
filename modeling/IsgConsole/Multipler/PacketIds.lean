/-
# Multipler.PacketIds — packets named by the clock

The id of a new packet is the clock reading, and the packet is stored under it whether or
not a packet is stored there.  No packet is lost in exactly the runs in which no packet is
created under the id of a stored one.
-/
import IsgConsole.Multipler.PacketHistory

namespace IsgConsole.Multipler.CPacketResult

open IsgConsole.Theory IsgConsole.Inspector

set_option autoImplicit false

/-! ## Statements -/

/-- The packets are still there, and one more. -/
structure Grows (s r : CPacketResult) : Prop where
  kept : ∀ key record, s.m_packetHash.lookup key = some record →
    r.m_packetHash.lookup key = some record
  oneMore : r.m_packetHash.keys.length = s.m_packetHash.keys.length + 1

/-- The object id denotes a stored packet that contains the image. -/
def Denotes (s : CPacketResult) (objectId imageId : UInt64) : Prop :=
  ∃ record, s.m_packetHash.lookup objectId = some record ∧ imageId ∈ record.imageCameraIdHash

section

variable (cfg : Config)

/-- A condition on every start of a packet, on the state before it and the clock reading. -/
def AtStarts (s : CPacketResult) (e : Event) (P : UInt64 → Prop) : Prop :=
  ∀ imageData now realOnlineCameraCount order,
    e = .preInferAsync imageData now realOnlineCameraCount order →
    Starts cfg s imageData realOnlineCameraCount order → P now

/-- No packet of the run is lost: a new one leaves the others as they are, and the object
id an image is handed denotes a packet with the image until the packet is closed. -/
structure NoPacketLost (events : List Event) : Prop where
  grows : Machine.Always (fun first e => AtStarts cfg (after cfg first) e fun _ =>
    Grows (after cfg first) (step cfg (after cfg first) e).1) events
  denotes : ∀ first e more rest, events = first ++ [e] ++ more ++ rest →
    ∀ imageData ∈ handedIn (step cfg (after cfg first) e).2,
      (∀ objRecord ∈ closedIn (Machine.outputs (step cfg) (after cfg (first ++ [e])) more),
        objRecord.objectId ≠ imageData.objectId) →
      Denotes (after cfg (first ++ [e] ++ more)) imageData.objectId imageData.imageId

/-- No packet starts under the id of a stored one. -/
def FreshIds (events : List Event) : Prop :=
  Machine.Always (fun first e => AtStarts cfg (after cfg first) e fun now =>
    now ∉ (after cfg first).m_packetHash) events

end

/-! ## One step -/

section Step

variable {cfg : Config} {s : CPacketResult}

/-- A packet is created under the clock reading. -/
theorem starts_created {imageData : ImageData} {now : UInt64} {realOnlineCameraCount : Int}
    {order : List UInt64} (own : Own s)
    (starts : Starts cfg s imageData realOnlineCameraCount order) :
    ∃ record,
      (step cfg s (.preInferAsync imageData now realOnlineCameraCount order)).1.m_packetHash =
        s.m_packetHash.insert now record := by
  have move : Move cfg s _ _ :=
    step_move own (.preInferAsync imageData now realOnlineCameraCount order)
  generalize step cfg s (.preInferAsync imageData now realOnlineCameraCount order) = r at move ⊢
  cases move with
  | joined imageData now count order key i found =>
      rw [joined_none.mpr starts] at found
      cases found
  | created imageData now count order record after alone new packets counted =>
      exact ⟨record, packets⟩
  | closed e key stored objRecord after kicks held why => cases why
  | ignored e noPicture => exact absurd rfl (noPicture _ _ _ _)

/-- A new packet leaves the others as they are exactly if its id is not taken. -/
theorem grows_iff {now : UInt64} {record : PacketObject} {r : CPacketResult}
    (packets : r.m_packetHash = s.m_packetHash.insert now record) :
    Grows s r ↔ now ∉ s.m_packetHash := by
  have size : r.m_packetHash.keys.length = (s.m_packetHash.keys.erase now).length + 1 := by
    rw [packets, AList.keys_insert]
    rfl
  constructor
  · intro grows taken
    have smaller : (s.m_packetHash.keys.erase now).length + 1 = s.m_packetHash.keys.length :=
      List.length_erase_add_one taken
    have := grows.oneMore
    omega
  · intro free
    constructor
    · intro key stored held
      have other : key ≠ now := by
        rintro rfl
        exact free (AList.lookup_isSome.mp (by rw [held]; rfl))
      rw [packets, AList.lookup_insert_ne other]
      exact held
    · rw [size, List.erase_of_not_mem free]

/-- The object id a picture is handed denotes its packet. -/
theorem handed_denotes (own : Own s) {e : Event} {imageData : ImageData}
    (handed : imageData ∈ handedIn (step cfg s e).2) :
    Denotes (step cfg s e).1 imageData.objectId imageData.imageId := by
  have move : Move cfg s e (step cfg s e) := step_move own e
  generalize step cfg s e = r at move handed ⊢
  cases move with
  | joined imageData now count order key i found =>
      obtain rfl := List.mem_singleton.mp handed
      refine ⟨addImage i imageData, ?_, (AList.mem_insert _).mpr (.inl rfl)⟩
      show (s.m_packetHash.insert key (addImage i imageData)).lookup i.objectId = _
      rw [own key i (joined_stored found), AList.lookup_insert]
  | created imageData now count order record after alone new packets counted =>
      obtain rfl := List.mem_singleton.mp handed
      refine ⟨record, ?_, ?_⟩
      · show after.m_packetHash.lookup record.objectId = _
        rw [packets, new.named, AList.lookup_insert]
      · rw [new.images]
        exact AList.mem_keys.mpr (List.mem_singleton.mpr rfl)
  | collected devices objectImageResult count stored held awaited => cases handed
  | closed e key stored objRecord after kicks held why named images packets only =>
      have none : handedIn (.objectResult objRecord :: kicks) = [] := only.noPicture
      rw [none] at handed
      cases handed
  | ignored => cases handed

/-- An image stays in its packet until that is closed, if no packet starts under its id. -/
theorem denotes_step (own : Own s) {e : Event} {objectId imageId : UInt64}
    (fresh : AtStarts cfg s e fun now => now ∉ s.m_packetHash)
    (stays : ∀ objRecord ∈ closedIn (step cfg s e).2, objRecord.objectId ≠ objectId)
    (denotes : Denotes s objectId imageId) : Denotes (step cfg s e).1 objectId imageId := by
  obtain ⟨record, held, there⟩ := denotes
  have move : Move cfg s e (step cfg s e) := step_move own e
  generalize step cfg s e = r at move stays ⊢
  cases move with
  | joined imageData now count order key i found =>
      by_cases this : objectId = key
      · subst this
        rw [joined_stored found] at held
        obtain rfl := Option.some.inj held
        exact ⟨addImage i imageData, AList.lookup_insert _, (AList.mem_insert _).mpr (.inr there)⟩
      · refine ⟨record, ?_, there⟩
        rw [AList.lookup_insert_ne this]
        exact held
  | created imageData now count order record' after alone new packets counted =>
      have free := fresh _ _ _ _ rfl (joined_none.mp alone)
      exact ⟨record, ((grows_iff packets).mpr free).kept _ _ held, there⟩
  | collected devices objectImageResult count stored held' awaited =>
      by_cases this : objectId = objectImageResult.objectId
      · subst this
        rw [held'] at held
        obtain rfl := Option.some.inj held
        refine ⟨addResult stored objectImageResult, AList.lookup_insert _, ?_⟩
        rw [addResult_images]
        exact there
      · refine ⟨record, ?_, there⟩
        rw [AList.lookup_insert_ne this]
        exact held
  | closed e key stored objRecord after kicks held' why named images packets only =>
      have other : objectId ≠ key := by
        rintro rfl
        exact stays objRecord (List.mem_cons_self ..) named
      refine ⟨record, ?_, there⟩
      rw [packets, AList.lookup_erase_ne other]
      exact held
  | ignored => exact ⟨record, held, there⟩

end Step

/-! ## A run -/

theorem denotes_run {cfg : Config} {first : List Event} {objectId imageId : UInt64}
    (denotes : Denotes (after cfg first) objectId imageId) {more : List Event}
    (fresh : FreshIds cfg (first ++ more))
    (stays : ∀ objRecord ∈ closedIn (Machine.outputs (step cfg) (after cfg first) more),
      objRecord.objectId ≠ objectId) :
    Denotes (after cfg (first ++ more)) objectId imageId := by
  induction more using List.reverseRecOn with
  | nil => rwa [List.append_nil]
  | append_singleton more e ih =>
      rw [← List.append_assoc] at fresh ⊢
      obtain ⟨before, last⟩ := Machine.always_snoc.mp fresh
      rw [Machine.outputs_snoc, closedIn, List.filterMap_append] at stays
      rw [after, Machine.final_snoc]
      apply denotes_step (own_run cfg _) last
      · intro objRecord closes
        apply stays
        rw [after, Machine.final_append] at closes
        exact List.mem_append_right _ closes
      · exact ih before fun objRecord closes => stays objRecord (List.mem_append_left _ closes)

/-- **No packet is lost, exactly if no packet starts under the id of a stored one.** -/
theorem noPacketLost_iff (cfg : Config) (events : List Event) :
    NoPacketLost cfg events ↔ FreshIds cfg events := by
  constructor
  · rintro ⟨grows, -⟩ first e rest split imageData now count order rfl starts
    obtain ⟨record, packets⟩ := starts_created (own_run cfg first) starts
    exact (grows_iff packets).mp (grows first _ rest split imageData now count order rfl starts)
  · intro fresh
    constructor
    · rintro first e rest split imageData now count order rfl starts
      obtain ⟨record, packets⟩ := starts_created (own_run cfg first) starts
      exact (grows_iff packets).mpr (fresh first _ rest split imageData now count order rfl starts)
    · rintro first e more rest rfl imageData handed stays
      have denotes : Denotes (after cfg (first ++ [e])) imageData.objectId imageData.imageId := by
        rw [after, Machine.final_snoc]
        exact handed_denotes (own_run cfg first) handed
      exact denotes_run denotes (Machine.always_append.mp fresh).1 stays

/-! ## Two packets in one millisecond -/

/-- Two pictures of different packets pass within one millisecond, and one packet is left. -/
theorem sameMillisecond_lost :
    ¬ NoPacketLost tight
      [.preInferAsync (picture 1 1 1000) 5000 2 [],
        .preInferAsync (picture 2 1 2000) 5000 2 [5000]] := by
  rintro ⟨grows, -⟩
  have starts : Starts tight (after tight [.preInferAsync (picture 1 1 1000) 5000 2 []])
      (picture 2 1 2000) 2 [5000] := joined_none.mp (by decide)
  have grown := grows [_] _ [] rfl _ _ _ _ rfl starts
  exact absurd grown.oneMore (by decide)

end IsgConsole.Multipler.CPacketResult
