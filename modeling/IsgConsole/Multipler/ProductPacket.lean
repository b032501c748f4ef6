/-
# Multipler.ProductPacket — the packet of a product among others

Every stored packet is the one of the product, which has exactly the pictures so far
(`Gathers`), or holds pictures of others only (`Foreign`).  `Table` says so for the whole
table, and what may happen to it leaves it so.
-/
import IsgConsole.Multipler.Product

namespace IsgConsole.Multipler.CPacketResult

open IsgConsole.Theory IsgConsole.Inspector

set_option autoImplicit false

section

variable {cfg : Config} (product : Product cfg)

/-- A packet of other pictures, taken outside the window of the product. -/
structure Foreign (record : PacketObject) : Prop where
  noPicture : ¬ product.Meets record
  far : cfg.m_maxInterval < distance product.first.genTimeStamp record.firstImageTime

/-- The packet with exactly the pictures so far, which waits for results. -/
structure Gathers (passed : List ImageData) (record : PacketObject) : Prop where
  taken : record.firstImageTime = product.first.genTimeStamp
  images : record.imageCameraIdHash.entries =
    passed.reverse.map fun imageData => ⟨imageData.imageId, imageData.cameraId⟩
  results : record.imageResultHash.keys ⊆ record.imageCameraIdHash.keys
  open' : record.imageResultHash.keys.length < record.imageCameraIdHash.keys.length

/-- The packet of the product, if it is stored, among the packets of others. -/
structure Table (s : CPacketResult) (mine : Option (UInt64 × PacketObject)) : Prop where
  held : ∀ packet ∈ mine, s.m_packetHash.lookup packet.1 = some packet.2
  others : ∀ key record, s.m_packetHash.lookup key = some record →
    (key, record) ∈ mine ∨ Foreign product record

end

variable {cfg : Config} {product : Product cfg} {s r : CPacketResult}
  {mine : Option (UInt64 × PacketObject)} {passed : List ImageData} {record : PacketObject}
  {imageData : ImageData}

/-! ## The table -/

theorem Table.insert_foreign (table : Table product s mine) {key : UInt64} {record : PacketObject}
    (other : ∀ packet ∈ mine, packet.1 ≠ key) (foreign : Foreign product record)
    (packets : r.m_packetHash = s.m_packetHash.insert key record) : Table product r mine := by
  constructor
  · intro packet there
    rw [packets, AList.lookup_insert_ne (other packet there)]
    exact table.held packet there
  · intro key' stored held
    rw [packets] at held
    rcases Hash.of_lookup_insert held with ⟨rfl, rfl⟩ | ⟨-, old⟩
    · exact .inr foreign
    · exact table.others key' stored old

/-- A packet of others in the place of the product's. -/
theorem Table.insert_over (table : Table product s mine) {key : UInt64} {record : PacketObject}
    (same : ∀ packet ∈ mine, packet.1 = key) (foreign : Foreign product record)
    (packets : r.m_packetHash = s.m_packetHash.insert key record) : Table product r none := by
  constructor
  · rintro packet ⟨⟩
  · intro key' stored held
    rw [packets] at held
    rcases Hash.of_lookup_insert held with ⟨rfl, rfl⟩ | ⟨this, old⟩
    · exact .inr foreign
    · refine .inr ((table.others key' stored old).resolve_left ?_)
      intro there
      exact this (same _ there)

theorem Table.insert_mine (table : Table product s mine) {key : UInt64} {record : PacketObject}
    (same : ∀ packet ∈ mine, packet.1 = key)
    (packets : r.m_packetHash = s.m_packetHash.insert key record) :
    Table product r (some (key, record)) := by
  constructor
  · rintro packet ⟨⟩
    rw [packets, AList.lookup_insert]
  · intro key' stored held
    rw [packets] at held
    rcases Hash.of_lookup_insert held with ⟨rfl, rfl⟩ | ⟨this, old⟩
    · exact .inl rfl
    · refine .inr ((table.others key' stored old).resolve_left ?_)
      intro there
      exact this (same _ there)

theorem Table.erase_foreign (table : Table product s mine) {key : UInt64}
    (other : ∀ packet ∈ mine, packet.1 ≠ key)
    (packets : r.m_packetHash = s.m_packetHash.erase key) : Table product r mine := by
  constructor
  · intro packet there
    rw [packets, AList.lookup_erase_ne (other packet there)]
    exact table.held packet there
  · intro key' stored held
    rw [packets] at held
    exact table.others key' stored (Hash.of_lookup_erase held).2

/-- Without the packet of the product, the packets of others are left. -/
theorem Table.erase_mine {key : UInt64} {record : PacketObject}
    (table : Table product s (some (key, record)))
    (packets : r.m_packetHash = s.m_packetHash.erase key) : Table product r none := by
  constructor
  · rintro packet ⟨⟩
  · intro key' stored held
    rw [packets] at held
    obtain ⟨this, old⟩ := Hash.of_lookup_erase held
    refine .inr ((table.others key' stored old).resolve_left ?_)
    rintro ⟨⟩
    exact this rfl

/-! ## Packets of others -/

/-- A packet of others stays one with a picture of others. -/
theorem Foreign.addImage (foreign : Foreign product record)
    (other : ¬ product.Has imageData.imageId) : Foreign product (addImage record imageData) := by
  refine ⟨?_, foreign.far⟩
  rintro ⟨imageId, there, ours⟩
  rcases (AList.mem_insert _).mp there with rfl | old
  · exact other ours
  · exact foreign.noPicture ⟨imageId, old, ours⟩

theorem Foreign.addResult (foreign : Foreign product record)
    {objectImageResult : ObjectImageResult} :
    Foreign product (addResult record objectImageResult) := by
  unfold CPacketResult.addResult
  split
  · exact ⟨foreign.noPicture, foreign.far⟩
  · exact foreign

/-! ## The packet of the product -/

theorem Gathers.keys (gathers : Gathers product passed record) :
    record.imageCameraIdHash.keys = (passed.map ImageData.imageId).reverse := by
  rw [AList.keys, gathers.images, List.keys, List.map_map, ← List.map_reverse]
  rfl

theorem Gathers.count (gathers : Gathers product passed record) :
    record.imageCameraIdHash.keys.length = passed.length := by
  rw [gathers.keys, List.length_reverse, List.length_map]

theorem Gathers.some (gathers : Gathers product passed record) : passed ≠ [] := by
  rintro rfl
  have open' := gathers.open'
  rw [gathers.count] at open'
  exact Nat.not_lt_zero _ open'

theorem Gathers.has (gathers : Gathers product passed record) (sofar : passed <+: product.pictures)
    {imageId : UInt64} (there : imageId ∈ record.imageCameraIdHash.keys) :
    product.Has imageId := by
  rw [gathers.keys, List.mem_reverse] at there
  obtain ⟨imageData, passed, rfl⟩ := List.mem_map.mp there
  exact has_of_passed sofar passed

theorem Gathers.meets (gathers : Gathers product passed record)
    (sofar : passed <+: product.pictures) : product.Meets record := by
  have some : record.imageCameraIdHash.keys ≠ [] := by
    intro none
    have open' := gathers.open'
    rw [none] at open'
    exact Nat.not_lt_zero _ open'
  obtain ⟨imageId, there⟩ := List.exists_mem_of_ne_nil _ some
  exact ⟨imageId, there, gathers.has sofar there⟩

/-- A packet that does not wait for pictures has them all. -/
theorem Gathers.all (gathers : Gathers product passed record) (sofar : passed <+: product.pictures)
    (notWaits : ¬ product.Waits record) : passed = product.pictures := by
  apply sofar.eq_of_length
  apply le_antisymm sofar.length_le
  rw [← gathers.count]
  exact Nat.not_lt.mp fun fewer => notWaits ⟨gathers.meets sofar, fewer⟩

/-- The next picture finds room in the packet. -/
theorem Gathers.hasRoom (gathers : Gathers product passed record) {realOnlineCameraCount : Int}
    (online : (product.pictures.length : Int) ≤ realOnlineCameraCount)
    (next : passed ++ [imageData] <+: product.pictures) :
    hasRoom imageData realOnlineCameraCount record := by
  have fewer : passed.length + 1 ≤ product.pictures.length := by
    simpa using next.length_le
  have camera := (next_new next).2
  simp only [CPacketResult.hasRoom, decide_eq_true_eq, List.all_eq_true, gathers.count]
  constructor
  · intro image there
    rw [gathers.images] at there
    obtain ⟨old, before, rfl⟩ := List.mem_map.mp there
    intro same
    exact camera (List.mem_map.mpr ⟨old, List.mem_reverse.mp before, same⟩)
  · omega

theorem Gathers.addImage (gathers : Gathers product passed record)
    (next : passed ++ [imageData] <+: product.pictures) :
    Gathers product (passed ++ [imageData]) (addImage record imageData) := by
  have new : imageData.imageId ∉ record.imageCameraIdHash := by
    rw [AList.mem_keys, gathers.keys, List.mem_reverse]
    exact (next_new next).1
  constructor
  · exact gathers.taken
  · show (record.imageCameraIdHash.insert _ _).entries = _
    rw [AList.entries_insert_of_notMem new, gathers.images, List.reverse_append]
    rfl
  · intro imageId there
    exact (AList.mem_insert _).mpr (.inr (gathers.results there))
  · show record.imageResultHash.keys.length < (record.imageCameraIdHash.insert _ _).keys.length
    rw [AList.keys_insert, List.erase_of_not_mem new, List.length_cons]
    exact Nat.lt_succ_of_lt gathers.open'

/-- The results are of pictures in the packet. -/
theorem Gathers.results_addResult (gathers : Gathers product passed record)
    (objectImageResult : ObjectImageResult) :
    (addResult record objectImageResult).imageResultHash.keys ⊆ record.imageCameraIdHash.keys := by
  unfold addResult
  split
  · rename_i there
    intro imageId result
    rcases (AList.mem_insert _).mp result with rfl | old
    · exact there
    · exact gathers.results old
  · exact gathers.results

/-- While the result of a picture is missing, the packet is not complete. -/
theorem Gathers.incomplete (gathers : Gathers product passed record)
    (sofar : passed <+: product.pictures) {realOnlineCameraCount : Int}
    (online : (product.pictures.length : Int) ≤ realOnlineCameraCount)
    {objectImageResult : ObjectImageResult} {imageId : UInt64}
    (there : imageId ∈ record.imageCameraIdHash.keys)
    (missing : imageId ∉ (addResult record objectImageResult).imageResultHash.keys) :
    complete realOnlineCameraCount (addResult record objectImageResult) = false := by
  have inside : imageId :: (addResult record objectImageResult).imageResultHash.keys ⊆
      record.imageCameraIdHash.keys :=
    List.cons_subset.mpr ⟨there, gathers.results_addResult objectImageResult⟩
  have distinct := List.nodup_cons.mpr
    ⟨missing, (addResult record objectImageResult).imageResultHash.nodupKeys⟩
  have fewer := (distinct.subperm inside).length_le
  have count := gathers.count
  have most := sofar.length_le
  rw [List.length_cons] at fewer
  simp only [complete, addResult_images, decide_eq_false_iff_not]
  omega

theorem Gathers.collect (gathers : Gathers product passed record) {realOnlineCameraCount : Int}
    {objectImageResult : ObjectImageResult}
    (awaited : complete realOnlineCameraCount (addResult record objectImageResult) = false) :
    Gathers product passed (addResult record objectImageResult) := by
  constructor
  · unfold addResult
    split <;> exact gathers.taken
  · rw [addResult_images]
    exact gathers.images
  · rw [addResult_images]
    exact gathers.results_addResult objectImageResult
  · simp only [complete, decide_eq_false_iff_not] at awaited
    omega

/-- Only with all its pictures is the packet completed by a result. -/
theorem Gathers.whole (gathers : Gathers product passed record)
    (sofar : passed <+: product.pictures) {realOnlineCameraCount : Int}
    (online : (product.pictures.length : Int) ≤ realOnlineCameraCount)
    {objectImageResult : ObjectImageResult}
    (undisturbed : product.Has objectImageResult.imageId → product.Waits record →
      Lacks record objectImageResult.imageId)
    (completes : complete realOnlineCameraCount (addResult record objectImageResult)) :
    passed = product.pictures := by
  by_contra notAll
  have waits : product.Waits record := by
    by_contra notWaits
    exact notAll (gathers.all sofar notWaits)
  obtain ⟨imageId, there, missing⟩ : ∃ imageId ∈ record.imageCameraIdHash.keys,
      imageId ∉ (addResult record objectImageResult).imageResultHash.keys := by
    unfold addResult
    -- A result for no picture of the packet adds nothing, and one was missing before.
    split
    · rename_i inside
      obtain ⟨imageId, there, other, missing⟩ := undisturbed (gathers.has sofar inside) waits
      refine ⟨imageId, there, ?_⟩
      intro result
      rcases (AList.mem_insert _).mp result with same | old
      · exact other same
      · exact missing old
    · by_contra all
      push Not at all
      have covered := (record.imageCameraIdHash.nodupKeys.subperm all).length_le
      exact absurd gathers.open' (Nat.not_lt.mpr covered)
  rw [gathers.incomplete sofar online there missing] at completes
  cases completes

end IsgConsole.Multipler.CPacketResult
