/-
# Multipler.Timeouts — what runs out of time, and what a scan reclaims

`CImageMultipler::onTimeout` and `CPacketResult::onTimeout` look for what is older than its limit
and stop at the first they find; `ImageGroup::onTimeout` goes through all groups.  The ages are
differences of unsigned words, like that of a `ConfigSet` the TCP client receives.

* `expiry_safe_iff` — **when the age tests say what the sum of time stamp and limit says**;
* `scans_reclaim_iff` — **when a scan reclaims everything that is due.**
-/
import IsgConsole.IasAgent.ImageGroup
import IsgConsole.IopAgent.TcpConnection
import IsgConsole.Multipler.PacketHistory
import IsgConsole.Theory.Expiry

namespace IsgConsole.Multipler

open IsgConsole.Theory IsgConsole.Theory.Expiry IsgConsole.BaseLib IsgConsole.Inspector
open IsgConsole.IopAgent IsgConsole.IasAgent

set_option autoImplicit false

namespace Timeouts

/-! ## The image scan -/

section Images

open CImageMultipler

variable {cfg : ImageMultiplerConfig} {s : CImageMultipler} {env : Surroundings} {clock : Int64}

/-- The record is out of time. -/
def imageExpired (cfg : ImageMultiplerConfig) (clock : Int64) (imageRecord : ImageResultRecord) :
    Prop :=
  Expired clock imageRecord.imageData.genTimeStamp cfg.m_inferTimeout

instance (imageRecord : ImageResultRecord) : Decidable (imageExpired cfg clock imageRecord) :=
  inferInstanceAs (Decidable (Expired _ _ _))

theorem image_isDue_iff {imageRecord : ImageResultRecord} :
    isDue cfg clock.toUInt64 imageRecord = true ↔
      cfg.m_inferTimeout ≤ elapsed clock imageRecord.imageData.genTimeStamp := by
  simp [isDue, elapsed]

theorem image_isDue_of_past {imageRecord : ImageResultRecord}
    (past : (imageRecord.imageData.genTimeStamp.toNat : Int) ≤ clock.toInt) :
    isDue cfg clock.toUInt64 imageRecord = true ↔ imageExpired cfg clock imageRecord :=
  image_isDue_iff.trans (le_elapsed_of_past clock _ _ past)

/-- The scan, where it comes to a record, takes it for one that is out of time. -/
def imageTreated (cfg : ImageMultiplerConfig) (s : CImageMultipler) (env : Surroundings)
    (clock : Int64) (key : UInt64) : Prop :=
  (s.onTimeout cfg env clock.toUInt64 [key]).2 ≠ []

theorem imageTreated_iff {key : UInt64} {imageRecord : ImageResultRecord}
    (held : s.m_imageResultRecord.lookup key = some imageRecord) :
    imageTreated cfg s env clock key ↔
      cfg.m_inferTimeout ≤ elapsed clock imageRecord.imageData.genTimeStamp := by
  rw [← image_isDue_iff, imageTreated, onTimeout]
  by_cases due : isDue cfg clock.toUInt64 imageRecord <;> simp [held, due]

/-- The scan comes to every record once, and no record is ahead of the clock. -/
structure ImageScan (s : CImageMultipler) (clock : Int64) (order : List UInt64) : Prop where
  each : order.Perm s.m_imageResultRecord.keys
  past : ∀ key imageRecord, s.m_imageResultRecord.lookup key = some imageRecord →
    (imageRecord.imageData.genTimeStamp.toNat : Int) ≤ clock.toInt

theorem ImageScan.mem {order : List UInt64} (scan : ImageScan s clock order) {key : UInt64}
    {imageRecord : ImageResultRecord}
    (held : s.m_imageResultRecord.lookup key = some imageRecord) : key ∈ order :=
  scan.each.mem_iff.mpr (AList.mem_keys.mp (Hash.mem_of_lookup held))

/-- What one scan of the records does. -/
theorem image_onTimeout_cases (cfg : ImageMultiplerConfig) (env : Surroundings)
    {order : List UInt64} (scan : ImageScan s clock order) :
    (s.onTimeout cfg env clock.toUInt64 order).1.m_imageResultRecord = s.m_imageResultRecord ∧
        (∀ key imageRecord, s.m_imageResultRecord.lookup key = some imageRecord →
          ¬ imageExpired cfg clock imageRecord) ∨
      ∃ key imageRecord, Takes (imageExpired cfg clock) (fun r => r.imageData.imageId)
        s.m_imageResultRecord key imageRecord
        (s.onTimeout cfg env clock.toUInt64 order).1.m_imageResultRecord := by
  unfold onTimeout
  split
  case h_1 none =>
    refine .inl ⟨rfl, fun key imageRecord held expired => ?_⟩
    have young := List.find?_eq_none.mp none imageRecord
      (List.mem_filterMap.mpr ⟨key, scan.mem held, held⟩)
    exact young ((image_isDue_of_past (scan.past key imageRecord held)).mpr expired)
  case h_2 imageRecord found =>
    obtain ⟨key, -, held⟩ := List.mem_filterMap.mp (List.mem_of_find?_eq_some found)
    have expired := (image_isDue_of_past (scan.past key imageRecord held)).mp
      (List.find?_some found)
    refine .inr ⟨key, imageRecord, held, expired, AList.lookup_erase _ _, ?_, ?_⟩
    · intro foreign
      exact ⟨imageRecord, (AList.lookup_erase_ne foreign.symm).trans held, expired⟩
    · intro key' other _
      exact AList.lookup_erase_ne other

/-- **When one scan of the records reclaims all that are due.** -/
theorem image_reclaims_iff {order : List UInt64} (scan : ImageScan s clock order) :
    Reclaims (imageExpired cfg clock) s.m_imageResultRecord
        (s.onTimeout cfg env clock.toUInt64 order).1.m_imageResultRecord ↔
      LoneDue (imageExpired cfg clock) (fun r => r.imageData.imageId) s.m_imageResultRecord :=
  reclaims_iff_of_scan (image_onTimeout_cases cfg env scan)

end Images

/-! ## The packet scan -/

section Packets

open CPacketResult

variable {cfg : Config} {s : CPacketResult} {clock : Int64} (devices : KickDevices)
  (realOnlineCameraCount : Int)

/-- The packet is out of time. -/
def packetExpired (cfg : Config) (clock : Int64) (objRecord : PacketObject) : Prop :=
  Expired clock objRecord.firstImageTime cfg.m_inferTimeout

instance (objRecord : PacketObject) : Decidable (packetExpired cfg clock objRecord) :=
  inferInstanceAs (Decidable (Expired _ _ _))

theorem packet_isDue_iff {objRecord : PacketObject} :
    CPacketResult.isDue cfg clock.toUInt64 objRecord = true ↔
      cfg.m_inferTimeout ≤ elapsed clock objRecord.firstImageTime := by
  simp [CPacketResult.isDue, elapsed]

theorem packet_isDue_of_past {objRecord : PacketObject}
    (past : (objRecord.firstImageTime.toNat : Int) ≤ clock.toInt) :
    CPacketResult.isDue cfg clock.toUInt64 objRecord = true ↔ packetExpired cfg clock objRecord :=
  packet_isDue_iff.trans (le_elapsed_of_past clock _ _ past)

/-- The table after a due packet is settled. -/
theorem packet_onTimeout_of_found {order : List UInt64} {nowTime : UInt64} {key : UInt64}
    {objRecord : PacketObject}
    (found : (s.packets order).find? (fun packet => CPacketResult.isDue cfg nowTime packet.2) =
      some (key, objRecord)) :
    ∃ result, ((s.onTimeout cfg devices nowTime realOnlineCameraCount order).1.m_packetHash =
          s.m_packetHash.erase objRecord.objectId ∨
        (s.onTimeout cfg devices nowTime realOnlineCameraCount order).1.m_packetHash =
          (s.m_packetHash.insert key { objRecord with result := result }).erase
            objRecord.objectId) ∧
      (s.onTimeout cfg devices nowTime realOnlineCameraCount order).2 ≠ [] := by
  unfold CPacketResult.onTimeout
  simp only [found]
  split
  case isTrue unanswered => exact ⟨true, .inl rfl, by simp⟩
  case isFalse answered =>
    refine ⟨verdict objRecord, .inr ?_, by simp⟩
    dsimp only
    split
    · rw [doKickFinal_packets, countNg_packets]
    · rw [countNg_packets]

/-- The scan, where it comes to a packet, takes it for one that is out of time. -/
def packetTreated (cfg : Config) (s : CPacketResult) (devices : KickDevices) (clock : Int64)
    (realOnlineCameraCount : Int) (key : UInt64) : Prop :=
  (s.onTimeout cfg devices clock.toUInt64 realOnlineCameraCount [key]).2 ≠ []

theorem packetTreated_iff {key : UInt64} {objRecord : PacketObject}
    (held : s.m_packetHash.lookup key = some objRecord) :
    packetTreated cfg s devices clock realOnlineCameraCount key ↔
      cfg.m_inferTimeout ≤ elapsed clock objRecord.firstImageTime := by
  have only : s.packets [key] = [(key, objRecord)] := by simp [packets, held]
  rw [← packet_isDue_iff, packetTreated]
  by_cases due : CPacketResult.isDue cfg clock.toUInt64 objRecord
  · have found : (s.packets [key]).find?
        (fun packet => CPacketResult.isDue cfg clock.toUInt64 packet.2) =
        some (key, objRecord) := by simp [only, due]
    obtain ⟨_, -, emits⟩ := packet_onTimeout_of_found devices realOnlineCameraCount found
    exact iff_of_true emits due
  · refine iff_of_false ?_ due
    simp [CPacketResult.onTimeout, only, due]

/-- The scan comes to every packet once, and no packet is ahead of the clock. -/
structure PacketScan (s : CPacketResult) (clock : Int64) (order : List UInt64) : Prop where
  each : order.Perm s.m_packetHash.keys
  past : ∀ key objRecord, s.m_packetHash.lookup key = some objRecord →
    (objRecord.firstImageTime.toNat : Int) ≤ clock.toInt

/-- What one scan of the packets does. -/
theorem packet_onTimeout_cases (cfg : Config) {order : List UInt64}
    (scan : PacketScan s clock order) :
    (s.onTimeout cfg devices clock.toUInt64 realOnlineCameraCount order).1.m_packetHash =
          s.m_packetHash ∧
        (∀ key objRecord, s.m_packetHash.lookup key = some objRecord →
          ¬ packetExpired cfg clock objRecord) ∨
      ∃ key objRecord, Takes (packetExpired cfg clock) PacketObject.objectId s.m_packetHash key
        objRecord
        (s.onTimeout cfg devices clock.toUInt64 realOnlineCameraCount order).1.m_packetHash := by
  cases found : (s.packets order).find?
      fun packet => CPacketResult.isDue cfg clock.toUInt64 packet.2 with
  | none =>
      refine .inl ⟨by simp [CPacketResult.onTimeout, found], fun key objRecord held expired => ?_⟩
      have there : key ∈ order :=
        scan.each.mem_iff.mpr (AList.mem_keys.mp (Hash.mem_of_lookup held))
      have young := List.find?_eq_none.mp found (key, objRecord) (met_of_lookup there held)
      exact young ((packet_isDue_of_past (scan.past key objRecord held)).mpr expired)
  | some packet =>
      obtain ⟨key, objRecord⟩ := packet
      have held := mem_packets (List.mem_of_find?_eq_some found)
      have due := List.find?_some
        (p := fun met : UInt64 × PacketObject => CPacketResult.isDue cfg clock.toUInt64 met.2) found
      have expired := (packet_isDue_of_past (scan.past key objRecord held)).mp due
      obtain ⟨result, table, -⟩ := packet_onTimeout_of_found devices realOnlineCameraCount found
      refine .inr ⟨key, objRecord, held, expired, ?_, ?_, ?_⟩
      · rcases table with erased | settled
        · rw [erased, AList.lookup_erase]
        · rw [settled, AList.lookup_erase]
      · intro foreign
        rcases table with erased | settled
        · rw [erased, AList.lookup_erase_ne foreign.symm]
          exact ⟨objRecord, held, expired⟩
        · rw [settled, AList.lookup_erase_ne foreign.symm, AList.lookup_insert]
          exact ⟨_, rfl, expired⟩
      · intro key' other apart
        rcases table with erased | settled
        · rw [erased, AList.lookup_erase_ne other]
        · rw [settled, AList.lookup_erase_ne other, AList.lookup_insert_ne apart]

/-- **When one scan of the packets reclaims all that are due.** -/
theorem packet_reclaims_iff {order : List UInt64} (scan : PacketScan s clock order) :
    Reclaims (packetExpired cfg clock) s.m_packetHash
        (s.onTimeout cfg devices clock.toUInt64 realOnlineCameraCount order).1.m_packetHash ↔
      LoneDue (packetExpired cfg clock) PacketObject.objectId s.m_packetHash :=
  reclaims_iff_of_scan (packet_onTimeout_cases devices realOnlineCameraCount cfg scan)

end Packets

/-! ## The group scan -/

section Groups

variable {nowTime imageMaxInterval : Int}

/-- The group is out of time. -/
def groupExpired (nowTime imageMaxInterval : Int) (item : ImageGroupData) : Prop :=
  imageMaxInterval ≤ nowTime - item.genTimeStamp

/-- A turn of the loop looks at one key. -/
theorem expire_lookup_ne {r : ImageGroup × List ImageGroupData} {objectId key : UInt64}
    (apart : key ≠ objectId) :
    (ImageGroup.expire nowTime imageMaxInterval r objectId).1.m_groupHash.lookup key =
      r.1.m_groupHash.lookup key := by
  unfold ImageGroup.expire
  split
  · split
    · exact AList.lookup_erase_ne apart
    · rfl
  · rfl

/-- What a turn leaves under its key is young and was there before. -/
theorem expire_lookup_self {r : ImageGroup × List ImageGroupData} {objectId : UInt64}
    {item : ImageGroupData} :
    (ImageGroup.expire nowTime imageMaxInterval r objectId).1.m_groupHash.lookup objectId =
        some item ↔
      r.1.m_groupHash.lookup objectId = some item ∧
        ¬ groupExpired nowTime imageMaxInterval item := by
  unfold ImageGroup.expire groupExpired
  cases held : r.1.m_groupHash.lookup objectId with
  | none => simp [held]
  | some stored =>
      dsimp only
      split
      case isTrue due =>
        rw [AList.lookup_erase]
        simp only [reduceCtorEq, Option.some.injEq, false_iff]
        rintro ⟨rfl, young⟩
        exact young due
      case isFalse young =>
        rw [held, Option.some.injEq, iff_self_and]
        rintro rfl
        exact young

/-- What the loop leaves: the groups it did not come to, and those it found young. -/
theorem group_onTimeout_lookup {order : List UInt64} {r : ImageGroup × List ImageGroupData}
    {key : UInt64} {item : ImageGroupData} :
    (order.foldl (ImageGroup.expire nowTime imageMaxInterval) r).1.m_groupHash.lookup key =
        some item ↔
      r.1.m_groupHash.lookup key = some item ∧
        (key ∈ order → ¬ groupExpired nowTime imageMaxInterval item) := by
  induction order generalizing r with
  | nil => simp
  | cons objectId order ih =>
      rw [List.foldl_cons, ih, List.mem_cons]
      by_cases this : key = objectId
      · subst this
        rw [expire_lookup_self]
        tauto
      · rw [expire_lookup_ne this]
        tauto

/-- A scan of the groups reclaims all that are due. -/
theorem group_reclaims (s : ImageGroup) (nowTime imageMaxInterval : Int) {order : List UInt64}
    (each : order.Perm s.m_groupHash.keys) :
    Reclaims (groupExpired nowTime imageMaxInterval) s.m_groupHash
      (s.onTimeout nowTime imageMaxInterval order).1.m_groupHash := by
  constructor
  · intro key item left
    obtain ⟨held, young⟩ := group_onTimeout_lookup.mp left
    exact young (each.mem_iff.mpr (AList.mem_keys.mp (Hash.mem_of_lookup held)))
  · intro key item held young
    exact group_onTimeout_lookup.mpr ⟨held, fun _ => young⟩

end Groups

/-! ## What is reclaimed -/

/-- **When one scan reclaims everything that is due.**  The scans of the records and of the packets
do when at most one entry is due, stored under the id it carries; that of the groups always does. -/
theorem scans_reclaim_iff (clock : Int64) :
    (∀ (cfg : ImageMultiplerConfig) (s : CImageMultipler) (env : Surroundings)
        (order : List UInt64), ImageScan s clock order →
      (Reclaims (imageExpired cfg clock) s.m_imageResultRecord
          (s.onTimeout cfg env clock.toUInt64 order).1.m_imageResultRecord ↔
        LoneDue (imageExpired cfg clock) (fun r => r.imageData.imageId) s.m_imageResultRecord)) ∧
    (∀ (cfg : CPacketResult.Config) (s : CPacketResult) (devices : KickDevices)
        (realOnlineCameraCount : Int) (order : List UInt64), PacketScan s clock order →
      (Reclaims (packetExpired cfg clock) s.m_packetHash
          (s.onTimeout cfg devices clock.toUInt64 realOnlineCameraCount order).1.m_packetHash ↔
        LoneDue (packetExpired cfg clock) PacketObject.objectId s.m_packetHash)) ∧
    (∀ (s : ImageGroup) (imageMaxInterval : Int) (order : List UInt64),
      order.Perm s.m_groupHash.keys →
      Reclaims (groupExpired clock.toInt imageMaxInterval) s.m_groupHash
        (s.onTimeout clock.toInt imageMaxInterval order).1.m_groupHash) := by
  refine ⟨?images, ?packets, ?groups⟩
  case images =>
    intro cfg s env order scan
    exact image_reclaims_iff scan
  case packets =>
    intro cfg s devices realOnlineCameraCount order scan
    exact packet_reclaims_iff devices realOnlineCameraCount scan
  case groups =>
    intro s imageMaxInterval order each
    exact group_reclaims s clock.toInt imageMaxInterval each

/-! ## Two entries at once -/

/-- A picture taken at a time. -/
def picture (imageId genTimeStamp : UInt64) : ImageData :=
  { objectId := 1, bReportOrignal := false, bReportBinning := false, cameraId := 1,
    imageId := imageId, imageData := { depth := 24, width := 1, height := 1, jpg := [] },
    genTimeStamp := genTimeStamp }

def awaiting (imageId genTimeStamp : UInt64) : ImageResultRecord :=
  { imageData := picture imageId genTimeStamp, result := RESULT_INIT, jsonData := [] }

/-- Entries under two keys. -/
def twoEntries {V : Type} (key₁ : UInt64) (v₁ : V) (key₂ : UInt64) (v₂ : V) : Hash UInt64 V :=
  ((∅ : Hash UInt64 V).insert key₁ v₁).insert key₂ v₂

theorem of_twoEntries {V : Type} {key₁ key₂ key : UInt64} {v₁ v₂ v : V}
    (held : (twoEntries key₁ v₁ key₂ v₂).lookup key = some v) :
    key = key₂ ∧ v = v₂ ∨ key = key₁ ∧ v = v₁ := by
  rcases Hash.of_lookup_insert held with second | ⟨-, held⟩
  · exact .inl second
  · rcases Hash.of_lookup_insert held with first | ⟨-, held⟩
    · exact .inr first
    · cases held

/-- At most the first entry is due, and it is stored under its own key. -/
theorem loneDue_twoEntries {V : Type} {due : V → Prop} {own : V → UInt64} {key₁ key₂ : UInt64}
    {v₁ v₂ : V} (home : own v₁ = key₁) (young : ¬ due v₂) :
    LoneDue due own (twoEntries key₁ v₁ key₂ v₂) := by
  have first : ∀ key v, (twoEntries key₁ v₁ key₂ v₂).lookup key = some v → due v →
      key = key₁ ∧ v = v₁ := by
    intro key v held isDue
    rcases of_twoEntries held with ⟨rfl, rfl⟩ | first
    · exact absurd isDue young
    · exact first
  intro key v held isDue
  obtain ⟨rfl, rfl⟩ := first key v held isDue
  exact ⟨home, fun key' v' held' due' => (first key' v' held' due').1⟩

/-- A multipler that waits for the results of two pictures. -/
def twoImages : CImageMultipler :=
  { CImageMultipler.start with
    m_imageResultRecord := twoEntries 257 (awaiting 257 0) 258 (awaiting 258 50) }

def imageLimits : ImageMultiplerConfig := { id := 1, m_inferTimeout := 200, m_IasCount := 1 }

def inference : Surroundings :=
  { runTypeInfer := true, plc := false, pcp := false, kickEnable := false }

/-- A packet of one picture. -/
def packet (objectId firstImageTime : UInt64) : PacketObject :=
  { objectId := objectId, bReportOrignal := false, bReportBinning := false,
    firstImageTime := firstImageTime, result := true,
    imageCameraIdHash := AList.singleton objectId 1, imageResultHash := ∅ }

def twoPackets : CPacketResult :=
  { CPacketResult.start with m_packetHash := twoEntries 1 (packet 1 0) 2 (packet 2 50) }

def packetLimits : CPacketResult.Config := { m_maxInterval := 30, m_inferTimeout := 200 }

def noDevices : KickDevices :=
  { pcpSerialCtrl := false, siemensS7PLC := false, pcpUdpCtrl := false, kickEnable := false,
    stopMode := false }

theorem twoImages_scan {clock : Int64} (late : 50 ≤ clock.toInt) :
    ImageScan twoImages clock [257, 258] := by
  refine ⟨by decide, fun key imageRecord held => ?_⟩
  rcases of_twoEntries held with ⟨rfl, rfl⟩ | ⟨rfl, rfl⟩
  · exact late
  · exact Int.le_trans (by decide) late

theorem twoPackets_scan {clock : Int64} (late : 50 ≤ clock.toInt) :
    PacketScan twoPackets clock [1, 2] := by
  refine ⟨by decide, fun key objRecord held => ?_⟩
  rcases of_twoEntries held with ⟨rfl, rfl⟩ | ⟨rfl, rfl⟩
  · exact late
  · exact Int.le_trans (by decide) late

/-- Both entries are out of time, and one scan leaves the second. -/
theorem second_stays :
    ImageScan twoImages 1000 [257, 258] ∧
      ¬ Reclaims (imageExpired imageLimits 1000) twoImages.m_imageResultRecord
        (twoImages.onTimeout imageLimits inference (Int64.toUInt64 1000)
          [257, 258]).1.m_imageResultRecord ∧
    PacketScan twoPackets 1000 [1, 2] ∧
      ¬ Reclaims (packetExpired packetLimits 1000) twoPackets.m_packetHash
        (twoPackets.onTimeout packetLimits noDevices (Int64.toUInt64 1000) 2 [1, 2]).1.m_packetHash := by
  refine ⟨twoImages_scan (by decide), ?images, twoPackets_scan (by decide), ?packets⟩
  case images =>
    intro reclaims
    exact reclaims.gone 258 (awaiting 258 50) (by decide) (by decide)
  case packets =>
    intro reclaims
    exact reclaims.gone 2 (packet 2 50) rfl (by decide)

/-- At 220 one entry is out of time. -/
theorem first_reclaimed :
    Reclaims (imageExpired imageLimits 220) twoImages.m_imageResultRecord
        (twoImages.onTimeout imageLimits inference (Int64.toUInt64 220)
          [257, 258]).1.m_imageResultRecord ∧
      Reclaims (packetExpired packetLimits 220) twoPackets.m_packetHash
        (twoPackets.onTimeout packetLimits noDevices (Int64.toUInt64 220) 2
          [1, 2]).1.m_packetHash ∧
      Reclaims (groupExpired (Int64.toInt 220) 30) (ImageGroup.start true).m_groupHash
        ((ImageGroup.start true).onTimeout (Int64.toInt 220) 30 []).1.m_groupHash := by
  obtain ⟨images, packets, groups⟩ := scans_reclaim_iff 220
  refine ⟨(images imageLimits twoImages inference [257, 258] (twoImages_scan (by decide))).mpr ?_,
    (packets packetLimits twoPackets noDevices 2 [1, 2] (twoPackets_scan (by decide))).mpr ?_,
    groups (ImageGroup.start true) 30 [] (.refl _)⟩
  · exact loneDue_twoEntries rfl (by decide)
  · exact loneDue_twoEntries rfl (by decide)

/-! ## The age tests -/

/-- An age test that is arithmetic: the age is the difference, and the verdict on it is right. -/
structure ArithmeticSafe (clock : Int64) (timeStamp : UInt64) (treated expired : Prop) : Prop where
  exact : Exact clock timeStamp
  decided : treated ↔ expired

theorem arithmeticSafe_iff {clock : Int64} {timeStamp : UInt64} {treated expired : Prop}
    (decides : (timeStamp.toNat : Int) ≤ clock.toInt → (treated ↔ expired)) :
    ArithmeticSafe clock timeStamp treated expired ↔ (timeStamp.toNat : Int) ≤ clock.toInt := by
  constructor
  · intro safe
    exact (elapsed_exact_iff clock timeStamp).mp safe.exact
  · intro past
    exact ⟨(elapsed_exact_iff clock timeStamp).mpr past, decides past⟩

/-- The client does nothing about a `ConfigSet`. -/
def configSetDropped (qt : QtJson) (s : TcpClient) (clock : Int64) (head : PolicyInfoMsgHeader)
    (body : Bytes) : Prop :=
  (s.onMessageCTRL qt clock.toUInt64 head body).2 = []

/-- A `ConfigSet` the client can read. -/
structure IsConfigSet (qt : QtJson) (head : PolicyInfoMsgHeader) (body : Bytes) : Prop where
  command : head.command = PsCmd.ConfigSet.code
  readable : qt.fromJson body ≠ none ∨ head.len = 0

theorem configSetDropped_iff {qt : QtJson} {s : TcpClient} {clock : Int64}
    {head : PolicyInfoMsgHeader} {body : Bytes} (set : IsConfigSet qt head body) :
    configSetDropped qt s clock head body ↔ 10000 < elapsed clock head.timeStamp := by
  have readable : ¬ (qt.fromJson body = none ∧ head.len ≠ 0) := by
    rintro ⟨unreadable, there⟩
    exact set.readable.elim (fun read => read unreadable) there
  have notAck : head.command ≠ PsCmd.ACK.code := by
    rw [set.command]
    decide
  unfold configSetDropped TcpClient.onMessageCTRL TcpClient.onConfigSet elapsed
  simp only [if_neg readable, if_neg notAck, if_pos set.command]
  split
  case isTrue old => exact iff_of_true rfl old
  case isFalse fresh => exact iff_of_false (List.cons_ne_nil _ _) fresh

/-- **When the age tests are arithmetic**: when the time stamp is not ahead of the clock.  One that
is ahead passes for an old one, unless the wrapped age falls short of the limit. -/
theorem expiry_safe_iff (clock : Int64) :
    (∀ (cfg : ImageMultiplerConfig) (s : CImageMultipler) (env : Surroundings) (key : UInt64)
        (imageRecord : ImageResultRecord),
      s.m_imageResultRecord.lookup key = some imageRecord →
      let timeStamp := imageRecord.imageData.genTimeStamp
      (ArithmeticSafe clock timeStamp (imageTreated cfg s env clock key)
          (imageExpired cfg clock imageRecord) ↔ (timeStamp.toNat : Int) ≤ clock.toInt) ∧
      ((imageTreated cfg s env clock key ↔ imageExpired cfg clock imageRecord) ↔
        (timeStamp.toNat : Int) ≤ clock.toInt ∨
          (clock.toInt - timeStamp.toNat) % 2 ^ 64 < cfg.m_inferTimeout.toNat)) ∧
    (∀ (cfg : CPacketResult.Config) (s : CPacketResult) (devices : KickDevices)
        (realOnlineCameraCount : Int) (key : UInt64) (objRecord : PacketObject),
      s.m_packetHash.lookup key = some objRecord →
      let timeStamp := objRecord.firstImageTime
      (ArithmeticSafe clock timeStamp
          (packetTreated cfg s devices clock realOnlineCameraCount key)
          (packetExpired cfg clock objRecord) ↔ (timeStamp.toNat : Int) ≤ clock.toInt) ∧
      ((packetTreated cfg s devices clock realOnlineCameraCount key ↔
          packetExpired cfg clock objRecord) ↔
        (timeStamp.toNat : Int) ≤ clock.toInt ∨
          (clock.toInt - timeStamp.toNat) % 2 ^ 64 < cfg.m_inferTimeout.toNat)) ∧
    (∀ (qt : QtJson) (s : TcpClient) (head : PolicyInfoMsgHeader) (body : Bytes),
      IsConfigSet qt head body →
      (ArithmeticSafe clock head.timeStamp (configSetDropped qt s clock head body)
          ((head.timeStamp.toNat + 10000 : Int) < clock.toInt) ↔
        (head.timeStamp.toNat : Int) ≤ clock.toInt) ∧
      ((configSetDropped qt s clock head body ↔
          (head.timeStamp.toNat + 10000 : Int) < clock.toInt) ↔
        (head.timeStamp.toNat : Int) ≤ clock.toInt ∨
          (clock.toInt - head.timeStamp.toNat) % 2 ^ 64 ≤ 10000)) := by
  refine ⟨?images, ?packets, ?configSets⟩
  case images =>
    intro cfg s env key imageRecord held timeStamp
    rw [imageTreated_iff held]
    exact ⟨arithmeticSafe_iff (le_elapsed_of_past clock timeStamp cfg.m_inferTimeout),
      le_elapsed_iff_iff clock timeStamp cfg.m_inferTimeout⟩
  case packets =>
    intro cfg s devices realOnlineCameraCount key objRecord held timeStamp
    rw [packetTreated_iff devices realOnlineCameraCount held]
    exact ⟨arithmeticSafe_iff (le_elapsed_of_past clock timeStamp cfg.m_inferTimeout),
      le_elapsed_iff_iff clock timeStamp cfg.m_inferTimeout⟩
  case configSets =>
    intro qt s head body set
    rw [configSetDropped_iff set]
    exact ⟨arithmeticSafe_iff (lt_elapsed_of_past clock head.timeStamp 10000),
      lt_elapsed_iff_iff clock head.timeStamp 10000⟩

/-! ## A clock that is behind -/

/-- A request to set nothing, sent at a time. -/
def configSet (timeStamp : UInt64) : PolicyInfoMsgHeader :=
  { tranId := 7, timeStamp := timeStamp, processId := 0, processType := 0
    command := PsCmd.ConfigSet.code, version := VERSION, len := 0 }

theorem configSet_isConfigSet (timeStamp : UInt64) :
    IsConfigSet QtJson.reference (configSet timeStamp) [] :=
  ⟨rfl, .inr rfl⟩

/-- At 40 what is stamped 50 is ahead of the clock: it passes for old. -/
theorem ahead_expires :
    twoImages.m_imageResultRecord.lookup 258 = some (awaiting 258 50) ∧
      imageTreated imageLimits twoImages inference 40 258 ∧
      ¬ imageExpired imageLimits 40 (awaiting 258 50) ∧ ¬ Exact 40 50 ∧
    twoPackets.m_packetHash.lookup 2 = some (packet 2 50) ∧
      packetTreated packetLimits twoPackets noDevices 40 2 2 ∧
      ¬ packetExpired packetLimits 40 (packet 2 50) ∧
    IsConfigSet QtJson.reference (configSet 50) [] ∧
      configSetDropped QtJson.reference (TcpClient.constructed 0) 40 (configSet 50) [] ∧
      ¬ (50 + 10000 : Int) < 40 := by
  refine ⟨by decide, ?_, by decide, by decide, rfl, ?_, by decide, configSet_isConfigSet 50, ?_,
    by decide⟩
  · have held : twoImages.m_imageResultRecord.lookup 258 = some (awaiting 258 50) := rfl
    exact (imageTreated_iff held).mpr (by decide)
  · have held : twoPackets.m_packetHash.lookup 2 = some (packet 2 50) := rfl
    exact (packetTreated_iff noDevices 2 held).mpr (by decide)
  · exact (configSetDropped_iff (configSet_isConfigSet 50)).mpr (by decide)

/-- At 60 nothing is ahead of the clock. -/
theorem past_safe :
    ArithmeticSafe 60 50 (imageTreated imageLimits twoImages inference 60 258)
        (imageExpired imageLimits 60 (awaiting 258 50)) ∧
      ArithmeticSafe 60 50 (packetTreated packetLimits twoPackets noDevices 60 2 2)
        (packetExpired packetLimits 60 (packet 2 50)) ∧
      ArithmeticSafe 60 50
        (configSetDropped QtJson.reference (TcpClient.constructed 0) 60 (configSet 50) [])
        ((50 + 10000 : Int) < 60) := by
  obtain ⟨images, packets, configSets⟩ := expiry_safe_iff 60
  exact ⟨(images imageLimits twoImages inference 258 (awaiting 258 50) rfl).1.mpr (by decide),
    (packets packetLimits twoPackets noDevices 2 2 (packet 2 50) rfl).1.mpr (by decide),
    (configSets QtJson.reference (TcpClient.constructed 0) (configSet 50) []
      (configSet_isConfigSet 50)).1.mpr (by decide)⟩

end Timeouts

end IsgConsole.Multipler
