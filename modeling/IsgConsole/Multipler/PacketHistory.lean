/-
# Multipler.PacketHistory — the life of a packet in `CPacketResult`

Every packet is stored under its own object id (`Own`).  `Move` says once what a step can
do to such a table: a picture joins a packet or starts one, a result is collected, or one
packet is closed.
-/
import IsgConsole.Multipler.PacketResult

namespace IsgConsole.Multipler.CPacketResult

open IsgConsole.Theory IsgConsole.Inspector IsgConsole.IOCtrl

set_option autoImplicit false

/-! ## What a step shows -/

/-- The packets judged or given up among the outputs of a step. -/
def closedIn (outputs : List Output) : List PacketObject :=
  outputs.filterMap fun
    | .objectResult objRecord => some objRecord
    | _ => none

/-- The pictures handed back among the outputs of a step. -/
def handedIn (outputs : List Output) : List ImageData :=
  outputs.filterMap fun
    | .handBack imageData => some imageData
    | _ => none

def Output.isKick : Output → Bool
  | .PCP_KickSendData => true
  | .sendDataToPLC => true
  | .sendDataAsync cmd _ => cmd = UdpCmd.kick.code
  | _ => false

/-- The kick commands among the outputs of a step. -/
def kicksIn (outputs : List Output) : Nat := outputs.countP Output.isKick

/-- Outputs of a kick: at most one command, no packet and no picture. -/
structure KickOnly (outputs : List Output) : Prop where
  once : kicksIn outputs ≤ 1
  noPacket : closedIn outputs = []
  noPicture : handedIn outputs = []

theorem kickOnly_nil : KickOnly [] := ⟨Nat.zero_le 1, rfl, rfl⟩

/-- A kick is one command and closes nothing. -/
theorem kickCommand_only (devices : KickDevices) (record : PacketObject) :
    KickOnly (kickCommand devices record) := by
  unfold kickCommand
  by_cases serial : devices.pcpSerialCtrl
  · rw [if_pos serial]
    exact ⟨le_rfl, rfl, rfl⟩
  · rw [if_neg serial]
    by_cases siemens : devices.siemensS7PLC
    · rw [if_pos siemens]
      exact ⟨le_rfl, rfl, rfl⟩
    · rw [if_neg siemens]
      by_cases udp : devices.pcpUdpCtrl
      · rw [if_pos udp]
        dsimp only
        generalize IOCtrl.sendData devices.kickEnable UdpCmd.kick.code
          (kickBody record.firstImageTime) = call
        cases call with
        | none => split <;> exact ⟨Nat.zero_le 1, rfl, rfl⟩
        | some call =>
            have first : (if Output.isKick (.sendDataAsync call.1 call.2) then 1 else 0) ≤ 1 := by
              split <;> omega
            split
            · refine ⟨?_, rfl, rfl⟩
              simpa [kicksIn, List.countP_cons, Output.isKick] using first
            · refine ⟨?_, rfl, rfl⟩
              simpa [kicksIn, List.countP_cons] using first
      · rw [if_neg udp]
        exact kickOnly_nil

theorem doKickFinal_packets (s : CPacketResult) (devices : KickDevices) (record : PacketObject) :
    (s.doKickFinal devices record).1.m_packetHash = s.m_packetHash := by
  unfold doKickFinal
  split <;> rfl

theorem doKickFinal_only (s : CPacketResult) (devices : KickDevices) (record : PacketObject) :
    KickOnly (s.doKickFinal devices record).2 := by
  unfold doKickFinal
  split
  · exact kickOnly_nil
  · exact kickCommand_only devices record

/-! ## One step -/

/-- Every packet is stored under its own object id. -/
def Own (s : CPacketResult) : Prop :=
  ∀ key record, s.m_packetHash.lookup key = some record → record.objectId = key

/-- Why a step closes a packet. -/
inductive Closes (cfg : Config) (key : UInt64) (stored : PacketObject) : Event → Prop where
  | judged (devices : KickDevices) (objectImageResult : ObjectImageResult)
      (realOnlineCameraCount : Int) (own : objectImageResult.objectId = key)
      (whole : complete realOnlineCameraCount (addResult stored objectImageResult)) :
      Closes cfg key stored (.onImageResult devices objectImageResult realOnlineCameraCount)
  | timedOut (devices : KickDevices) (nowTime : UInt64) (realOnlineCameraCount : Int)
      (order : List UInt64) (due : isDue cfg nowTime stored) :
      Closes cfg key stored (.onTimeout devices nowTime realOnlineCameraCount order)

/-- The packet with one more picture. -/
def addImage (record : PacketObject) (imageData : ImageData) : PacketObject :=
  { record with
    imageCameraIdHash := record.imageCameraIdHash.insert imageData.imageId imageData.cameraId }

/-- A packet with its first picture only. -/
structure IsNew (now : UInt64) (imageData : ImageData) (record : PacketObject) : Prop where
  named : record.objectId = now
  taken : record.firstImageTime = imageData.genTimeStamp
  images : record.imageCameraIdHash = AList.singleton imageData.imageId imageData.cameraId
  results : record.imageResultHash = ∅

/-- The picture starts a packet: the first packet within its interval, if there is one, has
no room for it. -/
def Starts (cfg : Config) (s : CPacketResult) (imageData : ImageData)
    (realOnlineCameraCount : Int) (order : List UInt64) : Prop :=
  ∀ packet ∈ (s.packets order).find? fun packet => near cfg imageData packet.2,
    ¬ hasRoom imageData realOnlineCameraCount packet.2

instance (cfg : Config) (s : CPacketResult) (imageData : ImageData)
    (realOnlineCameraCount : Int) (order : List UInt64) :
    Decidable (Starts cfg s imageData realOnlineCameraCount order) :=
  inferInstanceAs (Decidable (∀ packet ∈ List.find? _ _, _))

/-- What a step can do to a table of packets under their own ids. -/
inductive Move (cfg : Config) (s : CPacketResult) :
    Event → CPacketResult × List Output → Prop where
  | joined (imageData : ImageData) (now : UInt64) (realOnlineCameraCount : Int)
      (order : List UInt64) (key : UInt64) (i : PacketObject)
      (found : joined cfg s imageData realOnlineCameraCount order = some (key, i)) :
      Move cfg s (.preInferAsync imageData now realOnlineCameraCount order)
        ({ s with m_packetHash := s.m_packetHash.insert key (addImage i imageData) },
          [.handBack (assign imageData i)])
  | created (imageData : ImageData) (now : UInt64) (realOnlineCameraCount : Int)
      (order : List UInt64) (record : PacketObject) (after : CPacketResult)
      (alone : joined cfg s imageData realOnlineCameraCount order = none)
      (new : IsNew now imageData record)
      (packets : after.m_packetHash = s.m_packetHash.insert now record)
      (counted : after.m_detectTotalCount = s.m_detectTotalCount + 1) :
      Move cfg s (.preInferAsync imageData now realOnlineCameraCount order)
        (after, [.handBack (assign imageData record)])
  | collected (devices : KickDevices) (objectImageResult : ObjectImageResult)
      (realOnlineCameraCount : Int) (stored : PacketObject)
      (held : s.m_packetHash.lookup objectImageResult.objectId = some stored)
      (awaited : complete realOnlineCameraCount (addResult stored objectImageResult) = false) :
      Move cfg s (.onImageResult devices objectImageResult realOnlineCameraCount)
        ({ s with
            m_packetHash := s.m_packetHash.insert objectImageResult.objectId
              (addResult stored objectImageResult) }, [])
  | closed (e : Event) (key : UInt64) (stored objRecord : PacketObject) (after : CPacketResult)
      (kicks : List Output) (held : s.m_packetHash.lookup key = some stored)
      (why : Closes cfg key stored e) (named : objRecord.objectId = key)
      (images : objRecord.imageCameraIdHash = stored.imageCameraIdHash)
      (packets : after.m_packetHash = s.m_packetHash.erase key) (only : KickOnly kicks) :
      Move cfg s e (after, .objectResult objRecord :: kicks)
  | ignored (e : Event)
      (noPicture : ∀ imageData now count order, e ≠ .preInferAsync imageData now count order) :
      Move cfg s e (s, [])

section Step

variable {cfg : Config} {s : CPacketResult}

/-- A packet met in an iteration is a stored one. -/
theorem mem_packets {order : List UInt64} {packet : UInt64 × PacketObject}
    (met : packet ∈ s.packets order) : s.m_packetHash.lookup packet.1 = some packet.2 := by
  obtain ⟨key, -, found⟩ := List.mem_filterMap.mp met
  obtain ⟨record, held, rfl⟩ := Option.map_eq_some_iff.mp found
  exact held

/-- An iteration that comes to the key of a packet meets the packet. -/
theorem met_of_lookup {order : List UInt64} {key : UInt64} {record : PacketObject}
    (there : key ∈ order) (held : s.m_packetHash.lookup key = some record) :
    (key, record) ∈ s.packets order :=
  List.mem_filterMap.mpr ⟨key, there, Option.map_eq_some_iff.mpr ⟨record, held, rfl⟩⟩

/-- A picture joins the first stored packet within its interval, which has room for it. -/
theorem joined_spec {imageData : ImageData} {realOnlineCameraCount : Int} {order : List UInt64}
    {packet : UInt64 × PacketObject} :
    joined cfg s imageData realOnlineCameraCount order = some packet ↔
      (s.packets order).find? (fun packet => near cfg imageData packet.2) = some packet ∧
        hasRoom imageData realOnlineCameraCount packet.2 := by
  unfold joined
  cases (s.packets order).find? fun packet => near cfg imageData packet.2 with
  | none => simp
  | some first =>
      by_cases room : hasRoom imageData realOnlineCameraCount first.2
      · simp only [room, if_true, Option.some.injEq]
        constructor
        · rintro rfl
          exact ⟨rfl, room⟩
        · exact And.left
      · dsimp only
        rw [if_neg room]
        simp only [Option.some.injEq, reduceCtorEq, false_iff]
        rintro ⟨rfl, there⟩
        exact room there

theorem joined_stored {imageData : ImageData} {realOnlineCameraCount : Int} {order : List UInt64}
    {packet : UInt64 × PacketObject}
    (found : joined cfg s imageData realOnlineCameraCount order = some packet) :
    s.m_packetHash.lookup packet.1 = some packet.2 :=
  mem_packets (List.mem_of_find?_eq_some (joined_spec.mp found).1)

theorem joined_near {imageData : ImageData} {realOnlineCameraCount : Int} {order : List UInt64}
    {packet : UInt64 × PacketObject}
    (found : joined cfg s imageData realOnlineCameraCount order = some packet) :
    near cfg imageData packet.2 := by
  have met := (joined_spec.mp found).1
  exact List.find?_some (p := fun met : UInt64 × PacketObject => near cfg imageData met.2) met

theorem joined_none {imageData : ImageData} {realOnlineCameraCount : Int} {order : List UInt64} :
    joined cfg s imageData realOnlineCameraCount order = none ↔
      Starts cfg s imageData realOnlineCameraCount order := by
  rw [Option.eq_none_iff_forall_ne_some]
  constructor
  · intro none packet met room
    exact none packet (joined_spec.mpr ⟨met, room⟩)
  · intro starts packet found
    obtain ⟨met, room⟩ := joined_spec.mp found
    exact starts packet met room

theorem preInferAsync_move (imageData : ImageData) (now : UInt64) (realOnlineCameraCount : Int)
    (order : List UInt64) :
    Move cfg s (.preInferAsync imageData now realOnlineCameraCount order)
      (s.preInferAsync cfg imageData now realOnlineCameraCount order) := by
  unfold preInferAsync
  cases found : joined cfg s imageData realOnlineCameraCount order with
  | some packet =>
      obtain ⟨key, i⟩ := packet
      exact .joined imageData now realOnlineCameraCount order key i found
  | none =>
      exact .created imageData now realOnlineCameraCount order _ _ found
        ⟨rfl, rfl, rfl, rfl⟩ rfl rfl

theorem addResult_objectId (objRecord : PacketObject) (objectImageResult : ObjectImageResult) :
    (addResult objRecord objectImageResult).objectId = objRecord.objectId := by
  unfold addResult
  split <;> rfl

theorem addResult_images (objRecord : PacketObject) (objectImageResult : ObjectImageResult) :
    (addResult objRecord objectImageResult).imageCameraIdHash = objRecord.imageCameraIdHash := by
  unfold addResult
  split <;> rfl

theorem countNg_packets (s : CPacketResult) (result : Bool) :
    (s.countNg result).m_packetHash = s.m_packetHash := by
  unfold countNg
  split <;> rfl

theorem onImageResult_move (own : Own s) (devices : KickDevices)
    (objectImageResult : ObjectImageResult) (realOnlineCameraCount : Int) :
    Move cfg s (.onImageResult devices objectImageResult realOnlineCameraCount)
      (s.onImageResult devices objectImageResult realOnlineCameraCount) := by
  unfold onImageResult
  cases held : s.m_packetHash.lookup objectImageResult.objectId with
  | none => exact .ignored _ nofun
  | some stored =>
      have named : (addResult stored objectImageResult).objectId = objectImageResult.objectId :=
        (addResult_objectId _ _).trans (own _ _ held)
      cases whole : complete realOnlineCameraCount (addResult stored objectImageResult) with
      | true =>
          simp only [whole, if_true]
          refine .closed _ objectImageResult.objectId stored _ _ _ held
            (.judged devices objectImageResult realOnlineCameraCount rfl whole) named
            (addResult_images _ _) ?_ (doKickFinal_only _ _ _)
          dsimp only
          rw [doKickFinal_packets, countNg_packets, named, Hash.erase_insert_self]
      | false =>
          simp only [whole]
          exact .collected devices objectImageResult realOnlineCameraCount stored held whole

theorem onTimeout_move (own : Own s) (devices : KickDevices) (nowTime : UInt64)
    (realOnlineCameraCount : Int) (order : List UInt64) :
    Move cfg s (.onTimeout devices nowTime realOnlineCameraCount order)
      (s.onTimeout cfg devices nowTime realOnlineCameraCount order) := by
  unfold onTimeout
  cases found : (s.packets order).find? fun packet => isDue cfg nowTime packet.2 with
  | none => exact .ignored _ nofun
  | some packet =>
      obtain ⟨key, objRecord⟩ := packet
      have held : s.m_packetHash.lookup key = some objRecord :=
        mem_packets (List.mem_of_find?_eq_some found)
      have named : objRecord.objectId = key := own _ _ held
      have due := List.find?_some
        (p := fun met : UInt64 × PacketObject => isDue cfg nowTime met.2) found
      have why : Closes cfg key objRecord
          (.onTimeout devices nowTime realOnlineCameraCount order) :=
        .timedOut devices nowTime realOnlineCameraCount order due
      dsimp only
      by_cases empty : objRecord.imageResultHash.keys = []
      · rw [if_pos empty]
        refine .closed _ key objRecord _ _ _ held why named rfl ?_ kickOnly_nil
        dsimp only
        rw [named]
      · rw [if_neg empty]
        refine .closed _ key objRecord _ _ _ held why named rfl ?_ ?_
        · dsimp only
          rw [named, Hash.erase_insert_self]
          split
          · rw [doKickFinal_packets, countNg_packets]
          · rw [countNg_packets]
        · split
          · exact doKickFinal_only _ _ _
          · exact kickOnly_nil

theorem step_move (own : Own s) (e : Event) : Move cfg s e (step cfg s e) := by
  cases e with
  | preInferAsync imageData now realOnlineCameraCount order =>
      exact preInferAsync_move imageData now realOnlineCameraCount order
  | onImageResult devices objectImageResult realOnlineCameraCount =>
      exact onImageResult_move own devices objectImageResult realOnlineCameraCount
  | onTimeout devices nowTime realOnlineCameraCount order =>
      exact onTimeout_move own devices nowTime realOnlineCameraCount order

/-- A table under its own ids stays so when a packet is stored under its id. -/
theorem Own.insert (own : Own s) {r : CPacketResult} {key : UInt64} {record : PacketObject}
    (named : record.objectId = key) (packets : r.m_packetHash = s.m_packetHash.insert key record) :
    Own r := by
  intro other stored held
  rw [packets] at held
  rcases Hash.of_lookup_insert held with ⟨rfl, rfl⟩ | ⟨-, old⟩
  · exact named
  · exact own _ _ old

theorem Own.erase (own : Own s) {r : CPacketResult} {key : UInt64}
    (packets : r.m_packetHash = s.m_packetHash.erase key) : Own r := by
  intro other stored held
  rw [packets] at held
  exact own _ _ (Hash.of_lookup_erase held).2

/-- A step keeps every packet under its own id. -/
theorem own_step (own : Own s) (e : Event) : Own (step cfg s e).1 := by
  have move : Move cfg s e (step cfg s e) := step_move own e
  generalize step cfg s e = r at move ⊢
  cases move with
  | joined imageData now count order key i found =>
      have named : (addImage i imageData).objectId = key := own key i (joined_stored found)
      exact own.insert named rfl
  | created imageData now count order record after alone new packets counted =>
      exact own.insert new.named packets
  | collected devices objectImageResult count stored held awaited =>
      exact own.insert ((addResult_objectId _ _).trans (own _ _ held)) rfl
  | closed e key stored objRecord after kicks held why named images packets only =>
      exact own.erase packets
  | ignored => exact own

end Step

/-! ## A run -/

section Run

variable (cfg : Config)

/-- The state after a run from the start. -/
abbrev after (events : List Event) : CPacketResult := Machine.final (step cfg) start events

abbrev history (events : List Event) : List (Machine.Transition CPacketResult Event Output) :=
  Machine.trace (step cfg) start events

abbrev outputs (events : List Event) : List Output := Machine.outputs (step cfg) start events

theorem own_run (events : List Event) : Own (after cfg events) := by
  refine Machine.run_induction (step cfg) (P := fun _ s => Own s) ?start ?keep events
  case start =>
    intro key record held
    cases held
  case keep =>
    intro events e own
    exact own_step own e

end Run

/-! ## Two cameras -/

/-- Pictures belong together within 100 ms. -/
def tight : Config := { m_maxInterval := 100, m_inferTimeout := 200 }

/-- A picture of camera `cameraId`, taken at `time`. -/
def picture (imageId : UInt64) (cameraId : UInt32) (time : UInt64) : ImageData :=
  { objectId := 0, bReportOrignal := false, bReportBinning := false, cameraId := cameraId,
    imageId := imageId, imageData := { depth := 24, width := 1, height := 1, jpg := [] },
    genTimeStamp := time }

end IsgConsole.Multipler.CPacketResult
