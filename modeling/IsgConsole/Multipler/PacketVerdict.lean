/-
# Multipler.PacketVerdict — what is stored of a packet, and how it is judged

`Sound` is what a stored packet is against the pictures put into it: they were taken within
the interval of its first picture, those it records are of different cameras, and its
results are results of recorded pictures.  `packets_well_formed` carries it over every run,
with the verdict of every packet that leaves.

`finish` is what a step decides on a packet it finishes, read off the state before it; the
counters of `CPacketResult` are functions of it (`step_finish`).
-/
import IsgConsole.Multipler.PacketHistory

namespace IsgConsole.Multipler.CPacketResult

open IsgConsole.Theory IsgConsole.Inspector IsgConsole.IOCtrl

set_option autoImplicit false

/-! ## Verdicts -/

/-- One of the recorded results is NG. -/
def Faulty (objRecord : PacketObject) : Prop :=
  ∃ result ∈ objRecord.imageResultHash.entries, (result.2.toNat : Int) = RESULT_NG

instance (objRecord : PacketObject) : Decidable (Faulty objRecord) :=
  List.decidableBEx (fun result : Sigma fun _ : UInt64 => UInt16 =>
    (result.2.toNat : Int) = RESULT_NG) objRecord.imageResultHash.entries

theorem verdict_eq_false_iff (objRecord : PacketObject) :
    verdict objRecord = false ↔ Faulty objRecord := by
  simp [verdict, Faulty]

/-- How a step finishes a packet. -/
inductive Finish where
  /-- Out of time without a result. -/
  | givenUp (objRecord : PacketObject)
  /-- By the results there are; `kick` is whether `doKickFinal` follows. -/
  | judged (objRecord : PacketObject) (kick : Bool)

namespace Finish

/-- The packet as it leaves. -/
def record : Finish → PacketObject
  | givenUp objRecord => objRecord
  | judged objRecord _ => { objRecord with result := verdict objRecord }

/-- What is added to `m_detectNgCount`. -/
def ngAdded : Finish → Int
  | givenUp _ => 0
  | judged objRecord kick => if Faulty objRecord then if kick then 2 else 1 else 0

end Finish

/-- The packet that is finished with a result. -/
def finishByResult (s : CPacketResult) (objectImageResult : ObjectImageResult)
    (realOnlineCameraCount : Int) : Option Finish :=
  match s.m_packetHash.lookup objectImageResult.objectId with
  | none => none
  | some stored =>
      if complete realOnlineCameraCount (addResult stored objectImageResult) then
        some (.judged (addResult stored objectImageResult) true)
      else none

/-- The packet that is finished out of time. -/
def finishByTimeout (cfg : Config) (s : CPacketResult) (nowTime : UInt64)
    (realOnlineCameraCount : Int) (order : List UInt64) : Option Finish :=
  match (s.packets order).find? fun packet => isDue cfg nowTime packet.2 with
  | none => none
  | some (_, objRecord) =>
      if objRecord.imageResultHash.keys = [] then some (.givenUp objRecord)
      else some (.judged objRecord
        (realOnlineCameraCount ≤ objRecord.imageCameraIdHash.keys.length))

/-- The packet a step finishes. -/
def finish (cfg : Config) (s : CPacketResult) : Event → Option Finish
  | .preInferAsync _ _ _ _ => none
  | .onImageResult _ objectImageResult realOnlineCameraCount =>
      finishByResult s objectImageResult realOnlineCameraCount
  | .onTimeout _ nowTime realOnlineCameraCount order =>
      finishByTimeout cfg s nowTime realOnlineCameraCount order

/-- What a step shows of the packet it finishes, and what it does to the counters. -/
structure Finishes (s : CPacketResult) (finished : Option Finish)
    (r : CPacketResult × List Output) : Prop where
  closed : closedIn r.2 = (finished.map Finish.record).toList
  ng : r.1.m_detectNgCount = s.m_detectNgCount + (finished.map Finish.ngAdded).getD 0
  total : finished.isSome → r.1.m_detectTotalCount = s.m_detectTotalCount

section Step

variable {cfg : Config} {s : CPacketResult}

theorem countNg_ng (s : CPacketResult) (result : Bool) :
    (s.countNg result).m_detectNgCount = s.m_detectNgCount + if result then 0 else 1 := by
  unfold countNg
  cases result with
  | true => exact (Int.add_zero _).symm
  | false => rfl

theorem countNg_total (s : CPacketResult) (result : Bool) :
    (s.countNg result).m_detectTotalCount = s.m_detectTotalCount := by
  unfold countNg
  split <;> rfl

theorem doKickFinal_ng (s : CPacketResult) (devices : KickDevices) (record : PacketObject) :
    (s.doKickFinal devices record).1.m_detectNgCount =
      s.m_detectNgCount + if record.result then 0 else 1 := by
  unfold doKickFinal
  cases record.result with
  | true => exact (Int.add_zero _).symm
  | false => rfl

theorem doKickFinal_total (s : CPacketResult) (devices : KickDevices) (record : PacketObject) :
    (s.doKickFinal devices record).1.m_detectTotalCount = s.m_detectTotalCount := by
  unfold doKickFinal
  split <;> rfl

theorem closedIn_objectResult (objRecord : PacketObject) {kicks : List Output}
    (only : KickOnly kicks) : closedIn (.objectResult objRecord :: kicks) = [objRecord] := by
  show objRecord :: closedIn kicks = [objRecord]
  rw [only.noPacket]

/-- What a judged packet adds, by its verdict. -/
theorem ngAdded_judged (objRecord : PacketObject) (kick : Bool) :
    (Finish.judged objRecord kick).ngAdded =
      if verdict objRecord then 0 else if kick then 2 else 1 := by
  by_cases faulty : Faulty objRecord
  · rw [Finish.ngAdded, if_pos faulty, (verdict_eq_false_iff objRecord).mpr faulty]
    rfl
  · have fine : verdict objRecord = true := by
      rw [← Bool.not_eq_false, verdict_eq_false_iff]
      exact faulty
    rw [Finish.ngAdded, if_neg faulty, fine]
    rfl

theorem finishes_nothing (s : CPacketResult) (packets : Hash UInt64 PacketObject) :
    Finishes s none ({ s with m_packetHash := packets }, []) :=
  ⟨rfl, (Int.add_zero _).symm, nofun⟩

/-- A verdict with `doKickFinal` after it. -/
theorem finishes_kick (s : CPacketResult) (devices : KickDevices) (objRecord : PacketObject)
    (packets : Hash UInt64 PacketObject) :
    let final := { objRecord with result := verdict objRecord }
    let kicked := (s.countNg final.result).doKickFinal devices final
    Finishes s (some (.judged objRecord true))
      ({ kicked.1 with m_packetHash := packets }, .objectResult final :: kicked.2) := by
  intro final kicked
  refine ⟨closedIn_objectResult _ (doKickFinal_only _ _ _), ?_, ?_⟩
  · show kicked.1.m_detectNgCount = s.m_detectNgCount + (Finish.judged objRecord true).ngAdded
    rw [doKickFinal_ng, countNg_ng, ngAdded_judged]
    show _ + (if verdict objRecord then _ else _) + (if verdict objRecord then _ else _) = _
    cases verdict objRecord <;> simp [add_assoc]
  · intro _
    show kicked.1.m_detectTotalCount = _
    rw [doKickFinal_total, countNg_total]

theorem onImageResult_finishes (devices : KickDevices) (objectImageResult : ObjectImageResult)
    (realOnlineCameraCount : Int) :
    Finishes s (finishByResult s objectImageResult realOnlineCameraCount)
      (s.onImageResult devices objectImageResult realOnlineCameraCount) := by
  unfold finishByResult onImageResult
  cases s.m_packetHash.lookup objectImageResult.objectId with
  | none => exact finishes_nothing s _
  | some stored =>
      cases whole : complete realOnlineCameraCount (addResult stored objectImageResult) with
      | false =>
          simp only [whole]
          exact finishes_nothing s _
      | true =>
          simp only [whole, if_true]
          exact finishes_kick s devices _ _

theorem onTimeout_finishes (devices : KickDevices) (nowTime : UInt64)
    (realOnlineCameraCount : Int) (order : List UInt64) :
    Finishes s (finishByTimeout cfg s nowTime realOnlineCameraCount order)
      (s.onTimeout cfg devices nowTime realOnlineCameraCount order) := by
  unfold finishByTimeout onTimeout
  cases (s.packets order).find? fun packet => isDue cfg nowTime packet.2 with
  | none => exact finishes_nothing s _
  | some packet =>
      obtain ⟨key, objRecord⟩ := packet
      dsimp only
      by_cases empty : objRecord.imageResultHash.keys = []
      · rw [if_pos empty, if_pos empty]
        exact ⟨rfl, (Int.add_zero _).symm, fun _ => rfl⟩
      · rw [if_neg empty, if_neg empty]
        by_cases all : realOnlineCameraCount ≤ (objRecord.imageCameraIdHash.keys.length : Int)
        · simp only [all, if_true, decide_true]
          exact finishes_kick s devices objRecord _
        · simp only [all, if_false, decide_false]
          refine ⟨rfl, ?_, fun _ => countNg_total _ _⟩
          show (countNg _ _).m_detectNgCount =
            s.m_detectNgCount + (Finish.judged objRecord false).ngAdded
          rw [countNg_ng, ngAdded_judged]
          rfl

theorem preInferAsync_finishes (imageData : ImageData) (now : UInt64)
    (realOnlineCameraCount : Int) (order : List UInt64) :
    Finishes s none (s.preInferAsync cfg imageData now realOnlineCameraCount order) := by
  unfold preInferAsync
  cases joined cfg s imageData realOnlineCameraCount order with
  | some packet => exact ⟨rfl, (Int.add_zero _).symm, nofun⟩
  | none => exact ⟨rfl, (Int.add_zero _).symm, nofun⟩

/-- **What a step finishes.** -/
theorem step_finishes (e : Event) : Finishes s (finish cfg s e) (step cfg s e) := by
  cases e with
  | preInferAsync imageData now realOnlineCameraCount order =>
      exact preInferAsync_finishes imageData now realOnlineCameraCount order
  | onImageResult devices objectImageResult realOnlineCameraCount =>
      exact onImageResult_finishes devices objectImageResult realOnlineCameraCount
  | onTimeout devices nowTime realOnlineCameraCount order =>
      exact onTimeout_finishes devices nowTime realOnlineCameraCount order

end Step

/-! ## The pictures of a packet -/

/-- The times are at most `interval` apart. -/
def Within (interval a b : UInt64) : Prop :=
  a.toNat ≤ b.toNat + interval.toNat ∧ b.toNat ≤ a.toNat + interval.toNat

/-- The unsigned distance is the distance of the times. -/
theorem distance_le_iff (a b interval : UInt64) :
    distance a b ≤ interval ↔ Within interval a b := by
  unfold distance Within
  rw [UInt64.le_iff_toNat_le]
  by_cases before : b < a
  · rw [if_pos before, UInt64.toNat_sub_of_le _ _ (UInt64.le_of_lt before)]
    have := UInt64.lt_iff_toNat_lt.mp before
    omega
  · rw [if_neg before]
    have := UInt64.lt_iff_toNat_lt.not.mp before
    by_cases after : a < b
    · rw [if_pos after, UInt64.toNat_sub_of_le _ _ (UInt64.le_of_lt after)]
      have := UInt64.lt_iff_toNat_lt.mp after
      omega
    · rw [if_neg after]
      have := UInt64.lt_iff_toNat_lt.not.mp after
      show 0 ≤ _ ↔ _
      omega

/-- What a transition puts into the packet under `key`; a packet that is created there
starts over. -/
def putPicture (cfg : Config) (key : UInt64) (pictures : List ImageData)
    (t : Machine.Transition CPacketResult Event Output) : List ImageData :=
  match t.event with
  | .preInferAsync imageData now realOnlineCameraCount order =>
      match joined cfg t.before imageData realOnlineCameraCount order with
      | some packet => if packet.1 = key then pictures ++ [imageData] else pictures
      | none => if now = key then [imageData] else pictures
  | _ => pictures

/-- The pictures put into the packet under `key` since it was created. -/
def picturesOf (cfg : Config) (key : UInt64)
    (h : List (Machine.Transition CPacketResult Event Output)) : List ImageData :=
  h.foldl (putPicture cfg key) []

/-- The cameras of pictures by image id, as the packet records them. -/
def cameraIds (pictures : List ImageData) : Hash UInt64 UInt32 :=
  pictures.foldl (fun images imageData => images.insert imageData.imageId imageData.cameraId) ∅

/-- A stored packet against the pictures put into it. -/
structure Sound (cfg : Config) (pictures : List ImageData) (record : PacketObject) : Prop where
  recorded : record.imageCameraIdHash = cameraIds pictures
  cameras : (record.imageCameraIdHash.entries.map Sigma.snd).Nodup
  times : ∀ imageData ∈ pictures,
    Within cfg.m_maxInterval imageData.genTimeStamp record.firstImageTime
  results : ∀ imageId ∈ record.imageResultHash, imageId ∈ record.imageCameraIdHash

namespace Sound

variable {cfg : Config} {pictures : List ImageData} {record : PacketObject}

theorem join {imageData : ImageData} {realOnlineCameraCount : Int}
    (sound : Sound cfg pictures record) (close : near cfg imageData record)
    (room : hasRoom imageData realOnlineCameraCount record) :
    Sound cfg (pictures ++ [imageData]) (addImage record imageData) := by
  have free : imageData.cameraId ∉ record.imageCameraIdHash.entries.map Sigma.snd := by
    intro taken
    obtain ⟨image, there, own⟩ := List.mem_map.mp taken
    have others := (decide_eq_true_iff.mp room).1
    exact of_decide_eq_true (List.all_eq_true.mp others image there) own
  constructor
  case recorded =>
    show record.imageCameraIdHash.insert _ _ = cameraIds (pictures ++ [imageData])
    rw [cameraIds, List.foldl_append, ← cameraIds, ← sound.recorded]
    rfl
  case cameras =>
    have old := (List.kerase_sublist imageData.imageId record.imageCameraIdHash.entries).map
      Sigma.snd
    show ((record.imageCameraIdHash.insert imageData.imageId imageData.cameraId).entries.map
      Sigma.snd).Nodup
    rw [AList.entries_insert, List.map_cons, List.nodup_cons]
    exact ⟨fun taken => free (old.subset taken), sound.cameras.sublist old⟩
  case times =>
    intro picture there
    rcases List.mem_append.mp there with old | new
    · exact sound.times picture old
    · obtain rfl := List.mem_singleton.mp new
      exact (distance_le_iff _ _ _).mp (of_decide_eq_true close)
  case results =>
    intro imageId there
    exact (AList.mem_insert _).mpr (.inr (sound.results imageId there))

theorem create {imageData : ImageData} {now : UInt64} (new : IsNew now imageData record) :
    Sound cfg [imageData] record := by
  constructor
  case recorded => exact new.images
  case cameras =>
    rw [new.images]
    exact List.nodup_singleton _
  case times =>
    intro picture there
    obtain rfl := List.mem_singleton.mp there
    rw [new.taken]
    exact ⟨Nat.le_add_right _ _, Nat.le_add_right _ _⟩
  case results =>
    intro imageId there
    rw [new.results] at there
    exact absurd there (AList.notMem_empty _)

theorem collect (sound : Sound cfg pictures record) (objectImageResult : ObjectImageResult) :
    Sound cfg pictures (addResult record objectImageResult) := by
  unfold addResult
  by_cases there : objectImageResult.imageId ∈ record.imageCameraIdHash
  · rw [if_pos there]
    refine ⟨sound.recorded, sound.cameras, sound.times, ?_⟩
    intro imageId named
    rcases (AList.mem_insert _).mp named with rfl | old
    · exact there
    · exact sound.results imageId old
  · rw [if_neg there]
    exact sound

end Sound

/-! ## One step -/

/-- No stored packet has been judged. -/
def Unjudged (s : CPacketResult) : Prop :=
  ∀ key record, s.m_packetHash.lookup key = some record → record.result = true

/-- Every stored packet is sound, under its own id, and not judged yet. -/
structure WellFormed (cfg : Config)
    (h : List (Machine.Transition CPacketResult Event Output)) (s : CPacketResult) : Prop where
  own : Own s
  sound : ∀ key record, s.m_packetHash.lookup key = some record →
    Sound cfg (picturesOf cfg key h) record
  unjudged : Unjudged s

/-- A picture that starts no packet is handed a stored one with fewer images than there are
cameras online. -/
def JoinsWithRoom (cfg : Config) (s : CPacketResult) (e : Event) : Prop :=
  ∀ imageData now realOnlineCameraCount order,
    e = .preInferAsync imageData now realOnlineCameraCount order →
    (step cfg s e).1.m_detectTotalCount = s.m_detectTotalCount →
    ∀ handed ∈ handedIn (step cfg s e).2, ∃ i,
      s.m_packetHash.lookup handed.objectId = some i ∧
      (i.imageCameraIdHash.keys.length : Int) < realOnlineCameraCount ∧
      (step cfg s e).1.m_packetHash.lookup handed.objectId = some (addImage i imageData)

/-- The results of a packet with what the event brings for it. -/
def withResult (e : Event) (stored : PacketObject) : PacketObject :=
  match e with
  | .onImageResult _ objectImageResult _ => addResult stored objectImageResult
  | _ => stored

/-- A packet leaves with its recorded results, judged NG exactly if one of them is. -/
def JudgedByResults (cfg : Config) (s : CPacketResult) (e : Event) : Prop :=
  ∀ objRecord ∈ closedIn (step cfg s e).2,
    (∃ stored, s.m_packetHash.lookup objRecord.objectId = some stored ∧
      objRecord.imageResultHash = (withResult e stored).imageResultHash) ∧
    (objRecord.result = false ↔ Faulty objRecord)

section Step

variable {cfg : Config} {s : CPacketResult}
  {h : List (Machine.Transition CPacketResult Event Output)}

theorem picturesOf_snoc (cfg : Config) (key : UInt64)
    (h : List (Machine.Transition CPacketResult Event Output))
    (t : Machine.Transition CPacketResult Event Output) :
    picturesOf cfg key (h ++ [t]) = putPicture cfg key (picturesOf cfg key h) t := by
  rw [picturesOf, List.foldl_append]
  rfl

theorem putPicture_other {key : UInt64} {pictures : List ImageData}
    {t : Machine.Transition CPacketResult Event Output}
    (noPicture : ∀ imageData now count order, t.event ≠ .preInferAsync imageData now count order) :
    putPicture cfg key pictures t = pictures := by
  unfold putPicture
  split
  · exact absurd ‹_› (noPicture _ _ _ _)
  · rfl

theorem addResult_result (objRecord : PacketObject) (objectImageResult : ObjectImageResult) :
    (addResult objRecord objectImageResult).result = objRecord.result := by
  unfold addResult
  split <;> rfl

theorem preInferAsync_unjudged (unjudged : Unjudged s) (imageData : ImageData) (now : UInt64)
    (realOnlineCameraCount : Int) (order : List UInt64) :
    Unjudged (s.preInferAsync cfg imageData now realOnlineCameraCount order).1 := by
  intro key record held
  unfold preInferAsync at held
  cases found : joined cfg s imageData realOnlineCameraCount order with
  | some packet =>
      rw [found] at held
      rcases Hash.of_lookup_insert held with ⟨rfl, rfl⟩ | ⟨-, old⟩
      · exact unjudged _ packet.2 (joined_stored found)
      · exact unjudged _ _ old
  | none =>
      rw [found] at held
      rcases Hash.of_lookup_insert held with ⟨rfl, rfl⟩ | ⟨-, old⟩
      · rfl
      · exact unjudged _ _ old

/-- A step judges only packets that leave. -/
theorem unjudged_step (unjudged : Unjudged s) (own : Own s) (e : Event) :
    Unjudged (step cfg s e).1 := by
  have move : Move cfg s e (step cfg s e) := step_move own e
  cases e with
  | preInferAsync imageData now count order =>
      exact preInferAsync_unjudged unjudged imageData now count order
  | onImageResult devices objectImageResult count =>
      generalize step cfg s (.onImageResult devices objectImageResult count) = r at move ⊢
      cases move with
      | collected devices objectImageResult count stored there awaited =>
          intro key record held
          rcases Hash.of_lookup_insert held with ⟨rfl, rfl⟩ | ⟨-, old⟩
          · rw [addResult_result]
            exact unjudged _ _ there
          · exact unjudged _ _ old
      | closed e key stored objRecord after kicks there why named images packets only =>
          intro key record held
          rw [packets] at held
          exact unjudged _ _ (Hash.of_lookup_erase held).2
      | ignored e noPicture => exact unjudged
  | onTimeout devices nowTime count order =>
      generalize step cfg s (.onTimeout devices nowTime count order) = r at move ⊢
      cases move with
      | closed e key stored objRecord after kicks there why named images packets only =>
          intro key record held
          rw [packets] at held
          exact unjudged _ _ (Hash.of_lookup_erase held).2
      | ignored e noPicture => exact unjudged

theorem wellFormed_step (well : WellFormed cfg h s) (e : Event) :
    WellFormed cfg (h ++ [Machine.transition (step cfg) s e]) (step cfg s e).1 := by
  refine ⟨own_step well.own e, ?_, unjudged_step well.unjudged well.own e⟩
  have move : Move cfg s e (step cfg s e) := step_move well.own e
  simp only [picturesOf_snoc, Machine.transition]
  generalize step cfg s e = r at move ⊢
  intro other record held
  cases move with
  | joined imageData now count order key i found =>
      simp only [putPicture, found]
      rcases Hash.of_lookup_insert held with ⟨rfl, rfl⟩ | ⟨other, old⟩
      · rw [if_pos rfl]
        exact (well.sound _ i (joined_stored found)).join (joined_near found)
          (joined_spec.mp found).2
      · rw [if_neg (Ne.symm other)]
        exact well.sound _ record old
  | created imageData now count order new after alone isNew packets counted =>
      simp only [putPicture, alone]
      rw [packets] at held
      rcases Hash.of_lookup_insert held with ⟨rfl, rfl⟩ | ⟨other, old⟩
      · rw [if_pos rfl]
        exact Sound.create isNew
      · rw [if_neg (Ne.symm other)]
        exact well.sound _ record old
  | collected devices objectImageResult count stored there awaited =>
      rw [putPicture_other (by rintro _ _ _ _ ⟨⟩)]
      rcases Hash.of_lookup_insert held with ⟨rfl, rfl⟩ | ⟨-, old⟩
      · exact (well.sound _ stored there).collect objectImageResult
      · exact well.sound _ record old
  | closed e key stored objRecord after kicks there why named images packets only =>
      have noPicture : ∀ imageData now count order,
          e ≠ .preInferAsync imageData now count order := by
        rintro imageData now count order rfl
        cases why
      rw [putPicture_other noPicture]
      rw [packets] at held
      exact well.sound _ record (Hash.of_lookup_erase held).2
  | ignored e noPicture =>
      rw [putPicture_other noPicture]
      exact well.sound _ record held

theorem joinsWithRoom_step (own : Own s) (e : Event) : JoinsWithRoom cfg s e := by
  rintro imageData now count order rfl same handed there
  have move : Move cfg s _ _ := step_move own (.preInferAsync imageData now count order)
  generalize step cfg s (.preInferAsync imageData now count order) = r at move same there ⊢
  cases move with
  | joined imageData now count order key i found =>
      obtain rfl := List.mem_singleton.mp there
      have held : s.m_packetHash.lookup key = some i := joined_stored found
      have named : (assign imageData i).objectId = key := own key i held
      rw [named]
      refine ⟨i, held, (decide_eq_true_iff.mp (joined_spec.mp found).2).2, ?_⟩
      exact AList.lookup_insert _
  | created imageData now count order record after alone new packets counted =>
      exact absurd (counted.symm.trans same) (by omega)
  | closed e key stored objRecord after kicks held why => cases why
  | ignored e noPicture => exact absurd rfl (noPicture _ _ _ _)

/-- What a finished packet is: a stored one, with the result the event brings. -/
theorem finish_stored (own : Own s) {e : Event} {finished : Finish}
    (found : finish cfg s e = some finished) :
    ∃ stored, s.m_packetHash.lookup finished.record.objectId = some stored ∧
      finished.record.imageResultHash = (withResult e stored).imageResultHash ∧
      (finished = .givenUp stored ∧ stored.imageResultHash.keys = [] ∨
        ∃ kick, finished = .judged (withResult e stored) kick) := by
  cases e with
  | preInferAsync => cases found
  | onImageResult devices objectImageResult count =>
      change finishByResult s objectImageResult count = some finished at found
      unfold finishByResult at found
      split at found
      next => cases found
      next stored held =>
          split at found
          next =>
              obtain rfl := Option.some.inj found
              refine ⟨stored, ?_, rfl, .inr ⟨true, rfl⟩⟩
              show s.m_packetHash.lookup (addResult stored objectImageResult).objectId = _
              rw [addResult_objectId, own _ _ held, held]
          next => cases found
  | onTimeout devices nowTime count order =>
      change finishByTimeout cfg s nowTime count order = some finished at found
      unfold finishByTimeout at found
      split at found
      next => cases found
      next key objRecord met =>
          have held : s.m_packetHash.lookup key = some objRecord :=
            mem_packets (List.mem_of_find?_eq_some met)
          have named := own _ _ held
          split at found
          next noResult =>
              obtain rfl := Option.some.inj found
              refine ⟨objRecord, ?_, rfl, .inl ⟨rfl, noResult⟩⟩
              rw [← held, ← named]
              rfl
          next =>
              obtain rfl := Option.some.inj found
              refine ⟨objRecord, ?_, rfl, .inr ⟨_, rfl⟩⟩
              rw [← held, ← named]
              rfl

theorem judgedByResults_step (own : Own s) (unjudged : Unjudged s) (e : Event) :
    JudgedByResults cfg s e := by
  intro objRecord left
  rw [(step_finishes e).closed] at left
  obtain ⟨finished, found, rfl⟩ := Option.map_eq_some_iff.mp (Option.mem_toList.mp left)
  obtain ⟨stored, held, results, how⟩ := finish_stored own found
  refine ⟨⟨stored, held, results⟩, ?_⟩
  rcases how with ⟨rfl, empty⟩ | ⟨kick, rfl⟩
  · have passed : stored.result = true := unjudged _ stored held
    have none : stored.imageResultHash.entries = [] := List.map_eq_nil_iff.mp empty
    show stored.result = false ↔ Faulty stored
    rw [passed, Faulty, none]
    simp
  · exact verdict_eq_false_iff (withResult e stored)

end Step

/-! ## A run -/

section Run

variable (cfg : Config)

theorem wellFormed_run (events : List Event) :
    WellFormed cfg (history cfg events) (after cfg events) := by
  refine Machine.run_induction (step cfg) (P := fun h s => WellFormed cfg h s) ?start ?keep events
  case start => exact ⟨own_run cfg [], nofun, nofun⟩
  case keep =>
    intro events e well
    exact wellFormed_step well e

/-- **Stored packets are well formed, pictures join with room, and verdicts are those of
the recorded results.** -/
theorem packets_well_formed (events : List Event) :
    WellFormed cfg (history cfg events) (after cfg events) ∧
      Machine.Always (fun first e => JoinsWithRoom cfg (after cfg first) e) events ∧
      Machine.Always (fun first e => JudgedByResults cfg (after cfg first) e) events := by
  refine ⟨wellFormed_run cfg events, ?_, ?_⟩
  · intro first e rest _
    exact joinsWithRoom_step (own_run cfg first) e
  · intro first e rest _
    exact judgedByResults_step (own_run cfg first) (wellFormed_run cfg first).unjudged e

end Run

end IsgConsole.Multipler.CPacketResult
