/-
# Multipler.PacketJoin — which packet a picture joins

A picture may lie within the interval of several open packets.  `preInferAsync` asks the first
one its iteration comes to, and starts a packet of its own when that one has no room, whatever
the others have.

* `joins_or_starts` — the first packet within the interval decides;
* `joins_iff_first` — **which packet a picture joins, and when the order does not matter.**
-/
import IsgConsole.Multipler.PacketVerdict

namespace IsgConsole.Multipler.CPacketResult

open IsgConsole.Theory IsgConsole.Inspector
open scoped List

set_option autoImplicit false

/-! ## Packets within the interval -/

section Join

variable {cfg : Config} {s : CPacketResult} {imageData : ImageData} {realOnlineCameraCount : Int}
  {order : List UInt64}

/-- The first picture of the packet was taken within the interval of the picture. -/
def InInterval (cfg : Config) (imageData : ImageData) (i : PacketObject) : Prop :=
  Within cfg.m_maxInterval imageData.genTimeStamp i.firstImageTime

/-- The packet has no picture of the camera, and pictures are missing. -/
structure Room (imageData : ImageData) (realOnlineCameraCount : Int) (i : PacketObject) :
    Prop where
  noPicture : ∀ imageId cameraId, i.imageCameraIdHash.lookup imageId = some cameraId →
    cameraId ≠ imageData.cameraId
  missing : (i.imageCameraIdHash.keys.length : Int) < realOnlineCameraCount

/-- The packet is one that the picture can join. -/
def CanJoin (cfg : Config) (imageData : ImageData) (realOnlineCameraCount : Int)
    (i : PacketObject) : Prop :=
  InInterval cfg imageData i ∧ Room imageData realOnlineCameraCount i

theorem near_iff {i : PacketObject} : near cfg imageData i = true ↔ InInterval cfg imageData i := by
  rw [near, decide_eq_true_iff, distance_le_iff, InInterval]

theorem hasRoom_iff {i : PacketObject} :
    hasRoom imageData realOnlineCameraCount i = true ↔ Room imageData realOnlineCameraCount i := by
  rw [hasRoom, decide_eq_true_iff, List.all_eq_true]
  constructor
  · rintro ⟨others, missing⟩
    refine ⟨fun imageId cameraId held => ?_, missing⟩
    simpa using others ⟨imageId, cameraId⟩ (AList.mem_lookup_iff.mp held)
  · rintro ⟨others, missing⟩
    refine ⟨fun image there => ?_, missing⟩
    simpa using others image.1 image.2 (AList.mem_lookup_iff.mpr there)

/-- The packet under the key is the first within the interval that the iteration comes to. -/
def FirstWithin (cfg : Config) (s : CPacketResult) (imageData : ImageData) (order : List UInt64)
    (key : UInt64) (i : PacketObject) : Prop :=
  ∃ before after, order = before ++ key :: after ∧ s.m_packetHash.lookup key = some i ∧
    InInterval cfg imageData i ∧
    ∀ other ∈ before, ∀ j, s.m_packetHash.lookup other = some j → ¬ InInterval cfg imageData j

/-- The iteration comes to a key: its packet is the first, or the first is behind it. -/
theorem firstWithin_cons {first key : UInt64} {i : PacketObject} :
    FirstWithin cfg s imageData (first :: order) key i ↔
      (first = key ∧ s.m_packetHash.lookup key = some i ∧ InInterval cfg imageData i) ∨
        (∀ j, s.m_packetHash.lookup first = some j → ¬ InInterval cfg imageData j) ∧
          FirstWithin cfg s imageData order key i := by
  constructor
  · rintro ⟨before, after, split, held, within, earlier⟩
    cases before with
    | nil =>
        obtain ⟨rfl, -⟩ := List.cons.inj split
        exact .inl ⟨rfl, held, within⟩
    | cons other before =>
        obtain ⟨rfl, rest⟩ := List.cons.inj split
        refine .inr ⟨earlier first List.mem_cons_self, before, after, rest, held, within, ?_⟩
        intro other there
        exact earlier other (List.mem_cons_of_mem _ there)
  · rintro (⟨rfl, held, within⟩ | ⟨far, before, after, rfl, held, within, earlier⟩)
    · exact ⟨[], order, rfl, held, within, nofun⟩
    · refine ⟨first :: before, after, rfl, held, within, ?_⟩
      rintro other there
      rcases List.mem_cons.mp there with rfl | behind
      · exact far
      · exact earlier other behind

theorem find?_near_iff {key : UInt64} {i : PacketObject} :
    (s.packets order).find? (fun packet => near cfg imageData packet.2) = some (key, i) ↔
      FirstWithin cfg s imageData order key i := by
  induction order with
  | nil => simp [packets, FirstWithin]
  | cons first order ih =>
      rw [firstWithin_cons, ← ih]
      unfold packets
      cases held : s.m_packetHash.lookup first with
      | none =>
          have other : ¬ (first = key ∧ s.m_packetHash.lookup key = some i ∧
              InInterval cfg imageData i) := by
            rintro ⟨rfl, this, -⟩
            simp [held] at this
          simp [held, other]
      | some j =>
          rw [List.filterMap_cons_some (by rw [held]; rfl), List.find?_cons]
          by_cases within : InInterval cfg imageData j
          · simp only [near_iff.mpr within, Option.some.injEq, Prod.mk.injEq]
            constructor
            · rintro ⟨rfl, rfl⟩
              exact .inl ⟨rfl, held, within⟩
            · rintro (⟨rfl, this, -⟩ | ⟨far, -⟩)
              · exact ⟨rfl, Option.some.inj (held.symm.trans this)⟩
              · exact absurd within (far j rfl)
          · have far : near cfg imageData j = false := by
              rw [← Bool.not_eq_true]
              exact fun this => within (near_iff.mp this)
            simp only [far, Option.some.injEq]
            constructor
            · intro found
              exact .inr ⟨fun j' this => this ▸ within, found⟩
            · rintro (⟨rfl, this, near'⟩ | ⟨-, found⟩)
              · obtain rfl := Option.some.inj (held.symm.trans this)
                exact absurd near' within
              · exact found

/-- No stored packet the iteration comes to is within the interval. -/
theorem find?_near_none :
    (s.packets order).find? (fun packet => near cfg imageData packet.2) = none ↔
      ∀ key ∈ order, ∀ i, s.m_packetHash.lookup key = some i → ¬ InInterval cfg imageData i := by
  rw [List.find?_eq_none]
  constructor
  · intro none key there i held within
    exact none (key, i) (met_of_lookup there held) (near_iff.mpr within)
  · rintro none ⟨key, i⟩ met within
    obtain ⟨other, there, found⟩ := List.mem_filterMap.mp met
    obtain ⟨j, held, same⟩ := Option.map_eq_some_iff.mp found
    obtain ⟨rfl, rfl⟩ := Prod.mk.inj same
    exact none other there j held (near_iff.mp within)

/-! ## What a picture does -/

/-- The picture is put into the packet under the key, and takes over its ids. -/
def Joins (cfg : Config) (s : CPacketResult) (imageData : ImageData) (now : UInt64)
    (realOnlineCameraCount : Int) (order : List UInt64) (key : UInt64) : Prop :=
  ∃ i, s.m_packetHash.lookup key = some i ∧
    s.preInferAsync cfg imageData now realOnlineCameraCount order =
      ({ s with m_packetHash := s.m_packetHash.insert key (addImage i imageData) },
        [.handBack (assign imageData i)])

/-- The picture starts a packet of its own. -/
def StartsNew (cfg : Config) (s : CPacketResult) (imageData : ImageData) (now : UInt64)
    (realOnlineCameraCount : Int) (order : List UInt64) : Prop :=
  ∃ record, IsNew now imageData record ∧
    (s.preInferAsync cfg imageData now realOnlineCameraCount order).1.m_packetHash =
      s.m_packetHash.insert now record ∧
    (s.preInferAsync cfg imageData now realOnlineCameraCount order).1.m_detectTotalCount =
      s.m_detectTotalCount + 1 ∧
    (s.preInferAsync cfg imageData now realOnlineCameraCount order).2 =
      [.handBack (assign imageData record)]

theorem joins_of_joined {now key : UInt64} {i : PacketObject}
    (found : joined cfg s imageData realOnlineCameraCount order = some (key, i)) :
    Joins cfg s imageData now realOnlineCameraCount order key := by
  refine ⟨i, joined_stored found, ?_⟩
  unfold preInferAsync
  rw [found]
  rfl

theorem startsNew_of_none {now : UInt64}
    (alone : joined cfg s imageData realOnlineCameraCount order = none) :
    StartsNew cfg s imageData now realOnlineCameraCount order := by
  unfold StartsNew preInferAsync
  rw [alone]
  exact ⟨_, ⟨rfl, rfl, rfl, rfl⟩, rfl, rfl, rfl⟩

/-- A picture that starts a packet is counted; one that joins is not. -/
theorem not_joins_of_startsNew {now key : UInt64}
    (starts : StartsNew cfg s imageData now realOnlineCameraCount order) :
    ¬ Joins cfg s imageData now realOnlineCameraCount order key := by
  rintro ⟨i, -, joins⟩
  obtain ⟨record, -, -, counted, -⟩ := starts
  rw [joins] at counted
  simp at counted

/-- The last packet stored is the one in front. -/
theorem insert_key_unique {key other : UInt64} {i j : PacketObject} {table : Hash UInt64 PacketObject}
    (same : table.insert key i = table.insert other j) : key = other := by
  have entries := congrArg AList.entries same
  rw [AList.entries_insert, AList.entries_insert] at entries
  exact congrArg Sigma.fst (List.cons.inj entries).1

theorem joins_iff_joined {now key : UInt64} :
    Joins cfg s imageData now realOnlineCameraCount order key ↔
      ∃ i, joined cfg s imageData realOnlineCameraCount order = some (key, i) := by
  constructor
  · intro joins
    cases found : joined cfg s imageData realOnlineCameraCount order with
    | none => exact absurd joins (not_joins_of_startsNew (startsNew_of_none found))
    | some packet =>
        obtain ⟨other, j⟩ := packet
        obtain ⟨i, -, first⟩ := joins
        have joins' : Joins cfg s imageData now realOnlineCameraCount order other :=
          joins_of_joined found
        obtain ⟨_, -, second⟩ := joins'
        have tables := congrArg (fun r => r.1.m_packetHash) (first.symm.trans second)
        obtain rfl := insert_key_unique tables
        exact ⟨j, rfl⟩
  · rintro ⟨i, found⟩
    exact joins_of_joined found

/-- **The first packet within the interval decides.** -/
theorem joins_or_starts (now : UInt64) :
    (∀ key, Joins cfg s imageData now realOnlineCameraCount order key ↔
      ∃ i, FirstWithin cfg s imageData order key i ∧ Room imageData realOnlineCameraCount i) ∧
    (StartsNew cfg s imageData now realOnlineCameraCount order ↔
      ∀ key i, FirstWithin cfg s imageData order key i →
        ¬ Room imageData realOnlineCameraCount i) := by
  have first : ∀ key i, joined cfg s imageData realOnlineCameraCount order = some (key, i) ↔
      FirstWithin cfg s imageData order key i ∧ Room imageData realOnlineCameraCount i := by
    intro key i
    rw [joined_spec, find?_near_iff, hasRoom_iff]
  refine ⟨?joins, ?starts⟩
  case joins =>
    intro key
    rw [joins_iff_joined]
    exact exists_congr fun i => first key i
  case starts =>
    constructor
    · intro starts key i within room
      have found := (first key i).mpr ⟨within, room⟩
      exact not_joins_of_startsNew starts (joins_of_joined found)
    · intro none
      refine startsNew_of_none (Option.eq_none_iff_forall_ne_some.mpr ?_)
      rintro ⟨key, i⟩ found
      obtain ⟨within, room⟩ := (first key i).mp found
      exact none key i within room

/-- An iteration may come to any packet first. -/
theorem firstWithin_of_lookup {key : UInt64} {i : PacketObject}
    (held : s.m_packetHash.lookup key = some i) (within : InInterval cfg imageData i) :
    ∃ order, order ~ s.m_packetHash.keys ∧
      ∀ other j, FirstWithin cfg s imageData order other j ↔ other = key ∧ j = i := by
  have there : key ∈ s.m_packetHash.keys := AList.mem_keys.mp (Hash.mem_of_lookup held)
  refine ⟨key :: s.m_packetHash.keys.erase key, (List.perm_cons_erase there).symm, ?_⟩
  intro other j
  rw [firstWithin_cons]
  constructor
  · rintro (⟨rfl, found, -⟩ | ⟨far, -⟩)
    · exact ⟨rfl, Option.some.inj (found.symm.trans held)⟩
    · exact absurd within (far i held)
  · rintro ⟨rfl, rfl⟩
    exact .inl ⟨rfl, held, within⟩

/-- An iteration that comes to a packet within the interval comes to a first one. -/
theorem exists_firstWithin (each : order ~ s.m_packetHash.keys) {key : UInt64} {i : PacketObject}
    (held : s.m_packetHash.lookup key = some i) (within : InInterval cfg imageData i) :
    ∃ first j, FirstWithin cfg s imageData order first j := by
  cases found : (s.packets order).find? (fun packet => near cfg imageData packet.2) with
  | none =>
      have there : key ∈ order :=
        each.mem_iff.mpr (AList.mem_keys.mp (Hash.mem_of_lookup held))
      exact absurd within (find?_near_none.mp found key there i held)
  | some packet => exact ⟨packet.1, packet.2, find?_near_iff.mp found⟩

/-- **Which packet a picture joins.**  It joins the first packet within the interval that the
iteration comes to, if that one has room, and starts a packet otherwise.  It joins a packet
whenever one can be joined, in every order, exactly when all packets within the interval can be
joined or none can. -/
theorem joins_iff_first (cfg : Config) (s : CPacketResult) (imageData : ImageData) (now : UInt64)
    (realOnlineCameraCount : Int) :
    (∀ order,
      (∀ key, Joins cfg s imageData now realOnlineCameraCount order key ↔
        ∃ i, FirstWithin cfg s imageData order key i ∧ Room imageData realOnlineCameraCount i) ∧
      (StartsNew cfg s imageData now realOnlineCameraCount order ↔
        ∀ key i, FirstWithin cfg s imageData order key i →
          ¬ Room imageData realOnlineCameraCount i)) ∧
    ((∀ order, order ~ s.m_packetHash.keys →
        ((∃ key, Joins cfg s imageData now realOnlineCameraCount order key) ↔
          ∃ key i, s.m_packetHash.lookup key = some i ∧
            CanJoin cfg imageData realOnlineCameraCount i)) ↔
      (∀ key i, s.m_packetHash.lookup key = some i → InInterval cfg imageData i →
        Room imageData realOnlineCameraCount i) ∨
      (∀ key i, s.m_packetHash.lookup key = some i →
        ¬ CanJoin cfg imageData realOnlineCameraCount i)) := by
  refine ⟨fun order => joins_or_starts now, ?_⟩
  simp only [(joins_or_starts now).1]
  constructor
  · intro every
    by_contra neither
    rw [not_or] at neither
    obtain ⟨notAll, notNone⟩ := neither
    push Not at notAll notNone
    obtain ⟨full, i, held, within, noRoom⟩ := notAll
    -- An order that comes to the full packet first.
    obtain ⟨order, each, only⟩ := firstWithin_of_lookup held within
    obtain ⟨key, j, first, room⟩ := (every order each).mpr notNone
    obtain ⟨rfl, rfl⟩ := (only key j).mp first
    exact noRoom room
  · rintro (all | none) order each
    · constructor
      · rintro ⟨key, i, first, room⟩
        obtain ⟨_, _, -, held, within, -⟩ := first
        exact ⟨key, i, held, within, room⟩
      · rintro ⟨key, i, held, within, -⟩
        obtain ⟨first, j, isFirst⟩ := exists_firstWithin each held within
        have ⟨_, _, _, stored, near', _⟩ := isFirst
        exact ⟨first, j, isFirst, all first j stored near'⟩
    · constructor
      · rintro ⟨key, i, ⟨_, _, -, held, within, -⟩, room⟩
        exact absurd ⟨within, room⟩ (none key i held)
      · rintro ⟨key, i, held, can⟩
        exact absurd can (none key i held)

end Join

/-! ## A full packet and one with room -/

/-- Packet 1000 has pictures of both cameras, packet 1020 has one of the first. -/
def oneFull : CPacketResult :=
  Machine.final (step tight) start
    [.preInferAsync (picture 257 1 0) 1000 2 [], .preInferAsync (picture 513 2 5) 1005 2 [1000],
      .preInferAsync (picture 258 1 20) 1020 2 [1000]]

/-- A picture of the second camera can join the second packet.  Whether it does depends on the
order. -/
theorem full_first_starts :
    [1000, 1020] ~ oneFull.m_packetHash.keys ∧ [1020, 1000] ~ oneFull.m_packetHash.keys ∧
      (∃ i, oneFull.m_packetHash.lookup 1020 = some i ∧ CanJoin tight (picture 514 2 25) 2 i) ∧
      StartsNew tight oneFull (picture 514 2 25) 1025 2 [1000, 1020] ∧
      Joins tight oneFull (picture 514 2 25) 1025 2 [1020, 1000] 1020 := by
  have second : joined tight oneFull (picture 514 2 25) 2 [1020, 1000] =
      some (1020, _) := rfl
  have room := (joined_spec.mp second).2
  refine ⟨by decide, by decide, ⟨_, joined_stored second, ?_, hasRoom_iff.mp room⟩, ?_,
    joins_of_joined second⟩
  · exact near_iff.mp (joined_near second)
  · exact startsNew_of_none rfl

end IsgConsole.Multipler.CPacketResult
