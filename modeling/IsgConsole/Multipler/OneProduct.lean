/-
# Multipler.OneProduct — one product, one packet

As long as the packet of a product is undisturbed, all its pictures end up in it, it is
counted once and kicked at most once, in whatever order pictures and results come.
`Phase` is what a run knows about the product: no picture yet, one packet with exactly the
pictures so far, or all pictures settled.
-/
import IsgConsole.Multipler.ProductPacket

namespace IsgConsole.Multipler.CPacketResult

open IsgConsole.Theory IsgConsole.Inspector

set_option autoImplicit false

/-! ## Phases -/

/-- What a run knows about the product: the pictures passed and handed back, the packets
counted and the kicks. -/
inductive Phase {cfg : Config} (product : Product cfg) (s : CPacketResult) :
    List ImageData → List ImageData → Int → Nat → Prop where
  | awaited (table : Table product s none) : Phase product s [] [] 0 0
  | stored (objectId : UInt64) (record : PacketObject) (passed handed : List ImageData)
      (table : Table product s (some (objectId, record)))
      (gathers : Gathers product passed record)
      (ids : ∀ imageData ∈ handed, imageData.objectId = objectId) :
      Phase product s passed handed 1 0
  | settled (objectId : UInt64) (handed : List ImageData) (kicks : Nat)
      (table : Table product s none) (ids : ∀ imageData ∈ handed, imageData.objectId = objectId)
      (once : kicks ≤ 1) : Phase product s product.pictures handed 1 kicks

section Phase

variable {cfg : Config} {product : Product cfg} {s r : CPacketResult}
  {passed handed : List ImageData} {detected : Int} {kicks : Nat} {record : PacketObject} {imageData : ImageData}

/-- A phase speaks of the packets through its table only. -/
theorem Phase.table (phase : Phase product s passed handed detected kicks) :
    ∃ mine, Table product s mine ∧
      ∀ r, Table product r mine → Phase product r passed handed detected kicks := by
  cases phase with
  | awaited table => exact ⟨none, table, fun r after => .awaited after⟩
  | stored objectId record passed handed table gathers ids =>
      exact ⟨some (objectId, record), table,
        fun r after => .stored objectId record passed handed after gathers ids⟩
  | settled objectId handed kicks table ids once =>
      exact ⟨none, table, fun r after => .settled objectId handed kicks after ids once⟩

/-- A stored packet is one of others, and what happens to it is no matter of the product, or
it is the packet of the product. -/
theorem Phase.packet (phase : Phase product s passed handed detected kicks) {key : UInt64}
    (held : s.m_packetHash.lookup key = some record) :
    (Foreign product record ∧ ∃ mine, Table product s mine ∧ (∀ packet ∈ mine, packet.1 ≠ key) ∧
        ∀ r, Table product r mine → Phase product r passed handed detected kicks) ∨
      (Table product s (some (key, record)) ∧ Gathers product passed record ∧
        (∀ imageData ∈ handed, imageData.objectId = key) ∧ detected = 1 ∧ kicks = 0) := by
  cases phase with
  | awaited table =>
      refine .inl ⟨(table.others key record held).resolve_left nofun, none, table, nofun, ?_⟩
      exact fun r after => .awaited after
  | stored objectId own passed handed table gathers ids =>
      by_cases this : objectId = key
      · subst this
        obtain rfl : own = record := Option.some.inj ((table.held _ rfl).symm.trans held)
        exact .inr ⟨table, gathers, ids, rfl, rfl⟩
      · have other : ∀ packet ∈ some (objectId, own), packet.1 ≠ key := by
          rintro packet ⟨⟩
          exact this
        refine .inl ⟨(table.others key record held).resolve_left fun there => other _ there rfl,
          _, table, other, ?_⟩
        exact fun r after => .stored objectId own passed handed after gathers ids
  | settled objectId handed kicks table ids once =>
      refine .inl ⟨(table.others key record held).resolve_left nofun, none, table, nofun, ?_⟩
      exact fun r after => .settled objectId handed kicks after ids once

/-- The phase after a transition. -/
abbrev Next (product : Product cfg) (passed handed : List ImageData) (detected : Int) (kicks : Nat)
    (t : Machine.Transition CPacketResult Event Output) : Prop :=
  Phase product t.after (passed ++ (product.passing t.event).toList)
    (handed ++ product.handed t.outputs) (detected + product.detected t) (kicks + product.kicks t)

/-- A transition without a picture or a kick of the product. -/
theorem Phase.silent {t : Machine.Transition CPacketResult Event Output}
    (phase : Phase product t.after passed handed detected kicks)
    (noPicture : product.passing t.event = none) (noHand : product.handed t.outputs = [])
    (noKick : product.kicks t = 0) : Next product passed handed detected kicks t := by
  have uncounted : product.detected t = 0 := by
    rw [Product.detected, noPicture]
    rfl
  rw [Next, noPicture, noHand, noKick, uncounted, Option.toList_none, List.append_nil,
    List.append_nil, add_zero, add_zero]
  exact phase

/-- A transition that hands a picture of the product back. -/
theorem Phase.picture {t : Machine.Transition CPacketResult Event Output} {back : ImageData}
    {n : Int}
    (phase : Phase product t.after (passed ++ [imageData]) (handed ++ [back]) (detected + n) kicks)
    (passing : product.passing t.event = some imageData) (hands : product.handed t.outputs = [back])
    (counted : t.after.m_detectTotalCount = t.before.m_detectTotalCount + n)
    (noKick : product.kicks t = 0) : Next product passed handed detected kicks t := by
  have detects : product.detected t = n := by
    rw [Product.detected, passing, counted]
    show (if true = true then _ else _) = n
    rw [if_pos rfl]
    omega
  rw [Next, passing, hands, noKick, detects, add_zero]
  exact phase

section Picture

variable {now : UInt64} {realOnlineCameraCount : Int} {order : List UInt64}

theorem passing_ours (ours : product.Has imageData.imageId) :
    product.passing (.preInferAsync imageData now realOnlineCameraCount order) = some imageData :=
  if_pos (decide_eq_true ours)

theorem passing_other (other : ¬ product.Has imageData.imageId) :
    product.passing (.preInferAsync imageData now realOnlineCameraCount order) = none :=
  if_neg (by simpa using other)

@[simp] theorem assign_imageId (record : PacketObject) :
    (assign imageData record).imageId = imageData.imageId := rfl

theorem handed_ours (record : PacketObject) (ours : product.Has imageData.imageId) :
    product.handed [.handBack (assign imageData record)] = [assign imageData record] :=
  List.filter_eq_self.mpr (by simpa [handedIn] using ours)

theorem handed_other (record : PacketObject) (other : ¬ product.Has imageData.imageId) :
    product.handed [.handBack (assign imageData record)] = [] :=
  List.filter_eq_nil_iff.mpr (by simpa [handedIn] using other)

/-- A picture that joins a packet: the product's if and only if the picture is. -/
theorem joined_next (own : Own s) (phase : Phase product s passed handed detected kicks)
    {key : UInt64} {i : PacketObject} {outputs : List Output}
    (found : joined cfg s imageData realOnlineCameraCount order = some (key, i))
    (served : product.Served s outputs
      (.preInferAsync imageData now realOnlineCameraCount order))
    (undisturbed : product.Undisturbed s
      (.preInferAsync imageData now realOnlineCameraCount order))
    (next : passed ++ (product.passing
      (.preInferAsync imageData now realOnlineCameraCount order)).toList <+: product.pictures) :
    Next product passed handed detected kicks (Machine.transitionTo s
      (.preInferAsync imageData now realOnlineCameraCount order)
      ({ s with m_packetHash := s.m_packetHash.insert key (addImage i imageData) },
        [.handBack (assign imageData i)])) := by
  have held : s.m_packetHash.lookup key = some i := joined_stored found
  by_cases ours : product.Has imageData.imageId
  · rw [passing_ours ours] at next
    have meets : product.Meets i := undisturbed.1 ours (key, i) (joined_spec.mp found).1
    rcases phase.packet held with ⟨foreign, -⟩ | ⟨table, gathers, ids, rfl, rfl⟩
    · exact absurd meets foreign.noPicture
    · refine Phase.picture (n := 0) (.stored key _ _ _ (table.insert_mine ?_ rfl)
        (gathers.addImage next) ?_) (passing_ours ours) (handed_ours i ours)
        (add_zero _).symm rfl
      · rintro packet ⟨⟩
        rfl
      · intro back there
        rcases List.mem_append.mp there with old | new
        · exact ids back old
        · obtain rfl := List.mem_singleton.mp new
          exact own key i held
  · have far := served.1 ours
    have close : distance imageData.genTimeStamp i.firstImageTime ≤ cfg.m_maxInterval :=
      of_decide_eq_true (joined_near found)
    rcases phase.packet held with ⟨foreign, mine, table, other, frame⟩ | ⟨-, gathers, -⟩
    · exact (frame _ (table.insert_foreign other (foreign.addImage ours) rfl)).silent
        (passing_other ours) (handed_other i ours) rfl
    · rw [gathers.taken] at close
      exact absurd close (UInt64.not_le.mpr far)

/-- The first picture starts the packet of the product. -/
theorem first_next (table : Table product s none) (first : imageData = product.first)
    (new : IsNew now imageData record)
    (packets : r.m_packetHash = s.m_packetHash.insert now record)
    (counted : r.m_detectTotalCount = s.m_detectTotalCount + 1) :
    Next product [] [] 0 0 (Machine.transitionTo s
      (.preInferAsync imageData now realOnlineCameraCount order)
      (r, [.handBack (assign imageData record)])) := by
  subst first
  have ours : product.Has product.first.imageId :=
    has_of_passed List.prefix_rfl (List.mem_cons_self ..)
  have gathers : Gathers product [product.first] record := by
    refine ⟨new.taken, ?_, ?_, ?_⟩
    · rw [new.images]
      rfl
    · rw [new.results]
      exact List.nil_subset _
    · rw [new.results, new.images]
      exact Nat.zero_lt_one
  refine Phase.picture (n := 1) (.stored now record _ _ (table.insert_mine ?_ packets) gathers ?_)
    (passing_ours ours) (handed_ours record ours) counted rfl
  · rintro packet ⟨⟩
  · intro back there
    obtain rfl := List.mem_singleton.mp there
    exact new.named

/-- A later picture finds the packet of the product. -/
theorem not_alone {objectId : UInt64} {outputs : List Output}
    (table : Table product s (some (objectId, record))) (gathers : Gathers product passed record)
    (ours : product.Has imageData.imageId)
    (served : product.Served s outputs
      (.preInferAsync imageData now realOnlineCameraCount order))
    (undisturbed : product.Undisturbed s
      (.preInferAsync imageData now realOnlineCameraCount order))
    (next : passed ++ [imageData] <+: product.pictures) :
    joined cfg s imageData realOnlineCameraCount order ≠ none := by
  obtain ⟨-, online, visits⟩ := served
  have held : s.m_packetHash.lookup objectId = some record := table.held _ rfl
  have there : imageData ∈ product.pictures :=
    next.subset (List.mem_append_right _ (List.mem_singleton_self _))
  have close : near cfg imageData record := by
    rw [near, gathers.taken]
    exact decide_eq_true (near_first there)
  have visited : (objectId, record) ∈ s.packets order := by
    have stored := AList.mem_keys.mp (AList.lookup_isSome.mp (Option.isSome_of_eq_some held))
    refine List.mem_filterMap.mpr ⟨objectId, visits.mem_iff.mpr stored, ?_⟩
    rw [held]
    rfl
  obtain ⟨packet, met⟩ := Option.isSome_iff_exists.mp (List.find?_isSome
    (p := fun met : UInt64 × PacketObject => near cfg imageData met.2) |>.mpr ⟨_, visited, close⟩)
  have found := mem_packets (List.mem_of_find?_eq_some met)
  have meets := undisturbed.1 ours packet met
  -- The first packet within the interval is the product's own, so the loop does not stop early.
  have same : (objectId, record) = packet := Option.some.inj
    ((table.others _ _ found).resolve_right fun foreign => foreign.noPicture meets)
  subst same
  intro alone
  exact joined_none.mp alone _ met (gathers.hasRoom online next)

/-- A packet of others that starts takes the place of the product's only if that has all its
pictures. -/
theorem other_next (phase : Phase product s passed handed detected kicks)
    (foreign : Foreign product record)
    (packets : r.m_packetHash = s.m_packetHash.insert now record)
    (free : ∀ old ∈ s.m_packetHash.lookup now, ¬ product.Waits old)
    (sofar : passed <+: product.pictures) : Phase product r passed handed detected kicks := by
  cases held : s.m_packetHash.lookup now with
  | none =>
      obtain ⟨mine, table, frame⟩ := phase.table
      refine frame r (table.insert_foreign ?_ foreign packets)
      rintro packet there rfl
      rw [table.held packet there] at held
      cases held
  | some old =>
      rcases phase.packet held with ⟨-, mine, table, other, frame⟩ | ⟨table, gathers, ids, rfl, rfl⟩
      · exact frame r (table.insert_foreign other foreign packets)
      · obtain rfl := gathers.all sofar (free old held)
        refine .settled now handed 0 (table.insert_over ?_ foreign packets) ids (Nat.zero_le 1)
        rintro packet ⟨⟩
        rfl

theorem created_next {outputs : List Output}
    (phase : Phase product s passed handed detected kicks)
    (alone : joined cfg s imageData realOnlineCameraCount order = none)
    (new : IsNew now imageData record)
    (packets : r.m_packetHash = s.m_packetHash.insert now record)
    (counted : r.m_detectTotalCount = s.m_detectTotalCount + 1)
    (served : product.Served s outputs
      (.preInferAsync imageData now realOnlineCameraCount order))
    (undisturbed : product.Undisturbed s
      (.preInferAsync imageData now realOnlineCameraCount order))
    (next : passed ++ (product.passing
      (.preInferAsync imageData now realOnlineCameraCount order)).toList <+: product.pictures) :
    Next product passed handed detected kicks (Machine.transitionTo s
      (.preInferAsync imageData now realOnlineCameraCount order)
      (r, [.handBack (assign imageData record)])) := by
  by_cases ours : product.Has imageData.imageId
  · rw [passing_ours ours] at next
    cases phase with
    | awaited table =>
        exact first_next table (List.cons_prefix_cons.mp next).1 new packets counted
    | stored objectId mine passed handed table gathers ids =>
        exact absurd alone (not_alone table gathers ours served undisturbed next)
    | settled =>
        have longer := next.length_le
        simp at longer
  · have foreign : Foreign product record := by
      constructor
      · rintro ⟨imageId, there, has⟩
        rw [new.images] at there
        obtain rfl := List.mem_singleton.mp there
        exact ours has
      · rw [new.taken, distance_comm]
        exact served.1 ours
    have phase' := other_next phase foreign packets (undisturbed.2 (joined_none.mp alone))
      ((List.prefix_append _ _).trans next)
    exact phase'.silent (passing_other ours) (handed_other record ours) rfl

end Picture

/-- A result that leaves its packet open. -/
theorem collected_next (phase : Phase product s passed handed detected kicks)
    {devices : KickDevices} {objectImageResult : ObjectImageResult} {realOnlineCameraCount : Int}
    {stored : PacketObject}
    (held : s.m_packetHash.lookup objectImageResult.objectId = some stored)
    (awaited : complete realOnlineCameraCount (addResult stored objectImageResult) = false) :
    Next product passed handed detected kicks (Machine.transitionTo s
      (.onImageResult devices objectImageResult realOnlineCameraCount)
      ({ s with
          m_packetHash := s.m_packetHash.insert objectImageResult.objectId
            (addResult stored objectImageResult) }, [])) := by
  rcases phase.packet held with ⟨foreign, mine, table, other, frame⟩ |
    ⟨table, gathers, ids, rfl, rfl⟩
  · exact (frame _ (table.insert_foreign other foreign.addResult rfl)).silent rfl rfl rfl
  · refine Phase.silent (.stored _ _ passed handed (table.insert_mine ?_ rfl)
      (gathers.collect awaited) ids) rfl rfl rfl
    rintro packet ⟨⟩
    rfl

/-- Judged or overdue, the packet of the product has all its pictures. -/
theorem closes_whole {e : Event} {key : UInt64} {stored : PacketObject} {outputs : List Output}
    (held : s.m_packetHash.lookup key = some stored) (why : Closes cfg key stored e)
    (gathers : Gathers product passed stored) (served : product.Served s outputs e)
    (undisturbed : product.Undisturbed s e) (sofar : passed <+: product.pictures) :
    passed = product.pictures := by
  cases why with
  | judged devices objectImageResult count own whole =>
      subst own
      exact gathers.whole sofar served.2 (fun ours => undisturbed ours stored held) whole
  | timedOut devices nowTime count order due =>
      apply gathers.all sofar
      intro waits
      have there := AList.mem_keys.mp (AList.lookup_isSome.mp (by rw [held]; rfl))
      exact served key there stored held waits due

/-- A judged or overdue packet is closed: the product's only with all its pictures. -/
theorem closed_next {e : Event} {key : UInt64} {stored objRecord : PacketObject}
    {outputs kicksOut : List Output}
    (phase : Phase product s passed handed detected kicks)
    (held : s.m_packetHash.lookup key = some stored)
    (why : Closes cfg key stored e)
    (images : objRecord.imageCameraIdHash = stored.imageCameraIdHash)
    (packets : r.m_packetHash = s.m_packetHash.erase key) (only : KickOnly kicksOut)
    (served : product.Served s outputs e) (undisturbed : product.Undisturbed s e)
    (sofar : passed <+: product.pictures) :
    Next product passed handed detected kicks
      (Machine.transitionTo s e (r, .objectResult objRecord :: kicksOut)) := by
  have noPicture : product.passing e = none := by cases why <;> rfl
  have noHand : product.handed (.objectResult objRecord :: kicksOut) = [] := by
    rw [Product.handed, show handedIn (.objectResult objRecord :: kicksOut) = handedIn kicksOut
      from rfl, only.noPicture]
    rfl
  have closes : closedIn (.objectResult objRecord :: kicksOut) = [objRecord] := by
    rw [show closedIn (.objectResult objRecord :: kicksOut) = objRecord :: closedIn kicksOut
      from rfl, only.noPacket]
  rcases phase.packet held with ⟨foreign, mine, table, other, frame⟩ |
    ⟨table, gathers, ids, rfl, rfl⟩
  · refine (frame r (table.erase_foreign other packets)).silent noPicture noHand ?_
    rw [Product.kicks, closes]
    apply if_neg
    rintro ⟨record, there, imageId, image, ours⟩
    obtain rfl := List.mem_singleton.mp there
    rw [images] at image
    exact foreign.noPicture ⟨imageId, image, ours⟩
  · obtain rfl := closes_whole held why gathers served undisturbed sofar
    have uncounted : product.detected (Machine.transitionTo s e
        (r, .objectResult objRecord :: kicksOut)) = 0 := by
      rw [Product.detected, noPicture]
      rfl
    rw [Next, noPicture, noHand, uncounted, Option.toList_none, List.append_nil, List.append_nil,
      add_zero, Nat.zero_add]
    refine .settled key handed _ (table.erase_mine packets) ids ?_
    unfold Product.kicks
    split
    · exact only.once
    · exact Nat.zero_le 1

theorem phase_step (own : Own s) (phase : Phase product s passed handed detected kicks) {e : Event}
    {outputs : List Output} (served : product.Served s outputs e)
    (undisturbed : product.Undisturbed s e)
    (next : passed ++ (product.passing e).toList <+: product.pictures) :
    Next product passed handed detected kicks (Machine.transition (step cfg) s e) := by
  have move : Move cfg s e (step cfg s e) := step_move own e
  show Next product passed handed detected kicks (Machine.transitionTo s e (step cfg s e))
  generalize step cfg s e = r at move ⊢
  have sofar : passed <+: product.pictures := (List.prefix_append _ _).trans next
  cases move with
  | joined imageData now count order key i found =>
      exact joined_next own phase found served undisturbed next
  | created imageData now count order record after alone new packets counted =>
      exact created_next phase alone new packets counted served undisturbed next
  | collected devices objectImageResult count stored held awaited =>
      exact collected_next phase held awaited
  | closed e key stored objRecord after kicksOut held why named images packets only =>
      exact closed_next phase held why images packets only served undisturbed sofar
  | ignored e noPicture =>
      refine Phase.silent phase ?_ rfl rfl
      cases e with
      | preInferAsync imageData now count order => exact absurd rfl (noPicture _ _ _ _)
      | onImageResult => rfl
      | onTimeout => rfl

end Phase

/-! ## A run -/

section Run

variable {cfg : Config} {product : Product cfg}

theorem passed_snoc (events : List Event) (e : Event) :
    product.passed (events ++ [e]) = product.passed events ++ (product.passing e).toList :=
  Machine.observe_snoc product.passing events e

theorem handed_append (a b : List Output) :
    product.handed (a ++ b) = product.handed a ++ product.handed b := by
  rw [Product.handed, handedIn, List.filterMap_append, List.filter_append]
  rfl

/-- After every undisturbed run the product is in its phase. -/
theorem phase_run {events : List Event} (run : ProductRun cfg product events)
    (undisturbed : Machine.Always (fun first e => product.Undisturbed (after cfg first) e) events) :
    Phase product (after cfg events) (product.passed events) (product.handed (outputs cfg events))
      ((history cfg events).map product.detected).sum
      ((history cfg events).map product.kicks).sum := by
  induction events using List.reverseRecOn with
  | nil => exact .awaited ⟨nofun, nofun⟩
  | append_singleton events e ih =>
      obtain ⟨passes, served⟩ := run
      obtain ⟨servedSoFar, servedNow⟩ := Machine.always_snoc.mp served
      obtain ⟨undisturbedSoFar, undisturbedNow⟩ := Machine.always_snoc.mp undisturbed
      rw [passed_snoc] at passes
      have sofar : ProductRun cfg product events :=
        ⟨(List.prefix_append _ _).trans passes, servedSoFar⟩
      rw [passed_snoc, outputs, Machine.outputs_snoc, handed_append, history, Machine.trace_snoc,
        Machine.sum_snoc, Machine.sum_snoc, after, Machine.final_snoc]
      have phase := ih sofar undisturbedSoFar
      exact phase_step (own_run cfg events) phase servedNow undisturbedNow passes

theorem Phase.onePacket {s : CPacketResult} {passed handed : List ImageData} {detected : Int}
    {kicks : Nat} (phase : Phase product s passed handed detected kicks) :
    (∃ objectId, ∀ imageData ∈ handed, imageData.objectId = objectId) ∧
      detected = (if passed = [] then 0 else 1) ∧ kicks ≤ 1 := by
  cases phase with
  | awaited => exact ⟨⟨0, nofun⟩, rfl, Nat.zero_le 1⟩
  | stored objectId record passed handed table gathers ids =>
      exact ⟨⟨objectId, ids⟩, (if_neg gathers.some).symm, Nat.zero_le 1⟩
  | settled objectId handed kicks table ids once =>
      exact ⟨⟨objectId, ids⟩, (if_neg (List.cons_ne_nil _ _)).symm, once⟩

/-- **One product, one packet, at most one kick**, in every undisturbed run. -/
theorem onePacket_of_undisturbed (cfg : Config) (product : Product cfg) (events : List Event)
    (run : ProductRun cfg product events)
    (undisturbed : Machine.Always (fun first e => product.Undisturbed (after cfg first) e) events) :
    OnePacket cfg product events := by
  obtain ⟨oneId, oneDetected, oneKick⟩ := (phase_run run undisturbed).onePacket
  exact ⟨oneId, oneDetected, oneKick⟩

end Run

/-! ## Two cameras -/

/-- Two pictures of one product. -/
def twoPictures : Product tight :=
  { first := picture 1 1 1000
    others := [picture 2 2 1010]
    images := by decide
    cameras := by decide
    window := by decide }

/-- Kicks go to the serial controller. -/
def serial : KickDevices :=
  { pcpSerialCtrl := true, siemensS7PLC := false, pcpUdpCtrl := false, kickEnable := true,
    stopMode := false }

def result (objectId imageId : UInt64) (result : Int) : ObjectImageResult :=
  { objectId := objectId, imageId := imageId, result := result }

/-- Both pictures pass before the results, one of them faulty; a picture of the next product
passes in between, and a timeout strikes nothing. -/
def bothFirst : List Event :=
  [.preInferAsync (picture 1 1 1000) 1020 2 [],
    .preInferAsync (picture 2 2 1010) 1021 2 [1020],
    .onImageResult serial (result 1020 2 RESULT_NG) 2,
    .preInferAsync (picture 3 1 1150) 1160 2 [1020],
    .onTimeout serial 1180 2 [1160, 1020],
    .onImageResult serial (result 1020 1 RESULT_OK) 2]

/-- The first result arrives before the second picture. -/
def resultBetween : List Event :=
  [.preInferAsync (picture 1 1 1000) 1020 2 [],
    .onImageResult serial (result 1020 1 RESULT_NG) 2,
    .preInferAsync (picture 2 2 1010) 1040 2 [],
    .onImageResult serial (result 1040 2 RESULT_NG) 2]

theorem onePacket_bothFirst :
    ProductRun tight twoPictures bothFirst ∧ OnePacket tight twoPictures bothFirst := by
  have run : ProductRun tight twoPictures bothFirst := ⟨by decide, by decide⟩
  exact ⟨run, onePacket_of_undisturbed tight twoPictures bothFirst run (by decide)⟩

theorem resultBetween_split :
    ProductRun tight twoPictures resultBetween ∧
      ¬ OnePacket tight twoPictures resultBetween := by
  refine ⟨⟨by decide, by decide⟩, ?_⟩
  intro onePacket
  exact absurd onePacket.oneDetected (by decide)

end IsgConsole.Multipler.CPacketResult
