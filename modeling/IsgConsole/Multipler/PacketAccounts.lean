/-
# Multipler.PacketAccounts — NG packets in the statistics

A packet that leaves with verdict NG is counted when it is judged and once more in
`doKickFinal`, so the NG count is the number of NG packets in exactly the runs in which no
NG packet is kicked (`ng_accounted_iff`).
-/
import IsgConsole.Multipler.PacketVerdict

namespace IsgConsole.Multipler.CPacketResult

open IsgConsole.Theory IsgConsole.Inspector IsgConsole.IOCtrl

set_option autoImplicit false

/-! ## Statements -/

/-- The packets among the outputs of a step that leave with verdict NG. -/
def ngIn (outputs : List Output) : Nat :=
  (closedIn outputs).countP fun objRecord => !objRecord.result

/-- The step adds one for each packet it finishes with verdict NG, and nothing else. -/
def CountsNg (cfg : Config) (s : CPacketResult) (e : Event) : Prop :=
  (step cfg s e).1.m_detectNgCount = s.m_detectNgCount + ngIn (step cfg s e).2

instance (cfg : Config) (s : CPacketResult) (e : Event) : Decidable (CountsNg cfg s e) :=
  inferInstanceAs (Decidable (_ = _))

/-- Every step of the run counts the NG packets it finishes, and there are no more of them
than packets. -/
structure NgAccounted (cfg : Config) (events : List Event) : Prop where
  counts : Machine.Always (fun first e => CountsNg cfg (after cfg first) e) events
  bounded : (after cfg events).m_detectNgCount ≤ (after cfg events).m_detectTotalCount

/-- No packet with an NG result is complete with the result that comes in, and the one that
is out of time has fewer pictures than there are cameras online. -/
def NoNgKick (cfg : Config) (s : CPacketResult) : Event → Prop
  | .preInferAsync _ _ _ _ => True
  | .onImageResult _ objectImageResult realOnlineCameraCount =>
      ∀ stored ∈ s.m_packetHash.lookup objectImageResult.objectId,
        complete realOnlineCameraCount (addResult stored objectImageResult) →
        ¬ Faulty (addResult stored objectImageResult)
  | .onTimeout _ nowTime realOnlineCameraCount order =>
      ∀ packet ∈ (s.packets order).find? fun packet => isDue cfg nowTime packet.2,
        Faulty packet.2 →
        (packet.2.imageCameraIdHash.keys.length : Int) < realOnlineCameraCount

/-! ## One step -/

section Step

variable {cfg : Config} {s : CPacketResult}

/-- The verdict of the packet a step finishes. -/
def Finish.isNg : Finish → Prop
  | .givenUp _ => False
  | .judged objRecord _ => Faulty objRecord

/-- A finished packet counts as NG if it has been judged so. -/
theorem record_ng (own : Own s) (unjudged : Unjudged s) {e : Event} {finished : Finish}
    (found : finish cfg s e = some finished) :
    finished.record.result = false ↔ finished.isNg := by
  obtain ⟨stored, held, -, ⟨rfl, -⟩ | ⟨kick, rfl⟩⟩ := finish_stored own found
  · have passed : stored.result = true := unjudged _ stored held
    show stored.result = false ↔ False
    rw [passed]
    simp
  · exact verdict_eq_false_iff (withResult e stored)

/-- An NG packet is counted once unless it is kicked. -/
theorem counts_iff (own : Own s) (unjudged : Unjudged s) (e : Event) :
    CountsNg cfg s e ↔
      ∀ objRecord, finish cfg s e = some (.judged objRecord true) → ¬ Faulty objRecord := by
  have finishes : Finishes s (finish cfg s e) (step cfg s e) := step_finishes e
  rw [CountsNg, ngIn, finishes.closed, finishes.ng]
  cases found : finish cfg s e with
  | none => simp
  | some finished =>
      have ng := record_ng own unjudged found
      show s.m_detectNgCount + finished.ngAdded =
        s.m_detectNgCount + ([finished.record].countP _ : Nat) ↔ _
      rw [List.countP_singleton]
      cases finished with
      | givenUp objRecord =>
          have passed : (Finish.givenUp objRecord).record.result = true := by
            rw [← Bool.not_eq_false]
            exact ng.not.mpr not_false
          simp [Finish.ngAdded, passed]
      | judged objRecord kick =>
          by_cases faulty : Faulty objRecord
          · rw [Finish.ngAdded, if_pos faulty, ng.mpr faulty]
            cases kick <;> simp [faulty]
          · have passed : (Finish.judged objRecord kick).record.result = true := by
              rw [← Bool.not_eq_false]
              exact ng.not.mpr faulty
            rw [Finish.ngAdded, if_neg faulty, passed]
            refine iff_of_true (by simp) ?_
            rintro other ⟨⟩
            exact faulty

theorem Faulty.results {objRecord : PacketObject} (faulty : Faulty objRecord) :
    objRecord.imageResultHash.keys ≠ [] := by
  obtain ⟨result, there, -⟩ := faulty
  intro none
  rw [List.map_eq_nil_iff.mp none] at there
  cases there

/-- The kicked packets of a step are those `NoNgKick` speaks of. -/
theorem noNgKick_iff (e : Event) :
    NoNgKick cfg s e ↔
      ∀ objRecord, finish cfg s e = some (.judged objRecord true) → ¬ Faulty objRecord := by
  cases e with
  | preInferAsync => exact iff_of_true trivial nofun
  | onImageResult devices objectImageResult count =>
      show (∀ stored ∈ s.m_packetHash.lookup objectImageResult.objectId, _) ↔
        ∀ objRecord, finishByResult s objectImageResult count = _ → _
      unfold finishByResult
      cases s.m_packetHash.lookup objectImageResult.objectId with
      | none => simp
      | some stored =>
          by_cases whole : complete count (addResult stored objectImageResult) <;> simp [whole]
  | onTimeout devices nowTime count order =>
      show (∀ packet ∈ (s.packets order).find? _, _) ↔
        ∀ objRecord, finishByTimeout cfg s nowTime count order = _ → _
      unfold finishByTimeout
      cases (s.packets order).find? fun packet => isDue cfg nowTime packet.2 with
      | none => simp
      | some packet =>
          obtain ⟨key, objRecord⟩ := packet
          have same : (∀ packet ∈ some (key, objRecord), Faulty packet.2 →
              (packet.2.imageCameraIdHash.keys.length : Int) < count) ↔
              (Faulty objRecord → (objRecord.imageCameraIdHash.keys.length : Int) < count) := by
            simp
          rw [same]
          dsimp only
          by_cases faulty : Faulty objRecord
          · rw [if_neg faulty.results]
            simp [faulty]
          · split <;> simp [faulty]

theorem closedIn_append (first rest : List Output) :
    closedIn (first ++ rest) = closedIn first ++ closedIn rest :=
  List.filterMap_append

theorem ngIn_le (outputs : List Output) : ngIn outputs ≤ (closedIn outputs).length :=
  List.countP_le_length

/-- Packets leave from the table, and get there counted. -/
theorem total_step (own : Own s) (e : Event) :
    s.m_detectTotalCount + (step cfg s e).1.m_packetHash.keys.length +
        (closedIn (step cfg s e).2).length ≤
      (step cfg s e).1.m_detectTotalCount + s.m_packetHash.keys.length := by
  have move : Move cfg s e (step cfg s e) := step_move own e
  have finishes : Finishes s (finish cfg s e) (step cfg s e) := step_finishes e
  generalize step cfg s e = r at move finishes ⊢
  cases move with
  | joined imageData now count order key i found =>
      have held : s.m_packetHash.lookup key = some i := joined_stored found
      have same := Hash.length_insert_of_mem (addImage i imageData) (Hash.mem_of_lookup held)
      show s.m_detectTotalCount + ((s.m_packetHash.insert key _).keys.length : Nat) + (0 : Nat) ≤
        s.m_detectTotalCount + _
      omega
  | created imageData now count order record after alone new packets counted =>
      have more := Hash.length_insert_le now record s.m_packetHash
      show s.m_detectTotalCount + (after.m_packetHash.keys.length : Nat) + (0 : Nat) ≤
        after.m_detectTotalCount + _
      rw [packets]
      omega
  | collected devices objectImageResult count stored held awaited =>
      have same := Hash.length_insert_of_mem (addResult stored objectImageResult)
        (Hash.mem_of_lookup held)
      show s.m_detectTotalCount + ((s.m_packetHash.insert _ _).keys.length : Nat) + (0 : Nat) ≤
        s.m_detectTotalCount + _
      omega
  | closed e key stored objRecord after kicks held why named images packets only =>
      have left : closedIn (.objectResult objRecord :: kicks) = [objRecord] :=
        closedIn_objectResult objRecord only
      have finished : (finish cfg s e).isSome := by
        have shown := finishes.closed
        rw [left] at shown
        cases found : finish cfg s e with
        | none =>
            rw [found] at shown
            cases shown
        | some finished => rfl
      have total : after.m_detectTotalCount = s.m_detectTotalCount := finishes.total finished
      have fewer := Hash.length_erase (Hash.mem_of_lookup held)
      rw [left, total, packets, List.length_singleton]
      omega
  | ignored e noPicture => simp [closedIn]

end Step

/-! ## A run -/

section Run

variable (cfg : Config)

/-- Every packet stored or gone has been counted. -/
theorem total_run (events : List Event) :
    ((after cfg events).m_packetHash.keys.length : Int) +
        (closedIn (outputs cfg events)).length ≤ (after cfg events).m_detectTotalCount := by
  induction events using List.reverseRecOn with
  | nil => exact le_rfl
  | append_singleton events e ih =>
      have one : _ ≤ (step cfg (after cfg events) e).1.m_detectTotalCount + _ :=
        total_step (own_run cfg events) e
      have more : outputs cfg (events ++ [e]) =
          outputs cfg events ++ (step cfg (after cfg events) e).2 :=
        Machine.outputs_snoc (step cfg) start events e
      have last : after cfg (events ++ [e]) = (step cfg (after cfg events) e).1 :=
        Machine.final_snoc (step cfg) start events e
      rw [more, closedIn_append, List.length_append, last]
      push_cast
      omega

/-- A run that counts in every step counts the NG packets. -/
theorem ng_run (events : List Event)
    (counts : Machine.Always (fun first e => CountsNg cfg (after cfg first) e) events) :
    (after cfg events).m_detectNgCount = ngIn (outputs cfg events) := by
  induction events using List.reverseRecOn with
  | nil => rfl
  | append_singleton events e ih =>
      obtain ⟨before, last⟩ := Machine.always_snoc.mp counts
      have counted : (after cfg (events ++ [e])).m_detectNgCount =
          (after cfg events).m_detectNgCount + ngIn (step cfg (after cfg events) e).2 := by
        rw [after, Machine.final_snoc]
        exact last
      have more : outputs cfg (events ++ [e]) =
          outputs cfg events ++ (step cfg (after cfg events) e).2 :=
        Machine.outputs_snoc (step cfg) start events e
      rw [counted, ih before, more, ngIn, ngIn, ngIn, closedIn_append, List.countP_append]
      push_cast
      rfl

/-- **The NG packets are counted once each in exactly the runs that kick none.** -/
theorem ng_accounted_iff (events : List Event) :
    NgAccounted cfg events ↔
      Machine.Always (fun first e => NoNgKick cfg (after cfg first) e) events := by
  have each : ∀ first e, CountsNg cfg (after cfg first) e ↔ NoNgKick cfg (after cfg first) e := by
    intro first e
    have well := wellFormed_run cfg first
    rw [counts_iff well.own well.unjudged, noNgKick_iff]
  constructor
  · intro accounted first e rest split
    exact (each first e).mp (accounted.counts first e rest split)
  · intro quiet
    have counts : Machine.Always (fun first e => CountsNg cfg (after cfg first) e) events := by
      intro first e rest split
      exact (each first e).mpr (quiet first e rest split)
    refine ⟨counts, ?_⟩
    have stored := total_run cfg events
    have few := ngIn_le (outputs cfg events)
    rw [ng_run cfg events counts]
    omega

end Run

/-! ## One camera -/

/-- The project without a kicking device. -/
def noDevice : KickDevices :=
  { pcpSerialCtrl := false, siemensS7PLC := false, pcpUdpCtrl := false, kickEnable := true,
    stopMode := false }

/-- One camera is online; its picture makes a packet and is found NG. -/
def oneNg : List Event :=
  [.preInferAsync (picture 1 1 1000) 1000 1 [],
   .onImageResult noDevice { objectId := 1000, imageId := 1, result := 0 } 1]

/-- One NG packet of one is counted as two. -/
theorem oneNg_twice :
    ¬ NgAccounted tight oneNg ∧ (after tight oneNg).m_detectNgCount = 2 ∧
      (after tight oneNg).m_detectTotalCount = 1 := by
  have ng : (after tight oneNg).m_detectNgCount = 2 := by decide
  have total : (after tight oneNg).m_detectTotalCount = 1 := by decide
  refine ⟨?_, ng, total⟩
  intro accounted
  have bounded := accounted.bounded
  rw [ng, total] at bounded
  omega

end IsgConsole.Multipler.CPacketResult
