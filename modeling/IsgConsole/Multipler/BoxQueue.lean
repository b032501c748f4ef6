/-
# Multipler.BoxQueue — the order of the boxes, and whose an appearance picture is

Everything that came into the line is what has left it and what is on it (`Disciplined.fifo`): the
boxes leave in the order they came in.  Whether an appearance picture gets a box is up to
`m_boxFoundFromQueue`, which the last attempt to take a box out has set, or nobody yet.

* `line_disciplined` — **the queue is bounded, first in first out, and gives out ripe boxes only**;
* `attributed_iff` — **when every appearance picture gets the box of the last attempt**;
* `unattempted_misattributed` — a run in which one gets a box that never was.
-/
import IsgConsole.Multipler.BoxHistory
import Mathlib.Data.List.ReduceOption

namespace IsgConsole.Multipler.CBoxResult

open IsgConsole.Theory IsgConsole.Inspector

set_option autoImplicit false

/-! ## The age of a box -/

theorem toNat_of_sinceEpoch {reading : Int64} (past : 0 ≤ reading) :
    (reading.toUInt64.toNat : Int) = reading.toInt := by
  have word : reading.toUInt64.toNat = reading.toBitVec.toNat := rfl
  have value : reading.toInt = reading.toBitVec.toInt := rfl
  have nonneg : 0 ≤ reading.toInt := Int64.le_iff_toInt_le.mp past
  have signed := BitVec.toInt_eq_toNat_cond reading.toBitVec
  rw [value] at nonneg ⊢
  rw [word]
  split at signed <;> omega

theorem toNat_minElapsed (m_minElapsed : Int32) :
    (m_minElapsed.toInt64.toUInt64.toNat : Int) =
      if m_minElapsed.toInt < 0 then m_minElapsed.toInt + 2 ^ 64 else m_minElapsed.toInt := by
  have word : m_minElapsed.toInt64.toUInt64.toNat = m_minElapsed.toInt64.toBitVec.toNat := rfl
  have value : m_minElapsed.toInt64.toBitVec.toInt = m_minElapsed.toInt :=
    Int32.toInt_toInt64 m_minElapsed
  have signed := BitVec.toInt_eq_toNat_cond m_minElapsed.toInt64.toBitVec
  have bound := m_minElapsed.toInt64.toBitVec.isLt
  rw [word]
  split at signed <;> split <;> omega

/-- The age test says what it should of a time and a clock since the epoch: the sum does not wrap,
or `m_minElapsed` is negative. -/
theorem age_of_isRipe {cfg : Config} {now : Int64} {box : BoxObject}
    (ripe : isRipe cfg now box = true) (dated : box.generateTime.toNat < 2 ^ 63)
    (past : 0 ≤ now) :
    (box.generateTime.toNat : Int) + cfg.m_minElapsed.toInt ≤ now.toInt := by
  have limit : (box.generateTime + cfg.m_minElapsed.toInt64.toUInt64).toNat ≤
      now.toUInt64.toNat := UInt64.le_iff_toNat_le.mp (by simpa [isRipe] using ripe)
  have clock := toNat_of_sinceEpoch past
  have least := toNat_minElapsed cfg.m_minElapsed
  have above := cfg.m_minElapsed.toInt_lt
  have below := cfg.m_minElapsed.le_toInt
  rw [UInt64.toNat_add] at limit
  split at least <;> omega

/-! ## Histories -/

abbrev Turn := Machine.Transition CBoxResult Event Output

/-- The boxes that came into the line, the first one first. -/
def entered (h : List Turn) : List Birth := h.filterMap fun t => entering t.before t.event

/-- The boxes that were on the line or came into it and are no longer there, the oldest first. -/
def leaving (t : Turn) : List Birth :=
  (((entering t.before t.event).toList ++ births t.before).drop (births t.after).length).reverse

/-- The boxes that have left the line, in the order in which they left. -/
def gone (h : List Turn) : List Birth := h.flatMap leaving

/-- The attempt of a step, and the box it took out. -/
def tried (cfg : Config) (t : Turn) : Option (Option Birth) :=
  (attempt cfg t.before t.event).map fun now => (taken cfg t.before now).map birth

def attempts (cfg : Config) (h : List Turn) : List (Option Birth) := h.filterMap (tried cfg)

/-- The clock readings of an event. -/
def readings : Event → List Int64
  | .preInferAsync _ currTime _ now => [currTime, now]
  | .onBarCode _ now => [now]
  | .onImageResult _ _ _ => []

/-- The clock counts from the epoch. -/
def SinceEpoch (e : Event) : Prop := ∀ reading ∈ readings e, 0 ≤ reading

/-- **What the queue keeps to.** -/
structure Disciplined (cfg : Config) (h : List Turn) (s : CBoxResult) : Prop where
  bounded : s.m_box_queue.length ≤ cfg.m_queueLen
  fifo : entered h = gone h ++ (births s).reverse
  /-- A box that is taken out is one that leaves, and leaves once. -/
  poped : (attempts cfg h).reduceOption.Sublist (gone h)
  ripe : ∀ t ∈ h, ∀ now box, attempt cfg t.before t.event = some now →
    taken cfg t.before now = some box →
    (box.generateTime.toNat : Int) + cfg.m_minElapsed.toInt ≤ now.toInt
  /-- No box has the id of a picture without one. -/
  named : ∀ b ∈ entered h, b.objectId ≠ -1

section Turns

variable {cfg : Config} {s s' : CBoxResult} {e : Event}

theorem births_dropLast (same : marks s' = (marks s).dropLast) : births s' = (births s).dropLast := by
  rw [births_eq_marks, births_eq_marks, same, List.map_dropLast]

theorem births_same (same : marks s' = marks s) : births s' = births s := by
  rw [births_eq_marks, births_eq_marks, same]

theorem births_entered {m : Mark} (boxes : marks s' =
    if cfg.m_queueLen < s.m_box_queue.length + 1 then (m :: marks s).dropLast else m :: marks s) :
    births s' = if cfg.m_queueLen < s.m_box_queue.length + 1 then (m.birth :: births s).dropLast
      else m.birth :: births s := by
  rw [births_eq_marks, births_eq_marks, boxes]
  split
  · rw [List.map_dropLast, List.map_cons]
  · rw [List.map_cons]

/-- What is on the line came into it last. -/
theorem Move.births_prefix (move : Move cfg s e s') :
    births s' <+: (entering s e).toList ++ births s := by
  cases move with
  | entered b new quiet boxes found poped ng =>
      rw [births_entered boxes, new]
      split
      · exact List.dropLast_prefix _
      · exact List.prefix_rfl
  | took now box old tried takes boxes found poped ng =>
      rw [births_dropLast boxes, old]
      exact List.dropLast_prefix _
  | missed now old tried fails boxes found poped ng =>
      rw [births_same boxes, old]
      exact List.prefix_rfl
  | booked pcp kickEnable r place box here finds boxes found ng =>
      rw [(booked_births finds boxes).1, here]
      exact List.prefix_rfl
  | still old quiet same =>
      rw [births_same same.boxes, old]
      exact List.prefix_rfl

theorem Move.bounded (move : Move cfg s e s') (short : s.m_box_queue.length ≤ cfg.m_queueLen) :
    (births s').length ≤ cfg.m_queueLen := by
  cases move with
  | entered b new quiet boxes found poped ng =>
      rw [births_entered boxes]
      split
      · simpa using short
      · simp only [List.length_cons, length_births]
        omega
  | took now box old tried takes boxes found poped ng =>
      rw [births_dropLast boxes, List.length_dropLast, length_births]
      omega
  | missed now old tried fails boxes found poped ng => rwa [births_same boxes, length_births]
  | booked pcp kickEnable r place box here finds boxes found ng =>
      rwa [(booked_births finds boxes).1, length_births]
  | still old quiet same => rwa [births_same same.boxes, length_births]

/-- A box that is taken out is the one that leaves. -/
theorem leaving_of_taken {t : Turn} {now : Int64} {box : BoxObject}
    (old : entering t.before t.event = none) (takes : taken cfg t.before now = some box)
    (boxes : births t.after = (births t.before).dropLast) : leaving t = [birth box] := by
  have last : (births t.before).getLast? = some (birth box) := by
    rw [births, List.getLast?_map, taken_last takes]
    rfl
  obtain ⟨front, split⟩ := List.getLast?_eq_some_iff.mp last
  rw [leaving, old, boxes, split]
  simp

/-- A step of the line, its picture put into a box. -/
structure Turns (cfg : Config) (t : Turn) (mid : CBoxResult) : Prop where
  move : Move cfg t.before t.event mid
  filed : Filed t.event mid t.after

theorem turns (cfg : Config) (s : CBoxResult) (e : Event) :
    ∃ mid, Turns cfg (Machine.transition (step cfg) s e) mid := by
  obtain ⟨mid, move, filed⟩ := step_move cfg s e
  exact ⟨mid, move, filed⟩

theorem Turns.births_prefix {t : Turn} {mid : CBoxResult} (turn : Turns cfg t mid) :
    births t.after <+: (entering t.before t.event).toList ++ births t.before := by
  rw [turn.filed.births.1]
  exact turn.move.births_prefix

theorem Turns.bounded {t : Turn} {mid : CBoxResult} (turn : Turns cfg t mid)
    (short : t.before.m_box_queue.length ≤ cfg.m_queueLen) :
    t.after.m_box_queue.length ≤ cfg.m_queueLen := by
  rw [← length_births, turn.filed.births.1]
  exact turn.move.bounded short

/-- What the attempt of a step comes to. -/
theorem Turns.tried_cases {t : Turn} {mid : CBoxResult} (turn : Turns cfg t mid) :
    tried cfg t = none ∧ t.after.m_boxFoundFromQueue = t.before.m_boxFoundFromQueue ∧
        birth t.after.m_boxPoped = birth t.before.m_boxPoped ∨
      tried cfg t = some none ∧ t.after.m_boxFoundFromQueue = false ∨
      ∃ b, tried cfg t = some (some b) ∧ t.after.m_boxFoundFromQueue = true ∧
        birth t.after.m_boxPoped = b ∧ leaving t = [b] := by
  have ⟨boxes_kept, poped_kept⟩ := turn.filed.births
  unfold tried
  rw [turn.filed.found, poped_kept]
  cases turn.move with
  | entered b new quiet boxes found poped ng =>
      exact .inl ⟨by rw [quiet]; rfl, found, congrArg Mark.birth poped⟩
  | took now box old tries takes boxes found poped ng =>
      refine .inr (.inr ⟨birth box, by rw [tries, Option.map_some, takes]; rfl, found,
        congrArg Mark.birth poped, ?_⟩)
      exact leaving_of_taken old takes (boxes_kept.trans (births_dropLast boxes))
  | missed now old tries fails boxes found poped ng =>
      exact .inr (.inl ⟨by rw [tries, Option.map_some, fails]; rfl, found⟩)
  | booked pcp kickEnable r place box here finds boxes found ng =>
      exact .inl ⟨by rw [here]; rfl, found, (booked_births finds boxes).2⟩
  | still old quiet same =>
      exact .inl ⟨by rw [quiet]; rfl, same.found, congrArg Mark.birth same.poped⟩

/-- A box has its id and its time from the clock. -/
theorem dated_of_entering {b : Birth} (new : entering s e = some b) (clock : SinceEpoch e) :
    b.generateTime.toNat < 2 ^ 63 ∧ b.objectId ≠ -1 := by
  cases e with
  | preInferAsync imageData currTime connected now =>
      simp only [entering, Option.ite_none_right_eq_some, Option.some.injEq] at new
      obtain ⟨-, rfl⟩ := new
      have reading := toNat_of_sinceEpoch (clock currTime (List.mem_cons_self ..))
      have bound := currTime.toInt_lt
      have short : currTime.toUInt64.toNat < 2 ^ 63 := by omega
      refine ⟨short, fun all => ?_⟩
      have word : currTime.toUInt64 = -1 := all
      rw [word] at short
      exact absurd short (by decide)
  | onBarCode barCode now => cases new
  | onImageResult pcp kickEnable r => cases new

end Turns

/-! ## Runs -/

section Runs

variable {cfg : Config} {memory : Memory}

theorem entered_snoc (h : List Turn) (t : Turn) :
    entered (h ++ [t]) = entered h ++ (entering t.before t.event).toList :=
  Machine.observe_snoc _ h t

theorem gone_snoc (h : List Turn) (t : Turn) : gone (h ++ [t]) = gone h ++ leaving t := by
  rw [gone, List.flatMap_append, List.flatMap_singleton, ← gone]

theorem attempts_snoc (h : List Turn) (t : Turn) :
    attempts cfg (h ++ [t]) = attempts cfg h ++ (tried cfg t).toList :=
  Machine.observe_snoc _ h t

/-- What comes into the line leaves it or is on it. -/
theorem fifo_turn {h : List Turn} {t : Turn} {mid : CBoxResult} (turn : Turns cfg t mid)
    (fifo : entered h = gone h ++ (births t.before).reverse) :
    entered (h ++ [t]) = gone (h ++ [t]) ++ (births t.after).reverse := by
  have single : (entering t.before t.event).toList.reverse = (entering t.before t.event).toList := by
    cases entering t.before t.event <;> rfl
  have stay := List.prefix_iff_eq_take.mp turn.births_prefix
  have split := List.take_append_drop (births t.after).length
    ((entering t.before t.event).toList ++ births t.before)
  rw [← stay] at split
  calc entered (h ++ [t])
      = gone h ++ ((entering t.before t.event).toList ++ births t.before).reverse := by
        rw [entered_snoc, fifo, List.reverse_append, single, List.append_assoc]
    _ = gone (h ++ [t]) ++ (births t.after).reverse := by
        rw [gone_snoc, List.append_assoc, leaving, ← List.reverse_append, split]

theorem poped_turn {h : List Turn} {t : Turn} {mid : CBoxResult} (turn : Turns cfg t mid)
    (poped : (attempts cfg h).reduceOption.Sublist (gone h)) :
    (attempts cfg (h ++ [t])).reduceOption.Sublist (gone (h ++ [t])) := by
  rw [attempts_snoc, gone_snoc, List.reduceOption_append]
  refine poped.append ?_
  rcases turn.tried_cases with ⟨quiet, -⟩ | ⟨missed, -⟩ | ⟨b, took, -, -, left⟩
  · rw [quiet]
    exact List.nil_sublist _
  · rw [missed]
    exact List.nil_sublist _
  · rw [took, left]
    exact List.Sublist.refl _

/-- The boxes of a run have their times from the clock. -/
theorem entered_dated (h : List Turn) (clock : ∀ t ∈ h, SinceEpoch t.event) :
    ∀ b ∈ entered h, b.generateTime.toNat < 2 ^ 63 ∧ b.objectId ≠ -1 := by
  intro b inside
  obtain ⟨t, here, new⟩ := List.mem_filterMap.mp inside
  exact dated_of_entering new (clock t here)

theorem attempt_reading {s : CBoxResult} {e : Event} {now : Int64}
    (tried : attempt cfg s e = some now) : now ∈ readings e := by
  cases e with
  | preInferAsync imageData currTime connected now' =>
      simp only [attempt, Option.ite_none_right_eq_some, Option.some.injEq] at tried
      simp [readings, tried.2]
  | onBarCode barCode now' =>
      obtain rfl : now' = now := Option.some.inj tried
      exact List.mem_singleton_self _
  | onImageResult pcp kickEnable r => cases tried

theorem disciplined_turn {h : List Turn} {t : Turn} {mid : CBoxResult} (turn : Turns cfg t mid)
    (clock : ∀ u ∈ h ++ [t], SinceEpoch u.event) (before : Disciplined cfg h t.before) :
    Disciplined cfg (h ++ [t]) t.after := by
  have earlier : ∀ u ∈ h, SinceEpoch u.event := fun u here =>
    clock u (List.mem_append_left _ here)
  refine ⟨turn.bounded before.bounded, fifo_turn turn before.fifo, poped_turn turn before.poped,
    ?ripe, fun b inside => (entered_dated _ clock b inside).2⟩
  case ripe =>
    intro u here now box tried takes
    rcases List.mem_append.mp here with here | here
    · exact before.ripe u here now box tried takes
    · obtain rfl := List.mem_singleton.mp here
      have there : birth box ∈ entered h := by
        rw [before.fifo, List.mem_append, List.mem_reverse]
        exact .inr (List.mem_map_of_mem (List.mem_of_getLast? (taken_last takes)))
      exact age_of_isRipe (taken_ripe takes) (entered_dated h earlier _ there).1
        (clock u (by simp) now (attempt_reading tried))

/-- **The queue is bounded, first in first out, and gives out ripe boxes only.** -/
theorem line_disciplined (cfg : Config) (memory : Memory) (events : List Event)
    (clock : ∀ e ∈ events, SinceEpoch e) :
    Disciplined cfg (Machine.trace (step cfg) (constructed memory) events)
      (Machine.final (step cfg) (constructed memory) events) := by
  have run : (∀ t ∈ Machine.trace (step cfg) (constructed memory) events, SinceEpoch t.event) →
      Disciplined cfg (Machine.trace (step cfg) (constructed memory) events)
        (Machine.final (step cfg) (constructed memory) events) := by
    refine Machine.run_induction (step cfg) (P := fun h s =>
      (∀ t ∈ h, SinceEpoch t.event) → Disciplined cfg h s) ?start ?keep events
    case start =>
      intro _
      exact ⟨Nat.zero_le _, rfl, List.Sublist.refl _, by simp, by simp [entered]⟩
    case keep =>
      intro es e before clock
      obtain ⟨mid, turn⟩ := turns cfg _ e
      exact disciplined_turn turn clock
        (before fun t here => clock t (List.mem_append_left _ here))
  refine run fun t here => clock t.event ?_
  rw [← Machine.events_trace (step cfg) (constructed memory) events]
  exact List.mem_map_of_mem here

end Runs

/-! ## Whose an appearance picture is -/

/-- The pictures a step hands back. -/
def handed (outputs : List Output) : List ImageData :=
  outputs.filterMap fun
    | .handBack imageData => some imageData
    | _ => none

/-- The picture with what it takes over from a box that was born so. -/
def give (imageData : ImageData) (b : Birth) : ImageData :=
  { imageData with
    objectId := b.objectId
    bReportOrignal := b.bReportOrignal
    bReportBinning := b.bReportBinning }

/-- The picture as it should be handed back, by what the last attempt came to. -/
def attribution (last : Option (Option Birth)) (imageData : ImageData) : ImageData :=
  match last with
  | some (some b) => give imageData b
  | _ => unassigned imageData

/-- An appearance picture of the run gets the box of the last attempt, its own included. -/
def Attributed (cfg : Config) (memory : Memory) (first : List Event) (e : Event) : Prop :=
  match e with
  | .preInferAsync imageData _ _ _ =>
      appearance imageData →
        handed (step cfg (Machine.final (step cfg) (constructed memory) first) e).2 =
          [attribution
            (attempts cfg (Machine.trace (step cfg) (constructed memory) (first ++ [e]))).getLast?
            imageData]
  | _ => True

/-- An appearance picture of the run comes after an attempt, or with one. -/
def Attempted (cfg : Config) (memory : Memory) (first : List Event) (e : Event) : Prop :=
  match e with
  | .preInferAsync imageData _ _ _ =>
      appearance imageData →
        attempts cfg (Machine.trace (step cfg) (constructed memory) (first ++ [e])) ≠ []
  | _ => True

instance (cfg : Config) (memory : Memory) (first : List Event) (e : Event) :
    Decidable (Attributed cfg memory first e) :=
  match e with
  | .preInferAsync _ _ _ _ => inferInstanceAs (Decidable (_ → _))
  | .onBarCode _ _ | .onImageResult _ _ _ => .isTrue trivial

/-- The memory of the new object happens to read as no box. -/
def Blank (memory : Memory) : Prop :=
  memory.m_boxFoundFromQueue = false ∨
    memory.objectId = -1 ∧ memory.bReportOrignal = false ∧ memory.bReportBinning = false

instance (memory : Memory) : Decidable (Blank memory) := inferInstanceAs (Decidable (_ ∨ _))

/-- What `m_boxFoundFromQueue` and `m_boxPoped` hold, by what the last attempt came to. -/
def Latched (memory : Memory) (last : Option (Option Birth)) (s : CBoxResult) : Prop :=
  match last with
  | none => s.m_boxFoundFromQueue = memory.m_boxFoundFromQueue ∧
      birth s.m_boxPoped = birth (constructed memory).m_boxPoped
  | some none => s.m_boxFoundFromQueue = false
  | some (some b) => s.m_boxFoundFromQueue = true ∧ birth s.m_boxPoped = b

section Attribution

variable {cfg : Config} {memory : Memory}

theorem latched_turn {h : List Turn} {t : Turn} {mid : CBoxResult} (turn : Turns cfg t mid)
    (before : Latched memory (attempts cfg h).getLast? t.before) :
    Latched memory (attempts cfg (h ++ [t])).getLast? t.after := by
  rw [attempts_snoc]
  rcases turn.tried_cases with ⟨quiet, found, poped⟩ | ⟨missed, found⟩ | ⟨b, took, found, poped, -⟩
  · rw [quiet, Option.toList_none, List.append_nil]
    cases last : (attempts cfg h).getLast? with
    | none =>
        rw [last] at before
        exact ⟨found.trans before.1, poped.trans before.2⟩
    | some attempt =>
        rw [last] at before
        cases attempt with
        | none => exact found.trans before
        | some b => exact ⟨found.trans before.1, poped.trans before.2⟩
  · rw [missed, Option.toList_some, List.getLast?_concat]
    exact found
  · rw [took, Option.toList_some, List.getLast?_concat]
    exact ⟨found, poped⟩

theorem latched (cfg : Config) (memory : Memory) (events : List Event) :
    Latched memory (attempts cfg (Machine.trace (step cfg) (constructed memory) events)).getLast?
      (Machine.final (step cfg) (constructed memory) events) := by
  refine Machine.run_induction (step cfg) (P := fun h s =>
    Latched memory (attempts cfg h).getLast? s) ⟨rfl, rfl⟩ ?_ events
  intro es e before
  obtain ⟨mid, turn⟩ := turns cfg _ e
  exact latched_turn turn before

/-- What a box that is taken out sends is no picture. -/
theorem handed_dequeueFirst (s : CBoxResult) (connected : Bool) (now : Int64) :
    handed (s.dequeueFirst cfg connected now).2 = [] := by
  unfold dequeueFirst
  split
  · rfl
  · split
    · rw [dequeue_eq]
      cases taken cfg s now with
      | none => rfl
      | some box => rfl
    · rfl

theorem handed_toPoped (s : CBoxResult) (imageData : ImageData) :
    handed (s.toPoped imageData).2 =
      [if (s.toPoped imageData).1.m_boxFoundFromQueue then
        give imageData (birth (s.toPoped imageData).1.m_boxPoped)
      else unassigned imageData] := by
  unfold toPoped
  by_cases found : s.m_boxFoundFromQueue <;> simp [found, handed, assign, give, birth, addImage]

/-- An appearance picture is handed back by what the step leaves behind. -/
theorem handed_appearance (s : CBoxResult) {imageData : ImageData}
    (outside : appearance imageData = true) (currTime : Int64) (connected : Bool) (now : Int64) :
    let r := step cfg s (.preInferAsync imageData currTime connected now)
    handed r.2 = [if r.1.m_boxFoundFromQueue then give imageData (birth r.1.m_boxPoped)
      else unassigned imageData] := by
  have shape : imageData.cameraId ≠ 1 := by
    intro shape
    simp [appearance, atMachine1, shape] at outside
  have stack : ¬ (imageData.cameraId = 2 ∨ imageData.cameraId = 3) := by
    rintro (stack | stack) <;> simp [appearance, atMachine1, stack] at outside
  simp only [step, preInferAsync, if_neg shape, if_neg stack]
  have sent : handed ((s.group currTime).dequeueFirst cfg connected now).2 = [] :=
    handed_dequeueFirst _ _ _
  rw [handed, List.filterMap_append, ← handed, ← handed, sent, List.nil_append]
  exact handed_toPoped _ imageData

theorem give_eq_unassigned_iff (imageData : ImageData) (b : Birth) :
    give imageData b = unassigned imageData ↔
      b.objectId = -1 ∧ b.bReportOrignal = false ∧ b.bReportBinning = false := by
  simp [give, unassigned, ImageData.mk.injEq]

/-- A picture gets the box of the last attempt, unless there was none and the memory of the new
object reads as a box. -/
theorem attributed_turn (first : List Event) (e : Event) :
    Attributed cfg memory first e ↔ Blank memory ∨ Attempted cfg memory first e := by
  cases e with
  | preInferAsync imageData currTime connected now =>
      by_cases outside : appearance imageData = true
      case neg => simp [Attributed, Attempted, outside]
      case pos =>
        simp only [Attributed, Attempted, outside, forall_const, handed_appearance _ outside]
        have after := latched cfg memory
          (first ++ [.preInferAsync imageData currTime connected now])
        rw [Machine.final_snoc] at after
        cases last : (attempts cfg (Machine.trace (step cfg) (constructed memory)
            (first ++ [.preInferAsync imageData currTime connected now]))).getLast? with
        | none =>
            rw [last] at after
            have none := List.getLast?_eq_none_iff.mp last
            rw [after.1, after.2, or_iff_left (not_not_intro none)]
            cases found : memory.m_boxFoundFromQueue <;>
              simp [attribution, give_eq_unassigned_iff, Blank, found, birth, constructed]
        | some attempt =>
            rw [last] at after
            have some : attempts cfg (Machine.trace (step cfg) (constructed memory)
                (first ++ [.preInferAsync imageData currTime connected now])) ≠ [] := by
              intro none
              rw [none] at last
              cases last
            refine iff_of_true ?_ (.inr some)
            cases attempt with
            | none => rw [show _ = false from after]; rfl
            | some b => rw [after.1, after.2]; rfl
  | onBarCode barCode now => exact iff_of_true trivial (.inr trivial)
  | onImageResult pcp kickEnable r => exact iff_of_true trivial (.inr trivial)

/-- **When every appearance picture gets the box of the last attempt.**  The queue keeps to its
order on every run.  A picture in front of the first attempt gets what was in the memory of the
new object. -/
theorem attributed_iff (cfg : Config) (memory : Memory) (events : List Event)
    (clock : ∀ e ∈ events, SinceEpoch e) :
    (Disciplined cfg (Machine.trace (step cfg) (constructed memory) events)
        (Machine.final (step cfg) (constructed memory) events) ∧
      Machine.Always (Attributed cfg memory) events) ↔
    (Blank memory ∨ Machine.Always (Attempted cfg memory) events) := by
  rw [and_iff_right (line_disciplined cfg memory events clock)]
  by_cases blank : Blank memory
  · refine iff_of_true (fun first e rest _ => ?_) (.inl blank)
    exact (attributed_turn first e).mpr (.inl blank)
  · rw [or_iff_right blank]
    have same : Attributed cfg memory = Attempted cfg memory := by
      funext first e
      rw [attributed_turn, or_iff_right blank]
    rw [same]

end Attribution

/-! ## A picture in front of the first attempt -/

/-- A box is made, the reader takes it out, and an appearance picture gets it. -/
def readOut : List Event :=
  [.preInferAsync (picture 1 1) 1000 true 1000, .onBarCode [65] 2500,
    .preInferAsync (picture 2 4) 5000 true 5000]

theorem readOut_attributed : (∀ e ∈ readOut, SinceEpoch e) ∧
    (Disciplined (init 2 1000 true)
        (Machine.trace (step (init 2 1000 true)) (constructed leftover) readOut)
        (Machine.final (step (init 2 1000 true)) (constructed leftover) readOut) ∧
      Machine.Always (Attributed (init 2 1000 true) leftover) readOut ↔
    Blank leftover ∨ Machine.Always (Attempted (init 2 1000 true) leftover) readOut) := by
  have clock : ∀ e ∈ readOut, SinceEpoch e := by
    simp [readOut, SinceEpoch, readings]
  exact ⟨clock, attributed_iff (init 2 1000 true) leftover readOut clock⟩

/-- A reader is connected and no bar code has come: the picture gets the id and the flags that were
in the memory. -/
theorem unattempted_misattributed :
    ¬ Machine.Always (Attributed (init 2 1000 true) leftover)
      [.preInferAsync (picture 1 4) 5000 true 5000] := by
  decide

end IsgConsole.Multipler.CBoxResult
