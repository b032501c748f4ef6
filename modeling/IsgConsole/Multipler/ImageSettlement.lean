/-
# Multipler.ImageSettlement — every image is settled once

What the slots of `ImageHistory` come to for the tables, the reports and the NG counter of
`CImageMultipler`:

* `count_between` — a count belongs to a waiting image and is the number of its results;
* `report_settles` — a report happens at the last result of its image or when it is due;
* `balance_run` — every acceptance of an image is matched by one report, or still waits;
* `ng_run` — the NG counter is the number of NG reports;
* `settled_once` — all of it, for every run in which different images have different ids.
-/
import IsgConsole.Multipler.ImageHistory

namespace IsgConsole.Multipler.CImageMultipler

open IsgConsole.Theory IsgConsole.BaseLib IsgConsole.Inspector IsgConsole.IopAgent
open IsgConsole.Theory.Json

set_option autoImplicit false

section Step

variable {cfg : ImageMultiplerConfig} {qt : QtJson} {s : CImageMultipler} {h : History}

/-! ## Counts -/

/-- A count belongs to a waiting image and is the number of its results. -/
theorem count_between (slots : Slots cfg s h) {i : UInt64} {count : UInt32}
    (counted : s.m_imageIasIdRecord.lookup i = some count) :
    i ∈ s.m_imageResultRecord ∧ 1 ≤ count ∧ count < cfg.m_IasCount ∧
      count.toNat = (gathered cfg i h).length := by
  have there : i ∈ s.m_imageResultRecord := by
    by_contra absent
    rw [slots.count_none absent] at counted
    cases counted
  obtain ⟨imageRecord, held⟩ := Option.isSome_iff_exists.mp (AList.lookup_isSome.mpr there)
  obtain ⟨imageData, -, -, counted', open'⟩ := slots.of_held held
  rw [counted] at counted'
  generalize gathered cfg i h = results at counted' open' ⊢
  cases results with
  | nil => cases counted'
  | cons r results =>
      have exact' : count.toNat = (r :: results).length := by
        obtain rfl := Option.some.inj counted'
        exact UInt32.toNat_ofNat_of_lt' (lt_trans open' cfg.m_IasCount.toNat_lt)
      refine ⟨there, ?_, ?_, exact'⟩
      · rw [UInt32.le_iff_toNat_le, exact']
        exact Nat.succ_pos _
      · rw [UInt32.lt_iff_toNat_lt, exact']
        exact open'

/-! ## Reports -/

/-- How a transition comes to report a record. -/
inductive Settles (cfg : ImageMultiplerConfig) (h : History) (e : Event)
    (imageRecord : ImageResultRecord) : Prop where
  | lastResult (env : Surroundings) (iasResult : ImageIasResult)
      (event : e = .onImageIasResult env iasResult)
      (own : iasResult.imageId = imageRecord.imageData.imageId)
      (last : (gathered cfg iasResult.imageId h).length + 1 = cfg.m_IasCount.toNat)
  | timeout (env : Surroundings) (nowTime : UInt64) (order : List UInt64)
      (event : e = .onTimeout env nowTime order) (due : isDue cfg nowTime imageRecord)

theorem isDue_closeJson (cfg : ImageMultiplerConfig) (nowTime : UInt64)
    (imageRecord : ImageResultRecord) :
    isDue cfg nowTime (closeJson imageRecord) = isDue cfg nowTime imageRecord := by
  rw [isDue, isDue, closeJson_imageData]

/-- A report happens at the last result of a waiting image or when it is due, and takes the
image out of the table. -/
theorem report_settles (slots : Slots cfg s h) (e : Event) {imageRecord : ImageResultRecord}
    (reported : imageRecord ∈ reportsIn (step cfg qt s e).2) :
    imageRecord.imageData.imageId ∈ s.m_imageResultRecord ∧
      imageRecord.imageData.imageId ∉ (step cfg qt s e).1.m_imageResultRecord ∧
      Settles cfg h e imageRecord := by
  have move : Move cfg qt s h e (step cfg qt s e) := step_move slots e
  generalize step cfg qt s e = r at move reported ⊢
  cases move with
  | ignored => cases reported
  | recorded => cases reported
  | merged =>
      rw [reportsIn_kick] at reported
      cases reported
  | closed env iasResult imageData whole camera named there last is =>
      rw [reportsIn_closed, List.mem_singleton] at reported
      have own : iasResult.imageId = imageRecord.imageData.imageId := by
        rw [reported, is, foldl_merge_imageData]
        exact named.symm
      rw [← own]
      refine ⟨there, ?_, .lastResult env iasResult rfl own last⟩
      simp [AList.mem_erase]
  | timedOut env nowTime order stored due held =>
      rw [reportsIn_timedOut, List.mem_singleton] at reported
      subst reported
      rw [closeJson_imageData]
      refine ⟨AList.lookup_isSome.mp (Option.isSome_of_eq_some held), ?_, ?_⟩
      · simp [AList.mem_erase]
      · refine .timeout env nowTime order rfl ?_
        rw [isDue_closeJson]
        exact due

/-- One while the image waits. -/
def waits (records : Hash UInt64 ImageResultRecord) (i : UInt64) : Nat :=
  if i ∈ records then 1 else 0

theorem waits_insert (records : Hash UInt64 ImageResultRecord) (key i : UInt64)
    (imageRecord : ImageResultRecord) :
    waits (records.insert key imageRecord) i = if i = key then 1 else waits records i := by
  by_cases this : i = key <;> simp [waits, AList.mem_insert, this]

theorem waits_erase (records : Hash UInt64 ImageResultRecord) (key i : UInt64) :
    waits (records.erase key) i = if i = key then 0 else waits records i := by
  by_cases this : i = key <;> simp [waits, AList.mem_erase, this]

theorem waits_of_mem {records : Hash UInt64 ImageResultRecord} {i : UInt64} (there : i ∈ records) :
    waits records i = 1 :=
  if_pos there

/-- A report of image `key`, seen from image `i`. -/
theorem filter_report {imageRecord : ImageResultRecord} {key : UInt64} (i : UInt64)
    (named : imageRecord.imageData.imageId = key) :
    ([imageRecord].filter fun r => r.imageData.imageId = i).length = if i = key then 1 else 0 := by
  subst named
  by_cases this : i = imageRecord.imageData.imageId
  · simp [this]
  · simp [this, Ne.symm this]

/-- A step keeps acceptances and reports in balance. -/
theorem balance_step (slots : Slots cfg s h) (e : Event) (i : UInt64)
    (balance : (accepted h).count i = (reportsOf i h).length + waits s.m_imageResultRecord i) :
    let t := Machine.transition (step cfg qt) s e
    (accepted (h ++ [t])).count i =
      (reportsOf i (h ++ [t])).length + waits t.after.m_imageResultRecord i := by
  intro t
  have move : Move cfg qt s h e (step cfg qt s e) := step_move slots e
  rw [accepted_snoc, reportsOf_snoc, List.count_append, List.length_append, balance]
  show _ + (accepts (Machine.transitionTo s e (step cfg qt s e))).toList.count i =
    _ + ((reportsIn (step cfg qt s e).2).filter _).length +
      waits (step cfg qt s e).1.m_imageResultRecord i
  generalize step cfg qt s e = r at move ⊢
  cases move with
  | ignored _ notNew notServed =>
      rw [accepts_repeated _ notNew]
      rfl
  | recorded imageData new =>
      have accepts' (r : CImageMultipler × List Output) :
          accepts (Machine.transitionTo s (.onImageData imageData) r) = some imageData.imageId :=
        if_neg new
      rw [accepts', waits_insert]
      by_cases this : i = imageData.imageId
      · subst this
        simp [waits, new, reportsIn]
      · simp [this, Ne.symm this, reportsIn]
  | merged env iasResult imageData camera named there awaited =>
      rw [accepts_onImageIasResult, reportsIn_kick, waits_insert]
      by_cases this : i = iasResult.imageId
      · subst this
        rw [if_pos rfl, waits_of_mem there]
        rfl
      · rw [if_neg this]
        rfl
  | closed env iasResult imageData whole camera named there last is =>
      have own : whole.imageData.imageId = iasResult.imageId := by
        rw [is, foldl_merge_imageData]
        exact named
      rw [accepts_onImageIasResult, reportsIn_closed, filter_report i own, waits_erase]
      by_cases this : i = iasResult.imageId
      · subst this
        simp [waits_of_mem there]
      · simp [this]
  | timedOut env nowTime order stored due held =>
      have there : stored.imageData.imageId ∈ s.m_imageResultRecord :=
        AList.lookup_isSome.mp (Option.isSome_of_eq_some held)
      have own : (closeJson stored).imageData.imageId = stored.imageData.imageId :=
        congrArg ImageData.imageId (closeJson_imageData stored)
      rw [accepts_onTimeout, reportsIn_timedOut, filter_report i own, waits_erase]
      by_cases this : i = stored.imageData.imageId
      · subst this
        simp [waits_of_mem there]
      · simp [this]

/-! ## The NG counter -/

/-- The NG reports among these. -/
def ngReports (reports : List ImageResultRecord) : Nat :=
  reports.countP fun imageRecord => imageRecord.result = RESULT_NG

theorem ngReports_append (a b : List ImageResultRecord) :
    ngReports (a ++ b) = ngReports a + ngReports b :=
  List.countP_append

theorem ngReports_singleton (imageRecord : ImageResultRecord) :
    (ngReports [imageRecord] : Int) = ngCount imageRecord.result := by
  by_cases ng : imageRecord.result = RESULT_NG <;> simp [ngReports, ngCount, ng]

/-- A step counts the NG reports it sends. -/
theorem ng_step (slots : Slots cfg s h) (e : Event) :
    (step cfg qt s e).1.m_detectNgCount =
      s.m_detectNgCount + ngReports (reportsIn (step cfg qt s e).2) := by
  have move : Move cfg qt s h e (step cfg qt s e) := step_move slots e
  generalize step cfg qt s e = r at move ⊢
  cases move with
  | ignored => exact (Int.add_zero _).symm
  | recorded => exact (Int.add_zero _).symm
  | merged =>
      rw [reportsIn_kick]
      exact (Int.add_zero _).symm
  | closed => rw [reportsIn_closed, ngReports_singleton]
  | timedOut => rw [reportsIn_timedOut, ngReports_singleton, closeJson_result]

end Step

/-! ## A run -/

section Run

variable (cfg : ImageMultiplerConfig) (qt : QtJson)

/-- Acceptances and reports are in balance after every run. -/
theorem balance_run (algorithms : 1 ≤ cfg.m_IasCount) (events : List Event) (i : UInt64) :
    (accepted (history cfg qt events)).count i =
      (reportsOf i (history cfg qt events)).length +
        waits (after cfg qt events).m_imageResultRecord i := by
  refine Machine.run_induction (step cfg qt)
    (P := fun h s => (accepted h).count i =
      (reportsOf i h).length + waits s.m_imageResultRecord i) rfl ?keep events
  case keep =>
    intro events e balance
    exact balance_step (slots_run cfg qt algorithms events) e i balance

/-- The NG counter is the number of NG reports, after every run. -/
theorem ng_run (algorithms : 1 ≤ cfg.m_IasCount) (events : List Event) :
    (after cfg qt events).m_detectNgCount = ngReports (reported (history cfg qt events)) := by
  refine Machine.run_induction (step cfg qt)
    (P := fun h s => s.m_detectNgCount = ngReports (reported h)) rfl ?keep events
  case keep =>
    intro events e counted
    have one : (step cfg qt (after cfg qt events) e).1.m_detectNgCount = _ :=
      ng_step (slots_run cfg qt algorithms events) e
    rw [reported_snoc, ngReports_append, Int.natCast_add, ← counted]
    exact one

/-- The image an event brings. -/
def Event.imageId? : Event → Option UInt64
  | .onImageData imageData => some imageData.imageId
  | _ => none

/-- Different images have different ids. -/
def Distinct (events : List Event) : Prop := (events.filterMap Event.imageId?).Nodup

instance (events : List Event) : Decidable (Distinct events) :=
  inferInstanceAs (Decidable (events.filterMap Event.imageId?).Nodup)

theorem Distinct.of_append {events more : List Event} (distinct : Distinct (events ++ more)) :
    Distinct events := by
  rw [Distinct, List.filterMap_append] at distinct
  exact distinct.of_append_left

/-- What a step accepts, its event brings. -/
theorem accepts_sublist (s : CImageMultipler) (e : Event) (r : CImageMultipler × List Output) :
    (accepts (Machine.transitionTo s e r)).toList.Sublist ([e].filterMap Event.imageId?) := by
  cases e with
  | onImageData imageData =>
      by_cases there : imageData.imageId ∈ s.m_imageResultRecord
      · rw [show accepts (Machine.transitionTo s (.onImageData imageData) r) = none from if_pos there]
        exact List.nil_sublist _
      · rw [show accepts (Machine.transitionTo s (.onImageData imageData) r) = some imageData.imageId
          from if_neg there]
        exact List.Sublist.refl _
  | onImageIasResult => exact List.Sublist.refl _
  | onTimeout => exact List.Sublist.refl _

/-- What a run accepts, its events bring. -/
theorem accepted_sublist (events : List Event) :
    (accepted (history cfg qt events)).Sublist (events.filterMap Event.imageId?) := by
  induction events using List.reverseRecOn with
  | nil => exact List.Sublist.refl _
  | append_singleton events e ih =>
      rw [history, Machine.trace_snoc, accepted_snoc, List.filterMap_append]
      exact ih.append (accepts_sublist _ e _)

/-! ## Settled once -/

/-- A settled image has one report, is in no table, and its results are dropped. -/
structure Settled (s : CImageMultipler) (h : History) (i : UInt64) : Prop where
  reported : ∃ imageRecord, reportsOf i h = [imageRecord]
  record : i ∉ s.m_imageResultRecord
  count : i ∉ s.m_imageIasIdRecord
  deaf : ∀ env iasResult, iasResult.imageId = i →
    s.onImageIasResult cfg qt env iasResult = (s, [])

/-- An accepted image waits without a report, or is settled. -/
theorem waiting_or_settled (algorithms : 1 ≤ cfg.m_IasCount) {events : List Event}
    (distinct : Distinct events) {i : UInt64} (there : i ∈ accepted (history cfg qt events)) :
    (i ∈ (after cfg qt events).m_imageResultRecord ∧ reportsOf i (history cfg qt events) = []) ∨
      Settled cfg qt (after cfg qt events) (history cfg qt events) i := by
  have once : (accepted (history cfg qt events)).count i = 1 :=
    List.count_eq_one_of_mem (distinct.sublist (accepted_sublist cfg qt events)) there
  have balance := balance_run cfg qt algorithms events i
  by_cases waits' : i ∈ (after cfg qt events).m_imageResultRecord
  · rw [once, waits_of_mem waits'] at balance
    refine .inl ⟨waits', ?_⟩
    rw [← List.length_eq_zero_iff]
    omega
  · rw [once, waits, if_neg waits', Nat.add_zero] at balance
    refine .inr ⟨List.length_eq_one_iff.mp balance.symm, waits', ?_, ?_⟩
    · exact AList.lookup_eq_none.mp ((slots_run cfg qt algorithms events).count_none waits')
    · rintro env iasResult rfl
      exact onImageIasResult_dropped env fun _ => waits'

/-- **Every image is settled once.**  Counts belong to waiting images and are the numbers of
their results; an accepted image waits without a report or is settled; a report happens
at the last result of its image or when it is due, and settles the image; the NG counter
counts the NG reports. -/
theorem settled_once (algorithms : 1 ≤ cfg.m_IasCount) (events : List Event)
    (distinct : Distinct events) :
    let s := after cfg qt events
    let h := history cfg qt events
    (∀ i count, s.m_imageIasIdRecord.lookup i = some count →
        i ∈ s.m_imageResultRecord ∧ 1 ≤ count ∧ count < cfg.m_IasCount ∧
          count.toNat = (gathered cfg i h).length) ∧
      (∀ i ∈ accepted h,
        (i ∈ s.m_imageResultRecord ∧ reportsOf i h = []) ∨ Settled cfg qt s h i) ∧
      (∀ first e rest, events = first ++ e :: rest →
        ∀ imageRecord ∈ reportsIn (step cfg qt (after cfg qt first) e).2,
          imageRecord.imageData.imageId ∈ accepted (history cfg qt first) ∧
            Settles cfg (history cfg qt first) e imageRecord ∧
            Settled cfg qt (after cfg qt (first ++ [e])) (history cfg qt (first ++ [e]))
              imageRecord.imageData.imageId) ∧
      s.m_detectNgCount = ngReports (reported h) := by
  intro s h
  refine ⟨?counts, ?images, ?reports, ng_run cfg qt algorithms events⟩
  case counts =>
    intro i count counted
    exact count_between (slots_run cfg qt algorithms events) counted
  case images =>
    intro i there
    exact waiting_or_settled cfg qt algorithms distinct there
  case reports =>
    rintro first e rest rfl imageRecord reported
    rw [List.append_cons] at distinct
    obtain ⟨there, gone, settles⟩ :=
      report_settles (slots_run cfg qt algorithms first) e reported
    have accepted' : imageRecord.imageData.imageId ∈ accepted (history cfg qt first) := by
      rw [← List.count_pos_iff, balance_run cfg qt algorithms, waits_of_mem there]
      exact Nat.succ_pos _
    refine ⟨accepted', settles, ?_⟩
    have still : imageRecord.imageData.imageId ∈ accepted (history cfg qt (first ++ [e])) := by
      rw [history, Machine.trace_snoc, accepted_snoc]
      exact List.mem_append_left _ accepted'
    rcases waiting_or_settled cfg qt algorithms distinct.of_append still with ⟨waits', -⟩ | settled
    · rw [after, Machine.final_snoc] at waits'
      exact absurd waits' gone
    · exact settled

end Run

/-- One picture has both its results, one runs out of time with one. -/
def bothWays : List Event :=
  [.onImageData (picture 7), .onImageData (picture 8),
    .onImageIasResult quiet (verdict 7 RESULT_NG []), .onImageIasResult quiet (verdict 8 RESULT_OK []),
    .onImageIasResult quiet (verdict 7 RESULT_OK []), .onTimeout quiet 300 [8],
    .onImageIasResult quiet (verdict 8 RESULT_NG [])]

theorem settled_once_bothWays :
    let s := after twoAlgorithms QtJson.reference bothWays
    let h := history twoAlgorithms QtJson.reference bothWays
    accepted h = [7, 8] ∧ s.m_detectNgCount = 1 ∧ s.m_detectNgCount = ngReports (reported h) ∧
      ∀ i ∈ accepted h, Settled twoAlgorithms QtJson.reference s h i := by
  intro s h
  obtain ⟨-, images, -, counted⟩ :=
    settled_once twoAlgorithms QtJson.reference (by decide) bothWays (by decide)
  have gone : s.m_imageResultRecord.keys = [] := by decide
  refine ⟨by decide, by decide, counted, ?_⟩
  intro i there
  rcases images i there with ⟨waits, -⟩ | settled
  · rw [AList.mem_keys, gone] at waits
    cases waits
  · exact settled

end IsgConsole.Multipler.CImageMultipler
