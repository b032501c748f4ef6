/-
# Multipler.ImageVerdict — the verdict on an image, and the order its results arrive in

The algorithms of an image run on threads of their own, so their results arrive in any order.
`onImageIasResult` takes the first result as it is, and of the later ones only a faulty one.

* `verdictOf_spec` — the verdict in closed form;
* `merged_result` — what a run leaves in the record, or reports, is that verdict;
* `merged_orders` — **how far two orders of arrival agree.**
-/
import IsgConsole.Multipler.ImageHistory

namespace IsgConsole.Multipler.CImageMultipler

open IsgConsole.Theory IsgConsole.BaseLib IsgConsole.Inspector IsgConsole.IopAgent
open scoped List

set_option autoImplicit false

/-! ## The fold -/

/-- What an algorithm may say of an image. -/
def IsResult (result : Int) : Prop :=
  result = RESULT_OK ∨ result = RESULT_NG ∨ result = RESULT_TIMEOUT

theorem IsResult.ne_init {result : Int} (isResult : IsResult result) : result ≠ RESULT_INIT := by
  rcases isResult with rfl | rfl | rfl <;> decide

/-- The verdict on results, in the order they arrive. -/
def verdictOf (results : List Int) : Int := results.foldl mergeResult RESULT_INIT

/-- Behind a first result only a faulty one counts. -/
theorem foldl_mergeResult {result : Int} (settled : result ≠ RESULT_INIT) (results : List Int) :
    results.foldl mergeResult result =
      if RESULT_NG ∈ results then RESULT_NG else result := by
  induction results generalizing result with
  | nil => rfl
  | cons next results ih =>
      rw [List.foldl_cons, mergeResult, if_neg settled]
      by_cases faulty : next = RESULT_NG
      · rw [if_pos faulty, ih (by rw [faulty]; decide), faulty]
        simp
      · rw [if_neg faulty, ih settled]
        simp [Ne.symm faulty]

/-- **The verdict**: faulty if one result is, and the first result otherwise. -/
theorem verdictOf_spec {results : List Int} (all : ∀ result ∈ results, IsResult result) :
    verdictOf results =
      if RESULT_NG ∈ results then RESULT_NG else results.headD RESULT_INIT := by
  cases results with
  | nil => rfl
  | cons first results =>
      have settled := (all first List.mem_cons_self).ne_init
      rw [verdictOf, List.foldl_cons, mergeResult, if_pos rfl, foldl_mergeResult settled]
      by_cases faulty : first = RESULT_NG
      · simp [faulty]
      · simp [Ne.symm faulty]

/-- The verdict is faulty when one result is. -/
theorem verdictOf_ng {results : List Int} (all : ∀ result ∈ results, IsResult result) :
    verdictOf results = RESULT_NG ↔ RESULT_NG ∈ results := by
  rw [verdictOf_spec all]
  split
  case isTrue faulty => exact iff_of_true rfl faulty
  case isFalse sound =>
    refine iff_of_false ?_ sound
    cases results with
    | nil => decide
    | cons first results => exact fun this => sound (this ▸ List.mem_cons_self)

/-- **When all orders of arrival agree**: when a result is faulty, or the others are not both
sound and out of time. -/
theorem verdictOf_orders_iff {results : List Int} (all : ∀ result ∈ results, IsResult result) :
    (∀ others, others ~ results → verdictOf others = verdictOf results) ↔
      RESULT_NG ∈ results ∨ ¬ (RESULT_OK ∈ results ∧ RESULT_TIMEOUT ∈ results) := by
  have spec : ∀ others, others ~ results → verdictOf others =
      if RESULT_NG ∈ results then RESULT_NG else others.headD RESULT_INIT := by
    intro others same
    rw [verdictOf_spec fun result there => all result (same.mem_iff.mp there)]
    simp only [same.mem_iff]
  constructor
  · intro agree
    by_contra mixed
    rw [not_or, not_not] at mixed
    obtain ⟨sound, ok, timeout⟩ := mixed
    -- Any result may be the first to arrive.
    have front : ∀ result ∈ results, verdictOf results = result := by
      intro result there
      have same := (List.perm_cons_erase there).symm
      rw [← agree _ same, spec _ same, if_neg sound]
      rfl
    exact absurd ((front _ ok).symm.trans (front _ timeout)) (by decide)
  · rintro (faulty | unmixed) others same
    · rw [spec others same, spec results (.refl _), if_pos faulty, if_pos faulty]
    · rw [spec others same, spec results (.refl _)]
      split
      case isTrue faulty => rfl
      case isFalse sound =>
        cases results with
        | nil => rw [List.perm_nil.mp same]
        | cons first results =>
            cases others with
            | nil => exact absurd same (by simp)
            | cons other others =>
                have there : other ∈ first :: results := same.mem_iff.mp List.mem_cons_self
                -- Neither is faulty, so both are sound or both are out of time.
                rcases all other there with rfl | rfl | rfl
                · rcases all first List.mem_cons_self with rfl | rfl | rfl
                  · rfl
                  · exact absurd List.mem_cons_self sound
                  · exact absurd ⟨there, List.mem_cons_self⟩ unmixed
                · exact absurd there sound
                · rcases all first List.mem_cons_self with rfl | rfl | rfl
                  · exact absurd ⟨List.mem_cons_self, there⟩ unmixed
                  · exact absurd List.mem_cons_self sound
                  · rfl

/-! ## Runs -/

theorem foldl_merge_result (imageRecord : ImageResultRecord) (results : List ImageIasResult) :
    (results.foldl merge imageRecord).result =
      (results.map ImageIasResult.result).foldl mergeResult imageRecord.result := by
  induction results generalizing imageRecord with
  | nil => rfl
  | cons r results ih => exact ih (merge imageRecord r)

theorem foldl_merge_fresh (imageData : ImageData) (results : List ImageIasResult) :
    (results.foldl merge (fresh imageData)).result =
      verdictOf (results.map ImageIasResult.result) :=
  foldl_merge_result (fresh imageData) results

/-- A run merges `results` into image `i`, in that order, and makes `imageRecord` of it: the image
still waits, or the last of them reports it. -/
inductive Merged (cfg : ImageMultiplerConfig) (qt : QtJson) :
    UInt64 → List ImageIasResult → ImageResultRecord → Prop where
  | waiting (events : List Event) (i : UInt64) (imageRecord : ImageResultRecord)
      (held : (after cfg qt events).m_imageResultRecord.lookup i = some imageRecord) :
      Merged cfg qt i (gathered cfg i (history cfg qt events)) imageRecord
  | reported (events : List Event) (env : Surroundings) (iasResult : ImageIasResult)
      (imageRecord : ImageResultRecord) (camera : iasResult.cameraId = cfg.id)
      (there : iasResult.imageId ∈ (after cfg qt events).m_imageResultRecord)
      (sent : imageRecord ∈
        reportsIn (step cfg qt (after cfg qt events) (.onImageIasResult env iasResult)).2) :
      Merged cfg qt iasResult.imageId
        (gathered cfg iasResult.imageId (history cfg qt events) ++ [iasResult]) imageRecord

/-- A multipler for no algorithm reports at the first result, like one for a single algorithm. -/
theorem step_zero {cfg : ImageMultiplerConfig} {qt : QtJson} (zero : cfg.m_IasCount = 0) :
    step cfg qt = step { cfg with m_IasCount := 1 } qt := by
  have low : (0 : UInt32) ≤ 1 := by decide
  funext s e
  cases e with
  | onImageData imageData => rfl
  | onTimeout env nowTime order => rfl
  | onImageIasResult env iasResult =>
      simp only [step, onImageIasResult, zero, low, UInt32.le_refl, if_true]

theorem Merged.one {cfg : ImageMultiplerConfig} {qt : QtJson} {i : UInt64}
    {results : List ImageIasResult} {imageRecord : ImageResultRecord}
    (zero : cfg.m_IasCount = 0) (merged : Merged cfg qt i results imageRecord) :
    Merged { cfg with m_IasCount := 1 } qt i results imageRecord := by
  have same : step cfg qt = step { cfg with m_IasCount := 1 } qt := step_zero zero
  cases merged with
  | waiting events _ _ held =>
      simp only [after, history, same] at held ⊢
      exact .waiting events i imageRecord held
  | reported events env iasResult _ camera there sent =>
      simp only [after, history, same] at there sent ⊢
      exact .reported events env iasResult imageRecord camera there sent

/-- What a run of a multipler with algorithms leaves of an image. -/
theorem merged_result_of_algorithms {cfg : ImageMultiplerConfig} {qt : QtJson} {i : UInt64}
    {results : List ImageIasResult} {imageRecord : ImageResultRecord}
    (algorithms : 1 ≤ cfg.m_IasCount) (merged : Merged cfg qt i results imageRecord) :
    imageRecord.result = verdictOf (results.map ImageIasResult.result) := by
  cases merged with
  | waiting events _ _ held =>
      obtain ⟨imageData, -, rfl, -, -⟩ := (slots_run cfg qt algorithms events).of_held held
      exact foldl_merge_fresh imageData _
  | reported events env iasResult _ camera there sent =>
      have move : Move cfg qt (after cfg qt events) (history cfg qt events) _
          (step cfg qt (after cfg qt events) (.onImageIasResult env iasResult)) :=
        onImageIasResult_move (slots_run cfg qt algorithms events) env iasResult
      generalize step cfg qt (after cfg qt events) (.onImageIasResult env iasResult) = r
        at move sent
      cases move with
      | ignored _ notNew notServed => exact absurd there (notServed env iasResult rfl camera)
      | merged _ _ imageData _ named _ awaited => simp at sent
      | closed _ _ imageData closed _ named _ _ whole =>
          rw [reportsIn_closed, List.mem_singleton] at sent
          rw [sent, whole]
          exact foldl_merge_fresh imageData _

/-- **What a run leaves of an image is the verdict on its results.** -/
theorem merged_result {cfg : ImageMultiplerConfig} {qt : QtJson} {i : UInt64}
    {results : List ImageIasResult} {imageRecord : ImageResultRecord}
    (merged : Merged cfg qt i results imageRecord) :
    imageRecord.result = verdictOf (results.map ImageIasResult.result) := by
  by_cases zero : cfg.m_IasCount = 0
  · exact merged_result_of_algorithms (UInt32.le_refl 1) (merged.one zero)
  · refine merged_result_of_algorithms (UInt32.le_iff_toNat_le.mpr ?_) merged
    exact Nat.one_le_iff_ne_zero.mpr fun this => zero (UInt32.toNat_inj.mp this)

/-- **Two orders of arrival.**  Both find the image faulty when one result is.  Otherwise the first
result stands, so they agree unless there are results that are sound and results that are out of
time. -/
theorem merged_orders {cfg : ImageMultiplerConfig} {qt : QtJson} {i : UInt64}
    {results₁ results₂ : List ImageIasResult} {imageRecord₁ imageRecord₂ : ImageResultRecord}
    (merged₁ : Merged cfg qt i results₁ imageRecord₁)
    (merged₂ : Merged cfg qt i results₂ imageRecord₂)
    (same : results₁.map ImageIasResult.result ~ results₂.map ImageIasResult.result)
    (all : ∀ result ∈ results₁.map ImageIasResult.result, IsResult result) :
    let verdicts := results₁.map ImageIasResult.result
    (imageRecord₁.result = RESULT_NG ↔ RESULT_NG ∈ verdicts) ∧
      (imageRecord₂.result = RESULT_NG ↔ RESULT_NG ∈ verdicts) ∧
      (RESULT_NG ∉ verdicts → imageRecord₁.result = verdicts.headD RESULT_INIT) ∧
      (RESULT_NG ∈ verdicts ∨ ¬ (RESULT_OK ∈ verdicts ∧ RESULT_TIMEOUT ∈ verdicts) →
        imageRecord₁.result = imageRecord₂.result) ∧
      ((∀ others, others ~ verdicts → verdictOf others = imageRecord₁.result) ↔
        RESULT_NG ∈ verdicts ∨ ¬ (RESULT_OK ∈ verdicts ∧ RESULT_TIMEOUT ∈ verdicts)) := by
  have all₂ : ∀ result ∈ results₂.map ImageIasResult.result, IsResult result :=
    fun result there => all result (same.mem_iff.mpr there)
  dsimp only
  rw [merged_result merged₁, merged_result merged₂]
  refine ⟨verdictOf_ng all, ?_, ?_, ?_, verdictOf_orders_iff all⟩
  · rw [verdictOf_ng all₂, same.mem_iff]
  · intro sound
    rw [verdictOf_spec all, if_neg sound]
  · intro unmixed
    exact ((verdictOf_orders_iff all).mpr unmixed _ same.symm).symm

/-! ## Two results, two orders -/

/-- The first of two results for picture 7 is in. -/
def firstResult (result : Int) : List Event :=
  [.onImageData (picture 7), .onImageIasResult quiet (verdict 7 result [])]

/-- The record of picture 7 with both results. -/
def bothResults (first second : Int) : ImageResultRecord :=
  [verdict 7 first [], verdict 7 second []].foldl merge (fresh (picture 7))

/-- A run of two algorithms makes `bothResults` of picture 7. -/
abbrev MergesBoth (first second : Int) : Prop :=
  Merged twoAlgorithms QtJson.reference 7 [verdict 7 first [], verdict 7 second []]
    (bothResults first second)

/-- A sound result and one out of time: the first to arrive stands. -/
theorem sound_and_timeout_differ :
    MergesBoth RESULT_OK RESULT_TIMEOUT ∧ MergesBoth RESULT_TIMEOUT RESULT_OK ∧
      [RESULT_OK, RESULT_TIMEOUT] ~ [RESULT_TIMEOUT, RESULT_OK] ∧
      (bothResults RESULT_OK RESULT_TIMEOUT).result ≠
        (bothResults RESULT_TIMEOUT RESULT_OK).result := by
  refine ⟨?_, ?_, by decide, by decide⟩
  · exact .reported (firstResult RESULT_OK) quiet (verdict 7 RESULT_TIMEOUT []) _ rfl (by decide)
      (by decide)
  · exact .reported (firstResult RESULT_TIMEOUT) quiet (verdict 7 RESULT_OK []) _ rfl (by decide)
      (by decide)

/-- A sound result and a faulty one: faulty in both orders. -/
theorem sound_and_faulty_agree :
    (bothResults RESULT_OK RESULT_NG).result = (bothResults RESULT_NG RESULT_OK).result := by
  have first : MergesBoth RESULT_OK RESULT_NG :=
    .reported (firstResult RESULT_OK) quiet (verdict 7 RESULT_NG []) _ rfl (by decide) (by decide)
  have second : MergesBoth RESULT_NG RESULT_OK :=
    .reported (firstResult RESULT_NG) quiet (verdict 7 RESULT_OK []) _ rfl (by decide) (by decide)
  have all : ∀ result ∈ [RESULT_OK, RESULT_NG], IsResult result := by
    intro result there
    rcases List.mem_pair.mp there with rfl | rfl
    · exact .inl rfl
    · exact .inr (.inl rfl)
  exact (merged_orders first second (.swap _ _ _) all).2.2.2.1 (.inl (by decide))

end IsgConsole.Multipler.CImageMultipler
