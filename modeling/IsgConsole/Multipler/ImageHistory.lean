/-
# Multipler.ImageHistory — the life of an image in `CImageMultipler`

For every image id the two tables of `CImageMultipler` hold nothing, or a record and the
count of the results gathered since the image was recorded (`Slot`).  `Move` says once what
a step can do to such tables, and after every run the tables hold what was gathered
(`slots_run`).
-/
import IsgConsole.Multipler.ImageMultipler

namespace IsgConsole.Multipler.CImageMultipler

open IsgConsole.Theory IsgConsole.BaseLib IsgConsole.Inspector IsgConsole.IopAgent
open IsgConsole.Theory.Json

set_option autoImplicit false

/-! ## What a history shows -/

/-- The reports among the outputs of a step. -/
def reportsIn (outputs : List Output) : List ImageResultRecord :=
  outputs.filterMap fun
    | .sendImageResultToPolicyStore imageRecord => some imageRecord
    | _ => none

@[simp] theorem reportsIn_append (a b : List Output) :
    reportsIn (a ++ b) = reportsIn a ++ reportsIn b :=
  List.filterMap_append

@[simp] theorem reportsIn_cons (imageRecord : ImageResultRecord) (a : List Output) :
    reportsIn (.sendImageResultToPolicyStore imageRecord :: a) = imageRecord :: reportsIn a := rfl

@[simp] theorem reportsIn_kick (qt : QtJson) (env : Surroundings) (iasResult : ImageIasResult) :
    reportsIn (kick qt env iasResult) = [] := by
  unfold kick
  split
  · split <;> rfl
  · rfl

@[simp] theorem reportsIn_signal (env : Surroundings) (imageRecord : ImageResultRecord) :
    reportsIn (signal env imageRecord) = [] := by
  unfold signal
  split <;> rfl

theorem reportsIn_closed (qt : QtJson) (env : Surroundings) (iasResult : ImageIasResult)
    (imageRecord : ImageResultRecord) :
    reportsIn (kick qt env iasResult ++ .sendImageResultToPolicyStore imageRecord ::
      signal env imageRecord) = [imageRecord] := by
  rw [reportsIn_append, reportsIn_kick, reportsIn_cons, reportsIn_signal]
  rfl

theorem reportsIn_timedOut (env : Surroundings) (imageRecord : ImageResultRecord) :
    reportsIn (signal env imageRecord ++
      [.sendImageResultToPolicyStore (closeJson imageRecord)]) = [closeJson imageRecord] := by
  rw [reportsIn_append, reportsIn_signal]
  rfl

abbrev History := List (Machine.Transition CImageMultipler Event Output)

/-- The image a transition accepts. -/
def accepts (t : Machine.Transition CImageMultipler Event Output) : Option UInt64 :=
  match t.event with
  | .onImageData imageData =>
      if imageData.imageId ∈ t.before.m_imageResultRecord then none else some imageData.imageId
  | _ => none

/-- The result a transition merges into image `i`: one of this camera, while the image
waits. -/
def merges (cfg : ImageMultiplerConfig) (i : UInt64)
    (t : Machine.Transition CImageMultipler Event Output) : Option ImageIasResult :=
  match t.event with
  | .onImageIasResult _ iasResult =>
      if iasResult.cameraId = cfg.id ∧ iasResult.imageId = i ∧ i ∈ t.before.m_imageResultRecord then
        some iasResult
      else none
  | _ => none

/-- The images a history accepted, in order. -/
def accepted (h : History) : List UInt64 := h.filterMap accepts

/-- The results of image `i` after one more transition: a new record starts with none. -/
def gather (cfg : ImageMultiplerConfig) (i : UInt64) (results : List ImageIasResult)
    (t : Machine.Transition CImageMultipler Event Output) : List ImageIasResult :=
  if accepts t = some i then [] else results ++ (merges cfg i t).toList

/-- The results merged into image `i` since it was last accepted, in arrival order. -/
def gathered (cfg : ImageMultiplerConfig) (i : UInt64) (h : History) : List ImageIasResult :=
  h.foldl (gather cfg i) []

def reported (h : History) : List ImageResultRecord := h.flatMap fun t => reportsIn t.outputs

/-- The reports of image `i`. -/
def reportsOf (i : UInt64) (h : History) : List ImageResultRecord :=
  (reported h).filter fun imageRecord => imageRecord.imageData.imageId = i

theorem accepted_snoc (h : History) (t : Machine.Transition CImageMultipler Event Output) :
    accepted (h ++ [t]) = accepted h ++ (accepts t).toList :=
  Machine.observe_snoc accepts h t

theorem gathered_snoc (cfg : ImageMultiplerConfig) (i : UInt64) (h : History)
    (t : Machine.Transition CImageMultipler Event Output) :
    gathered cfg i (h ++ [t]) = gather cfg i (gathered cfg i h) t := by
  rw [gathered, List.foldl_append]
  rfl

theorem gather_frame {cfg : ImageMultiplerConfig} {i : UInt64} {results : List ImageIasResult}
    {t : Machine.Transition CImageMultipler Event Output} (notAccepted : accepts t ≠ some i)
    (notMerged : merges cfg i t = none) : gather cfg i results t = results := by
  rw [gather, if_neg notAccepted, notMerged]
  exact List.append_nil results

theorem reported_snoc (h : History) (t : Machine.Transition CImageMultipler Event Output) :
    reported (h ++ [t]) = reported h ++ reportsIn t.outputs := by
  rw [reported, List.flatMap_append, List.flatMap_singleton]
  rfl

theorem reportsOf_snoc (i : UInt64) (h : History)
    (t : Machine.Transition CImageMultipler Event Output) :
    reportsOf i (h ++ [t]) = reportsOf i h ++
      (reportsIn t.outputs).filter fun imageRecord => imageRecord.imageData.imageId = i := by
  rw [reportsOf, reported_snoc, List.filter_append]
  rfl

/-! ## One image -/

/-- The record of a new image. -/
def fresh (imageData : ImageData) : ImageResultRecord :=
  { imageData := imageData, result := RESULT_INIT, jsonData := [] }

/-- The count of an image with these results: the table has no entry for none. -/
def countOf (results : List ImageIasResult) : Option UInt32 :=
  if results = [] then none else some (UInt32.ofNat results.length)

/-- What the two tables hold for image `i` whose results are `results`. -/
inductive Slot (cfg : ImageMultiplerConfig) (i : UInt64) :
    Option ImageResultRecord → Option UInt32 → List ImageIasResult → Prop where
  | free (results : List ImageIasResult) : Slot cfg i none none results
  | waiting (imageData : ImageData) (results : List ImageIasResult) (named : imageData.imageId = i)
      (open' : results.length < cfg.m_IasCount.toNat) :
      Slot cfg i (some (results.foldl merge (fresh imageData))) (countOf results) results

/-- Every image has its slot. -/
def Slots (cfg : ImageMultiplerConfig) (s : CImageMultipler) (h : History) : Prop :=
  ∀ i, Slot cfg i (s.m_imageResultRecord.lookup i) (s.m_imageIasIdRecord.lookup i)
    (gathered cfg i h)

@[simp] theorem merge_imageData (imageRecord : ImageResultRecord) (iasResult : ImageIasResult) :
    (merge imageRecord iasResult).imageData = imageRecord.imageData := rfl

@[simp] theorem foldl_merge_imageData (imageRecord : ImageResultRecord)
    (results : List ImageIasResult) :
    (results.foldl merge imageRecord).imageData = imageRecord.imageData := by
  induction results generalizing imageRecord with
  | nil => rfl
  | cons r results ih => rw [List.foldl_cons, ih, merge_imageData]

@[simp] theorem closeJson_imageData (imageRecord : ImageResultRecord) :
    (closeJson imageRecord).imageData = imageRecord.imageData := by
  unfold closeJson
  split <;> rfl

@[simp] theorem closeJson_result (imageRecord : ImageResultRecord) :
    (closeJson imageRecord).result = imageRecord.result := by
  unfold closeJson
  split <;> rfl

section Slots

variable {cfg : ImageMultiplerConfig} {s : CImageMultipler} {h : History}

/-- A record is its results, merged in arrival order, under the id of its image. -/
theorem Slots.of_held (slots : Slots cfg s h) {i : UInt64} {imageRecord : ImageResultRecord}
    (held : s.m_imageResultRecord.lookup i = some imageRecord) :
    ∃ imageData : ImageData, imageData.imageId = i ∧
      imageRecord = (gathered cfg i h).foldl merge (fresh imageData) ∧
      s.m_imageIasIdRecord.lookup i = countOf (gathered cfg i h) ∧
      (gathered cfg i h).length < cfg.m_IasCount.toNat := by
  have slot := slots i
  rw [held] at slot
  generalize s.m_imageIasIdRecord.lookup i = count at slot ⊢
  generalize gathered cfg i h = results at slot ⊢
  cases slot with
  | waiting imageData results named open' => exact ⟨imageData, named, rfl, rfl, open'⟩

theorem Slots.own (slots : Slots cfg s h) {i : UInt64} {imageRecord : ImageResultRecord}
    (held : s.m_imageResultRecord.lookup i = some imageRecord) :
    imageRecord.imageData.imageId = i := by
  obtain ⟨imageData, named, rfl, -, -⟩ := slots.of_held held
  rw [foldl_merge_imageData]
  exact named

/-- An image without a record has no count. -/
theorem Slots.count_none (slots : Slots cfg s h) {i : UInt64} (absent : i ∉ s.m_imageResultRecord) :
    s.m_imageIasIdRecord.lookup i = none := by
  have slot := slots i
  rw [AList.lookup_eq_none.mpr absent] at slot
  generalize s.m_imageIasIdRecord.lookup i = count at slot ⊢
  cases slot with
  | free => rfl

end Slots

/-! ## One step -/

/-- There is one algorithm, and its result is the last. -/
theorem single_iff {m : UInt32} (awaited : 0 < m.toNat) : m ≤ 1 ↔ 0 + 1 = m.toNat := by
  have le : m ≤ 1 ↔ m.toNat ≤ 1 := UInt32.le_iff_toNat_le
  rw [le]
  omega

/-- The count that `onImageIasResult` compares falls short unless the result is the last. -/
theorem count_lt_iff {n : Nat} {m : UInt32} (awaited : n < m.toNat) :
    UInt32.ofNat (n + 1) < m ↔ ¬ n + 1 = m.toNat := by
  have small : n + 1 < UInt32.size := lt_of_le_of_lt awaited m.toNat_lt
  rw [UInt32.lt_iff_toNat_lt, UInt32.toNat_ofNat_of_lt' small]
  omega

/-- What a result of this camera does to a waiting image. -/
theorem onImageIasResult_spec {cfg : ImageMultiplerConfig} (qt : QtJson) {s : CImageMultipler}
    (env : Surroundings) {iasResult : ImageIasResult} {imageData : ImageData}
    {results : List ImageIasResult} (camera : iasResult.cameraId = cfg.id)
    (held : s.m_imageResultRecord.lookup iasResult.imageId =
      some (results.foldl merge (fresh imageData)))
    (counted : s.m_imageIasIdRecord.lookup iasResult.imageId = countOf results)
    (open' : results.length < cfg.m_IasCount.toNat) :
    s.onImageIasResult cfg qt env iasResult =
      let imageRecord := merge (results.foldl merge (fresh imageData)) iasResult
      if results.length + 1 = cfg.m_IasCount.toNat then
        ({ s with
            m_detectNgCount := s.m_detectNgCount + ngCount imageRecord.result
            m_imageResultRecord := s.m_imageResultRecord.erase iasResult.imageId
            m_imageIasIdRecord := s.m_imageIasIdRecord.erase iasResult.imageId },
          kick qt env iasResult ++ .sendImageResultToPolicyStore imageRecord ::
            signal env imageRecord)
      else
        ({ s with
            m_imageResultRecord := s.m_imageResultRecord.insert iasResult.imageId imageRecord
            m_imageIasIdRecord := s.m_imageIasIdRecord.insert iasResult.imageId
              (UInt32.ofNat (results.length + 1)) },
          kick qt env iasResult) := by
  simp only [onImageIasResult, if_neg (not_not_intro camera), held, counted,
    Hash.erase_insert_self]
  cases results with
  | nil =>
      have absent : iasResult.imageId ∉ s.m_imageIasIdRecord :=
        AList.lookup_eq_none.mp counted
      by_cases last : List.length ([] : List ImageIasResult) + 1 = cfg.m_IasCount.toNat
      · have verdict : (merge (fresh imageData) iasResult).result = iasResult.result := by
          simp [merge, fresh, mergeResult]
        rw [if_pos ((single_iff open').mpr last), if_pos last, Hash.erase_of_not_mem absent]
        simp only [List.foldl_nil, verdict]
      · rw [if_neg (last ∘ (single_iff open').mp), if_neg last]
        rfl
  | cons r results =>
      have several : ¬ cfg.m_IasCount ≤ 1 := by
        intro single
        have one : cfg.m_IasCount.toNat ≤ 1 := UInt32.le_iff_toNat_le.mp single
        simp only [List.length_cons] at open'
        omega
      have received : UInt32.ofNat (r :: results).length + 1 =
          UInt32.ofNat ((r :: results).length + 1) := by
        rw [UInt32.ofNat_add]
        rfl
      simp only [if_neg several, countOf, if_neg (List.cons_ne_nil r results), received]
      by_cases last : (r :: results).length + 1 = cfg.m_IasCount.toNat
      · have full := (count_lt_iff open').not.mpr (not_not.mpr last)
        rw [if_neg full, if_pos last]
      · rw [if_pos ((count_lt_iff open').mpr last), if_neg last]

section Step

variable {cfg : ImageMultiplerConfig} {qt : QtJson} {s : CImageMultipler} {h : History}

/-- A result that finds no record of its image, or is for another camera, is dropped. -/
theorem onImageIasResult_dropped (env : Surroundings) {iasResult : ImageIasResult}
    (notServed : iasResult.cameraId = cfg.id → iasResult.imageId ∉ s.m_imageResultRecord) :
    s.onImageIasResult cfg qt env iasResult = (s, []) := by
  by_cases camera : iasResult.cameraId = cfg.id
  · simp only [onImageIasResult, if_neg (not_not_intro camera),
      AList.lookup_eq_none.mpr (notServed camera)]
  · rw [onImageIasResult, if_pos camera]

/-- What a step can do to tables that hold what was gathered. -/
inductive Move (cfg : ImageMultiplerConfig) (qt : QtJson) (s : CImageMultipler) (h : History) :
    Event → CImageMultipler × List Output → Prop where
  | ignored (e : Event)
      (notNew : ∀ imageData, e = .onImageData imageData →
        imageData.imageId ∈ s.m_imageResultRecord)
      (notServed : ∀ env iasResult, e = .onImageIasResult env iasResult →
        iasResult.cameraId = cfg.id → iasResult.imageId ∉ s.m_imageResultRecord) :
      Move cfg qt s h e (s, [])
  | recorded (imageData : ImageData) (new : imageData.imageId ∉ s.m_imageResultRecord) :
      Move cfg qt s h (.onImageData imageData)
        ({ s with
            m_detectTotalCount := s.m_detectTotalCount + 1
            m_imageResultRecord := s.m_imageResultRecord.insert imageData.imageId
              (fresh imageData) }, [])
  | merged (env : Surroundings) (iasResult : ImageIasResult) (imageData : ImageData)
      (camera : iasResult.cameraId = cfg.id) (named : imageData.imageId = iasResult.imageId)
      (there : iasResult.imageId ∈ s.m_imageResultRecord)
      (awaited : (gathered cfg iasResult.imageId h).length + 1 < cfg.m_IasCount.toNat) :
      Move cfg qt s h (.onImageIasResult env iasResult)
        ({ s with
            m_imageResultRecord := s.m_imageResultRecord.insert iasResult.imageId
              ((gathered cfg iasResult.imageId h ++ [iasResult]).foldl merge (fresh imageData))
            m_imageIasIdRecord := s.m_imageIasIdRecord.insert iasResult.imageId
              (UInt32.ofNat ((gathered cfg iasResult.imageId h).length + 1)) },
          kick qt env iasResult)
  | closed (env : Surroundings) (iasResult : ImageIasResult) (imageData : ImageData)
      (imageRecord : ImageResultRecord) (camera : iasResult.cameraId = cfg.id)
      (named : imageData.imageId = iasResult.imageId)
      (there : iasResult.imageId ∈ s.m_imageResultRecord)
      (last : (gathered cfg iasResult.imageId h).length + 1 = cfg.m_IasCount.toNat)
      (whole : imageRecord =
        (gathered cfg iasResult.imageId h ++ [iasResult]).foldl merge (fresh imageData)) :
      Move cfg qt s h (.onImageIasResult env iasResult)
        ({ s with
            m_detectNgCount := s.m_detectNgCount + ngCount imageRecord.result
            m_imageResultRecord := s.m_imageResultRecord.erase iasResult.imageId
            m_imageIasIdRecord := s.m_imageIasIdRecord.erase iasResult.imageId },
          kick qt env iasResult ++ .sendImageResultToPolicyStore imageRecord ::
            signal env imageRecord)
  | timedOut (env : Surroundings) (nowTime : UInt64) (order : List UInt64)
      (imageRecord : ImageResultRecord) (due : isDue cfg nowTime imageRecord)
      (held : s.m_imageResultRecord.lookup imageRecord.imageData.imageId = some imageRecord) :
      Move cfg qt s h (.onTimeout env nowTime order)
        ({ s with
            m_detectNgCount := s.m_detectNgCount + ngCount imageRecord.result
            m_imageIasIdRecord := s.m_imageIasIdRecord.erase imageRecord.imageData.imageId
            m_imageResultRecord := s.m_imageResultRecord.erase imageRecord.imageData.imageId },
          signal env imageRecord ++ [.sendImageResultToPolicyStore (closeJson imageRecord)])

theorem onImageData_move (imageData : ImageData) :
    Move cfg qt s h (.onImageData imageData) (step cfg qt s (.onImageData imageData)) := by
  by_cases there : imageData.imageId ∈ s.m_imageResultRecord
  · have ignored : step cfg qt s (.onImageData imageData) = (s, []) := by
      show (s.onImageData imageData, []) = (s, [])
      rw [onImageData, if_pos there]
    rw [ignored]
    refine .ignored _ ?_ ?_
    · rintro _ ⟨⟩
      exact there
    · rintro _ _ ⟨⟩
  · show Move cfg qt s h (.onImageData imageData) (s.onImageData imageData, [])
    rw [onImageData, if_neg there]
    exact .recorded imageData there

theorem onImageIasResult_move (slots : Slots cfg s h) (env : Surroundings)
    (iasResult : ImageIasResult) :
    Move cfg qt s h (.onImageIasResult env iasResult)
      (step cfg qt s (.onImageIasResult env iasResult)) := by
  show Move cfg qt s h (.onImageIasResult env iasResult)
    (s.onImageIasResult cfg qt env iasResult)
  by_cases served : iasResult.cameraId = cfg.id ∧ iasResult.imageId ∈ s.m_imageResultRecord
  · obtain ⟨camera, there⟩ := served
    obtain ⟨imageRecord, held⟩ := Option.isSome_iff_exists.mp (AList.lookup_isSome.mpr there)
    obtain ⟨imageData, named, rfl, counted, open'⟩ := slots.of_held held
    have snoc : merge ((gathered cfg iasResult.imageId h).foldl merge (fresh imageData)) iasResult =
        (gathered cfg iasResult.imageId h ++ [iasResult]).foldl merge (fresh imageData) := by
      rw [List.foldl_append]
      rfl
    rw [onImageIasResult_spec qt env camera held counted open', snoc]
    by_cases last : (gathered cfg iasResult.imageId h).length + 1 = cfg.m_IasCount.toNat
    · rw [if_pos last]
      exact .closed env iasResult imageData _ camera named there last rfl
    · rw [if_neg last]
      exact .merged env iasResult imageData camera named there (by omega)
  · have notServed : iasResult.cameraId = cfg.id →
        iasResult.imageId ∉ s.m_imageResultRecord := by
      intro camera there
      exact served ⟨camera, there⟩
    rw [onImageIasResult_dropped env notServed]
    refine .ignored _ ?_ ?_
    · rintro _ ⟨⟩
    · rintro _ _ ⟨⟩
      exact notServed

theorem onTimeout_move (slots : Slots cfg s h) (env : Surroundings) (nowTime : UInt64)
    (order : List UInt64) :
    Move cfg qt s h (.onTimeout env nowTime order)
      (step cfg qt s (.onTimeout env nowTime order)) := by
  show Move cfg qt s h (.onTimeout env nowTime order) (s.onTimeout cfg env nowTime order)
  unfold onTimeout
  cases found : (order.filterMap s.m_imageResultRecord.lookup).find? (isDue cfg nowTime) with
  | none =>
      refine .ignored _ ?_ ?_
      · rintro _ ⟨⟩
      · rintro _ _ ⟨⟩
  | some imageRecord =>
      obtain ⟨i, -, held⟩ := List.mem_filterMap.mp (List.mem_of_find?_eq_some found)
      refine .timedOut env nowTime order imageRecord (List.find?_some found) ?_
      rw [slots.own held]
      exact held

theorem step_move (slots : Slots cfg s h) (e : Event) : Move cfg qt s h e (step cfg qt s e) := by
  cases e with
  | onImageData imageData => exact onImageData_move imageData
  | onImageIasResult env iasResult => exact onImageIasResult_move slots env iasResult
  | onTimeout env nowTime order => exact onTimeout_move slots env nowTime order

@[simp] theorem accepts_onImageIasResult (env : Surroundings) (iasResult : ImageIasResult)
    (r : CImageMultipler × List Output) :
    accepts (Machine.transitionTo s (.onImageIasResult env iasResult) r) = none := rfl

@[simp] theorem accepts_onTimeout (env : Surroundings) (nowTime : UInt64) (order : List UInt64)
    (r : CImageMultipler × List Output) :
    accepts (Machine.transitionTo s (.onTimeout env nowTime order) r) = none := rfl

theorem accepts_repeated {e : Event} (r : CImageMultipler × List Output)
    (notNew : ∀ imageData, e = .onImageData imageData →
      imageData.imageId ∈ s.m_imageResultRecord) : accepts (Machine.transitionTo s e r) = none := by
  cases e with
  | onImageData imageData => exact if_pos (notNew imageData rfl)
  | onImageIasResult => rfl
  | onTimeout => rfl

theorem merges_unserved {e : Event} (r : CImageMultipler × List Output) (i : UInt64)
    (notServed : ∀ env iasResult, e = .onImageIasResult env iasResult →
      iasResult.cameraId = cfg.id → iasResult.imageId ∉ s.m_imageResultRecord) :
    merges cfg i (Machine.transitionTo s e r) = none := by
  cases e with
  | onImageData => rfl
  | onImageIasResult env iasResult =>
      apply if_neg
      rintro ⟨camera, rfl, there⟩
      exact notServed env iasResult rfl camera there
  | onTimeout => rfl

/-- A result is merged into no image but its own. -/
theorem merges_other {env : Surroundings} {iasResult : ImageIasResult} {i : UInt64}
    (r : CImageMultipler × List Output) (other : i ≠ iasResult.imageId) :
    merges cfg i (Machine.transitionTo s (.onImageIasResult env iasResult) r) = none := by
  apply if_neg
  rintro ⟨-, rfl, -⟩
  exact other rfl

/-- A picture is accepted under no image but its own. -/
theorem accepts_other {imageData : ImageData} {i : UInt64} (r : CImageMultipler × List Output)
    (new : imageData.imageId ∉ s.m_imageResultRecord) (other : i ≠ imageData.imageId) :
    accepts (Machine.transitionTo s (.onImageData imageData) r) ≠ some i := by
  have accepted : accepts (Machine.transitionTo s (.onImageData imageData) r) =
      some imageData.imageId := if_neg new
  rw [accepted]
  intro same
  exact other (Option.some.inj same).symm

theorem gather_recorded {imageData : ImageData} (results : List ImageIasResult)
    (r : CImageMultipler × List Output) (new : imageData.imageId ∉ s.m_imageResultRecord) :
    gather cfg imageData.imageId results (Machine.transitionTo s (.onImageData imageData) r) = [] :=
  if_pos (if_neg new)

theorem gather_merged (env : Surroundings) {iasResult : ImageIasResult}
    (results : List ImageIasResult) (r : CImageMultipler × List Output)
    (camera : iasResult.cameraId = cfg.id) (there : iasResult.imageId ∈ s.m_imageResultRecord) :
    gather cfg iasResult.imageId results
        (Machine.transitionTo s (.onImageIasResult env iasResult) r) =
      results ++ [iasResult] := by
  have merges' : merges cfg iasResult.imageId
      (Machine.transitionTo s (.onImageIasResult env iasResult) r) = some iasResult :=
    if_pos ⟨camera, rfl, there⟩
  show results ++ (merges cfg iasResult.imageId _).toList = results ++ [iasResult]
  rw [merges']
  rfl

/-- A step keeps every slot. -/
theorem slots_step (algorithms : 1 ≤ cfg.m_IasCount) (slots : Slots cfg s h) (e : Event) :
    let t := Machine.transition (step cfg qt) s e
    Slots cfg t.after (h ++ [t]) := by
  intro t i
  have move : Move cfg qt s h e (step cfg qt s e) := step_move slots e
  rw [gathered_snoc]
  show Slot cfg i ((step cfg qt s e).1.m_imageResultRecord.lookup i)
    ((step cfg qt s e).1.m_imageIasIdRecord.lookup i)
    (gather cfg i (gathered cfg i h) (Machine.transitionTo s e (step cfg qt s e)))
  generalize step cfg qt s e = r at move ⊢
  cases move with
  | ignored _ notNew notServed =>
      rw [gather_frame (by simp [accepts_repeated _ notNew]) (merges_unserved _ i notServed)]
      exact slots i
  | recorded imageData new =>
      by_cases this : i = imageData.imageId
      · subst this
        rw [AList.lookup_insert, gather_recorded _ _ new, slots.count_none new]
        exact .waiting imageData [] rfl (UInt32.le_iff_toNat_le.mp algorithms)
      · rw [AList.lookup_insert_ne this, gather_frame (accepts_other _ new this) rfl]
        exact slots i
  | merged env iasResult imageData camera named there awaited =>
      by_cases this : i = iasResult.imageId
      · subst this
        rw [AList.lookup_insert, AList.lookup_insert, gather_merged env _ _ camera there]
        generalize gathered cfg iasResult.imageId h = results at awaited ⊢
        have counted : countOf (results ++ [iasResult]) =
            some (UInt32.ofNat (results.length + 1)) := by
          simp [countOf]
        rw [← counted]
        refine .waiting imageData _ named ?_
        rw [List.length_append]
        exact awaited
      · rw [AList.lookup_insert_ne this, AList.lookup_insert_ne this,
          gather_frame (by simp) (merges_other _ this)]
        exact slots i
  | closed env iasResult imageData imageRecord camera named there last whole =>
      by_cases this : i = iasResult.imageId
      · subst this
        rw [AList.lookup_erase, AList.lookup_erase]
        exact .free _
      · rw [AList.lookup_erase_ne this, AList.lookup_erase_ne this,
          gather_frame (by simp) (merges_other _ this)]
        exact slots i
  | timedOut env nowTime order imageRecord due held =>
      rw [gather_frame (by simp) rfl]
      by_cases this : i = imageRecord.imageData.imageId
      · subst this
        rw [AList.lookup_erase, AList.lookup_erase]
        exact .free _
      · rw [AList.lookup_erase_ne this, AList.lookup_erase_ne this]
        exact slots i

end Step

/-! ## A run -/

section Run

variable (cfg : ImageMultiplerConfig) (qt : QtJson)

/-- The state after a run from the start, and its history. -/
abbrev after (events : List Event) : CImageMultipler := Machine.final (step cfg qt) start events

abbrev history (events : List Event) : History := Machine.trace (step cfg qt) start events

/-- **The tables hold what was gathered**, after every run. -/
theorem slots_run (algorithms : 1 ≤ cfg.m_IasCount) (events : List Event) :
    Slots cfg (after cfg qt events) (history cfg qt events) := by
  refine Machine.run_induction (step cfg qt) (P := fun h s => Slots cfg s h) ?start ?keep events
  case start =>
    intro i
    exact .free []
  case keep =>
    intro events e slots
    exact slots_step algorithms slots e

end Run

/-! ## A camera with two algorithms -/

/-- Camera 1, judged by two algorithms. -/
def twoAlgorithms : ImageMultiplerConfig := { id := 1, m_inferTimeout := 200, m_IasCount := 2 }

/-- A picture of camera 1, taken at time 0. -/
def picture (imageId : UInt64) : ImageData :=
  { objectId := 0, bReportOrignal := false, bReportBinning := false, cameraId := 1,
    imageId := imageId, imageData := { depth := 24, width := 1, height := 1, jpg := [] },
    genTimeStamp := 0 }

/-- Spot-check mode, no kick devices. -/
def quiet : Surroundings := { runTypeInfer := false, plc := false, pcp := false, kickEnable := false }

/-- A result for a picture of camera 1. -/
def verdict (imageId : UInt64) (result : Int) (jsonData : Bytes) : ImageIasResult :=
  { objectId := 0, cameraId := 1, imageId := imageId, iasType := IAS_AI, channelID := 0,
    result := result, jsonData := jsonData }

end IsgConsole.Multipler.CImageMultipler
