/-
# Multipler.ImageJson — the JSON of a reported image

`onImageIasResult` writes the first result as an array of one and splices every later one
in front of the closing bracket, with a bracket of its own.  The text of `k` results is
therefore `[ j1 , j2 ] , j3 ] … ]` (`foldl_merge_jsonData`): the array of the results if
there is one (`arrayText_iff_single`), and otherwise no JSON document at all
(`spliced_unreadable`).
-/
import IsgConsole.Multipler.ImageHistory
import IsgConsole.Theory.Json.Splice

namespace IsgConsole.Multipler.CImageMultipler

open IsgConsole.Theory IsgConsole.BaseLib IsgConsole.Inspector IsgConsole.IopAgent
open IsgConsole.Theory.Json

set_option autoImplicit false

/-! ## The spliced text -/

/-- What merging leaves of a first text and the later ones. -/
def spliced (text : Bytes) (texts : List Bytes) : Bytes :=
  [lbracket] ++ text ++ texts.flatMap (fun t => [comma] ++ t ++ [rbracket]) ++ [rbracket]

theorem mergeJson_spliced (text : Bytes) (texts : List Bytes) (json : Bytes) :
    mergeJson (spliced text texts) json = spliced text (texts ++ [json]) := by
  have some' : spliced text texts ≠ [] :=
    List.append_ne_nil_of_right_ne_nil _ (List.cons_ne_nil _ _)
  rw [mergeJson, if_neg some', spliced, spliced, insertBytes, List.length_append,
    List.length_singleton, Nat.add_sub_cancel, List.take_left, List.drop_left, List.flatMap_append,
    List.flatMap_singleton]
  simp only [List.append_assoc]

/-- The JSON of a record, in terms of the results merged into it. -/
theorem foldl_merge_jsonData (imageData : ImageData) (r : ImageIasResult)
    (results : List ImageIasResult) :
    ((r :: results).foldl merge (fresh imageData)).jsonData =
      spliced r.jsonData (results.map ImageIasResult.jsonData) := by
  induction results using List.reverseRecOn with
  | nil => simp [merge, fresh, mergeJson, spliced]
  | append_singleton results last ih =>
      rw [← List.cons_append, List.foldl_append, List.map_append]
      show mergeJson ((r :: results).foldl merge (fresh imageData)).jsonData last.jsonData = _
      rw [ih, mergeJson_spliced]
      rfl

/-- Behind the second text stands what no document can end with. -/
theorem spliced_unreadable {text second : Bytes} {texts : List Bytes} {v w : Json}
    (first : DenotesClosed text v) (next : DenotesClosed second w) (u : Json) :
    ¬ Denotes (spliced text (second :: texts)) u := by
  have split' : spliced text (second :: texts) =
      arrayText [text, second] ++
        (texts.flatMap (fun t => [comma] ++ t ++ [rbracket]) ++ [rbracket]) := by
    simp [spliced, arrayText]
  have document : DenotesClosed (arrayText [text, second]) (.array [v, w]) :=
    ⟨arrayText_denotes (.cons first (.cons next .nil)), rfl⟩
  rw [split']
  apply not_denotes_append document
  cases texts with
  | nil => exact List.cons_ne_nil _ _
  | cons t texts => exact List.cons_ne_nil _ _

/-! ## The report -/

/-- Of the JSON a record gathers: it is the array of its results where there is one result. -/
theorem foldl_merge_array_iff (imageData : ImageData) {results : List ImageIasResult}
    {vs : List JsonObject} (any : results ≠ [])
    (objects : List.Forall₂ (fun r ms => Denotes r.jsonData (.object ms)) results vs) :
    ((results.foldl merge (fresh imageData)).jsonData =
        arrayText (results.map ImageIasResult.jsonData) ∧
      Denotes (results.foldl merge (fresh imageData)).jsonData (.array (vs.map .object))) ↔
      results.length = 1 := by
  cases objects with
  | nil => exact absurd rfl any
  | @cons r ms results vs first others =>
      rw [foldl_merge_jsonData]
      cases others with
      | nil =>
          have denotes : Denotes (arrayText [r.jsonData]) (.array [.object ms]) :=
            arrayText_denotes (.cons ⟨first, rfl⟩ .nil)
          exact ⟨fun _ => rfl, fun _ => ⟨rfl, denotes⟩⟩
      | @cons second ms' results vs next others =>
          constructor
          · rintro ⟨-, denotes⟩
            exact absurd denotes (spliced_unreadable ⟨first, rfl⟩ ⟨next, rfl⟩ _)
          · intro single
            cases single

section Report

variable (cfg : ImageMultiplerConfig) (qt : QtJson)

/-- **The report of an image is the array of its results exactly when there is one
algorithm.**  After any run, the last result of a waiting image reports it; `vs` are the
objects its results denote. -/
theorem arrayText_iff_single (events : List Event) (env : Surroundings)
    (iasResult : ImageIasResult) (camera : iasResult.cameraId = cfg.id)
    (recorded : iasResult.imageId ∈ (after cfg qt events).m_imageResultRecord)
    (last : (gathered cfg iasResult.imageId (history cfg qt events)).length + 1 =
      cfg.m_IasCount.toNat)
    (vs : List JsonObject)
    (objects : List.Forall₂ (fun r ms => Denotes r.jsonData (.object ms))
      (gathered cfg iasResult.imageId (history cfg qt events) ++ [iasResult]) vs) :
    ∃ imageRecord : ImageResultRecord,
      reportsIn ((after cfg qt events).onImageIasResult cfg qt env iasResult).2 = [imageRecord] ∧
        imageRecord.imageData.imageId = iasResult.imageId ∧
        (imageRecord.jsonData = arrayText
            ((gathered cfg iasResult.imageId (history cfg qt events) ++ [iasResult]).map
              ImageIasResult.jsonData) ∧
          Denotes imageRecord.jsonData (.array (vs.map .object)) ↔ cfg.m_IasCount = 1) := by
  have algorithms : 1 ≤ cfg.m_IasCount := UInt32.le_iff_toNat_le.mpr (last ▸ Nat.succ_pos _)
  have move : Move cfg qt (after cfg qt events) (history cfg qt events) _
      (step cfg qt (after cfg qt events) (.onImageIasResult env iasResult)) :=
    onImageIasResult_move (slots_run cfg qt algorithms events) env iasResult
  have one : cfg.m_IasCount = 1 ↔ cfg.m_IasCount.toNat = 1 := by
    rw [← UInt32.toNat_inj]
    rfl
  show ∃ imageRecord, reportsIn (step cfg qt (after cfg qt events) (.onImageIasResult env
    iasResult)).2 = [imageRecord] ∧ _
  generalize step cfg qt (after cfg qt events) (.onImageIasResult env iasResult) = r at move ⊢
  cases move with
  | ignored _ notNew notServed => exact absurd recorded (notServed env iasResult rfl camera)
  | merged _ _ imageData _ named there awaited => omega
  | closed _ _ imageData imageRecord _ named there _ whole =>
      have own : imageRecord.imageData.imageId = iasResult.imageId := by
        rw [whole, foldl_merge_imageData]
        exact named
      have total : (gathered cfg iasResult.imageId (history cfg qt events) ++ [iasResult]).length =
          cfg.m_IasCount.toNat := by
        rw [List.length_append]
        exact last
      refine ⟨imageRecord, reportsIn_closed qt env iasResult imageRecord, own, ?_⟩
      rw [one, ← total, whole]
      refine foldl_merge_array_iff _ ?_ objects
      exact List.append_ne_nil_of_right_ne_nil _ (List.cons_ne_nil _ _)

end Report

/-- The text of the empty object. -/
def emptyObject : Bytes := [lbrace, rbrace]

theorem emptyObject_denotes : Denotes emptyObject (.object []) :=
  ⟨[], .emptyObject (skipWs_cons (by decide) _) (skipWs_cons (by decide) _), rfl⟩

/-- The first of two results for picture 7 is in. -/
def oneOfTwo : List Event :=
  [.onImageData (picture 7), .onImageIasResult quiet (verdict 7 RESULT_OK emptyObject)]

theorem arrayText_iff_single_oneOfTwo :
    ∃ imageRecord : ImageResultRecord,
      reportsIn ((after twoAlgorithms QtJson.reference oneOfTwo).onImageIasResult twoAlgorithms
        QtJson.reference quiet (verdict 7 RESULT_OK emptyObject)).2 = [imageRecord] ∧
        ¬ (imageRecord.jsonData = arrayText [emptyObject, emptyObject] ∧
          Denotes imageRecord.jsonData (.array [.object [], .object []])) := by
  obtain ⟨imageRecord, reported, -, single⟩ :=
    arrayText_iff_single twoAlgorithms QtJson.reference oneOfTwo quiet
      (verdict 7 RESULT_OK emptyObject) rfl (by decide) (by decide) [[], []]
      (.cons emptyObject_denotes (.cons emptyObject_denotes .nil))
  refine ⟨imageRecord, reported, ?_⟩
  intro whole
  exact absurd (single.mp whole) (by decide)

/-- Two empty objects are reported with a bracket too many. -/
theorem two_results_spliced :
    let text := [lbracket] ++ emptyObject ++ [comma] ++ emptyObject ++ [rbracket, rbracket]
    (reportsIn ((after twoAlgorithms QtJson.reference oneOfTwo).onImageIasResult twoAlgorithms
        QtJson.reference quiet (verdict 7 RESULT_OK emptyObject)).2).map
          ImageResultRecord.jsonData = [text] ∧
      text ≠ arrayText [emptyObject, emptyObject] ∧ parse text = none := by
  decide

end IsgConsole.Multipler.CImageMultipler
