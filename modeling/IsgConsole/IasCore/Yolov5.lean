/-
# IasCore.Yolov5 — the boxes a detector finds

The network leaves its candidates in a buffer: how many there are, and six numbers for each.  `nms`
takes those that are confident enough, class by class and from the largest confidence down, and
drops of each class what overlaps a box it has taken.

The values of a `float` are in `ℚ`; there is no `NaN`.  The order `std::sort` leaves equal confidences
in is a parameter, and so is which boxes overlap too much, which `iou` says in single precision.

* `nms_kept` — **what is kept and what is dropped**;
* `nms_perm` — **the order of the candidates does not matter** where confidences tell them apart.
-/
import Mathlib.Data.List.Pairwise
import IsgConsole.IasCore.YoloResNetInference
import IsgConsole.Theory.Greedy
import IsgConsole.Theory.Grouping
import IsgConsole.Theory.Rounding

namespace IsgConsole.IasCore

open IsgConsole.Theory IsgConsole.Theory.Rounding IsgConsole.Inspector

set_option autoImplicit false

namespace Yolo

/-- `Yolo::MAX_OUTPUT_BBOX_COUNT`. -/
def MAX_OUTPUT_BBOX_COUNT : Nat := 1000

/-- `Yolo::INPUT_W` and `Yolo::INPUT_H`. -/
def INPUT_W : Int := 640
def INPUT_H : Int := 640

/-- `bbox`: the centre of a box, its width and its height. -/
structure Bbox where
  center_x : ℚ
  center_y : ℚ
  w : ℚ
  h : ℚ
  deriving DecidableEq

/-- `Yolo::Detection`. -/
structure Detection where
  bbox : Bbox
  conf : ℚ
  class_id : ℚ
  deriving DecidableEq

/-- `sizeof(Yolo::Detection) / sizeof(float)`. -/
def det_size : Nat := 6

/-- The output of the network for one picture. -/
abbrev Output := Nat → ℚ

/-- `memcpy(&det, &output[1 + det_size * i], …)`. -/
def detection (output : Output) (i : Nat) : Detection :=
  let k := 1 + det_size * i
  { bbox := { center_x := output k, center_y := output (k + 1), w := output (k + 2),
              h := output (k + 3) }
    conf := output (k + 4)
    class_id := output (k + 5) }

/-- The candidates that the first loop of `nms` takes. -/
def candidates (output : Output) (conf_thresh : ℚ) : List Detection :=
  (((List.range MAX_OUTPUT_BBOX_COUNT).takeWhile fun i : Nat => (i : ℚ) < output 0).map
    (detection output)).filter fun det => ¬ det.conf ≤ conf_thresh

/-- The edges of a box, `left` and `right` or `top` and `bottom`. -/
def low (center side : ℚ) : ℚ := single (center - single (side / 2))
def high (center side : ℚ) : ℚ := single (center + single (side / 2))

/-- The overlap of two boxes, in parts of what they cover together. -/
def iou (lbox rbox : Bbox) : ℚ :=
  let left := max (low lbox.center_x lbox.w) (low rbox.center_x rbox.w)
  let right := min (high lbox.center_x lbox.w) (high rbox.center_x rbox.w)
  let top := max (low lbox.center_y lbox.h) (low rbox.center_y rbox.h)
  let bottom := min (high lbox.center_y lbox.h) (high rbox.center_y rbox.h)
  if bottom < top ∨ right < left then 0
  else
    let interBoxS := single (single (right - left) * single (bottom - top))
    let both := single (single (lbox.w * lbox.h) + single (rbox.w * rbox.h))
    single (interBoxS / single (both - interBoxS))

/-- `iou(item.bbox, dets[n].bbox) > nms_thresh`. -/
def overlapsBy (nms_thresh : ℚ) (lbox rbox : Bbox) : Bool := nms_thresh < iou lbox rbox

/-! ## The loops of `nms` -/

section Loops

-- the boxes overlap too much
variable (much : Bbox → Bbox → Bool)

/-- The inner loop for a box that was taken, from position `n`. -/
def suppress (item : Detection) (dets : List Detection) (n : Nat) : List Detection :=
  if inside : n < dets.length then
    if much item.bbox dets[n].bbox then suppress item (dets.eraseIdx n) n
    else suppress item dets (n + 1)
  else dets
termination_by dets.length - n
decreasing_by
  · rw [List.length_eraseIdx_of_lt inside]
    omega
  · omega

theorem suppress_length (item : Detection) (dets : List Detection) (n : Nat) :
    (suppress much item dets n).length ≤ dets.length := by
  induction dets, n using suppress.induct much item with
  | case1 dets n inside overlap ih =>
      rw [suppress, dif_pos inside, if_pos overlap]
      refine ih.trans ?_
      rw [List.length_eraseIdx_of_lt inside]
      omega
  | case2 dets n inside apart ih =>
      rw [suppress, dif_pos inside, if_neg apart]
      exact ih
  | case3 dets n outside => rw [suppress, dif_neg outside]

/-- The outer loop, from position `m`. -/
def keep (dets : List Detection) (m : Nat) (res : List Detection) : List Detection :=
  if inside : m < dets.length then
    keep (suppress much dets[m] dets (m + 1)) (m + 1) (res ++ [dets[m]])
  else res
termination_by dets.length - m
decreasing_by
  have shorter := suppress_length much dets[m] dets (m + 1)
  omega

/-- `std::sort` with `cmp`: from the largest confidence down. -/
structure Sorting where
  sort : List Detection → List Detection
  perm : ∀ dets, (sort dets).Perm dets
  down : ∀ dets, (sort dets).Pairwise fun a b => b.conf ≤ a.conf

/-- `nms`; the map `m` holds the candidates by their classes. -/
def nms (std : Sorting) (res : List Detection) (output : Output) (conf_thresh : ℚ) : List Detection :=
  (Grouping.group Detection.class_id (candidates output conf_thresh)).foldl
    (fun res it => keep much (std.sort it.2) 0 res) res

/-- A box overlaps one in front of it too much. -/
def overlaps (a b : Detection) : Bool := much b.bbox a.bbox

/-- **The inner loop drops what overlaps.** -/
theorem suppress_eq (item : Detection) (front rest : List Detection) :
    suppress much item (front ++ rest) front.length =
      front ++ rest.filter fun det => !overlaps much det item := by
  induction rest generalizing front with
  | nil => rw [suppress, dif_neg (by simp), List.filter_nil]
  | cons det rest ih =>
      have inside : front.length < (front ++ det :: rest).length := by simp
      have this : (front ++ det :: rest)[front.length] = det := by simp
      rw [suppress, dif_pos inside, this]
      by_cases overlap : much item.bbox det.bbox = true
      · rw [if_pos overlap, List.eraseIdx_append_of_length_le le_rfl, Nat.sub_self,
          List.eraseIdx_cons_zero, ih front,
          List.filter_cons_of_neg (by simpa [overlaps] using overlap)]
      · have next := ih (front ++ [det])
        rw [List.append_assoc, List.length_append, List.length_singleton, List.singleton_append] at next
        rw [if_neg overlap, next, List.filter_cons_of_pos (by simpa [overlaps] using overlap),
          List.append_assoc, List.singleton_append]

/-- **The loops take what does not overlap a box in front of it that was taken.** -/
theorem keep_eq (front rest res : List Detection) :
    keep much (front ++ rest) front.length res =
      res ++ Greedy.select (overlaps much) rest := by
  induction size : rest.length using Nat.strongRecOn generalizing front rest res with
  | ind size ih =>
      cases rest with
      | nil =>
          rw [keep, dif_neg (by simp)]
          simp [Greedy.select]
      | cons item rest =>
          have inside : front.length < (front ++ item :: rest).length := by simp
          have this : (front ++ item :: rest)[front.length] = item := by simp
          have dropped := suppress_eq much item (front ++ [item]) rest
          rw [List.append_assoc, List.length_append, List.length_singleton, List.singleton_append] at dropped
          have fewer := List.length_filter_le (fun det => !overlaps much det item) rest
          have next := ih _ (by rw [← size, List.length_cons]; omega) (front ++ [item])
            (rest.filter fun det => !overlaps much det item) (res ++ [item]) rfl
          rw [List.length_append, List.length_singleton] at next
          rw [keep, dif_pos inside, this, dropped, next, Greedy.select_cons, List.append_assoc,
            List.singleton_append]

/-- What `nms` takes of one class. -/
def ofClass (std : Sorting) (dets : List Detection) : List Detection :=
  Greedy.select (overlaps much) (std.sort dets)

/-- **`nms` takes from the classes one after another.** -/
theorem nms_eq (std : Sorting) (res : List Detection) (output : Output) (conf_thresh : ℚ) :
    nms much std res output conf_thresh =
      res ++ (Grouping.group Detection.class_id (candidates output conf_thresh)).flatMap fun it =>
        ofClass much std it.2 := by
  unfold nms
  generalize Grouping.group Detection.class_id (candidates output conf_thresh) = m
  induction m generalizing res with
  | nil => simp
  | cons it m ih =>
      have this : keep much (std.sort it.2) 0 res = res ++ ofClass much std it.2 :=
        keep_eq much [] (std.sort it.2) res
      rw [List.foldl_cons, this, ih, List.flatMap_cons, List.append_assoc]

/-! ## What is kept -/

/-- What is kept of the candidates: each at most once, class by class and from the largest confidence
down; none that overlaps one of its class too much, and none missing that does not. -/
structure Kept (candidates res : List Detection) : Prop where
  once : res.Subperm candidates
  order : res.Pairwise fun a b =>
    a.class_id < b.class_id ∨ a.class_id = b.class_id ∧ b.conf ≤ a.conf
  apart : res.Pairwise fun a b => a.class_id = b.class_id → much a.bbox b.bbox = false
  dropped : ∀ det ∈ candidates, det ∉ res → ∃ kept ∈ res, kept.class_id = det.class_id ∧
    det.conf ≤ kept.conf ∧ much kept.bbox det.bbox = true

theorem flatMap_subperm {α β : Type} {f g : α → List β} {l : List α}
    (each : ∀ x ∈ l, (f x).Subperm (g x)) : (l.flatMap f).Subperm (l.flatMap g) := by
  induction l with
  | nil => exact List.Subperm.refl _
  | cons x l ih =>
      rw [List.flatMap_cons, List.flatMap_cons]
      exact (each x List.mem_cons_self).append
        (ih fun y there => each y (List.mem_cons_of_mem x there))

/-- What is taken of one class. -/
theorem ofClass_selection (std : Sorting) (dets : List Detection) :
    Greedy.Selection (overlaps much) (fun a b => b.conf ≤ a.conf) (std.sort dets)
      (ofClass much std dets) :=
  Greedy.select_selection _ (std.down dets)

theorem ofClass_subperm (std : Sorting) (dets : List Detection) :
    (ofClass much std dets).Subperm dets :=
  (ofClass_selection much std dets).sub.subperm.trans (std.perm dets).subperm

/-- What is taken class by class. -/
theorem ofClasses_kept (std : Sorting) (dets : List Detection) :
    Kept much dets ((Grouping.group Detection.class_id dets).flatMap fun it =>
      ofClass much std it.2) := by
  have grouped : Grouping.Grouped Detection.class_id dets _ := Grouping.group_grouped dets
  have perm : ((Grouping.group Detection.class_id dets).flatMap Prod.snd).Perm dets :=
    Grouping.group_perm dets
  revert grouped perm
  generalize Grouping.group Detection.class_id dets = m
  intro grouped perm
  -- of which class a box is that was taken
  have classed : ∀ it ∈ m, ∀ det ∈ ofClass much std it.2, det.class_id = it.1 := by
    intro it kept det there
    have here := (ofClass_subperm much std it.2).subset there
    rw [grouped.elements it kept] at here
    exact of_decide_eq_true (List.mem_filter.mp here).2
  refine ⟨?_, ?_, ?_, ?_⟩
  · exact (flatMap_subperm fun it _ => ofClass_subperm much std it.2).trans perm.subperm
  · refine List.pairwise_flatMap.mpr ⟨fun it kept => ?_, grouped.sorted.imp_of_mem ?_⟩
    · refine ((std.down it.2).sublist (ofClass_selection much std it.2).sub).imp_of_mem ?_
      intro a b here there less
      exact .inr ⟨(classed it kept a here).trans (classed it kept b there).symm, less⟩
    · intro p q first second below a here b there
      rw [classed p first a here, classed q second b there]
      exact .inl below
  · refine List.pairwise_flatMap.mpr ⟨fun it kept => ?_, grouped.sorted.imp_of_mem ?_⟩
    · refine (ofClass_selection much std it.2).apart.imp ?_
      intro a b apart _
      exact apart
    · intro p q first second below a here b there same
      rw [classed p first a here, classed q second b there] at same
      exact absurd same below.ne
  · intro det there absent
    obtain ⟨it, kept, keyed⟩ := grouped.held det there
    have own : det ∈ std.sort it.2 := by
      rw [(std.perm it.2).mem_iff, grouped.elements it kept]
      exact List.mem_filter.mpr ⟨there, decide_eq_true keyed.symm⟩
    obtain ⟨taken, here, less, overlap⟩ := (ofClass_selection much std it.2).omitted det own
      fun inside => absent (List.mem_flatMap.mpr ⟨it, kept, inside⟩)
    exact ⟨taken, List.mem_flatMap.mpr ⟨it, kept, here⟩, (classed it kept taken here).trans keyed,
      less, overlap⟩

/-- **What `nms` keeps and what it drops.** -/
theorem nms_kept (std : Sorting) (output : Output) (conf_thresh : ℚ) :
    Kept much (candidates output conf_thresh) (nms much std [] output conf_thresh) := by
  rw [nms_eq, List.nil_append]
  exact ofClasses_kept much std _

/-- No two candidates of a class have the same confidence. -/
def Distinct (candidates : List Detection) : Prop :=
  ∀ a ∈ candidates, ∀ b ∈ candidates, a.class_id = b.class_id → a.conf = b.conf → a = b

/-- **The order of the candidates does not matter**, nor does that of the sort, where confidences tell
them apart. -/
theorem nms_perm (std std' : Sorting) {output output' : Output} {conf_thresh : ℚ}
    (perm : (candidates output conf_thresh).Perm (candidates output' conf_thresh))
    (distinct : Distinct (candidates output conf_thresh)) :
    nms much std [] output conf_thresh = nms much std' [] output' conf_thresh := by
  rw [nms_eq, nms_eq, List.nil_append, List.nil_append]
  revert perm distinct
  generalize candidates output conf_thresh = dets
  generalize candidates output' conf_thresh = dets'
  intro perm distinct
  have grouped : Grouping.Grouped Detection.class_id dets _ := Grouping.group_grouped dets
  have grouped' : Grouping.Grouped Detection.class_id dets' _ := Grouping.group_grouped dets'
  rw [grouped.flatMap_eq, grouped'.flatMap_eq, grouped.keys_eq grouped' perm]
  refine List.flatMap_congr fun k _ => congrArg (Greedy.select _) ?_
  have sorted : (std.sort (dets.filter fun x => x.class_id = k)).Perm
      (std'.sort (dets'.filter fun x => x.class_id = k)) :=
    (std.perm _).trans ((perm.filter _).trans (std'.perm _).symm)
  refine sorted.eq_of_pairwise (fun a b here there above below => ?_) (std.down _) (std'.down _)
  have first := List.mem_filter.mp ((std.perm _).mem_iff.mp here)
  have second := List.mem_filter.mp ((std'.perm _).mem_iff.mp there)
  exact distinct a first.1 b (perm.mem_iff.mpr second.1)
    ((of_decide_eq_true first.2).trans (of_decide_eq_true second.2).symm) (below.antisymm above)

end Loops

def mergeSorting : Sorting where
  sort dets := dets.mergeSort fun a b => b.conf ≤ a.conf
  perm dets := List.mergeSort_perm dets _
  down dets := by
    have sorted : (dets.mergeSort fun a b => b.conf ≤ a.conf).Pairwise
        fun a b => decide (b.conf ≤ a.conf) = true :=
      List.pairwise_mergeSort
        (fun a b c ab bc => by simpa using le_trans (of_decide_eq_true bc) (of_decide_eq_true ab))
        (fun a b => by simpa using le_total b.conf a.conf) dets
    exact sorted.imp of_decide_eq_true

/-- The output of a network that finds these boxes. -/
def outputOf (dets : List Detection) : Output := fun k =>
  ((dets.length : ℚ) :: dets.flatMap fun det =>
    [det.bbox.center_x, det.bbox.center_y, det.bbox.w, det.bbox.h, det.conf, det.class_id]).getD k 0

/-- Two boxes one on top of the other. -/
def strong : Detection :=
  { bbox := { center_x := 100, center_y := 100, w := 40, h := 40 }, conf := 9 / 10, class_id := 0 }

def faint : Detection :=
  { bbox := { center_x := 104, center_y := 100, w := 40, h := 40 }, conf := 6 / 10, class_id := 0 }

theorem two_perm :
    nms (overlapsBy (single (2 / 5))) mergeSorting [] (outputOf [strong, faint]) (1 / 2) =
      nms (overlapsBy (single (2 / 5))) mergeSorting [] (outputOf [faint, strong]) (1 / 2) := by
  have first : candidates (outputOf [strong, faint]) (1 / 2) = [strong, faint] := by decide +kernel
  have second : candidates (outputOf [faint, strong]) (1 / 2) = [faint, strong] := by decide +kernel
  refine nms_perm (overlapsBy (single (2 / 5))) mergeSorting mergeSorting ?_ ?_
  · rw [first, second]
    exact List.Perm.swap _ _ _
  · rw [first]
    simp [Distinct, strong, faint]

end Yolo

end IsgConsole.IasCore
