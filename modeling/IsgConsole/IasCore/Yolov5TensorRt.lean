/-
# IasCore.Yolov5TensorRt — the detector from picture to picture

The detector keeps one output buffer, and the device another.  Before each inference it clears two
numbers of its own, a pointer's size.  Where a copy fails the rest is what an earlier picture left,
and the device is asked to run without looking whether it does: where it refuses, what is copied is
what it made of an earlier picture.

* `run_shown` — **what each answer shows**, whatever fails, with one picture at a time;
* `run_fresh` — **no answer shows anything of an earlier picture** unless the device refuses to run;
* `findings_best` — **the box that is classified is the most confident one** of the lowest class.
-/
import IsgConsole.IasCore.Letterbox
import IsgConsole.Theory.Simulation

namespace IsgConsole.IasCore

open IsgConsole.Theory IsgConsole.Theory.Rounding IsgConsole.Inspector IsgConsole.Theory.Json
open IsgConsole.IasCore.Yolo

set_option autoImplicit false

/-- `Yolov5TensorRt`, with its output buffer and that of the device, `m_buffers[1]`. -/
structure Yolov5TensorRt where
  m_batch_size : Nat
  m_bInitOk : Bool
  m_cudaOutputData : Output
  m_buffers : Output

namespace Yolov5TensorRt

/-- `OutputSize`, in numbers. -/
def OutputSize : Nat := MAX_OUTPUT_BBOX_COUNT * det_size + 1

/-- What comes of the three calls of the device: the pictures do not get there; it refuses to run, or
runs; and then what it holds is copied back or not. -/
inductive Device where
  | unreached
  | refused (copied : Bool)
  | ran (values : Output) (copied : Bool)

/-- A call of `infer`. -/
structure Call where
  images : List Mat
  device : Device

/-- What `infer` returns. -/
abbrev Answer := Bool × List (List YoloResult)

/-- A `float` in decimal digits; its denominator is a power of two. -/
def decimal (q : ℚ) : Decimal := .ofExponent (q.num * 5 ^ q.den.log2) (-(q.den.log2 : Int))

/-- What is returned for a box. -/
def result (image : Mat) (det : Detection) : YoloResult :=
  { classId := truncate det.class_id, conf := decimal det.conf
    box := get_rect image.cols image.rows det.bbox }

/-- `memset(m_cudaOutputData, 0, sizeof(m_cudaOutputData))`: eight bytes. -/
def cleared (m_cudaOutputData : Output) : Output := fun k => if k < 2 then 0 else m_cudaOutputData k

/-- A `cudaMemcpyAsync` that succeeds. -/
def copy (size : Nat) (source target : Output) : Output := fun k => if k < size then source k else target k

/-- `TensorRt::doInference`: the buffer of the device, and the output. -/
def doInference (size : Nat) (m_buffers output_data : Output) : Device → Output × Output
  | .unreached => (m_buffers, output_data)
  -- what `enqueue` returns is not looked at
  | .refused copied => (m_buffers, if copied then copy size m_buffers output_data else output_data)
  | .ran values copied =>
      let m_buffers := copy size values m_buffers
      (m_buffers, if copied then copy size m_buffers output_data else output_data)

/-- What gets back of what the device held before, or has made. -/
def Device.shown (held : Output) : Device → Option Output
  | .unreached | .refused false | .ran _ false => none
  | .refused true => some held
  | .ran values true => some values

/-- What the device holds then. -/
def Device.holds (held : Output) : Device → Output
  | .ran values _ => values
  | _ => held

section Infer

variable (std : Sorting)

/-- The boxes of one picture. -/
def results (image : Mat) (output : Output) : List YoloResult :=
  (nms (overlapsBy (single (2 / 5))) std [] output (1 / 2)).map (result image)

/-- `Yolov5TensorRt::infer`. -/
def infer (self : Yolov5TensorRt) (call : Call) : Yolov5TensorRt × List Answer :=
  if self.m_batch_size < call.images.length ∨ ¬ self.m_bInitOk then (self, [(false, [])])
  else
    let (m_buffers, data) := doInference (self.m_batch_size * OutputSize) self.m_buffers
      (cleared self.m_cudaOutputData) call.device
    ({ self with m_cudaOutputData := data, m_buffers := m_buffers },
      [(true, call.images.mapIdx fun i image =>
        results std image fun k => data (i * OutputSize + k))])

/-- An answer by what is shown for the pictures; where nothing is, there are no boxes. -/
def answer (m_batch_size : Nat) (images : List Mat) (shown : Option Output) : Answer :=
  if m_batch_size < images.length then (false, [])
  else
    (true, images.mapIdx fun i image =>
      results std image fun k => (shown.getD fun _ => 0) (i * OutputSize + k))

/-- What the device holds behind a call. -/
def Call.holds (m_batch_size : Nat) (held : Output) (call : Call) : Output :=
  if m_batch_size < call.images.length then held else call.device.holds held

/-- The answers to calls, by what the device holds before them. -/
def answers (m_batch_size : Nat) : Output → List Call → List Answer
  | _, [] => []
  | held, call :: calls =>
      answer std m_batch_size call.images (call.device.shown held) ::
        answers m_batch_size (call.holds m_batch_size held) calls

/-! ## One call -/

/-- The loop over the candidates stays inside the output of one picture. -/
theorem candidates_congr {output output' : Output} (conf_thresh : ℚ)
    (same : ∀ k < OutputSize, output k = output' k) :
    candidates output conf_thresh = candidates output' conf_thresh := by
  have first : output 0 = output' 0 := same 0 (by decide)
  have each : ∀ i ∈ (List.range MAX_OUTPUT_BBOX_COUNT).takeWhile fun i : Nat => (i : ℚ) < output' 0,
      detection output i = detection output' i := by
    intro i there
    have inside := List.mem_range.mp ((List.takeWhile_sublist _).subset there)
    have held : ∀ j ≤ 5, output (1 + det_size * i + j) = output' (1 + det_size * i + j) := by
      intro j small
      refine same _ ?_
      simp only [OutputSize, MAX_OUTPUT_BBOX_COUNT, det_size] at inside ⊢
      omega
    have start : output (1 + det_size * i) = output' (1 + det_size * i) := held 0 (by decide)
    unfold detection
    simp only [start, held 1 (by decide), held 2 (by decide), held 3 (by decide),
      held 4 (by decide), held 5 (by decide)]
  unfold candidates
  rw [first, List.map_congr_left each]

theorem results_congr {output output' : Output} (image : Mat)
    (same : ∀ k < OutputSize, output k = output' k) :
    results std image output = results std image output' := by
  unfold results
  rw [nms_eq, nms_eq, candidates_congr _ same]

/-- A buffer that says there are no boxes. -/
theorem results_none {output : Output} (image : Mat) (zero : output 0 = 0) :
    results std image output = [] := by
  have none : (List.range MAX_OUTPUT_BBOX_COUNT).takeWhile (fun i : Nat => (i : ℚ) < output 0) =
      [] := by
    rw [List.eq_nil_iff_forall_not_mem]
    intro i there
    have negative := List.mem_takeWhile_imp there
    rw [zero, decide_eq_true_eq] at negative
    exact absurd negative (not_lt.mpr i.cast_nonneg)
  unfold results
  rw [nms_eq, candidates, none]
  rfl

/-- What the buffers say behind a call. -/
theorem doInference_spec {size : Nat} {m_buffers held : Output}
    (same : ∀ k < size, m_buffers k = held k) (output_data : Output) (device : Device) :
    (∀ k < size, (doInference size m_buffers output_data device).1 k = device.holds held k) ∧
      match device.shown held with
      | some values => ∀ k < size, (doInference size m_buffers output_data device).2 k = values k
      | none => (doInference size m_buffers output_data device).2 = output_data := by
  cases device with
  | unreached => exact ⟨same, rfl⟩
  | refused copied =>
      refine ⟨same, ?_⟩
      cases copied with
      | false => rfl
      | true =>
          intro k inside
          exact (if_pos inside).trans (same k inside)
  | ran values copied =>
      have made : ∀ k < size, copy size values m_buffers k = values k := fun k inside => if_pos inside
      refine ⟨made, ?_⟩
      cases copied with
      | false => rfl
      | true =>
          intro k inside
          exact (if_pos inside).trans (made k inside)

/-- What the output says of one of the pictures. -/
theorem results_buffer {m_batch_size i : Nat} (inside : i < m_batch_size) {m_buffers held : Output}
    (same : ∀ k < m_batch_size * OutputSize, m_buffers k = held k) {device : Device}
    (fresh : (device.shown held).isSome ∨ m_batch_size = 1) (m_cudaOutputData : Output)
    (image : Mat) :
    (results std image fun k => (doInference (m_batch_size * OutputSize) m_buffers
        (cleared m_cudaOutputData) device).2 (i * OutputSize + k)) =
      results std image fun k => ((device.shown held).getD fun _ => 0) (i * OutputSize + k) := by
  have spec := (doInference_spec same (cleared m_cudaOutputData) device).2
  cases shown : device.shown held with
  | some values =>
      rw [shown] at spec
      refine results_congr std image fun k small => spec _ ?_
      have end_ : (i + 1) * OutputSize ≤ m_batch_size * OutputSize := Nat.mul_le_mul_right _ inside
      rw [Nat.add_mul, Nat.one_mul] at end_
      omega
  | none =>
      -- a copy has failed: with one picture, the number of boxes is among what was cleared
      rw [shown] at spec fresh
      have single : m_batch_size = 1 := fresh.resolve_left nofun
      have first : i = 0 := by omega
      subst first
      refine (results_none std image ?_).trans (results_none std image rfl).symm
      exact congrFun spec (0 * OutputSize + 0)

/-- **One call leaves the detector ready, and its answer is by what is shown for it.** -/
theorem infer_answer {self : Yolov5TensorRt} (ready : self.m_bInitOk = true) {held : Output}
    (same : ∀ k < self.m_batch_size * OutputSize, self.m_buffers k = held k) {call : Call}
    (fresh : (call.device.shown held).isSome ∨ self.m_batch_size = 1) :
    (infer std self call).2 = [answer std self.m_batch_size call.images (call.device.shown held)] ∧
      (infer std self call).1.m_batch_size = self.m_batch_size ∧
      (infer std self call).1.m_bInitOk = true ∧
      ∀ k < self.m_batch_size * OutputSize,
        (infer std self call).1.m_buffers k = call.holds self.m_batch_size held k := by
  unfold infer answer Call.holds
  by_cases many : self.m_batch_size < call.images.length
  · rw [if_pos (.inl many), if_pos many, if_pos many]
    exact ⟨rfl, rfl, ready, same⟩
  rw [if_neg (by simp [many, ready]), if_neg many, if_neg many]
  refine ⟨congrArg (fun found => [(true, found)]) (List.mapIdx_eq_iff.mpr fun i => ?_), rfl, ready,
    (doInference_spec same _ call.device).1⟩
  rw [List.getElem?_mapIdx]
  cases found : call.images[i]? with
  | none => simp only [Option.map_none]
  | some image =>
      have inside : i < call.images.length := (List.getElem?_eq_some_iff.mp found).1
      rw [Option.map_some, Option.map_some,
        results_buffer std (inside.trans_le (not_lt.mp many)) same fresh]

/-! ## Runs -/

/-- What the device holds is copied back. -/
def Device.copies : Device → Bool
  | .refused copied | .ran _ copied => copied
  | .unreached => false

theorem Device.shown_isSome (held : Output) (device : Device) :
    (device.shown held).isSome = device.copies := by
  rcases device with _ | copied | ⟨values, copied⟩
  · rfl
  · cases copied <;> rfl
  · cases copied <;> rfl

/-- The answers of a run, where the buffer of the device is what it holds as far as it is copied. -/
theorem outputs_answers {self : Yolov5TensorRt} (ready : self.m_bInitOk = true) {calls : List Call}
    (fresh : ∀ call ∈ calls, call.device.copies = true ∨ self.m_batch_size = 1) {held : Output}
    (same : ∀ k < self.m_batch_size * OutputSize, self.m_buffers k = held k) :
    Machine.outputs (infer std) self calls = answers std self.m_batch_size held calls := by
  induction calls generalizing self held with
  | nil => rfl
  | cons call calls ih =>
      have now : (call.device.shown held).isSome ∨ self.m_batch_size = 1 := by
        rw [Device.shown_isSome]
        exact fresh call List.mem_cons_self
      obtain ⟨answered, size, still, holds⟩ := infer_answer std ready same now
      have later : ∀ other ∈ calls, other.device.copies = true ∨
          (infer std self call).1.m_batch_size = 1 := by
        rw [size]
        exact fun other there => fresh other (List.mem_cons_of_mem call there)
      rw [← size] at holds
      rw [Machine.outputs_cons, answered, answers, List.singleton_append, ih still later holds, size]

/-- **What each answer shows.** -/
theorem run_shown {self : Yolov5TensorRt} (ready : self.m_bInitOk = true) {calls : List Call}
    (fresh : ∀ call ∈ calls, call.device.copies = true ∨ self.m_batch_size = 1) :
    Machine.outputs (infer std) self calls =
      answers std self.m_batch_size self.m_buffers calls :=
  outputs_answers std ready fresh fun _ _ => rfl

/-- Where no call is refused, each answer is that to the call alone. -/
theorem answers_of_fresh (m_batch_size : Nat) (held : Output) {calls : List Call}
    (runs : ∀ call ∈ calls, call.device ≠ .refused true) :
    answers std m_batch_size held calls = calls.map fun call =>
      answer std m_batch_size call.images (call.device.shown fun _ => 0) := by
  induction calls generalizing held with
  | nil => rfl
  | cons call calls ih =>
      have same : call.device.shown held = call.device.shown fun _ => 0 := by
        have other := runs call List.mem_cons_self
        generalize call.device = device at other
        rcases device with _ | copied | ⟨values, copied⟩
        · rfl
        · cases copied with
          | false => rfl
          | true => exact absurd rfl other
        · cases copied <;> rfl
      rw [answers, List.map_cons, same,
        ih _ fun later there => runs later (List.mem_cons_of_mem call there)]

/-- **No answer shows anything of an earlier picture**, unless the device refuses to run. -/
theorem run_fresh {self : Yolov5TensorRt} (ready : self.m_bInitOk = true) {calls : List Call}
    (fresh : ∀ call ∈ calls, call.device.copies = true ∨ self.m_batch_size = 1)
    (runs : ∀ call ∈ calls, call.device ≠ .refused true) :
    Machine.outputs (infer std) self calls = calls.map fun call =>
      answer std self.m_batch_size call.images (call.device.shown fun _ => 0) :=
  (outputs_answers std ready fresh fun _ _ => rfl).trans
    (answers_of_fresh std self.m_batch_size self.m_buffers runs)

end Infer

/-- A detector that has seen a box before. -/
def started : Yolov5TensorRt :=
  { m_batch_size := 1, m_bInitOk := true, m_cudaOutputData := outputOf [faint],
    m_buffers := outputOf [faint] }

/-- A picture of the size of the square. -/
def square : Mat := { cols := 640, rows := 640, pixel := fun _ _ => 0 }

/-- A box is found; for the second picture the device refuses to run, and what it makes of the third
does not get back. -/
def failing : List Call :=
  [{ images := [square], device := .ran (outputOf [strong]) true },
    { images := [square], device := .refused true },
    { images := [square], device := .ran (outputOf [faint]) false }]

theorem strong_results : results mergeSorting square (outputOf [strong]) = [result square strong] := by
  have taken : candidates (outputOf [strong]) (1 / 2) = [strong] := by decide +kernel
  have kept : nms (overlapsBy (single (2 / 5))) mergeSorting [] (outputOf [strong]) (1 / 2) =
      [strong] := by
    rw [nms_eq, taken]
    simp [Grouping.group, Grouping.push, ofClass, mergeSorting, Greedy.select,
      Greedy.greedy]
  rw [results, kept]
  rfl

theorem strong_answer (device : Device) (held : Output)
    (shown : device.shown held = some (outputOf [strong])) :
    answer mergeSorting 1 [square] (device.shown held) = (true, [[result square strong]]) := by
  rw [shown]
  show (true, [results mergeSorting square fun k => outputOf [strong] (0 * OutputSize + k)]) = _
  simp only [Nat.zero_mul, Nat.zero_add]
  exact congrArg (fun found => (true, [found])) strong_results

/-- The second answer shows the box of the first picture. -/
theorem failing_shown : Machine.outputs (infer mergeSorting) started failing =
    [(true, [[result square strong]]), (true, [[result square strong]]), (true, [[]])] := by
  have copied : ∀ call ∈ failing, call.device.copies = true ∨ started.m_batch_size = 1 :=
    fun _ _ => .inr rfl
  rw [run_shown mergeSorting rfl copied]
  refine congrArg₂ List.cons (strong_answer _ _ rfl) (congrArg₂ List.cons (strong_answer _ _ rfl) ?_)
  refine congrArg (fun found => [(true, [found])]) (results_none mergeSorting square rfl)

/-! ## The box that is classified -/

/-- The detector of an inference: what the network shows for pictures, one at a time. -/
def detector (std : Sorting) (network : List Mat → Option Output) : Yolov5 := fun images =>
  answer std 1 images (network images)

/-- A candidate in a picture than which there is no better one. -/
structure Best (output : Output) (det : Detection) : Prop where
  candidate : det ∈ candidates output (1 / 2)
  best : ∀ other ∈ candidates output (1 / 2),
    det.class_id < other.class_id ∨ det.class_id = other.class_id ∧ other.conf ≤ det.conf

/-- The first box that is returned is the best one. -/
theorem results_best {std : Sorting} {image : Mat} {output : Output} {target : YoloResult}
    {rest : List YoloResult} (found : results std image output = target :: rest) :
    ∃ det, Best output det ∧ target = result image det := by
  have kept := ofClasses_kept (overlapsBy (single (2 / 5))) std (candidates output (1 / 2))
  obtain ⟨det, more, taken, rfl, -⟩ := List.map_eq_cons_iff.mp found
  rw [nms_eq, List.nil_append] at taken
  rw [taken] at kept
  obtain ⟨ahead, -⟩ := List.pairwise_cons.mp kept.order
  refine ⟨det, ⟨kept.once.subset List.mem_cons_self, fun other there => ?_⟩, rfl⟩
  have behind : ∀ other ∈ det :: more,
      det.class_id < other.class_id ∨ det.class_id = other.class_id ∧ other.conf ≤ det.conf := by
    intro other here
    rcases List.mem_cons.mp here with rfl | later
    · exact .inr ⟨rfl, le_rfl⟩
    · exact ahead other later
  by_cases here : other ∈ det :: more
  · exact behind other here
  · -- a box that was dropped is worse than the one it overlaps
    obtain ⟨taken, there', same, less, -⟩ := kept.dropped other there here
    rcases behind taken there' with below | ⟨equal, confident⟩
    · exact .inl (same ▸ below)
    · exact .inr ⟨equal.trans same, less.trans confident⟩

theorem detector_best {std : Sorting} {network : List Mat → Option Output} {images : List Mat}
    {target : YoloResult} {rest : List YoloResult} {more : List (List YoloResult)}
    (found : detector std network images = (true, (target :: rest) :: more)) :
    ∃ image output det, images = [image] ∧ network images = some output ∧ Best output det ∧
      target = result image det := by
  unfold detector answer at found
  split at found
  next many => cases found
  next few =>
    obtain ⟨-, boxes⟩ := Prod.mk.inj found
    rcases images with _ | ⟨image, _ | ⟨other, others⟩⟩
    · rw [List.mapIdx_nil] at boxes
      cases boxes
    · rw [List.mapIdx_cons, List.mapIdx_nil] at boxes
      obtain ⟨here, -⟩ := List.cons.inj boxes
      simp only [Nat.zero_mul, Nat.zero_add] at here
      cases computed : network [image] with
      | none =>
          rw [computed, results_none std image rfl] at here
          cases here
      | some output =>
          rw [computed] at here
          obtain ⟨det, best, same⟩ := results_best here
          exact ⟨image, output, det, rfl, rfl, best, same⟩
    · simp at few

/-- **What is reported is the best box of the picture.** -/
theorem findings_best {self : YoloResnetInference} {std : Sorting}
    {network : List Mat → Option Output} (detects : self.yolo_model = detector std network)
    {ids : List Int} {images : List Mat} {found : YoloResnetInference.Findings}
    (ran : self.findings ids images = some found) :
    found = .nothing ∨ ∃ image output det transform labelJsonObj classId,
      images = [image] ∧ network images = some output ∧ Best output det ∧
        found = .defect transform labelJsonObj classId
          (get_rect image.cols image.rows det.bbox) := by
  rcases YoloResnetInference.findings_cases ran with nothing |
    ⟨target, rest, more, id, transform, labelJsonObj, classId, detected, -, -, defect⟩
  · exact .inl nothing
  · rw [detects] at detected
    obtain ⟨image, output, det, single, computed, best, rfl⟩ := detector_best detected
    exact .inr ⟨image, output, det, transform, labelJsonObj, classId, single, computed, best, defect⟩

/-! ## A picture -/

/-- An inference whose network finds a box, of a class that is defective. -/
def finding : YoloResnetInference :=
  { yolo_model := detector mergeSorting fun _ => some (outputOf [strong])
    resnet_model := fun _ => (true, [{ classId := 0 }])
    label_array := [.objectOf [(utf8 "isDefective", .bool true)]]
    m_transform_map := fun _ => some id }

theorem strong_detected : finding.yolo_model [square] = (true, [[result square strong]]) :=
  strong_answer (.ran (outputOf [strong]) true) (fun _ => 0) rfl

theorem strong_best :
    ∃ found, finding.findings [0] [square] = some found ∧ found.result = false ∧
      (found = .nothing ∨ ∃ image output det transform labelJsonObj classId,
        [square] = [image] ∧ some (outputOf [strong]) = some output ∧ Best output det ∧
          found = .defect transform labelJsonObj classId
            (get_rect image.cols image.rows det.bbox)) := by
  have box : (result square strong).box = { x := 80, y := 80, width := 40, height := 40 } := by
    decide +kernel
  have ran : finding.findings [0] [square] =
      some (.defect id ((labelJson finding.label_array 0)) 0 (result square strong).box) := by
    obtain ⟨crop, cropped⟩ : ∃ crop, square.crop (cropRect square (result square strong).box) =
        some crop := by
      rw [box]
      exact ⟨_, rfl⟩
    unfold YoloResnetInference.findings
    rw [strong_detected]
    dsimp only [List.head?_cons, Option.bind_eq_bind, Option.bind_some]
    rw [cropped]
    rfl
  exact ⟨_, ran, rfl, findings_best rfl ran⟩

end Yolov5TensorRt

end IsgConsole.IasCore
