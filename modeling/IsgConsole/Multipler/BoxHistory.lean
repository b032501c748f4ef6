/-
# Multipler.BoxHistory — the life of a box in `CBoxResult`

What a box is born with never changes (`Birth`).  A step first does something to the line
(`Move`): a box enters, the oldest is taken out, an attempt to take one out fails, a result is
booked, or the line stays as it is.  Then the picture the step is about, if any, is put into a box
(`Filed`).
-/
import IsgConsole.Multipler.BoxResult

namespace IsgConsole.Multipler.CBoxResult

open IsgConsole.Theory IsgConsole.Inspector

set_option autoImplicit false

/-! ## What a box is born with -/

structure Birth where
  objectId : UInt64
  bReportOrignal : Bool
  bReportBinning : Bool
  generateTime : UInt64
  deriving DecidableEq

def birth (box : BoxObject) : Birth :=
  { objectId := box.objectId, bReportOrignal := box.bReportOrignal,
    bReportBinning := box.bReportBinning, generateTime := box.generateTime }

/-- A box without its bar code and its results. -/
structure Mark where
  birth : Birth
  result : Bool
  pictures : Hash UInt64 UInt32
  deriving DecidableEq

def mark (box : BoxObject) : Mark :=
  { birth := birth box, result := box.result, pictures := box.imageCameraIdHash }

def Mark.addPicture (imageData : ImageData) (m : Mark) : Mark :=
  { m with pictures := m.pictures.insert imageData.imageId imageData.cameraId }

/-- The boxes of the line, the newest first. -/
def births (s : CBoxResult) : List Birth := s.m_box_queue.map birth

def marks (s : CBoxResult) : List Mark := s.m_box_queue.map mark

@[simp] theorem mark_addImage (box : BoxObject) (imageData : ImageData) :
    mark (addImage box imageData) = (mark box).addPicture imageData := rfl

@[simp] theorem length_births (s : CBoxResult) : (births s).length = s.m_box_queue.length :=
  List.length_map _

@[simp] theorem length_marks (s : CBoxResult) : (marks s).length = s.m_box_queue.length :=
  List.length_map _

theorem births_eq_marks (s : CBoxResult) : births s = (marks s).map Mark.birth := by
  rw [marks, List.map_map]
  rfl

/-- The box at a place. -/
def markAt (s : CBoxResult) : Place → Option Mark
  | .queue i => (marks s)[i]?
  | .poped => some (mark s.m_boxPoped)

/-! ## Attempts -/

/-- A picture of the appearance of a box. -/
def appearance (imageData : ImageData) : Bool := !atMachine1 imageData.cameraId

/-- The clock of the attempt to take a box out that a step makes. -/
def attempt (cfg : Config) (s : CBoxResult) : Event → Option Int64
  | .preInferAsync imageData currTime connected now =>
      if appearance imageData ∧ ¬ (cfg.m_useBarCoder ∧ connected) ∧
          3000 ≤ currTime - s.m_WaiguanFirstTime then some now
      else none
  | .onBarCode _ now => some now
  | .onImageResult _ _ _ => none

/-- The box an attempt takes out: the oldest, if it is ripe. -/
def taken (cfg : Config) (s : CBoxResult) (now : Int64) : Option BoxObject :=
  s.m_box_queue.getLast?.filter (isRipe cfg now)

/-- The box a step puts into the line. -/
def entering (s : CBoxResult) : Event → Option Birth
  | .preInferAsync imageData currTime _ _ =>
      if imageData.cameraId = 1 then some (birth (newBox s.toAbstractObject currTime).1) else none
  | _ => none

theorem taken_last {cfg : Config} {s : CBoxResult} {now : Int64} {box : BoxObject}
    (took : taken cfg s now = some box) : s.m_box_queue.getLast? = some box :=
  (Option.filter_eq_some_iff.mp took).1

theorem taken_ripe {cfg : Config} {s : CBoxResult} {now : Int64} {box : BoxObject}
    (took : taken cfg s now = some box) : isRipe cfg now box = true :=
  (Option.filter_eq_some_iff.mp took).2

/-- `dequeue`, by the box it takes out. -/
theorem dequeue_eq (cfg : Config) (s : CBoxResult) (barCode : Bytes) (now : Int64) :
    s.dequeue cfg barCode now =
      match taken cfg s now with
      | none => ({ s with m_boxFoundFromQueue := false }, [])
      | some box =>
          ({ s with
              m_boxFoundFromQueue := true
              m_boxPoped := { box with barCode := barCode }
              m_box_queue := s.m_box_queue.dropLast },
            sendBarCodeInfoToPolicyStore { box with barCode := barCode }) := by
  unfold dequeue taken
  cases last : s.m_box_queue.getLast? with
  | none => simp [last]
  | some box => by_cases ripe : isRipe cfg now box <;> simp [Option.filter, last, ripe]

/-! ## Results -/

def At (s : CBoxResult) : Place → BoxObject → Prop
  | .queue i, box => s.m_box_queue[i]? = some box
  | .poped, box => s.m_boxPoped = box

theorem markAt_of_at {s : CBoxResult} {place : Place} {box : BoxObject} (there : At s place box) :
    markAt s place = some (mark box) := by
  cases place with
  | queue i =>
      show (s.m_box_queue.map mark)[i]? = some (mark box)
      rw [List.getElem?_map, there]
      rfl
  | poped => exact congrArg (fun box => some (mark box)) there

theorem findBox_at {s : CBoxResult} {objectId : UInt64} {place : Place} {box : BoxObject}
    (found : s.findBox objectId = some (place, box)) : At s place box ∧ box.objectId = objectId := by
  unfold findBox at found
  split at found
  case h_1 box' i first =>
    obtain ⟨rfl, rfl⟩ := Prod.mk.inj (Option.some.inj found)
    have under := List.find?_some first
    have inside := List.mem_of_find?_eq_some first
    exact ⟨List.mem_zipIdx_iff_getElem?.mp inside, by simpa using under⟩
  case h_2 =>
    split at found
    case isTrue under =>
      obtain ⟨rfl, rfl⟩ := Prod.mk.inj (Option.some.inj found)
      exact ⟨rfl, under⟩
    case isFalse => cases found

/-- A box and the counter of faulty boxes, after a result of one of its pictures. -/
def judged (box : BoxObject) (r : ObjectImageResult) : BoxObject :=
  { box with
    imageResultHash := box.imageResultHash.insert r.imageId (UInt16.ofInt r.result)
    result := box.result && decide (r.result ≠ RESULT_NG) }

def ngCountAfter (s : CBoxResult) (box : BoxObject) (r : ObjectImageResult) : Int :=
  s.m_detectNgCount + if r.result = RESULT_NG ∧ box.result then 1 else 0

/-- What becomes of a result. -/
theorem onImageResult_cases (s : CBoxResult) (pcp kickEnable : Bool) (r : ObjectImageResult) :
    s.onImageResult pcp kickEnable r = (s, []) ∧
        (∀ place box, s.findBox r.objectId = some (place, box) →
          findCameraId box r.imageId = -1) ∨
      ∃ place box, s.findBox r.objectId = some (place, box) ∧ findCameraId box r.imageId ≠ -1 ∧
        s.onImageResult pcp kickEnable r =
          ({ s with m_detectNgCount := ngCountAfter s box r }.put (judged box r) place,
            if r.result = RESULT_NG then stopMachine pcp kickEnable (findCameraId box r.imageId)
            else []) := by
  unfold onImageResult
  cases found : s.findBox r.objectId with
  | none => exact .inl ⟨rfl, fun place box found' => by cases found'⟩
  | some entry =>
      obtain ⟨place, box⟩ := entry
      by_cases unknown : findCameraId box r.imageId = -1
      · refine .inl ⟨by simp [unknown], fun place' box' found' => ?_⟩
        obtain ⟨rfl, rfl⟩ := Prod.mk.inj (Option.some.inj found')
        exact unknown
      · refine .inr ⟨place, box, rfl, unknown, ?_⟩
        by_cases ng : r.result = RESULT_NG <;> cases faultless : box.result <;>
          simp [ngCountAfter, judged, unknown, ng, faultless]

/-! ## What a step does to the line -/

/-- The line is as it was. -/
structure SameLine (s s' : CBoxResult) : Prop where
  boxes : marks s' = marks s
  found : s'.m_boxFoundFromQueue = s.m_boxFoundFromQueue
  poped : mark s'.m_boxPoped = mark s.m_boxPoped
  ng : s'.m_detectNgCount = s.m_detectNgCount

/-- What a step does to the line, before its picture is put into a box. -/
inductive Move (cfg : Config) (s : CBoxResult) (e : Event) (s' : CBoxResult) : Prop where
  | entered (b : Birth) (new : entering s e = some b) (quiet : attempt cfg s e = none)
      (boxes : marks s' =
        if cfg.m_queueLen < s.m_box_queue.length + 1 then (⟨b, true, ∅⟩ :: marks s).dropLast
        else ⟨b, true, ∅⟩ :: marks s)
      (found : s'.m_boxFoundFromQueue = s.m_boxFoundFromQueue)
      (poped : mark s'.m_boxPoped = mark s.m_boxPoped)
      (ng : s'.m_detectNgCount = s.m_detectNgCount)
  | took (now : Int64) (box : BoxObject) (old : entering s e = none)
      (tried : attempt cfg s e = some now) (takes : taken cfg s now = some box)
      (boxes : marks s' = (marks s).dropLast) (found : s'.m_boxFoundFromQueue = true)
      (poped : mark s'.m_boxPoped = mark box) (ng : s'.m_detectNgCount = s.m_detectNgCount)
  | missed (now : Int64) (old : entering s e = none) (tried : attempt cfg s e = some now)
      (fails : taken cfg s now = none) (boxes : marks s' = marks s)
      (found : s'.m_boxFoundFromQueue = false) (poped : mark s'.m_boxPoped = mark s.m_boxPoped)
      (ng : s'.m_detectNgCount = s.m_detectNgCount)
  | booked (pcp kickEnable : Bool) (r : ObjectImageResult) (place : Place) (box : BoxObject)
      (here : e = .onImageResult pcp kickEnable r)
      (finds : s.findBox r.objectId = some (place, box))
      (boxes : ∀ other, markAt s' other =
        if other = place then some (mark (judged box r)) else markAt s other)
      (found : s'.m_boxFoundFromQueue = s.m_boxFoundFromQueue)
      (ng : s'.m_detectNgCount = ngCountAfter s box r)
  | still (old : entering s e = none) (quiet : attempt cfg s e = none) (same : SameLine s s')

section Step

variable {cfg : Config} {s s' s'' : CBoxResult}

theorem SameLine.refl (s : CBoxResult) : SameLine s s := ⟨rfl, rfl, rfl, rfl⟩

theorem marks_enqueue (s : CBoxResult) (currTime : Int64) :
    marks (s.enqueue cfg currTime) =
      let m : Mark := ⟨birth (newBox s.toAbstractObject currTime).1, true, ∅⟩
      if cfg.m_queueLen < s.m_box_queue.length + 1 then (m :: marks s).dropLast
      else m :: marks s := by
  simp only [enqueue, marks, List.length_cons]
  split
  · rw [List.map_dropLast, List.map_cons]
    rfl
  · rw [List.map_cons]
    rfl

theorem group_same (s : CBoxResult) (currTime : Int64) : SameLine s (s.group currTime) := by
  unfold group
  split <;> exact ⟨rfl, rfl, rfl, rfl⟩

theorem group_queue (s : CBoxResult) (currTime : Int64) :
    (s.group currTime).m_box_queue = s.m_box_queue := by
  unfold group
  split <;> rfl

theorem group_first (s : CBoxResult) (currTime : Int64) :
    (s.group currTime).m_isWaiguanFirst = decide (3000 ≤ currTime - s.m_WaiguanFirstTime) := by
  unfold group
  split <;> simp [*]

theorem dequeue_move {e : Event} {now : Int64} (same : SameLine s s')
    (queue : s'.m_box_queue = s.m_box_queue) (old : entering s e = none)
    (tried : attempt cfg s e = some now) (barCode : Bytes) :
    Move cfg s e (s'.dequeue cfg barCode now).1 := by
  have alike : taken cfg s' now = taken cfg s now := by rw [taken, queue, taken]
  rw [dequeue_eq, alike]
  cases takes : taken cfg s now with
  | none => exact .missed now old tried takes same.boxes rfl same.poped same.ng
  | some box =>
      refine .took now box old tried takes ?_ rfl rfl same.ng
      rw [← same.boxes]
      exact List.map_dropLast

theorem enqueue_move {imageData : ImageData} (shape : imageData.cameraId = 1) (currTime : Int64)
    (connected : Bool) (now : Int64) :
    Move cfg s (.preInferAsync imageData currTime connected now) (s.enqueue cfg currTime) := by
  refine .entered _ (if_pos shape) ?_ (marks_enqueue s currTime) rfl rfl rfl
  simp [attempt, appearance, atMachine1, shape]

theorem appearance_move {imageData : ImageData} (outside : appearance imageData = true)
    (currTime : Int64) (connected : Bool) (now : Int64) :
    Move cfg s (.preInferAsync imageData currTime connected now)
      ((s.group currTime).dequeueFirst cfg connected now).1 := by
  have old : entering s (.preInferAsync imageData currTime connected now) = none := by
    refine if_neg fun shape => ?_
    simp [appearance, atMachine1, shape] at outside
  unfold dequeueFirst
  split
  case isTrue reader =>
    exact .still old (by simp [attempt, reader]) (group_same s currTime)
  case isFalse reader =>
    rw [group_first]
    by_cases first : 3000 ≤ currTime - s.m_WaiguanFirstTime
    · rw [if_pos (decide_eq_true first)]
      exact dequeue_move (group_same s currTime) (group_queue s currTime) old
        (if_pos ⟨outside, reader, first⟩) []
    · rw [if_neg (by simpa using first)]
      exact .still old (if_neg fun ⟨_, _, this⟩ => first this) (group_same s currTime)

theorem markAt_put {place : Place} {box : BoxObject} (there : At s place box) (box' : BoxObject)
    (other : Place) :
    markAt (s.put box' place) other = if other = place then some (mark box') else markAt s other := by
  cases place with
  | queue i =>
      obtain ⟨inside, -⟩ := List.getElem?_eq_some_iff.mp there
      cases other with
      | queue j =>
          show ((s.m_box_queue.set i box').map mark)[j]? = _
          rw [List.map_set, List.getElem?_set]
          by_cases same : i = j
          · subst same
            simp [inside]
          · have apart : j ≠ i := Ne.symm same
            simp [same, apart, markAt, marks]
      | poped => rfl
  | poped =>
      cases other with
      | queue j => rfl
      | poped => rfl

theorem onImageResult_move (pcp kickEnable : Bool) (r : ObjectImageResult) :
    Move cfg s (.onImageResult pcp kickEnable r) (s.onImageResult pcp kickEnable r).1 := by
  rcases onImageResult_cases s pcp kickEnable r with
    ⟨same, -⟩ | ⟨place, box, found, -, result⟩
  · rw [same]
    exact .still rfl rfl (.refl s)
  · rw [result]
    refine .booked pcp kickEnable r place box rfl found (fun other => ?_) ?_ ?_
    · have there : At { s with m_detectNgCount := ngCountAfter s box r } place box :=
        (findBox_at found).1
      exact markAt_put there (judged box r) other
    · cases place <;> rfl
    · cases place <;> rfl

/-! ## The picture of a step -/

/-- Where the picture of a step goes, by the line it leaves behind. -/
def target (s : CBoxResult) : Event → Option Place
  | .preInferAsync imageData _ _ _ =>
      if atMachine1 imageData.cameraId then
        if s.m_box_queue.isEmpty then none else some (.queue 0)
      else if s.m_boxFoundFromQueue then some .poped
      else none
  | _ => none

/-- The box with the picture of a step. -/
def filed (e : Event) (m : Mark) : Mark :=
  match e with
  | .preInferAsync imageData _ _ _ => m.addPicture imageData
  | _ => m

/-- The picture of a step is put into the box it goes to. -/
structure Filed (e : Event) (s s' : CBoxResult) : Prop where
  found : s'.m_boxFoundFromQueue = s.m_boxFoundFromQueue
  ng : s'.m_detectNgCount = s.m_detectNgCount
  places : ∀ place, markAt s' place =
    if target s' e = some place then (markAt s place).map (filed e) else markAt s place

theorem Filed.none {e : Event} (s : CBoxResult) (nowhere : target s e = none) : Filed e s s :=
  ⟨rfl, rfl, fun place => by rw [nowhere]; rfl⟩

theorem toNewest_filed {imageData : ImageData} (stack : atMachine1 imageData.cameraId = true)
    (currTime : Int64) (connected : Bool) (now : Int64) :
    Filed (.preInferAsync imageData currTime connected now) s (s.toNewest imageData).1 := by
  cases queue : s.m_box_queue with
  | nil =>
      simp only [toNewest, queue]
      exact .none s (by simp [target, stack, queue])
  | cons box rest =>
      simp only [toNewest, queue]
      refine ⟨rfl, rfl, fun place => ?_⟩
      simp only [target, stack, if_true, List.isEmpty_cons, Option.some.injEq, Bool.false_eq_true,
        if_false]
      cases place with
      | queue i => cases i <;> simp [markAt, marks, queue, filed]
      | poped => rfl

theorem toPoped_filed {imageData : ImageData} (outside : appearance imageData = true)
    (currTime : Int64) (connected : Bool) (now : Int64) :
    Filed (.preInferAsync imageData currTime connected now) s (s.toPoped imageData).1 := by
  have front : atMachine1 imageData.cameraId = false := by simpa [appearance] using outside
  unfold toPoped
  by_cases found : s.m_boxFoundFromQueue = true
  · rw [if_pos found]
    refine ⟨rfl, rfl, fun place => ?_⟩
    simp only [target, front, found, Bool.false_eq_true, if_false, if_true, Option.some.injEq]
    cases place <;> rfl
  · rw [if_neg found]
    exact .none s (by simp [target, front, found])

/-- **What a step does.** -/
theorem step_move (cfg : Config) (s : CBoxResult) (e : Event) :
    ∃ mid, Move cfg s e mid ∧ Filed e mid (step cfg s e).1 := by
  cases e with
  | preInferAsync imageData currTime connected now =>
      simp only [step, preInferAsync]
      split
      case isTrue shape =>
        exact ⟨_, enqueue_move shape currTime connected now,
          toNewest_filed (by simp [atMachine1, shape]) currTime connected now⟩
      case isFalse shape =>
        split
        case isTrue stack =>
          have front : atMachine1 imageData.cameraId = true := by
            rcases stack with stack | stack <;> simp [atMachine1, stack]
          refine ⟨s, .still (if_neg shape) (if_neg ?_) (.refl s),
            toNewest_filed front currTime connected now⟩
          simp [appearance, front]
        case isFalse stack =>
          have outside : appearance imageData = true := by
            simpa [appearance, atMachine1, shape] using stack
          exact ⟨_, appearance_move outside currTime connected now,
            toPoped_filed outside currTime connected now⟩
  | onBarCode barCode now => exact ⟨_, dequeue_move (.refl s) rfl rfl rfl barCode, .none _ rfl⟩
  | onImageResult pcp kickEnable r => exact ⟨_, onImageResult_move pcp kickEnable r, .none _ rfl⟩

/-- What stays of every box through results and pictures. -/
theorem births_of_places (same : ∀ place,
    (markAt s' place).map Mark.birth = (markAt s place).map Mark.birth) :
    births s' = births s ∧ birth s'.m_boxPoped = birth s.m_boxPoped := by
  constructor
  · apply List.ext_getElem?
    intro i
    have here := same (.queue i)
    rw [births_eq_marks, births_eq_marks, List.getElem?_map, List.getElem?_map]
    exact here
  · exact Option.some.inj (same .poped)

theorem Filed.births {e : Event} (filed : Filed e s s') :
    CBoxResult.births s' = CBoxResult.births s ∧ birth s'.m_boxPoped = birth s.m_boxPoped := by
  refine births_of_places fun place => ?_
  rw [filed.places]
  split
  · rw [Option.map_map]
    cases e <;> rfl
  · rfl

theorem booked_births {r : ObjectImageResult} {place : Place} {box : BoxObject}
    (finds : s.findBox r.objectId = some (place, box))
    (boxes : ∀ other, markAt s' other =
      if other = place then some (mark (judged box r)) else markAt s other) :
    births s' = births s ∧ birth s'.m_boxPoped = birth s.m_boxPoped := by
  refine births_of_places fun other => ?_
  rw [boxes]
  split
  case isTrue same =>
    rw [same, markAt_of_at (findBox_at finds).1]
    rfl
  case isFalse => rfl

end Step

/-! ## Pictures and a memory -/

def picture (imageId : UInt64) (cameraId : UInt32) : ImageData :=
  { objectId := 0, bReportOrignal := false, bReportBinning := false, cameraId := cameraId,
    imageId := imageId, imageData := { depth := 24, width := 1, height := 1, jpg := [] },
    genTimeStamp := 0 }

/-- A memory that reads as a box that was found. -/
def leftover : Memory :=
  { m_boxFoundFromQueue := true, m_isWaiguanFirst := true, objectId := 7, bReportOrignal := true,
    bReportBinning := true, generateTime := 7, result := true }

end IsgConsole.Multipler.CBoxResult
