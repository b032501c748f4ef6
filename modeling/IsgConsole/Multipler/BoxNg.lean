/-
# Multipler.BoxNg — faulty boxes and the machines they stop

Boxes are numbered as they come into the line.  The `Ledger` of a run knows how many there were,
which one was taken out last, which were counted as faulty, and which pictures each of them got;
`Kept` ties it to the state: the tables of a box hold its pictures, and a box that was counted is
marked as faulty.

* `counted_once` — **a box is counted once at most**;
* `stops_iff` — **when every faulty picture stops the machine it was taken at**;
* `appearance_stops_machine1` — one that stops the other.
-/
import IsgConsole.Multipler.BoxQueue

namespace IsgConsole.Multipler.CBoxResult

open IsgConsole.Theory IsgConsole.Inspector IsgConsole.IOCtrl

set_option autoImplicit false

/-! ## The ledger -/

/-- What a run tells of its boxes, by their numbers.  `none` is the `m_boxPoped` of a new object. -/
structure Ledger where
  entered : Nat
  poped : Option Nat
  counted : List (Option Nat)
  /-- Box, `imageId` and `cameraId`, the last picture first. -/
  pictures : List (Option Nat × UInt64 × UInt32)
  deriving DecidableEq

namespace Ledger

def start : Ledger := { entered := 0, poped := none, counted := [], pictures := [] }

/-- The number of the box at a place: those of the queue came last. -/
def number (ledger : Ledger) : Place → Option Nat
  | .queue i => some (ledger.entered - 1 - i)
  | .poped => ledger.poped

/-- The camera of the last picture a box got under an id. -/
def camera (ledger : Ledger) (box : Option Nat) (imageId : UInt64) : Option UInt32 :=
  (ledger.pictures.find? fun p => p.1 = box ∧ p.2.1 = imageId).map fun p => p.2.2

/-- The box for which a step has changed the counter. -/
def counting (ledger : Ledger) (t : Turn) : Option (Option Nat) :=
  match t.event with
  | .onImageResult _ _ r =>
      if t.after.m_detectNgCount = t.before.m_detectNgCount then none
      else (t.before.findBox r.objectId).map fun found => ledger.number found.1
  | _ => none

/-- Boxes that come and go, and the counter. -/
def moved (cfg : Config) (ledger : Ledger) (t : Turn) : Ledger :=
  { entered := ledger.entered + (entering t.before t.event).toList.length
    poped :=
      match tried cfg t with
      | some (some _) => some (ledger.entered - t.before.m_box_queue.length)
      | _ => ledger.poped
    counted := ledger.counted ++ (ledger.counting t).toList
    pictures := ledger.pictures }

/-- A picture goes to the newest box or to the one taken out last. -/
def pictured (ledger : Ledger) (t : Turn) : Ledger :=
  match t.event with
  | .preInferAsync imageData _ _ _ =>
      match target t.after t.event with
      | some place =>
          { ledger with
            pictures := (ledger.number place, imageData.imageId, imageData.cameraId) ::
              ledger.pictures }
      | none => ledger
  | _ => ledger

/-- The ledger of a run. -/
def ofRun (cfg : Config) (h : List Turn) : Ledger :=
  h.foldl (fun ledger t => (ledger.moved cfg t).pictured t) start

theorem ofRun_snoc (cfg : Config) (h : List Turn) (t : Turn) :
    ofRun cfg (h ++ [t]) = ((ofRun cfg h).moved cfg t).pictured t :=
  List.foldl_concat ..

end Ledger

/-- A box is as the ledger says of its number. -/
structure Fits (ledger : Ledger) (n : Option Nat) (m : Mark) : Prop where
  faulty : n ∈ ledger.counted → m.result = false
  pictures : ∀ imageId, m.pictures.lookup imageId = ledger.camera n imageId

theorem Fits.carry {ledger ledger' : Ledger} {n : Option Nat} {m : Mark} (fits : Fits ledger n m)
    (counted : ledger'.counted = ledger.counted) (pictures : ledger'.pictures = ledger.pictures) :
    Fits ledger' n m := by
  refine ⟨?_, fun imageId => ?_⟩
  · rw [counted]
    exact fits.faulty
  · rw [fits.pictures, Ledger.camera, Ledger.camera, pictures]

/-- The state is as the ledger says. -/
structure Kept (ledger : Ledger) (s : CBoxResult) : Prop where
  total : s.m_detectNgCount = ledger.counted.length
  once : ledger.counted.Nodup
  seated : s.m_box_queue.length ≤ ledger.entered
  older : ∀ n, ledger.poped = some n → n + s.m_box_queue.length < ledger.entered
  past : ∀ n, some n ∈ ledger.counted → n < ledger.entered
  early : ∀ p ∈ ledger.pictures, ∀ n, p.1 = some n → n < ledger.entered
  fits : ∀ place m, markAt s place = some m → Fits ledger (ledger.number place) m

section Steps

variable {cfg : Config} {ledger : Ledger} {s s' : CBoxResult}

/-- Boxes at different places have different numbers. -/
theorem Kept.apart (kept : Kept ledger s) {place other : Place} {m m' : Mark}
    (here : markAt s place = some m) (there : markAt s other = some m')
    (same : ledger.number place = ledger.number other) : place = other := by
  have inside : ∀ {i m}, markAt s (.queue i) = some m → i < s.m_box_queue.length := by
    intro i m held
    obtain ⟨bound, -⟩ := List.getElem?_eq_some_iff.mp held
    simpa using bound
  have seated := kept.seated
  cases place with
  | queue i =>
      have := inside here
      cases other with
      | queue j =>
          have := inside there
          have numbers := Option.some.inj same
          rw [Place.queue.injEq]
          omega
      | poped =>
          have := kept.older _ same.symm
          omega
  | poped =>
      cases other with
      | queue j =>
          have := inside there
          have := kept.older _ same
          omega
      | poped => rfl

/-- No picture went to a box that has not come yet. -/
theorem Kept.camera_new (kept : Kept ledger s) (imageId : UInt64) :
    ledger.camera (some ledger.entered) imageId = none := by
  rw [Ledger.camera, Option.map_eq_none_iff, List.find?_eq_none]
  intro p held same
  have := kept.early p held ledger.entered (by simpa using And.left (by simpa using same))
  omega

theorem places_of_marks (boxes : marks s' = marks s)
    (poped : mark s'.m_boxPoped = mark s.m_boxPoped) (place : Place) :
    markAt s' place = markAt s place := by
  cases place with
  | queue i => rw [markAt, boxes, markAt]
  | poped => rw [markAt, poped, markAt]

theorem Kept.same (kept : Kept ledger s) (places : ∀ place, markAt s' place = markAt s place)
    (ng : s'.m_detectNgCount = s.m_detectNgCount) : Kept ledger s' := by
  have length : s'.m_box_queue.length = s.m_box_queue.length := by
    have same : births s' = births s := (births_of_places fun place => by rw [places place]).1
    rw [← length_births, same, length_births]
  constructor
  case total => exact ng.trans kept.total
  case once => exact kept.once
  case seated =>
    rw [length]
    exact kept.seated
  case older =>
    rw [length]
    exact kept.older
  case past => exact kept.past
  case early => exact kept.early
  case fits => simpa only [places] using kept.fits

/-- A box comes into the line, and the oldest may leave it. -/
theorem Kept.enter (kept : Kept ledger s) {b : Birth} (boxes : marks s' <+: ⟨b, true, ∅⟩ :: marks s)
    (poped : mark s'.m_boxPoped = mark s.m_boxPoped) (ng : s'.m_detectNgCount = s.m_detectNgCount) :
    Kept { ledger with entered := ledger.entered + 1 } s' := by
  have length : s'.m_box_queue.length ≤ s.m_box_queue.length + 1 := by
    simpa using boxes.length_le
  have seated := kept.seated
  constructor
  case total => exact ng.trans kept.total
  case once => exact kept.once
  case seated => exact length.trans (Nat.succ_le_succ seated)
  case older =>
    intro n out
    have := kept.older n out
    show n + s'.m_box_queue.length < ledger.entered + 1
    omega
  case past => exact fun n counted => Nat.lt_succ_of_lt (kept.past n counted)
  case early => exact fun p held n same => Nat.lt_succ_of_lt (kept.early p held n same)
  case fits =>
    intro place m held
    cases place with
    | queue i =>
        obtain ⟨inside, rfl⟩ := List.getElem?_eq_some_iff.mp held
        rw [boxes.getElem inside]
        cases i with
        | zero =>
            -- The new box has no picture, and nobody knows its number.
            refine ⟨fun counted => absurd (kept.past _ counted) (Nat.lt_irrefl _), fun imageId => ?_⟩
            exact (AList.lookup_empty imageId).trans (kept.camera_new imageId).symm
        | succ i =>
            have there : i < (marks s).length := by
              have := boxes.length_le
              rw [List.length_cons] at this
              omega
            have number : ({ ledger with entered := ledger.entered + 1 } : Ledger).number
                (.queue (i + 1)) = ledger.number (.queue i) := by
              simp only [Ledger.number]
              congr 1
              omega
            rw [number]
            exact (kept.fits (.queue i) _ (List.getElem?_eq_getElem there)).carry rfl rfl
    | poped =>
        rw [markAt, poped] at held
        exact (kept.fits .poped m held).carry rfl rfl

/-- The oldest box is taken out. -/
theorem Kept.take (kept : Kept ledger s) {box : BoxObject}
    (last : s.m_box_queue.getLast? = some box) (boxes : marks s' = (marks s).dropLast)
    (poped : mark s'.m_boxPoped = mark box) (ng : s'.m_detectNgCount = s.m_detectNgCount) :
    Kept { ledger with poped := some (ledger.entered - s.m_box_queue.length) } s' := by
  have length : s'.m_box_queue.length = s.m_box_queue.length - 1 := by
    rw [← length_marks, boxes, List.length_dropLast, length_marks]
  have held : s.m_box_queue[s.m_box_queue.length - 1]? = some box := by
    rw [← List.getLast?_eq_getElem?, last]
  have seated := kept.seated
  obtain ⟨inside, -⟩ := List.getElem?_eq_some_iff.mp held
  constructor
  case total => exact ng.trans kept.total
  case once => exact kept.once
  case seated =>
    rw [length]
    exact (Nat.sub_le _ _).trans seated
  case older =>
    intro n out
    obtain rfl := Option.some.inj out
    show ledger.entered - s.m_box_queue.length + s'.m_box_queue.length < ledger.entered
    omega
  case past => exact kept.past
  case early => exact kept.early
  case fits =>
    intro place m there
    cases place with
    | queue i =>
        rw [markAt, boxes, List.getElem?_dropLast] at there
        split at there
        · exact (kept.fits (.queue i) m there).carry rfl rfl
        · cases there
    | poped =>
        obtain rfl : mark box = m := Option.some.inj ((congrArg some poped).symm.trans there)
        have number : ledger.number (.queue (s.m_box_queue.length - 1)) =
            some (ledger.entered - s.m_box_queue.length) := by
          simp only [Ledger.number]
          congr 1
          omega
        have fits := kept.fits (.queue (s.m_box_queue.length - 1)) (mark box)
          (markAt_of_at held)
        rw [number] at fits
        exact fits.carry rfl rfl

/-- The box a result is counted for. -/
def countedFor (ledger : Ledger) (r : ObjectImageResult) (place : Place) (box : BoxObject) :
    List (Option Nat) :=
  if r.result = RESULT_NG ∧ box.result then [ledger.number place] else []

theorem mem_countedFor {n : Option Nat} {r : ObjectImageResult} {place : Place} {box : BoxObject}
    (counted : n ∈ countedFor ledger r place box) :
    n = ledger.number place ∧ r.result = RESULT_NG ∧ box.result = true := by
  unfold countedFor at counted
  split at counted
  case isTrue faulty => exact ⟨List.mem_singleton.mp counted, faulty⟩
  case isFalse => cases counted

theorem Kept.number_lt (kept : Kept ledger s) {place : Place} {m : Mark} {n : Nat}
    (held : markAt s place = some m) (same : ledger.number place = some n) : n < ledger.entered := by
  have seated := kept.seated
  cases place with
  | queue i =>
      obtain ⟨bound, -⟩ := List.getElem?_eq_some_iff.mp held
      rw [length_marks] at bound
      have := Option.some.inj same
      omega
  | poped =>
      have := kept.older n same
      omega

/-- A result is booked. -/
theorem Kept.book (kept : Kept ledger s) {r : ObjectImageResult} {place : Place} {box : BoxObject}
    (finds : s.findBox r.objectId = some (place, box))
    (boxes : ∀ other, markAt s' other =
      if other = place then some (mark (judged box r)) else markAt s other)
    (ng : s'.m_detectNgCount = ngCountAfter s box r) :
    Kept { ledger with counted := ledger.counted ++ countedFor ledger r place box } s' := by
  have held := markAt_of_at (findBox_at finds).1
  have fits := kept.fits place _ held
  have length : s'.m_box_queue.length = s.m_box_queue.length := by
    rw [← length_births, (booked_births finds boxes).1, length_births]
  constructor
  case total =>
    rw [ng, ngCountAfter, kept.total, countedFor, List.length_append]
    split <;> simp
  case once =>
    refine List.nodup_append.mpr ⟨kept.once, ?_, ?_⟩
    · unfold countedFor
      split
      · exact List.nodup_singleton _
      · exact List.nodup_nil
    · intro n before n' now same
      subst same
      obtain ⟨rfl, -, result⟩ := mem_countedFor now
      have faulty : box.result = false := fits.faulty before
      rw [result] at faulty
      cases faulty
  case seated =>
    rw [length]
    exact kept.seated
  case older =>
    rw [length]
    exact kept.older
  case past =>
    intro n counted
    rcases List.mem_append.mp counted with before | now
    · exact kept.past n before
    · exact kept.number_lt held (mem_countedFor now).1.symm
  case early => exact kept.early
  case fits =>
    intro other m there
    rw [boxes] at there
    split at there
    case isTrue same =>
      subst same
      obtain rfl := Option.some.inj there
      refine ⟨fun counted => ?_, fits.pictures⟩
      show (box.result && decide (r.result ≠ RESULT_NG)) = false
      rcases List.mem_append.mp counted with before | now
      · have faulty : box.result = false := fits.faulty before
        rw [faulty, Bool.false_and]
      · simp [(mem_countedFor now).2.1]
    case isFalse elsewhere =>
      have fits' := kept.fits other m there
      refine ⟨fun counted => ?_, fits'.pictures⟩
      rcases List.mem_append.mp counted with before | now
      · exact fits'.faulty before
      · exact absurd (kept.apart there held (mem_countedFor now).1) elsewhere

theorem counting_quiet {t : Turn} (ng : t.after.m_detectNgCount = t.before.m_detectNgCount) :
    ledger.counting t = none := by
  unfold Ledger.counting
  cases t.event with
  | preInferAsync imageData currTime connected now => rfl
  | onBarCode barCode now => rfl
  | onImageResult pcp kickEnable r => exact if_pos ng

theorem counting_booked {t : Turn} {pcp kickEnable : Bool} {r : ObjectImageResult} {place : Place}
    {box : BoxObject} (here : t.event = .onImageResult pcp kickEnable r)
    (finds : t.before.findBox r.objectId = some (place, box))
    (ng : t.after.m_detectNgCount = ngCountAfter t.before box r) :
    (ledger.counting t).toList = countedFor ledger r place box := by
  rw [Ledger.counting, here, countedFor]
  simp only [finds, Option.map_some, ng, ngCountAfter]
  by_cases faulty : r.result = RESULT_NG ∧ box.result = true <;> simp [faulty]

/-- The line and the ledger, before the picture of a step is put into a box. -/
theorem Kept.moved {t : Turn} {mid : CBoxResult} (turn : Turns cfg t mid)
    (kept : Kept ledger t.before) : Kept (ledger.moved cfg t) mid := by
  have after := turn.filed.ng
  cases turn.move with
  | entered b new quiet boxes found poped ng =>
      have same : ledger.moved cfg t = { ledger with entered := ledger.entered + 1 } := by
        simp [Ledger.moved, new, tried, quiet, counting_quiet (after.trans ng)]
      rw [same]
      refine kept.enter (b := b) ?_ poped ng
      rw [boxes]
      split
      · exact List.dropLast_prefix _
      · exact List.prefix_rfl
  | took now box old tries takes boxes found poped ng =>
      have same : ledger.moved cfg t =
          { ledger with poped := some (ledger.entered - t.before.m_box_queue.length) } := by
        simp [Ledger.moved, old, tried, tries, takes, counting_quiet (after.trans ng)]
      rw [same]
      exact kept.take (taken_last takes) boxes poped ng
  | missed now old tries fails boxes found poped ng =>
      have same : ledger.moved cfg t = ledger := by
        simp [Ledger.moved, old, tried, tries, fails, counting_quiet (after.trans ng)]
      rw [same]
      exact kept.same (places_of_marks boxes poped) ng
  | booked pcp kickEnable r place box here finds boxes found ng =>
      have same : ledger.moved cfg t =
          { ledger with counted := ledger.counted ++ countedFor ledger r place box } := by
        rw [Ledger.moved, counting_booked here finds (after.trans ng), here]
        simp [tried, attempt, entering, here]
      rw [same]
      exact kept.book finds boxes ng
  | still old quiet line =>
      have same : ledger.moved cfg t = ledger := by
        simp [Ledger.moved, old, tried, quiet, counting_quiet (after.trans line.ng)]
      rw [same]
      exact kept.same (places_of_marks line.boxes line.poped) line.ng

/-- The camera of a picture a box gets, and of its other pictures. -/
theorem camera_cons (n n' : Option Nat) (imageId imageId' : UInt64) (cameraId : UInt32) :
    ({ ledger with pictures := (n, imageId, cameraId) :: ledger.pictures } : Ledger).camera
        n' imageId' =
      if n = n' ∧ imageId = imageId' then some cameraId else ledger.camera n' imageId' := by
  unfold Ledger.camera
  rw [List.find?_cons]
  by_cases same : n = n' ∧ imageId = imageId' <;> simp [same]

/-- A picture that is put into a box goes to one that is there. -/
theorem target_held {e : Event} {place : Place} (goes : target s e = some place) :
    ∃ m, markAt s place = some m := by
  cases e with
  | preInferAsync imageData currTime connected now =>
      unfold target at goes
      cases queue : s.m_box_queue with
      | nil =>
          simp only [queue, List.isEmpty_nil, if_true] at goes
          split at goes
          · cases goes
          · split at goes
            · obtain rfl := Option.some.inj goes
              exact ⟨_, rfl⟩
            · cases goes
      | cons box rest =>
          simp only [queue, List.isEmpty_cons, Bool.false_eq_true, if_false] at goes
          split at goes
          · obtain rfl := Option.some.inj goes
            exact ⟨mark box, by simp [markAt, marks, queue]⟩
          · split at goes
            · obtain rfl := Option.some.inj goes
              exact ⟨_, rfl⟩
            · cases goes
  | onBarCode barCode now => cases goes
  | onImageResult pcp kickEnable r => cases goes

/-- No picture is put into a box. -/
theorem Kept.unfiled (kept : Kept ledger s) {e : Event} (filed : Filed e s s')
    (nowhere : target s' e = none) : Kept ledger s' := by
  refine kept.same (fun place => ?_) filed.ng
  rw [filed.places, nowhere]
  rfl

/-- Pictures do not change the numbers. -/
theorem number_pictures (ledger : Ledger) (pictures : List (Option Nat × UInt64 × UInt32))
    (place : Place) :
    ({ ledger with pictures := pictures } : Ledger).number place = ledger.number place := by
  cases place with
  | queue i => rfl
  | poped => rfl

/-- A picture is put into a box. -/
theorem Kept.put (kept : Kept ledger s) {imageData : ImageData} {currTime now : Int64}
    {connected : Bool} {place : Place}
    (filed : Filed (.preInferAsync imageData currTime connected now) s s')
    (goes : target s' (.preInferAsync imageData currTime connected now) = some place) :
    Kept { ledger with pictures :=
      (ledger.number place, imageData.imageId, imageData.cameraId) :: ledger.pictures } s' := by
  have length : s'.m_box_queue.length = s.m_box_queue.length := by
    rw [← length_births, filed.births.1, length_births]
  obtain ⟨here, there⟩ : ∃ m, markAt s place = some m := by
    obtain ⟨m, held⟩ := target_held goes
    rw [filed.places, if_pos goes, Option.map_eq_some_iff] at held
    exact ⟨held.choose, held.choose_spec.1⟩
  constructor
  case total => exact filed.ng.trans kept.total
  case once => exact kept.once
  case seated =>
    rw [length]
    exact kept.seated
  case older =>
    rw [length]
    exact kept.older
  case past => exact kept.past
  case early =>
    intro p held n same
    rcases List.mem_cons.mp held with rfl | before
    · exact kept.number_lt there same
    · exact kept.early p before n same
  case fits =>
    intro other m held
    have number := number_pictures ledger
      ((ledger.number place, imageData.imageId, imageData.cameraId) :: ledger.pictures)
    rw [filed.places, goes] at held
    split at held
    case isTrue same =>
      obtain rfl := Option.some.inj same
      obtain ⟨m, before, rfl⟩ := Option.map_eq_some_iff.mp held
      have fits := kept.fits place m before
      refine ⟨fits.faulty, fun imageId => ?_⟩
      show (m.pictures.insert imageData.imageId imageData.cameraId).lookup imageId = _
      rw [number, camera_cons]
      by_cases same : imageData.imageId = imageId
      · subst same
        simp
      · rw [AList.lookup_insert_ne (Ne.symm same), if_neg fun both => same both.2]
        exact fits.pictures imageId
    case isFalse elsewhere =>
      have fits := kept.fits other m held
      refine ⟨by rw [number]; exact fits.faulty, fun imageId => ?_⟩
      rw [number, camera_cons, if_neg ?_]
      · exact fits.pictures imageId
      · rintro ⟨same, -⟩
        exact elsewhere (congrArg some (kept.apart there held same))

/-- The picture of a step is put into a box. -/
theorem Kept.pictured {t : Turn} {mid : CBoxResult} (kept : Kept ledger mid)
    (filed : Filed t.event mid t.after) : Kept (ledger.pictured t) t.after := by
  unfold Ledger.pictured
  cases event : t.event with
  | preInferAsync imageData currTime connected now =>
      rw [event] at filed
      cases goes : target t.after (.preInferAsync imageData currTime connected now) with
      | none => exact kept.unfiled filed goes
      | some place => exact kept.put filed goes
  | onBarCode barCode now =>
      rw [event] at filed
      exact kept.unfiled filed rfl
  | onImageResult pcp kickEnable r =>
      rw [event] at filed
      exact kept.unfiled filed rfl

end Steps

/-! ## Runs -/

theorem kept (cfg : Config) (memory : Memory) (events : List Event) :
    Kept (.ofRun cfg (Machine.trace (step cfg) (constructed memory) events))
      (Machine.final (step cfg) (constructed memory) events) := by
  refine Machine.run_induction (step cfg) (P := fun h s => Kept (.ofRun cfg h) s) ?start ?keep events
  case start =>
    refine ⟨rfl, List.nodup_nil, le_refl 0, nofun, nofun, nofun, fun place m held => ?_⟩
    cases place with
    | queue i => cases held
    | poped =>
        obtain rfl := Option.some.inj held
        exact ⟨nofun, fun imageId => AList.lookup_empty imageId⟩
  case keep =>
    intro es e before
    obtain ⟨mid, turn⟩ := turns cfg (Machine.final (step cfg) (constructed memory) es) e
    rw [Ledger.ofRun_snoc]
    exact (Kept.moved turn before).pictured turn.filed

/-- Every box is counted once at most, and nothing else is counted. -/
structure CountedOnce (cfg : Config) (h : List Turn) (s : CBoxResult) : Prop where
  once : (Ledger.ofRun cfg h).counted.Nodup
  total : s.m_detectNgCount = (Ledger.ofRun cfg h).counted.length

/-- **A box is counted once at most.** -/
theorem counted_once (cfg : Config) (memory : Memory) (events : List Event) :
    CountedOnce cfg (Machine.trace (step cfg) (constructed memory) events)
      (Machine.final (step cfg) (constructed memory) events) :=
  ⟨(kept cfg memory events).once, (kept cfg memory events).total⟩

/-! ## Stopping a machine -/

/-- The picture of a result is one that a box of the queue, or the one taken out last, has got
from a camera. -/
def Owned (ledger : Ledger) (s : CBoxResult) (r : ObjectImageResult) (cameraId : UInt32) : Prop :=
  ∃ place box n, At s place box ∧ box.objectId = r.objectId ∧ ledger.number place = some n ∧
    ledger.camera (some n) r.imageId = some cameraId

/-- The machine a picture is taken at. -/
def machineOf (cameraId : UInt32) : UdpCmd :=
  if atMachine1 cameraId then .boxStopMachine1 else .boxStopMachine2

/-- The first box under the id of a result has got the picture, from a camera whose number is not
the `int` -1. -/
def Known (ledger : Ledger) (s : CBoxResult) (r : ObjectImageResult) : Prop :=
  ∃ place box cameraId, s.findBox r.objectId = some (place, box) ∧
    ledger.camera (ledger.number place) r.imageId = some cameraId ∧ cameraId ≠ 4294967295

section Stops

variable (cfg : Config) (memory : Memory) (first : List Event)

/-- A faulty picture of the run stops the machine it was taken at. -/
def Stops (e : Event) : Prop :=
  match e with
  | .onImageResult _ _ r =>
      r.result = RESULT_NG → ∀ cameraId,
        Owned (.ofRun cfg (Machine.trace (step cfg) (constructed memory) first))
          (Machine.final (step cfg) (constructed memory) first) r cameraId →
        (step cfg (Machine.final (step cfg) (constructed memory) first) e).2 =
          [.sendDataAsync (machineOf cameraId).code []]
  | _ => True

/-- A faulty picture of the run is of the first machine, and its box is the first under its id. -/
def Stoppable (e : Event) : Prop :=
  match e with
  | .onImageResult pcp _ r =>
      r.result = RESULT_NG → ∀ cameraId,
        Owned (.ofRun cfg (Machine.trace (step cfg) (constructed memory) first))
          (Machine.final (step cfg) (constructed memory) first) r cameraId →
        pcp = true ∧ atMachine1 cameraId = true ∧
          Known (.ofRun cfg (Machine.trace (step cfg) (constructed memory) first))
            (Machine.final (step cfg) (constructed memory) first) r
  | _ => True

end Stops

section Stop

variable {cfg : Config} {memory : Memory} {ledger : Ledger} {s : CBoxResult}

/-- Every `int` is from 1 on or up to 3. -/
theorem stopMachine_eq (pcp kickEnable : Bool) (cameraId : Int) :
    stopMachine pcp kickEnable cameraId =
      if pcp then [.sendDataAsync UdpCmd.boxStopMachine1.code []] else [] := by
  have every : 1 ≤ cameraId ∨ cameraId ≤ 3 := by omega
  unfold stopMachine
  rw [if_pos every]
  rfl

theorem toInt_ne_iff (cameraId : UInt32) : cameraId.toInt32.toInt ≠ -1 ↔ cameraId ≠ 4294967295 := by
  have value : cameraId.toInt32.toInt = cameraId.toBitVec.toInt := rfl
  have word : cameraId.toNat = cameraId.toBitVec.toNat := rfl
  have signed := BitVec.toInt_eq_toNat_cond cameraId.toBitVec
  have bound := cameraId.toBitVec.isLt
  rw [ne_eq, ne_eq, not_iff_not, ← UInt32.toNat_inj, value, word]
  show _ ↔ cameraId.toBitVec.toNat = 4294967295
  split at signed <;> omega

theorem findCameraId_ne_iff (box : BoxObject) (imageId : UInt64) :
    findCameraId box imageId ≠ -1 ↔
      ∃ cameraId, box.imageCameraIdHash.lookup imageId = some cameraId ∧
        cameraId ≠ 4294967295 := by
  unfold findCameraId
  cases held : box.imageCameraIdHash.lookup imageId with
  | none => simp
  | some cameraId => simpa using toInt_ne_iff cameraId

/-- The box a result is looked up for, and whether it has the picture. -/
theorem Kept.known_iff (kept : Kept ledger s) (r : ObjectImageResult) :
    Known ledger s r ↔ ∃ place box, s.findBox r.objectId = some (place, box) ∧
      findCameraId box r.imageId ≠ -1 := by
  have table : ∀ {place box}, s.findBox r.objectId = some (place, box) →
      box.imageCameraIdHash.lookup r.imageId = ledger.camera (ledger.number place) r.imageId := by
    intro place box finds
    exact (kept.fits place _ (markAt_of_at (findBox_at finds).1)).pictures r.imageId
  constructor
  · rintro ⟨place, box, cameraId, finds, picture, valid⟩
    refine ⟨place, box, finds, (findCameraId_ne_iff box r.imageId).mpr ⟨cameraId, ?_, valid⟩⟩
    exact (table finds).trans picture
  · rintro ⟨place, box, finds, known⟩
    obtain ⟨cameraId, held, valid⟩ := (findCameraId_ne_iff box r.imageId).mp known
    exact ⟨place, box, cameraId, finds, (table finds).symm.trans held, valid⟩

/-- A faulty result sends the stop of the first machine or nothing. -/
theorem onImageResult_ng (kept : Kept ledger s) {r : ObjectImageResult} (ng : r.result = RESULT_NG)
    (pcp kickEnable : Bool) :
    (s.onImageResult pcp kickEnable r).2 = [.sendDataAsync UdpCmd.boxStopMachine1.code []] ∧
        pcp = true ∧ Known ledger s r ∨
      (s.onImageResult pcp kickEnable r).2 = [] ∧ ¬ (pcp = true ∧ Known ledger s r) := by
  rcases onImageResult_cases s pcp kickEnable r with
    ⟨same, unknown⟩ | ⟨place, box, finds, known, result⟩
  · refine .inr ⟨by rw [same], ?_⟩
    rintro ⟨-, this⟩
    obtain ⟨place, box, finds, known⟩ := (kept.known_iff r).mp this
    exact known (unknown place box finds)
  · rw [result]
    simp only [if_pos ng, stopMachine_eq]
    cases pcp with
    | false => exact .inr ⟨rfl, fun this => by cases this.1⟩
    | true => exact .inl ⟨rfl, rfl, (kept.known_iff r).mpr ⟨place, box, finds, known⟩⟩

/-- The machine a picture is taken at is stopped, if it is the first. -/
theorem stop_first_iff (cameraId : UInt32) :
    [Output.sendDataAsync UdpCmd.boxStopMachine1.code []] =
      [Output.sendDataAsync (machineOf cameraId).code []] ↔ atMachine1 cameraId = true := by
  unfold machineOf
  cases atMachine1 cameraId <;> decide

theorem stops_turn (first : List Event) (e : Event) :
    Stops cfg memory first e ↔ Stoppable cfg memory first e := by
  cases e with
  | preInferAsync imageData currTime connected now => rfl
  | onBarCode barCode now => rfl
  | onImageResult pcp kickEnable r =>
      refine forall_congr' fun ng => forall₂_congr fun cameraId owned => ?_
      show (onImageResult _ pcp kickEnable r).2 = _ ↔ _
      rcases onImageResult_ng (kept cfg memory first) ng pcp kickEnable with
        ⟨sent, there, known⟩ | ⟨nothing, not⟩
      · rw [sent, stop_first_iff]
        exact ⟨fun front => ⟨there, front, known⟩, fun this => this.2.1⟩
      · rw [nothing]
        exact iff_of_false (by simp) fun this => not ⟨this.1, this.2.2⟩

/-- **When every faulty picture stops the machine it was taken at.**  No box is counted twice on
any run. -/
theorem stops_iff (cfg : Config) (memory : Memory) (events : List Event) :
    (CountedOnce cfg (Machine.trace (step cfg) (constructed memory) events)
        (Machine.final (step cfg) (constructed memory) events) ∧
      Machine.Always (Stops cfg memory) events) ↔
    Machine.Always (Stoppable cfg memory) events := by
  have same : Stops cfg memory = Stoppable cfg memory := by
    funext first e
    exact propext (stops_turn first e)
  rw [and_iff_right (counted_once cfg memory events), same]

end Stop

/-! ## A faulty appearance -/

/-- The box of the shape picture is taken out, and its appearance picture is faulty. -/
def faultyAppearance : List Event :=
  readOut ++ [.onImageResult true true { objectId := 1000, imageId := 2, result := RESULT_NG }]

/-- The first machine is stopped for a picture of camera 4, which is taken at the second. -/
theorem appearance_stops_machine1 :
    ¬ Machine.Always (Stops (init 2 1000 true) leftover) faultyAppearance := by
  intro always
  have stops := always readOut _ [] rfl rfl 4
    ⟨.poped, _, 0, rfl, by decide, by decide, by decide⟩
  exact absurd stops (by decide)

end IsgConsole.Multipler.CBoxResult
