/-
# IasCore.DragLineArea — the region that is looked at for tear lines

The configured area is enlarged by 20 pixels on every side and cropped before anything else is
done with it.  An area nearer to an edge of the picture than that cannot be cropped, and a
camera without an area has the empty one at the top left corner, which never can
(`infer_consistent_iff`).  Where the crop succeeds the boxes are reported where they are.
-/
import Mathlib.Data.List.Forall2
import IsgConsole.IasCore.DragLineInference

namespace IsgConsole.IasCore.DragLineInference

open IsgConsole.Theory IsgConsole.BaseLib IsgConsole.Inspector IsgConsole.Theory.Json

set_option autoImplicit false

/-! ## The configured areas -/

/-- The area of a camera's parameters: from the first of two points to the second. -/
def areaOf (camera_param : Json) : Rect :=
  let detect_Area := (camera_param.toObject.get (utf8 "detect_area")).toObject
  let points := (detect_Area.get (utf8 "points")).toArray
  let first := (points[0]?.getD Json.null).toObject
  let second := (points[1]?.getD Json.null).toObject
  let x := (first.get (utf8 "x")).toInt
  let y := (first.get (utf8 "y")).toInt
  { x := x, y := y, width := (second.get (utf8 "x")).toInt - x,
    height := (second.get (utf8 "y")).toInt - y }

/-- The areas are those `load` has read from the camera parameters. -/
def Loaded (self : DragLineInference) : Prop :=
  ∀ id, self.detect_area id = areaOf (self.Camera_Params.get (cameraKey id))

/-- The camera has no configured area. -/
def NoArea (self : DragLineInference) (id : Int) : Prop :=
  (self.Camera_Params.get (cameraKey id)).toObject.get (utf8 "detect_area") = .null

theorem detect_area_missing {self : DragLineInference} {id : Int} (loaded : Loaded self)
    (missing : NoArea self id) :
    self.detect_area id = { x := 0, y := 0, width := 0, height := 0 } := by
  rw [NoArea] at missing
  rw [loaded id, areaOf, missing]
  rfl

/-! ## What is reported -/

/-- The points an entry draws. -/
def drawnPoints (entry : Json) : Json :=
  (((entry.toObject.get (utf8 "draw")).toArray[0]?.getD Json.null).toObject).get (utf8 "points")

def inArea (entry : Json) : Json :=
  (entry.toObject.get (utf8 "params")).toObject.get (utf8 "in_area")

/-- A box moved by a distance. -/
def moved (box : Rect) (dx dy : Int) : Rect := { box with x := box.x + dx, y := box.y + dy }

@[simp] theorem moved_left (box : Rect) (dx dy : Int) :
    (moved box dx dy).left = box.left + dx := rfl

@[simp] theorem moved_top (box : Rect) (dx dy : Int) : (moved box dx dy).top = box.top + dy := rfl

@[simp] theorem moved_right (box : Rect) (dx dy : Int) :
    (moved box dx dy).right = box.right + dx := Int.add_right_comm box.x dx box.width

@[simp] theorem moved_bottom (box : Rect) (dx dy : Int) :
    (moved box dx dy).bottom = box.bottom + dy := Int.add_right_comm box.y dy box.height

/-- The corners of a box, as they are drawn. -/
def corners (box : Rect) : Json := pointArray box.left box.top box.right box.bottom

/-- A box lies inside an area. -/
def Inside (area box : Rect) : Prop :=
  area.left ≤ box.left ∧ area.top ≤ box.top ∧ box.right ≤ area.right ∧ box.bottom ≤ area.bottom

/-- The entry reports the box at its place in the picture, and whether that is in the area. -/
structure Reported (area : Rect) (dx dy : Int) (target : YoloResult) (entry : Json) : Prop where
  drawn : drawnPoints entry = corners (moved target.box dx dy)
  in_area : inArea entry = .bool true ↔ Inside area (moved target.box dx dy)

/-- The tear lines among the boxes of the detector. -/
def tearLines (yoloResult : List (List YoloResult)) : List YoloResult :=
  yoloResult.flatten.filter fun target => target.classId = 0

theorem get_objectOf (members : List (Bytes × Json)) (key : Bytes) :
    (Json.objectOf members).toObject.get key = ((JsonObject.value key members).getD .null) := by
  rw [Json.objectOf, Json.toObject, JsonObject.get, JsonObject.value_ofInserts]

/-- One turn adds the entry of its box. -/
theorem reportBox_reported {area detect_area : Rect} (enlarged : detect_area.area ≠ 0)
    (found : Findings) (indexed : YoloResult × Nat) :
    ∃ entry, (reportBox area detect_area found indexed).pos_infoArray =
        found.pos_infoArray ++ [entry] ∧
      Reported area (area.left - 20) (area.top - 20) indexed.1 entry := by
  obtain ⟨target, box_index⟩ := indexed
  rw [reportBox]
  simp only [ne_eq, enlarged, not_false_eq_true, if_true]
  refine ⟨_, rfl, ?_, ?_⟩
  · simp [drawnPoints, get_objectOf, JsonObject.value, utf8_injective.eq_iff, Json.toArray, corners]
  · have other : utf8 "conf" ≠ utf8 "in_area" := utf8_injective.ne (by decide)
    simp only [inArea, get_objectOf, JsonObject.value, utf8_injective.eq_iff]
    simp [Json.toObject, JsonObject.get, JsonObject.value_insert_other _ _ other, Inside]

/-- The loop adds an entry for every box. -/
theorem foldl_reportBox (area : Rect) {detect_area : Rect} (enlarged : detect_area.area ≠ 0)
    (boxes : List (YoloResult × Nat)) (found : Findings) :
    ∃ entries, (boxes.foldl (reportBox area detect_area) found).pos_infoArray =
        found.pos_infoArray ++ entries ∧
      List.Forall₂ (Reported area (area.left - 20) (area.top - 20)) (boxes.map Prod.fst)
        entries := by
  induction boxes generalizing found with
  | nil => exact ⟨[], by simp, .nil⟩
  | cons indexed boxes ih =>
      obtain ⟨entry, turn, reported⟩ := reportBox_reported enlarged found indexed
      obtain ⟨entries, rest, others⟩ := ih (reportBox area detect_area found indexed)
      refine ⟨entry :: entries, ?_, .cons reported others⟩
      rw [List.foldl_cons, rest, turn, List.append_assoc, List.singleton_append]

theorem foldl_reported {area detect_area : Rect} (enlarged : detect_area.area ≠ 0)
    (boxes : List YoloResult) {found : Findings} (start : found.pos_infoArray = []) :
    List.Forall₂ (Reported area (area.left - 20) (area.top - 20)) boxes
      (boxes.zipIdx.foldl (reportBox area detect_area) found).pos_infoArray := by
  obtain ⟨entries, reported, each⟩ := foldl_reportBox area enlarged boxes.zipIdx found
  rw [List.zipIdx_map_fst] at each
  rw [reported, start, List.nil_append]
  exact each

/-- The entries of the tear lines of a picture. -/
theorem judge_reported (self : DragLineInference) (id : Int) (yoloResult : List (List YoloResult))
    (nonempty : (enlarged (self.detect_area id)).area ≠ 0) :
    List.Forall₂ (Reported (self.detect_area id) ((self.detect_area id).left - 20)
        ((self.detect_area id).top - 20))
      (tearLines yoloResult) (self.judge id yoloResult).pos_infoArray := by
  rw [judge]
  apply foldl_reported nonempty
  split <;> rfl

/-! ## The region -/

/-- The area keeps 20 pixels from every edge of the picture. -/
structure Margin (area : Rect) (image : Mat) : Prop where
  left : 20 ≤ area.left
  top : 20 ≤ area.top
  right : area.right + 20 ≤ image.cols
  bottom : area.bottom + 20 ≤ image.rows

theorem enlarged_eq {area : Rect} (wide : 0 ≤ area.width) (high : 0 ≤ area.height) :
    enlarged area = { x := area.left - 20, y := area.top - 20, width := area.width + 40,
                      height := area.height + 40 } := by
  simp only [enlarged, Rect.ofPoints, Rect.left, Rect.top, Rect.right, Rect.bottom, Rect.mk.injEq]
  omega

theorem enlarged_within {area : Rect} {image : Mat} (wide : 0 ≤ area.width)
    (high : 0 ≤ area.height) : (enlarged area).Within image ↔ Margin area image := by
  rw [enlarged_eq wide high]
  have inside : (⟨area.left - 20, area.top - 20, area.width + 40, area.height + 40⟩ : Rect).Within
        image ↔ 20 ≤ area.left ∧ 20 ≤ area.top ∧ area.right + 20 ≤ image.cols ∧
      area.bottom + 20 ≤ image.rows := by
    simp only [Rect.Within, Rect.right, Rect.bottom, Rect.left, Rect.top]
    omega
  rw [inside]
  exact ⟨fun ⟨left, top, right, bottom⟩ => ⟨left, top, right, bottom⟩,
    fun ⟨left, top, right, bottom⟩ => ⟨left, top, right, bottom⟩⟩

/-! ## What the inference is for -/

/-- With an area: the crop lies inside the picture, and whatever the detector finds in it is
reported at its place in the picture. -/
def Consistent (self : DragLineInference) (id : Int) (image : Mat) : Prop :=
  ∃ crop, image.crop (enlarged (self.detect_area id)) = some crop ∧
    ∀ yoloResult, self.yolo_model [crop] = (true, yoloResult) →
      ∃ found, self.findings [id] [image] = some found ∧
        List.Forall₂ (Reported (self.detect_area id) (enlarged (self.detect_area id)).x
            (enlarged (self.detect_area id)).y)
          (tearLines yoloResult) found.pos_infoArray

/-- Without one: the whole picture is looked at, and what is found is reported where it is. -/
def WholeInferred (self : DragLineInference) (id : Int) (image : Mat) : Prop :=
  ∃ found, self.findings [id] [image] = some found ∧
    ∀ yoloResult, self.yolo_model [image] = (true, yoloResult) →
      List.Forall₂ (fun target entry => drawnPoints entry = corners target.box)
        (tearLines yoloResult) found.pos_infoArray

theorem findings_of_crop_none {self : DragLineInference} {id : Int} {image : Mat}
    (refused : image.crop (enlarged (self.detect_area id)) = none) :
    self.findings [id] [image] = none := by
  simp [findings, refused]

theorem consistent_iff {self : DragLineInference} {id : Int} {image : Mat}
    (inside : (self.detect_area id).Within image) :
    Consistent self id image ↔ Margin (self.detect_area id) image := by
  obtain ⟨-, wide, -, -, high, -⟩ := inside
  rw [← enlarged_within wide high, ← Mat.exists_crop]
  constructor
  · rintro ⟨crop, cropped, -⟩
    exact ⟨crop, cropped⟩
  · rintro ⟨crop, cropped⟩
    refine ⟨crop, cropped, fun yoloResult detected => ?_⟩
    have large : 1600 ≤ (enlarged (self.detect_area id)).area := by
      rw [enlarged_eq wide high]
      calc (1600 : Int) = 40 * 40 := rfl
        _ ≤ ((self.detect_area id).width + 40) * ((self.detect_area id).height + 40) :=
          Int.mul_le_mul (by omega) (by omega) (by decide) (by omega)
    have shown : asked (enlarged (self.detect_area id)) [image] crop = [crop] :=
      if_neg (by omega)
    refine ⟨self.judge id yoloResult, by simp [findings, cropped, shown, detected], ?_⟩
    have reported := judge_reported self id yoloResult (by omega)
    rw [enlarged_eq wide high]
    exact reported

/-- **The region that is looked at**: an area inside the picture is cropped and its boxes are
reported where they are exactly when it keeps 20 pixels from every edge; a picture of a
camera without an area is never looked at. -/
theorem infer_consistent_iff {self : DragLineInference} (loaded : Loaded self) (id : Int)
    (image : Mat) :
    ((self.detect_area id).Within image →
      (Consistent self id image ↔ Margin (self.detect_area id) image)) ∧
    (NoArea self id → ¬ WholeInferred self id image) := by
  refine ⟨consistent_iff, fun missing => ?_⟩
  rintro ⟨found, ran, -⟩
  have refused : image.crop (enlarged (self.detect_area id)) = none := by
    rw [detect_area_missing loaded missing]
    rfl
  rw [findings_of_crop_none refused] at ran
  cases ran

/-- A detector that finds nothing, for one camera with an area. -/
def withArea (x₁ y₁ x₂ y₂ : Int) : DragLineInference :=
  let Camera_Params := JsonObject.ofInserts
    [(cameraKey 1, Json.objectOf
      [(utf8 "detect_area", Json.objectOf [(utf8 "points", pointArray x₁ y₁ x₂ y₂)])])]
  { yolo_model := fun images => (true, images.map fun _ => [])
    detect_area := fun id => areaOf (Camera_Params.get (cameraKey id))
    Camera_Params := Camera_Params }

theorem withArea_loaded (x₁ y₁ x₂ y₂ : Int) : Loaded (withArea x₁ y₁ x₂ y₂) := fun _ => rfl

def packetPicture : Mat := { cols := 100, rows := 100, pixel := fun _ _ => 0 }

theorem withArea_middle : (withArea 30 30 50 50).detect_area 1 = ⟨30, 30, 20, 20⟩ := by
  decide +kernel

theorem withArea_corner : (withArea 0 0 50 50).detect_area 1 = ⟨0, 0, 50, 50⟩ := by
  decide +kernel

/-- The theorem at an area in the middle of a picture, and at a camera without an area. -/
theorem infer_consistent_withArea :
    (Consistent (withArea 30 30 50 50) 1 packetPicture ↔
      Margin ((withArea 30 30 50 50).detect_area 1) packetPicture) ∧
    ¬ WholeInferred (withArea 30 30 50 50) 2 packetPicture := by
  have loaded := withArea_loaded 30 30 50 50
  refine ⟨(infer_consistent_iff loaded 1 packetPicture).1 ?_,
    (infer_consistent_iff loaded 2 packetPicture).2 ?_⟩
  · rw [withArea_middle]
    exact ⟨by decide, by decide, by decide, by decide, by decide, by decide⟩
  · have other : cameraKey 1 ≠ cameraKey 2 := by decide +kernel
    simp [NoArea, withArea, JsonObject.get, JsonObject.value_ofInserts, JsonObject.value, other,
      Json.toObject]

/-- An area in a corner of the picture lies inside it and cannot be cropped. -/
theorem corner_not_inferred :
    ∃ (self : DragLineInference) (id : Int) (image : Mat), Loaded self ∧
      (self.detect_area id).Within image ∧ ¬ Consistent self id image := by
  refine ⟨withArea 0 0 50 50, 1, packetPicture, withArea_loaded 0 0 50 50, ?_, ?_⟩
  · rw [withArea_corner]
    exact ⟨by decide, by decide, by decide, by decide, by decide, by decide⟩
  · rintro ⟨crop, cropped, -⟩
    rw [withArea_corner] at cropped
    have refused : packetPicture.crop (enlarged ⟨0, 0, 50, 50⟩) = none := rfl
    rw [refused] at cropped
    cases cropped

end IsgConsole.IasCore.DragLineInference
