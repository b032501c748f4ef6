/-
# Inspector.Infer — pictures and the results for them

What the cameras, the algorithms and the multiplers hand each other.

`QImage` is its geometry and what `save(.., "jpg")` writes for it.  `Mat` is a picture of
the vision library: its size and its pixels, of which a rectangle can be cropped.
-/
import IsgConsole.Theory.Bytes

namespace IsgConsole.Inspector

open IsgConsole.Theory

set_option autoImplicit false

/-! ## Verdicts -/

def RESULT_INIT : Int := -1
def RESULT_NG : Int := 0
def RESULT_OK : Int := 1
def RESULT_TIMEOUT : Int := 2

/-- `IAS_DT` and `IAS_AI`. -/
def IAS_DT : UInt32 := 0
def IAS_AI : UInt32 := 1

/-! ## Pictures -/

structure QImage where
  depth : Int
  width : Int
  height : Int
  jpg : Bytes
  deriving DecidableEq

/-- `cv::Rect`: width and height reach from the top left corner to the bottom right one. -/
structure Rect where
  x : Int
  y : Int
  width : Int
  height : Int
  deriving DecidableEq

namespace Rect

/-- `cv::Rect(pt1, pt2)`, the corners in any order. -/
def ofPoints (x₁ y₁ x₂ y₂ : Int) : Rect :=
  { x := min x₁ x₂, y := min y₁ y₂, width := max x₁ x₂ - min x₁ x₂, height := max y₁ y₂ - min y₁ y₂ }

def left (r : Rect) : Int := r.x
def top (r : Rect) : Int := r.y
def right (r : Rect) : Int := r.x + r.width
def bottom (r : Rect) : Int := r.y + r.height
def area (r : Rect) : Int := r.width * r.height

end Rect

/-- `cv::Mat`. -/
structure Mat where
  cols : Int
  rows : Int
  pixel : Int → Int → UInt32

/-- `image(roi)`; a region that leaves the image is refused with an exception. -/
def Mat.crop (image : Mat) (roi : Rect) : Option Mat :=
  if 0 ≤ roi.x ∧ 0 ≤ roi.width ∧ roi.right ≤ image.cols ∧
      0 ≤ roi.y ∧ 0 ≤ roi.height ∧ roi.bottom ≤ image.rows then
    some { cols := roi.width, rows := roi.height,
           pixel := fun x y => image.pixel (roi.x + x) (roi.y + y) }
  else none

/-- The rectangle lies inside the picture. -/
def Rect.Within (roi : Rect) (image : Mat) : Prop :=
  0 ≤ roi.x ∧ 0 ≤ roi.width ∧ roi.right ≤ image.cols ∧
    0 ≤ roi.y ∧ 0 ≤ roi.height ∧ roi.bottom ≤ image.rows

theorem Mat.exists_crop {image : Mat} {roi : Rect} :
    (∃ crop, image.crop roi = some crop) ↔ roi.Within image := by
  unfold Mat.crop Rect.Within
  split
  next inside => exact ⟨fun _ => inside, fun _ => ⟨_, rfl⟩⟩
  next outside => simp [outside]

/-! ## Messages -/

/-- `IMAGE_DATA`. -/
structure ImageData where
  objectId : UInt64
  bReportOrignal : Bool
  bReportBinning : Bool
  cameraId : UInt32
  imageId : UInt64
  imageData : QImage
  genTimeStamp : UInt64
  deriving DecidableEq

/-- `IMAGE_GROUP_DATA`. -/
structure ImageGroupData where
  objectId : UInt64
  cameraIdVector : List UInt32
  imageIdVector : List UInt64
  imageDataVector : List Mat
  genTimeStamp : Int

/-- `IMAGE_IAS_RESULT`. -/
structure ImageIasResult where
  objectId : UInt64
  cameraId : UInt32
  imageId : UInt64
  iasType : UInt32
  channelID : UInt32
  result : Int
  jsonData : Bytes
  deriving DecidableEq

end IsgConsole.Inspector
