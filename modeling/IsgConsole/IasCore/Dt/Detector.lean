/-
# IasCore.Dt.Detector — the detectors

A detector looks at a region of a picture and says whether it is fine.  `load` reads a
configuration: it takes over the text, the run flag, the locators and the locate point first,
then the region, then what its class adds, and is initialised when all of it is accepted.

What the vision library makes of a region is a parameter (`DtLibrary`), and so are the
conversions between decimals and `double`; the picture the user interface has saved for the
channel, `channel.jpg`, is an argument of whatever reads it.  The JSON text a result is drawn
from is left out.
-/
import Mathlib.Data.Rat.Floor
import IsgConsole.IasBase.BaseDT
import IsgConsole.Inspector.Infer

namespace IsgConsole.IasCore.Dt

open IsgConsole.Theory IsgConsole.BaseLib IsgConsole.Inspector IsgConsole.IasBase
open IsgConsole.Theory.Json

set_option autoImplicit false

/-! ## Regions of pictures -/

/-- `cv::Rect2d`. -/
structure Rect2d where
  x : Rat
  y : Rat
  width : Rat
  height : Rat
  deriving DecidableEq

namespace Rect2d

/-- `cv::Rect2d()`. -/
def zero : Rect2d := { x := 0, y := 0, width := 0, height := 0 }

def ofRect (r : Rect) : Rect2d := { x := r.x, y := r.y, width := r.width, height := r.height }

/-- `rect + point`. -/
def shift (r : Rect2d) (point : Point2d) : Rect2d :=
  { r with x := r.x + point.x, y := r.y + point.y }

/-- `rect & rect`. -/
def inter (a b : Rect2d) : Rect2d :=
  let x := max a.x b.x
  let y := max a.y b.y
  let width := min (a.x + a.width) (b.x + b.width) - x
  let height := min (a.y + a.height) (b.y + b.height) - y
  if width ≤ 0 ∨ height ≤ 0 then zero else { x := x, y := y, width := width, height := height }

/-- `cvRound`: to the nearest integer, ties to even. -/
def cvRound (q : Rat) : Int :=
  let rest := q - q.floor
  if rest < 1 / 2 then q.floor
  else if 1 / 2 < rest then q.floor + 1
  else if q.floor % 2 = 0 then q.floor else q.floor + 1

def toRect (r : Rect2d) : Rect :=
  { x := cvRound r.x, y := cvRound r.y, width := cvRound r.width, height := cvRound r.height }

end Rect2d

/-- A picture with its channels. -/
structure Frame where
  mat : Mat
  channels : Nat

namespace Frame

/-- `empty()`. -/
def isEmpty (frame : Frame) : Bool := frame.mat.cols = 0 ∨ frame.mat.rows = 0

/-- `frame(rect_roi)`; `none` when the vision library throws. -/
def crop (frame : Frame) (rect_roi : Rect2d) : Option Frame :=
  (frame.mat.crop rect_roi.toRect).map fun mat => { frame with mat := mat }

/-- `img_roi`: a region that leaves the picture is cut to it. -/
def region (frame : Frame) (rect_roi : Rect2d) : Option Frame :=
  match frame.crop rect_roi with
  | some img_roi => some img_roi
  | none =>
      let all_roi : Rect2d :=
        { x := 0, y := 0, width := frame.mat.cols, height := frame.mat.rows }
      frame.crop (rect_roi.inter all_roi)

end Frame

/-! ## What the classes add -/

/-- A value for gray and for each colour. -/
structure Channels where
  gray : Rat
  b : Rat
  g : Rat
  r : Rat

namespace Channels

def map (f : Rat → Rat) (c : Channels) : Channels := ⟨f c.gray, f c.b, f c.g, f c.r⟩

def anyNegative (c : Channels) : Bool := c.gray < 0 ∨ c.r < 0 ∨ c.g < 0 ∨ c.b < 0

end Channels

structure ColorParams where
  mean : Channels
  stddev : Channels
  mean_range : Channels
  stddev_range : Channels
  on_gray : Bool

structure LineParams where
  line_length_range : Rat
  binary_threshold : Rat
  line_score_threshold : Rat
  line_length : Rat
  line_angle_range : Rat × Rat
  line_point : Point2d × Point2d

structure TemplateParams where
  template_img : Option Frame
  matching_score_threshold : Rat

/-- What the detectors use of the vision library, for regions that are not empty. -/
structure DtLibrary where
  /-- The `double` nearest to a decimal, and a decimal that names a `double`. -/
  toDouble : Decimal → Rat
  ofDouble : Rat → Decimal
  /-- `meanStdDev` of a region, in gray and in colours. -/
  meanStdDev : Frame → Channels × Channels
  /-- `ContrastMeanStdDev` of a region. -/
  contrast : ColorParams → Frame → Option Bool
  getLineLength : Point2d → Point2d → Rat
  getLineAngle : Point2d → Point2d → Rat
  getLine : LineParams → Frame → Option Bool
  getMatchTemplate : TemplateParams → Frame → Option Bool

/-! ## The base class -/

/-- `Detector`, around what a class adds. -/
structure Detector (α : Type) where
  m_run : Bool
  m_InitOK : Bool
  m_locate_x_id : Int
  m_locate_y_id : Int
  m_rect_roi : Rect2d
  m_locate_root : Point2d
  m_config : Bytes
  self : α

namespace Detector

variable {α : Type}

/-- `Detector::Detector`; what a class adds is not initialised. -/
def start (self : α) : Detector α :=
  { m_run := true, m_InitOK := false, m_locate_x_id := 0, m_locate_y_id := 0,
    m_rect_roi := .zero, m_locate_root := ⟨0, 0⟩, m_config := [], self := self }

def setLocateRoot (locate_point : Point2d) (d : Detector α) : Detector α :=
  { d with m_locate_root := locate_point }

def getModifiedRect (locate_point : Point2d) (d : Detector α) : Rect2d :=
  if d.m_locate_x_id = 0 ∧ d.m_locate_y_id = 0 then d.m_rect_roi
  else d.m_rect_roi.shift
    ⟨locate_point.x - d.m_locate_root.x, locate_point.y - d.m_locate_root.y⟩

end Detector

/-- `value(key).toBool(true)`. -/
def toBoolTrue : Json → Bool
  | .bool b => b
  | _ => true

def DtLibrary.double (library : DtLibrary) : Json → Rat
  | .number d => library.toDouble d
  | _ => 0

/-- A point with `int` coordinates. -/
def pointOf (v : Json) : Int × Int :=
  ((v.toObject.get (utf8 "x")).toInt, (v.toObject.get (utf8 "y")).toInt)

/-- `roi`: both corners are read from the first of the two points. -/
def roiOf (jsonDocObj : JsonObject) : Option Rect :=
  match (jsonDocObj.get (utf8 "roi")).toArray with
  | [first, _] =>
      let p1 := pointOf first
      let p2 := pointOf first
      some (.ofPoints p1.1 p1.2 p2.1 p2.2)
  | _ => none

section Load

variable {α : Type} (qt : QtJson)

/-- What `load` takes over before it looks at the region; `first` is what the class reads there. -/
def begin (first : JsonObject → α → α) (param : Bytes) (locate_point : Point2d)
    (d : Detector α) : Detector α :=
  let jsonDocObj := configuration qt param
  { m_run := toBoolTrue (jsonDocObj.get (utf8 "run"))
    m_InitOK := false
    m_locate_x_id := (jsonDocObj.get (utf8 "locator_x_id")).toInt
    m_locate_y_id := (jsonDocObj.get (utf8 "locator_y_id")).toInt
    m_rect_roi := d.m_rect_roi
    m_locate_root := locate_point
    m_config := param
    self := first jsonDocObj d.self }

/-- `load` of a class that reads `first` before the region and `rest` behind it, which tells
whether it accepts what it has read; `none` when it throws. -/
def loadWith (first : JsonObject → α → α) (rest : JsonObject → α → Option Bool × α)
    (param : Bytes) (locate_point : Point2d) (d : Detector α) : Option Bool × Detector α :=
  let jsonDocObj := configuration qt param
  let begun := begin qt first param locate_point d
  match roiOf jsonDocObj with
  | none => (some false, begun)
  | some m_rect_roi =>
      let (accepted, self) := rest jsonDocObj begun.self
      (accepted, { begun with
                   m_rect_roi := .ofRect m_rect_roi
                   self := self
                   m_InitOK := accepted = some true })

/-- `detect`: the region of an initialised detector that runs is judged, and `idle` is what
is said otherwise.  `none` when the vision library throws. -/
def detectWith (judge : α → Frame → Option Bool) (idle : Bool → Bool) (frame : Frame)
    (locate_point : Point2d) (d : Detector α) : Option Bool :=
  if d.m_run && d.m_InitOK then do
    let img_roi ← frame.region (d.getModifiedRect locate_point)
    judge d.self img_roi
  else some (idle d.m_run)

end Load

/-! ## ColorDetector -/

namespace ColorDetector

variable (qt : QtJson) (library : DtLibrary)

/-- The four members of a kind, such as `mean_gray_range`. -/
def channels (jsonDocObj : JsonObject) (kind suffix : String) : Channels :=
  let member channel := library.double (jsonDocObj.get (utf8 (kind ++ channel ++ suffix)))
  { gray := member "gray", b := member "b", g := member "g", r := member "r" }

def insertChannels (kind suffix : String) (c : Channels) (jsonDocObj : JsonObject) : JsonObject :=
  let put channel value (object : JsonObject) :=
    object.insert (utf8 (kind ++ channel ++ suffix)) (.number (library.ofDouble value))
  put "r" c.r (put "g" c.g (put "b" c.b (put "gray" c.gray jsonDocObj)))

/-- The settings, read behind the region. -/
def settings (jsonDocObj : JsonObject) : ColorParams :=
  { mean := channels library jsonDocObj "mean_" ""
    stddev := channels library jsonDocObj "stddev_" ""
    mean_range := channels library jsonDocObj "mean_" "_range"
    stddev_range := channels library jsonDocObj "stddev_" "_range"
    on_gray := (jsonDocObj.get (utf8 "gray")).toBool }

def outOfRange (p : ColorParams) : Bool :=
  p.mean.anyNegative || p.stddev.anyNegative || p.mean_range.anyNegative
    || p.stddev_range.anyNegative

/-- What is read behind the region, and whether it is accepted. -/
def rest (jsonDocObj : JsonObject) (_ : ColorParams) : Option Bool × ColorParams :=
  let self := settings library jsonDocObj
  (some !outOfRange self, self)

/-- `ColorDetector::load`. -/
def load : Bytes → Point2d → Detector ColorParams → Option Bool × Detector ColorParams :=
  loadWith qt (fun _ self => self) (rest library)

/-- The verdict on a region; a gray picture cannot be made of an empty one. -/
def judge (self : ColorParams) (img_roi : Frame) : Option Bool :=
  if img_roi.isEmpty then
    if self.on_gray && decide (1 < img_roi.channels) then none else some false
  else library.contrast self img_roi

/-- `ColorDetector::detect`. -/
def detect : Frame → Point2d → Detector ColorParams → Option Bool :=
  detectWith (judge library) (fun m_run => !m_run)

/-- `ColorDetector::computeParam`; `matRead` is `channel.jpg`, where it can be read. -/
def computeParam (matRead : Option Frame) (d : Detector ColorParams) :
    Option Bytes × Detector ColorParams :=
  match matRead with
  | none => (some d.m_config, d)
  | some image =>
      match image.crop d.m_rect_roi with
      | none => (none, d)
      | some matRoi =>
          if matRoi.isEmpty then (some d.m_config, d)
          else
            let (mean, stddev) := library.meanStdDev matRoi
            let self := { d.self with
              mean := mean, stddev := stddev
              mean_range := mean.map (· * (1 / 4)), stddev_range := stddev.map (· * (1 / 4)) }
            let jsonDocObj := configuration qt d.m_config
            let jsonDocObj := insertChannels library "mean_" "" self.mean jsonDocObj
            let jsonDocObj := insertChannels library "stddev_" "" self.stddev jsonDocObj
            let jsonDocObj := insertChannels library "mean_" "_range" self.mean_range jsonDocObj
            let jsonDocObj := insertChannels library "stddev_" "_range" self.stddev_range jsonDocObj
            let m_config := qt.toJson .Indented (.object jsonDocObj)
            (some m_config, { d with self := self, m_config := m_config })

end ColorDetector

/-! ## LineDetector -/

namespace LineDetector

variable (qt : QtJson) (library : DtLibrary)

/-- The settings, read before the region. -/
def settings (jsonDocObj : JsonObject) (self : LineParams) : LineParams :=
  { self with
    line_length_range := library.double (jsonDocObj.get (utf8 "line_length_range"))
    binary_threshold := library.double (jsonDocObj.get (utf8 "binary_threshold"))
    line_score_threshold := library.double (jsonDocObj.get (utf8 "line_score_threshold")) }

/-- `point_data`: as with the region, both points are read from the first one, and so they are
in order. -/
def linePoint (jsonDocObj : JsonObject) (line_point : Point2d × Point2d) : Point2d × Point2d :=
  match (jsonDocObj.get (utf8 "point_data")).toArray with
  | [first, _] =>
      let p1 := pointOf first
      (⟨p1.1, p1.2⟩, ⟨p1.1, p1.2⟩)
  | _ => line_point

/-- The line, read behind the region. -/
def line (jsonDocObj : JsonObject) (self : LineParams) : LineParams :=
  let line_point := linePoint jsonDocObj self.line_point
  { self with
    line_point := line_point
    line_length := library.getLineLength line_point.1 line_point.2
    line_angle_range := (library.getLineAngle line_point.2 line_point.1,
      library.double (jsonDocObj.get (utf8 "angle_range"))) }

def outOfRange (p : LineParams) : Bool :=
  p.line_length_range < 0 ∨ p.line_length_range > 1 ∨
    p.binary_threshold < 0 ∨ p.binary_threshold > 256

/-- What is read behind the region, and whether all of it is accepted. -/
def rest (jsonDocObj : JsonObject) (self : LineParams) : Option Bool × LineParams :=
  let self := line library jsonDocObj self
  (some !outOfRange self, self)

/-- `LineDetector::load`. -/
def load : Bytes → Point2d → Detector LineParams → Option Bool × Detector LineParams :=
  loadWith qt (settings library) (rest library)

def judge (self : LineParams) (img_roi : Frame) : Option Bool :=
  if img_roi.isEmpty then some false else library.getLine self img_roi

/-- `LineDetector::detect`. -/
def detect : Frame → Point2d → Detector LineParams → Option Bool :=
  detectWith (judge library) (fun m_run => !m_run)

/-- `LineDetector::computeParam`. -/
def computeParam (d : Detector LineParams) : Option Bytes × Detector LineParams :=
  (some d.m_config, d)

end LineDetector

/-! ## TemplateDetector -/

namespace TemplateDetector

variable (qt : QtJson) (library : DtLibrary)

/-- The point of an index; a point the array does not have is the origin. -/
def pointAt (points : List Json) (i : Nat) : Int × Int := (points[i]?.map pointOf).getD (0, 0)

/-- `template_roi`. -/
def templateRoi (jsonDocObj : JsonObject) : Rect2d :=
  let points := (jsonDocObj.get (utf8 "point_data")).toArray
  { x := (pointAt points 0).1
    y := (pointAt points 0).2
    width := (pointAt points 1).1 - (pointAt points 0).1
    height := (pointAt points 3).2 - (pointAt points 0).2 }

/-- The setting, read before the region. -/
def settings (jsonDocObj : JsonObject) (self : TemplateParams) : TemplateParams :=
  { self with
    matching_score_threshold := library.double (jsonDocObj.get (utf8 "matching_score_threshold")) }

/-- The template, cut out of `channel.jpg` behind the region. -/
def rest (matRead : Option Frame) (jsonDocObj : JsonObject) (self : TemplateParams) :
    Option Bool × TemplateParams :=
  match matRead with
  | none => (some false, self)
  | some image =>
      match image.crop (templateRoi jsonDocObj) with
      | none => (none, self)
      | some template_img =>
          (some !template_img.isEmpty, { self with template_img := some template_img })

/-- `TemplateDetector::load`; `matRead` is `channel.jpg`, where it can be read. -/
def load (matRead : Option Frame) :
    Bytes → Point2d → Detector TemplateParams → Option Bool × Detector TemplateParams :=
  loadWith qt (settings library) (rest matRead)

def judge (self : TemplateParams) (img_roi : Frame) : Option Bool :=
  if img_roi.isEmpty then some false else library.getMatchTemplate self img_roi

/-- `TemplateDetector::detect`: a detector that is not initialised is fine, like one that does not
run. -/
def detect : Frame → Point2d → Detector TemplateParams → Option Bool :=
  detectWith (judge library) (fun _ => true)

/-- `TemplateDetector::computeParam`. -/
def computeParam (d : Detector TemplateParams) : Option Bytes × Detector TemplateParams :=
  let threshold : Rat := 4 / 5
  let jsonDocObj := (configuration qt d.m_config).insert (utf8 "matching_score_threshold")
    (.number (library.ofDouble threshold))
  let m_config := qt.toJson .Indented (.object jsonDocObj)
  (some m_config,
    { d with m_config := m_config, self := { d.self with matching_score_threshold := threshold } })

end TemplateDetector

end IsgConsole.IasCore.Dt
