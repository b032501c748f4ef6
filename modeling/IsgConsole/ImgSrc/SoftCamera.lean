/-
# ImgSrc.SoftCamera — cameras that send pictures from files

A virtual camera walks through the picture files of a directory, one at each timeout, and
reports when it is through.  `SpotEnable` hands each camera it names a new directory; the
camera's own thread takes the call from its event queue later.  Two counters that all cameras
share tell how many pictures there are and how many cameras are not through.

The files a directory holds come with the event that reads it.
-/
import IsgConsole.BaseLib.EngineProject

namespace IsgConsole.ImgSrc

open IsgConsole.Theory IsgConsole.BaseLib

set_option autoImplicit false

/-! ## A camera -/

/-- The directory `SpotEnable` makes a path to: `spot/<brandId>/<channel>/ok` or `../ng`. -/
structure SpotPath where
  brandId : Int
  channel : Int
  ok : Bool
  deriving DecidableEq

structure SoftCamera where
  m_imageList : List Bytes
  m_imageReadIndex : Nat
  m_bStartStage : Bool
  m_isLoop : Bool
  m_isSpotCamera : Bool
  /-- The calls of `setImageSrcPathAsync` that wait in the event queue of its thread. -/
  posted : List SpotPath

/-- What a timeout comes to. -/
inductive Turn where
  | nothing
  | takenUp (file : Bytes)
  | finished

namespace SoftCamera

/-- `SoftCamera::setImageSrcPathAsync` of a directory that holds these files. -/
def setImageSrcPathAsync (self : SoftCamera) (files : List Bytes) : SoftCamera :=
  { self with m_imageList := files, m_imageReadIndex := 0, posted := self.posted.tail }

/-- `SoftCamera::onTimeout`; only a spot camera is ever through. -/
def onTimeout (self : SoftCamera) : SoftCamera × Turn :=
  if self.m_bStartStage then ({ self with m_bStartStage := false }, .nothing)
  else
    match self.m_imageList with
    | [] => (self, .nothing)
    | first :: rest =>
        match (first :: rest)[self.m_imageReadIndex]? with
        | some file =>
            ({ self with m_imageReadIndex := self.m_imageReadIndex + 1 }, .takenUp file)
        | none =>
            if self.m_isSpotCamera then
              ({ self with m_imageList := [], m_imageReadIndex := 0 }, .finished)
            else if self.m_isLoop then ({ self with m_imageReadIndex := 1 }, .takenUp first)
            else (self, .nothing)

/-- The camera has sent all of its list, and the next timeout finds it so. -/
def through (self : SoftCamera) : Prop :=
  self.m_bStartStage = false ∧ self.m_imageList ≠ [] ∧
    self.m_imageList.length ≤ self.m_imageReadIndex

instance (self : SoftCamera) : Decidable self.through :=
  inferInstanceAs (Decidable (_ ∧ _ ∧ _))

/-- The turns of a spot camera. -/
inductive Timeout (self : SoftCamera) : SoftCamera × Turn → Prop where
  | nothing (m_bStartStage : Bool) (waits : ¬ self.through) :
      Timeout self ({ self with m_bStartStage := m_bStartStage }, .nothing)
  | takenUp (file : Bytes) (next : self.m_imageList[self.m_imageReadIndex]? = some file) :
      Timeout self ({ self with m_imageReadIndex := self.m_imageReadIndex + 1 }, .takenUp file)
  | finished (through : self.through) :
      Timeout self ({ self with m_imageList := [], m_imageReadIndex := 0 }, .finished)

theorem not_through_of_next {self : SoftCamera} {file : Bytes}
    (next : self.m_imageList[self.m_imageReadIndex]? = some file) : ¬ self.through := by
  rintro ⟨-, -, behind⟩
  obtain ⟨inside, -⟩ := List.getElem?_eq_some_iff.mp next
  omega

theorem onTimeout_cases (self : SoftCamera) (spot : self.m_isSpotCamera = true) :
    Timeout self self.onTimeout := by
  unfold onTimeout
  split
  next delayed => exact .nothing false fun through => by simp [through.1] at delayed
  next begun =>
      split
      next list => exact .nothing self.m_bStartStage fun through => through.2.1 list
      next first rest list =>
          rw [← list]
          split
          next file next => exact .takenUp file next
          next behind =>
              refine .finished ⟨by simpa using begun, by simp [list], ?_⟩
              exact List.getElem?_eq_none_iff.mp behind

end SoftCamera

/-! ## The spot check -/

inductive DetectStatus where
  | ON_DETECT | FINISH_DETECT | STOP_DETECT
  deriving DecidableEq

/-- The virtual cameras under the channel in their name, the counters they share, and what the TCP
client remembers of the check. -/
structure SpotCheck where
  virtualCameras : Hash Int SoftCamera
  s_spotDetectimageCount : Int
  s_spotDetectWaitFinishCount : Int
  m_detectStatus : DetectStatus
  m_enabled : Bool

structure SpotEnable where
  isStart : Bool
  channelId : List Int
  brandId : Int
  type : Int

def SpotEnable.newPath (self : SpotEnable) (channel : Int) : SpotPath :=
  { brandId := self.brandId, channel, ok := self.type ≠ 0 }

inductive Event where
  /-- `PsCmd_SpotEnable`, in the run type the project has. -/
  | spotEnable (runType : RunTypeEnum) (request : SpotEnable)
  /-- `PsCmd_InquireSpotDetectStatus`. -/
  | inquire
  /-- The project switches its virtual cameras on or off. -/
  | setEnabled (value : Bool)
  /-- A camera takes the next `setImageSrcPathAsync` from its queue. -/
  | setImageSrcPathAsync (channel : Int) (files : List Bytes)
  | onTimeout (channel : Int)

inductive Output where
  | loaded (channel : Int) (newPath : SpotPath) (files : List Bytes)
  | takenUp (channel : Int) (file : Bytes)
  | status (m_detectStatus : DetectStatus) (total_number : Int)
  deriving DecidableEq

namespace SpotCheck

/-- `setAttr("enabled", value)` in `RunType_Spot`: a camera that is switched on begins with its
start delay. -/
def setEnabled (self : SpotCheck) (value : Bool) : SpotCheck :=
  let switched :=
    if value = true ∧ self.m_enabled = false then
      self.virtualCameras.mapValues fun _ camera => { camera with m_bStartStage := true }
    else self.virtualCameras
  { self with virtualCameras := switched, m_enabled := value }

/-- `setAttr("image_path", newPath)` of the virtual camera of a channel, where there is one. -/
def post (request : SpotEnable) (cameras : Hash Int SoftCamera) (channel : Int) :
    Hash Int SoftCamera :=
  cameras.modify channel fun camera =>
    { camera with posted := camera.posted ++ [request.newPath channel] }

/-- A start of the spot check. -/
def onStart (self : SpotCheck) (request : SpotEnable) : SpotCheck :=
  { self with
    virtualCameras := request.channelId.foldl (post request) self.virtualCameras
    s_spotDetectWaitFinishCount := request.channelId.length
    m_detectStatus := .ON_DETECT }.setEnabled true

/-- `TcpClient::onMessageCTRL` of a `PsCmd_SpotEnable`. -/
def onSpotEnable (self : SpotCheck) (runType : RunTypeEnum) (request : SpotEnable) : SpotCheck :=
  if runType = .RunType_Spot then
    let self := { self with s_spotDetectimageCount := 0 }
    if request.isStart then self.onStart request
    else { self with m_detectStatus := .FINISH_DETECT }
  else self

/-- `TcpClient::onMessageCTRL` of a `PsCmd_InquireSpotDetectStatus`. -/
def onInquire (self : SpotCheck) : SpotCheck :=
  if self.s_spotDetectWaitFinishCount = 0 then { self with m_detectStatus := .FINISH_DETECT }
  else self

/-- A camera is through with its list. -/
def finish (self : SpotCheck) : SpotCheck :=
  { self with s_spotDetectWaitFinishCount := self.s_spotDetectWaitFinishCount - 1 }

def setCamera (self : SpotCheck) (channel : Int) (camera : SoftCamera) : SpotCheck :=
  { self with virtualCameras := self.virtualCameras.modify channel fun _ => camera }

/-- A posted `setImageSrcPathAsync`; a spot camera counts its pictures, and is through at once when
there are none. -/
def onImageSrcPath (self : SpotCheck) (channel : Int) (camera : SoftCamera) (files : List Bytes) :
    SpotCheck :=
  let self := self.setCamera channel (camera.setImageSrcPathAsync files)
  if camera.m_isSpotCamera then
    let self := { self with s_spotDetectimageCount := self.s_spotDetectimageCount + files.length }
    if files = [] then self.finish else self
  else self

/-- A step of the TCP thread or of a camera. -/
def step (self : SpotCheck) : Event → SpotCheck × List Output
  | .spotEnable runType request => (self.onSpotEnable runType request, [])
  | .inquire =>
      (self.onInquire, [.status self.onInquire.m_detectStatus self.s_spotDetectimageCount])
  | .setEnabled value => (self.setEnabled value, [])
  | .setImageSrcPathAsync channel files =>
      match self.virtualCameras.lookup channel with
      | none => (self, [])
      | some camera =>
          match camera.posted with
          | [] => (self, [])
          | newPath :: _ =>
              (self.onImageSrcPath channel camera files, [.loaded channel newPath files])
  | .onTimeout channel =>
      match self.virtualCameras.lookup channel with
      | none => (self, [])
      | some camera =>
          let self := self.setCamera channel camera.onTimeout.1
          match camera.onTimeout.2 with
          | .nothing => (self, [])
          | .takenUp file => (self, [.takenUp channel file])
          | .finished => (self.finish, [])

/-- A spot camera as it is created, for each channel. -/
def loaded (channels : List Int) (m_detectStatus : DetectStatus) : SpotCheck :=
  { virtualCameras := channels.foldl (fun cameras channel => cameras.insert channel
      { m_imageList := [], m_imageReadIndex := 0, m_bStartStage := true, m_isLoop := false
        m_isSpotCamera := true, posted := [] }) ∅
    s_spotDetectimageCount := 0
    s_spotDetectWaitFinishCount := 0
    m_detectStatus := m_detectStatus
    m_enabled := false }

end SpotCheck

end IsgConsole.ImgSrc
