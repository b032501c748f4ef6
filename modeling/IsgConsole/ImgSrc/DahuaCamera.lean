/-
# ImgSrc.DahuaCamera — a camera behind the handle of its library

`DahuaCamera` keeps the handle of the device with its serial number, and a single-shot timer that
looks for the device where it was not found at the start.  What the library answers within one
call is a parameter, and a device may drop off the network at any time.

A new serial number first stops the timer and closes the device, and then looks for the new one.
`onSerialNumberChange_refused` says which refusals leave no trace.
-/
import IsgConsole.ImgSrc.ImageSrcDev
import IsgConsole.Theory.Loop

namespace IsgConsole.ImgSrc

open IsgConsole.Theory IsgConsole.BaseLib IsgConsole.Theory.Json

set_option autoImplicit false

/-! ## The library -/

/-- What `IMV_IsOpen` and `IMV_IsGrabbing` say; a device that grabs is open. -/
inductive ImvLink where
  | closed | opened | grabbing
  deriving DecidableEq

/-- An `IMV_HANDLE` and the device behind it. -/
structure ImvHandle where
  address : Nat
  link : ImvLink
  deriving DecidableEq

/-- What the library answers within a call; a function that fails changes nothing. -/
structure Imv where
  /-- The serial numbers of the devices that are found. -/
  enumDevices : Option (List Bytes)
  createHandle : Option Nat
  openDevice : Bool
  /-- The serial number of the device behind the handle. -/
  getDeviceInfo : Option Bytes
  attachGrabbing : Bool
  startGrabbing : Bool
  stopGrabbing : Bool
  setDoubleFeatureValue : Bool

/-- There is no device. -/
def Imv.nothing : Imv :=
  { enumDevices := some [], createHandle := none, openDevice := false, getDeviceInfo := none
    attachGrabbing := false, startGrabbing := false, stopGrabbing := false
    setDoubleFeatureValue := false }

/-- The library finds the device and makes a handle for it. -/
def Imv.Creates (imv : Imv) (serialNumber : Bytes) : Prop :=
  (∃ devices, imv.enumDevices = some devices ∧ isFound devices serialNumber = true) ∧
    imv.createHandle.isSome = true

/-! ## The camera -/

structure DahuaCamera where
  m_Imv_Handle : Option ImvHandle
  m_online : Bool
  /-- The timer runs. -/
  m_findCameraTimer : Bool
  deriving DecidableEq

namespace DahuaCamera

-- `verifyEncryptCode` of a serial number and an access code
variable (verifyEncryptCode : Bytes → Bytes → Bool) (imv : Imv)

/-- `cameraStopGrab`. -/
def cameraStopGrab (self : DahuaCamera) : DahuaCamera :=
  match self.m_Imv_Handle with
  | none => self
  | some handle =>
      if handle.link = .grabbing ∧ imv.stopGrabbing then
        { self with m_Imv_Handle := some { handle with link := .opened } }
      else self

/-- `cameraCloseConnect`; a device that does not close is given up all the same. -/
def cameraCloseConnect (self : DahuaCamera) : DahuaCamera :=
  match self.m_Imv_Handle with
  | none => self
  | some handle => if handle.link = .closed then self else { self with m_Imv_Handle := none }

/-- `cameraStartGrab`. -/
def cameraStartGrab (s : EngineObject DahuaCamera) : DahuaCamera :=
  match s.world.m_Imv_Handle, imv.getDeviceInfo with
  | some handle, some serialNumber =>
      if verifyEncryptCode serialNumber ((s.m_value access_code).toString []) ∧
          handle.link = .opened ∧ imv.attachGrabbing ∧ imv.startGrabbing then
        { s.world with m_Imv_Handle := some { handle with link := .grabbing } }
      else s.world
  | _, _ => s.world

/-- `cameraConnect`. -/
def cameraConnect (handle : ImvHandle) : Option ImvHandle :=
  if handle.link ≠ .closed then some handle
  else if imv.openDevice then some { handle with link := .opened }
  else none

/-- `findAndInitCamera`. -/
def findAndInitCamera (s : EngineObject DahuaCamera) (serialNumber : Bytes) : Bool × DahuaCamera :=
  match imv.enumDevices with
  | none => (false, s.world)
  | some devices =>
      if ¬ isFound devices serialNumber then (false, s.world)
      else
        match imv.createHandle with
        | none => (false, s.world)
        | some address =>
            match cameraConnect imv { address := address, link := .closed } with
            | none => (false, { s.world with m_Imv_Handle := none })
            | some handle =>
                let self := { s.world with m_Imv_Handle := some handle }
                let self :=
                  if (s.m_value (utf8 "enabled")).toBool then
                    cameraStartGrab verifyEncryptCode imv { s with world := self }
                  else self
                (true, { self with m_online := true })

/-- `onSerialNumberChange`. -/
def onSerialNumberChange (s : EngineObject DahuaCamera) (val old : Bytes) (trusted : Bool) :
    Bool × DahuaCamera :=
  if val = old then (true, s.world)
  else
    let self := { s.world with m_findCameraTimer := false }
    let self := cameraCloseConnect (cameraStopGrab imv self)
    let (result, self) := findAndInitCamera verifyEncryptCode imv { s with world := self } val
    if result then (true, self)
    else if trusted then (true, { self with m_findCameraTimer := true })
    else (false, self)

/-- The value of a feature of the device. -/
def featureChange (s : EngineObject DahuaCamera) (trusted : Bool) : Bool :=
  match s.world.m_Imv_Handle with
  | none => trusted
  | some handle => handle.link ≠ .closed ∧ imv.setDoubleFeatureValue

def onGainRawChange := featureChange imv
def onExposeTimeChange := featureChange imv

def setters : CameraSetters DahuaCamera where
  onStarted := cameraStartGrab verifyEncryptCode imv
  onStopped s := cameraStopGrab imv s.world
  onSerialNumberChange := onSerialNumberChange verifyEncryptCode imv
  onGainRawChange := onGainRawChange imv
  onExposeTimeChange := onExposeTimeChange imv

/-- `onFindTimerTimeout`; the timer is a single-shot one. -/
def onFindTimerTimeout (s : EngineObject DahuaCamera) : DahuaCamera :=
  if s.world.m_findCameraTimer then
    let self := { s.world with m_findCameraTimer := false }
    let (result, self) := findAndInitCamera verifyEncryptCode imv { s with world := self }
      ((s.m_value serial_number).toString [])
    if result then self else { self with m_findCameraTimer := true }
  else s.world

/-- `onReconnectCallback` with `offLine`. -/
def onReconnectCallback (self : DahuaCamera) : DahuaCamera :=
  { cameraCloseConnect (cameraStopGrab imv self) with
    m_online := false, m_findCameraTimer := true }

/-! ## Runs -/

/-- What happens to a camera. -/
inductive Event where
  | setAttr (key : Bytes) (value : Json) (trusted : Bool)
  | onFindTimerTimeout
  | onReconnectCallback
  /-- The device drops off the network. -/
  | lost

def step (s : EngineObject DahuaCamera) (e : Imv × Event) : EngineObject DahuaCamera :=
  match e.2 with
  | .setAttr key value trusted =>
      (BaseLib.setAttr (cameraClass (setters verifyEncryptCode e.1)).attrList s key value trusted).2
  | .onFindTimerTimeout => { s with world := onFindTimerTimeout verifyEncryptCode e.1 s }
  | .onReconnectCallback => { s with world := onReconnectCallback e.1 s.world }
  | .lost =>
      { s with
        world := { s.world with
          m_Imv_Handle := s.world.m_Imv_Handle.map fun handle =>
            { handle with link := .closed } } }

/-- A camera as it is constructed. -/
def start : EngineObject DahuaCamera :=
  (cameraClass (setters verifyEncryptCode .nothing)).constructed
    { m_Imv_Handle := none, m_online := false, m_findCameraTimer := false }

/-- A camera after these events, each with what the library answers. -/
def reached (events : List (Imv × Event)) : EngineObject DahuaCamera :=
  events.foldl (step verifyEncryptCode) (start verifyEncryptCode)

theorem reached_serialText (events : List (Imv × Event)) :
    SerialText (reached verifyEncryptCode events) := by
  refine Loop.foldl_keeps (P := SerialText) ?_ (serialText_constructed _ _)
  intro s e text
  obtain ⟨imv, event⟩ := e
  cases event with
  | setAttr key value trusted => exact serialText_setAttr _ text key value trusted
  | onFindTimerTimeout => exact text
  | onReconnectCallback => exact text
  | lost => exact text

/-! ## A refused serial number -/

/-- What a search that fails leaves. -/
theorem findAndInitCamera_failed {s : EngineObject DahuaCamera} {serialNumber : Bytes}
    {after : DahuaCamera}
    (failed : findAndInitCamera verifyEncryptCode imv s serialNumber = (false, after)) :
    ¬ imv.Creates serialNumber ∧ after = s.world ∨
      imv.Creates serialNumber ∧ after = { s.world with m_Imv_Handle := none } := by
  unfold findAndInitCamera at failed
  split at failed
  next unlisted =>
      refine .inl ⟨?_, (Prod.mk.inj failed).2.symm⟩
      rintro ⟨⟨devices, listed, -⟩, -⟩
      rw [unlisted] at listed
      cases listed
  next devices listed =>
      split at failed
      next missing =>
          refine .inl ⟨?_, (Prod.mk.inj failed).2.symm⟩
          rintro ⟨⟨others, same, there⟩, -⟩
          rw [listed] at same
          obtain rfl := Option.some.inj same
          exact missing there
      next found =>
          split at failed
          next refused =>
              refine .inl ⟨?_, (Prod.mk.inj failed).2.symm⟩
              rintro ⟨-, made⟩
              rw [refused] at made
              cases made
          next address made =>
              split at failed
              next =>
                  refine .inr ⟨⟨⟨devices, listed, not_not.mp found⟩, ?_⟩,
                    (Prod.mk.inj failed).2.symm⟩
                  rw [made]
                  rfl
              next => cases failed

/-- Nothing is stopped or closed for the new device: the timer does not run, and there is no handle
or only that of a device which is not open and for which no new handle is made. -/
def Idle (self : DahuaCamera) (imv : Imv) (val : Bytes) : Prop :=
  self.m_findCameraTimer = false ∧
    ∀ handle, self.m_Imv_Handle = some handle → handle.link = .closed ∧ ¬ imv.Creates val

/-- A device that is not open stays with its handle. -/
theorem closeConnect_closed {self : DahuaCamera}
    (closed : ∀ handle, self.m_Imv_Handle = some handle → handle.link = .closed) :
    cameraCloseConnect (cameraStopGrab imv self) = self := by
  have stopped : cameraStopGrab imv self = self := by
    unfold cameraStopGrab
    split
    next => rfl
    next handle held => rw [if_neg (by simp [closed handle held])]
  rw [stopped]
  unfold cameraCloseConnect
  split
  next => rfl
  next handle held => rw [if_pos (closed handle held)]

/-- The handle of an open device is given up. -/
theorem closeConnect_open {self : DahuaCamera} {handle : ImvHandle}
    (held : self.m_Imv_Handle = some handle) (live : handle.link ≠ .closed) :
    cameraCloseConnect (cameraStopGrab imv self) = { self with m_Imv_Handle := none } := by
  unfold cameraStopGrab
  rw [held]
  dsimp only
  split
  next => rfl
  next =>
      unfold cameraCloseConnect
      rw [held]
      exact if_neg live

/-- The camera with its timer stopped and its device closed. -/
def tornDown (self : DahuaCamera) : DahuaCamera :=
  cameraCloseConnect (cameraStopGrab imv { self with m_findCameraTimer := false })

/-- All a refused change does. -/
theorem onSerialNumberChange_cases {s : EngineObject DahuaCamera} {val old : Bytes}
    {after : DahuaCamera}
    (refused : onSerialNumberChange verifyEncryptCode imv s val old false = (false, after)) :
    ¬ imv.Creates val ∧ after = tornDown imv s.world ∨
      imv.Creates val ∧ after = { tornDown imv s.world with m_Imv_Handle := none } := by
  unfold onSerialNumberChange at refused
  split at refused
  next => cases refused
  next =>
      cases searched : findAndInitCamera verifyEncryptCode imv
        { s with world := tornDown imv s.world } val with
      | mk found self =>
          rw [tornDown] at searched
          cases found with
          | true => simp [searched] at refused
          | false =>
              obtain rfl : self = after := by simpa [searched] using refused
              exact findAndInitCamera_failed verifyEncryptCode imv searched

/-- **A refused serial number leaves the camera as it was** exactly where there was nothing to
stop or to close. -/
theorem onSerialNumberChange_refused {s : EngineObject DahuaCamera} {val old : Bytes}
    {after : DahuaCamera}
    (refused : onSerialNumberChange verifyEncryptCode imv s val old false = (false, after)) :
    after = s.world ↔ s.world.Idle imv val := by
  have cases := onSerialNumberChange_cases verifyEncryptCode imv refused
  obtain ⟨m_value, m_Imv_Handle, m_online, m_findCameraTimer⟩ := s
  by_cases closed : ∀ handle, m_Imv_Handle = some handle → handle.link = .closed
  · have torn : tornDown imv { m_Imv_Handle, m_online, m_findCameraTimer } =
        { m_Imv_Handle, m_online, m_findCameraTimer := false } :=
      closeConnect_closed imv closed
    rw [torn] at cases
    rcases cases with ⟨none_made, rfl⟩ | ⟨made, rfl⟩
    · -- no handle is made: only the timer may have changed
      constructor
      · intro same
        have quiet : false = m_findCameraTimer := congrArg DahuaCamera.m_findCameraTimer same
        exact ⟨quiet.symm, fun handle held => ⟨closed handle held, none_made⟩⟩
      · rintro ⟨quiet, -⟩
        dsimp only at quiet
        rw [quiet]
    · -- the new handle is destroyed, and nothing is left of an old one
      constructor
      · intro same
        have gone : none = m_Imv_Handle := congrArg DahuaCamera.m_Imv_Handle same
        have quiet : false = m_findCameraTimer := congrArg DahuaCamera.m_findCameraTimer same
        exact ⟨quiet.symm, fun handle held => by simp [← gone] at held⟩
      · rintro ⟨quiet, nothing⟩
        dsimp only at quiet nothing
        cases m_Imv_Handle with
        | none => rw [quiet]
        | some handle => exact absurd made (nothing handle rfl).2
  · push Not at closed
    obtain ⟨handle, rfl, live⟩ := closed
    have torn : tornDown imv { m_Imv_Handle := some handle, m_online, m_findCameraTimer } =
        { m_Imv_Handle := none, m_online, m_findCameraTimer := false } :=
      closeConnect_open imv rfl live
    rw [torn] at cases
    have gone : after.m_Imv_Handle = none := by
      rcases cases with ⟨-, rfl⟩ | ⟨-, rfl⟩ <;> rfl
    constructor
    · rintro rfl
      cases gone
    · rintro ⟨-, nothing⟩
      exact absurd (nothing handle rfl).1 live

end DahuaCamera

end IsgConsole.ImgSrc
