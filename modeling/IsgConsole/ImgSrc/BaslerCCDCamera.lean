/-
# ImgSrc.BaslerCCDCamera — a camera behind an object of its library

`BaslerCCDCamera` keeps the object the library made for its device and three timers: one looks for
a device not found at the start, one asks whether the device still answers, and one waits for a
device that has gone.  What the library answers within one call is a parameter.

A new serial number stops the first and the last timer and then looks for the new device; the old
object is only given up as the new one is made.  `onSerialNumberChange_refused` says which
refusals leave no trace.  A timeout that meets no object ends the process, which `step`
answers with `none`.
-/
import IsgConsole.ImgSrc.ImageSrcDev
import IsgConsole.Theory.Loop

namespace IsgConsole.ImgSrc

open IsgConsole.Theory IsgConsole.BaseLib IsgConsole.Theory.Json

set_option autoImplicit false

/-! ## The library -/

/-- What the device of an `InstantCamera` does; a detached object has none. -/
inductive PylonLink where
  | detached | attached | opened | grabbing
  deriving DecidableEq

/-- A `CInstantCamera`. -/
structure InstantCamera where
  address : Nat
  link : PylonLink
  deriving DecidableEq

/-- What the library answers within a call. -/
structure Pylon where
  /-- The serial numbers of the devices that are found. -/
  EnumerateDevices : List Bytes
  CreateDevice : Bool
  /-- The object, where it is made, set up and opened without an exception. -/
  instantCamera : Option Nat
  /-- The devices that match the last one are not empty, and `Open` of the first one returns. -/
  deviceReturned : Bool
  deviceOpens : Bool
  /-- The serial number of the device. -/
  GetSerialNumber : Bytes
  StartGrabbing : Bool
  StopGrabbing : Bool
  /-- A node of the device can be read, or set. -/
  nodeAnswers : Bool

/-- There is no device. -/
def Pylon.nothing : Pylon :=
  { EnumerateDevices := [], CreateDevice := false, instantCamera := none, deviceReturned := false
    deviceOpens := false, GetSerialNumber := [], StartGrabbing := false, StopGrabbing := false
    nodeAnswers := false }

/-- The library finds the device and makes one for an object. -/
def Pylon.Creates (pylon : Pylon) (serialNumber : Bytes) : Prop :=
  isFound pylon.EnumerateDevices serialNumber = true ∧ pylon.CreateDevice = true

/-! ## The camera -/

structure BaslerCCDCamera where
  m_pInstantCamera : Option InstantCamera
  m_online : Bool
  -- which timers run
  m_findCameraTimer : Bool
  m_heartbeatTimer : Bool
  m_ReconnectCameraTimer : Bool
  deriving DecidableEq

namespace BaslerCCDCamera

-- `verifyEncryptCode` of a serial number and an access code
variable (verifyEncryptCode : Bytes → Bytes → Bool) (pylon : Pylon)

/-- `cameraStopGrab`. -/
def cameraStopGrab (self : BaslerCCDCamera) : BaslerCCDCamera :=
  match self.m_pInstantCamera with
  | none => self
  | some camera =>
      if camera.link = .grabbing ∧ pylon.StopGrabbing then
        { self with m_pInstantCamera := some { camera with link := .opened } }
      else self

/-- `cameraStartGrab`. -/
def cameraStartGrab (s : EngineObject BaslerCCDCamera) : BaslerCCDCamera :=
  match s.world.m_pInstantCamera with
  | none => s.world
  | some camera =>
      if camera.link ≠ .detached ∧
          verifyEncryptCode pylon.GetSerialNumber ((s.m_value access_code).toString []) ∧
          pylon.StartGrabbing then
        { s.world with m_pInstantCamera := some { camera with link := .grabbing } }
      else s.world

/-- The end of `findAndInitCamera` and `onReconnectTimerTimeout`, with the device open. -/
def initialised (s : EngineObject BaslerCCDCamera) (camera : InstantCamera) : BaslerCCDCamera :=
  let self := { s.world with m_pInstantCamera := some camera, m_heartbeatTimer := true }
  let self :=
    if (s.m_value (utf8 "enabled")).toBool then
      cameraStartGrab verifyEncryptCode pylon { s with world := self }
    else self
  { self with m_online := true }

/-- `findAndInitCamera`; an exception destroys the object there is. -/
def findAndInitCamera (s : EngineObject BaslerCCDCamera) (serialNumber : Bytes) :
    Bool × BaslerCCDCamera :=
  if ¬ isFound pylon.EnumerateDevices serialNumber then (false, s.world)
  else if ¬ pylon.CreateDevice then (false, s.world)
  else
    match pylon.instantCamera with
    | none => (false, { s.world with m_pInstantCamera := none })
    | some address =>
        (true, initialised verifyEncryptCode pylon s { address := address, link := .opened })

/-- `onSerialNumberChange`. -/
def onSerialNumberChange (s : EngineObject BaslerCCDCamera) (val old : Bytes) (trusted : Bool) :
    Bool × BaslerCCDCamera :=
  if val = old then (true, s.world)
  else
    let self := { s.world with m_findCameraTimer := false, m_ReconnectCameraTimer := false }
    let (result, self) := findAndInitCamera verifyEncryptCode pylon { s with world := self } val
    if result then (true, self)
    else if trusted then (true, { self with m_findCameraTimer := true })
    else (false, self)

/-- The value of a node of the device. -/
def nodeChange (s : EngineObject BaslerCCDCamera) (trusted : Bool) : Bool :=
  match s.world.m_pInstantCamera with
  | none => trusted
  | some _ => pylon.nodeAnswers

def onGainRawChange := nodeChange pylon
def onExposeTimeChange := nodeChange pylon

def setters : CameraSetters BaslerCCDCamera where
  onStarted := cameraStartGrab verifyEncryptCode pylon
  onStopped s := cameraStopGrab pylon s.world
  onSerialNumberChange := onSerialNumberChange verifyEncryptCode pylon
  onGainRawChange := onGainRawChange pylon
  onExposeTimeChange := onExposeTimeChange pylon

/-- `onFindTimerTimeout`; the timer is a single-shot one. -/
def onFindTimerTimeout (s : EngineObject BaslerCCDCamera) : BaslerCCDCamera :=
  if s.world.m_findCameraTimer then
    let self := { s.world with m_findCameraTimer := false }
    let (result, self) := findAndInitCamera verifyEncryptCode pylon { s with world := self }
      ((s.m_value serial_number).toString [])
    if result then self else { self with m_findCameraTimer := true }
  else s.world

/-- `onHeartbeatTimerTimeout`. -/
def onHeartbeatTimerTimeout (self : BaslerCCDCamera) : Option BaslerCCDCamera :=
  if self.m_heartbeatTimer then
    match self.m_pInstantCamera with
    | none => none
    | some _ =>
        if pylon.nodeAnswers then some self
        else
          some { self with
            m_online := false, m_heartbeatTimer := false, m_ReconnectCameraTimer := true }
  else some self

/-- `onReconnectTimerTimeout`; the timer is a single-shot one. -/
def onReconnectTimerTimeout (s : EngineObject BaslerCCDCamera) : Option BaslerCCDCamera :=
  if s.world.m_ReconnectCameraTimer then
    match s.world.m_pInstantCamera with
    | none => none
    | some camera =>
        let self := { s.world with m_ReconnectCameraTimer := false }
        if pylon.deviceReturned then
          if pylon.deviceOpens then
            some (initialised verifyEncryptCode pylon { s with world := self }
              { camera with link := .opened })
          else
            some { self with
              m_pInstantCamera := some { camera with link := .attached }
              m_ReconnectCameraTimer := true }
        else
          some { self with
            m_pInstantCamera := some { camera with link := .detached }
            m_ReconnectCameraTimer := true }
  else some s.world

/-- `OnCameraDeviceRemoved`. -/
def OnCameraDeviceRemoved (self : BaslerCCDCamera) : BaslerCCDCamera :=
  { self with m_online := false, m_ReconnectCameraTimer := true }

/-! ## Runs -/

/-- What happens to a camera. -/
inductive Event where
  | setAttr (key : Bytes) (value : Json) (trusted : Bool)
  | onFindTimerTimeout
  | onHeartbeatTimerTimeout
  | onReconnectTimerTimeout
  | OnCameraDeviceRemoved
  /-- The device drops off the network. -/
  | lost

def step (s : EngineObject BaslerCCDCamera) (e : Pylon × Event) :
    Option (EngineObject BaslerCCDCamera) :=
  let after (world : BaslerCCDCamera) := { s with world := world }
  match e.2 with
  | .setAttr key value trusted =>
      some (BaseLib.setAttr (cameraClass (setters verifyEncryptCode e.1)).attrList s key value
        trusted).2
  | .onFindTimerTimeout => some (after (onFindTimerTimeout verifyEncryptCode e.1 s))
  | .onHeartbeatTimerTimeout => (onHeartbeatTimerTimeout e.1 s.world).map after
  | .onReconnectTimerTimeout => (onReconnectTimerTimeout verifyEncryptCode e.1 s).map after
  | .OnCameraDeviceRemoved => some (after (OnCameraDeviceRemoved s.world))
  | .lost =>
      some (after { s.world with
        m_pInstantCamera := s.world.m_pInstantCamera.map fun camera =>
          { camera with link := if camera.link = .detached then .detached else .attached } })

/-- A camera as it is constructed. -/
def start : EngineObject BaslerCCDCamera :=
  (cameraClass (setters verifyEncryptCode .nothing)).constructed
    { m_pInstantCamera := none, m_online := false, m_findCameraTimer := false
      m_heartbeatTimer := false, m_ReconnectCameraTimer := false }

/-- A camera after these events, each with what the library answers. -/
def reached (events : List (Pylon × Event)) : Option (EngineObject BaslerCCDCamera) :=
  events.foldlM (step verifyEncryptCode) (start verifyEncryptCode)

theorem reached_serialText {events : List (Pylon × Event)} {s : EngineObject BaslerCCDCamera}
    (ran : reached verifyEncryptCode events = some s) : SerialText s := by
  refine Loop.foldlM_keeps (P := SerialText) ?_ (serialText_constructed _ _) ran
  intro s e s' text done
  obtain ⟨pylon, event⟩ := e
  cases event with
  | setAttr key value trusted =>
      obtain rfl := Option.some.inj done
      exact serialText_setAttr _ text key value trusted
  | onFindTimerTimeout =>
      obtain rfl := Option.some.inj done
      exact text
  | onHeartbeatTimerTimeout =>
      obtain ⟨world, -, rfl⟩ := Option.map_eq_some_iff.mp done
      exact text
  | onReconnectTimerTimeout =>
      obtain ⟨world, -, rfl⟩ := Option.map_eq_some_iff.mp done
      exact text
  | OnCameraDeviceRemoved =>
      obtain rfl := Option.some.inj done
      exact text
  | lost =>
      obtain rfl := Option.some.inj done
      exact text

/-! ## A refused serial number -/

/-- What a search that fails leaves. -/
theorem findAndInitCamera_failed {s : EngineObject BaslerCCDCamera} {serialNumber : Bytes}
    {after : BaslerCCDCamera}
    (failed : findAndInitCamera verifyEncryptCode pylon s serialNumber = (false, after)) :
    ¬ pylon.Creates serialNumber ∧ after = s.world ∨
      pylon.Creates serialNumber ∧ after = { s.world with m_pInstantCamera := none } := by
  unfold findAndInitCamera at failed
  split at failed
  next missing => exact .inl ⟨fun creates => missing creates.1, (Prod.mk.inj failed).2.symm⟩
  next found =>
      split at failed
      next refused => exact .inl ⟨fun creates => refused creates.2, (Prod.mk.inj failed).2.symm⟩
      next made =>
          split at failed
          next =>
              exact .inr ⟨⟨not_not.mp found, not_not.mp made⟩, (Prod.mk.inj failed).2.symm⟩
          next => cases failed

/-- Nothing is stopped or destroyed for the new device: neither timer runs, and there is no object
or no device is made for a new one. -/
def Idle (self : BaslerCCDCamera) (pylon : Pylon) (val : Bytes) : Prop :=
  (self.m_findCameraTimer = false ∧ self.m_ReconnectCameraTimer = false) ∧
    (self.m_pInstantCamera = none ∨ ¬ pylon.Creates val)

/-- All a refused change does. -/
theorem onSerialNumberChange_cases {s : EngineObject BaslerCCDCamera} {val old : Bytes}
    {after : BaslerCCDCamera}
    (refused : onSerialNumberChange verifyEncryptCode pylon s val old false = (false, after)) :
    let quiet := { s.world with m_findCameraTimer := false, m_ReconnectCameraTimer := false }
    ¬ pylon.Creates val ∧ after = quiet ∨
      pylon.Creates val ∧ after = { quiet with m_pInstantCamera := none } := by
  intro quiet
  unfold onSerialNumberChange at refused
  split at refused
  next => cases refused
  next =>
      cases searched : findAndInitCamera verifyEncryptCode pylon { s with world := quiet } val with
      | mk found self =>
          cases found with
          | true => simp [quiet, searched] at refused
          | false =>
              obtain rfl : self = after := by simpa [quiet, searched] using refused
              exact findAndInitCamera_failed verifyEncryptCode pylon searched

/-- **A refused serial number leaves the camera as it was** exactly where there was nothing to
stop or to destroy. -/
theorem onSerialNumberChange_refused {s : EngineObject BaslerCCDCamera} {val old : Bytes}
    {after : BaslerCCDCamera}
    (refused : onSerialNumberChange verifyEncryptCode pylon s val old false = (false, after)) :
    after = s.world ↔ s.world.Idle pylon val := by
  have changes := onSerialNumberChange_cases verifyEncryptCode pylon refused
  obtain ⟨m_value, m_pInstantCamera, m_online, find, heartbeat, reconnect⟩ := s
  dsimp only at changes
  constructor
  · rintro rfl
    rcases changes with ⟨none_made, same⟩ | ⟨-, same⟩
    · obtain ⟨-, -, find, -, reconnect⟩ := BaslerCCDCamera.mk.inj same
      exact ⟨⟨find, reconnect⟩, .inr none_made⟩
    · obtain ⟨gone, -, find, -, reconnect⟩ := BaslerCCDCamera.mk.inj same
      exact ⟨⟨find, reconnect⟩, .inl gone⟩
  · rintro ⟨⟨quiet, waiting⟩, nothing⟩
    dsimp only at quiet waiting nothing
    rcases changes with ⟨-, rfl⟩ | ⟨made, rfl⟩
    · rw [quiet, waiting]
    · rcases nothing with gone | none_made
      · rw [quiet, waiting, gone]
      · exact absurd made none_made

end BaslerCCDCamera

end IsgConsole.ImgSrc
