/-
# ImgSrc.SerialNumber — a serial number no device is found for

Once the console runs, a serial number is refused if its device is not found.  The attribute keeps
the old number, but the setters have stopped the search for its device by then, and that of
`DahuaCamera` has closed it (`refused_serial_number`).
-/
import IsgConsole.ImgSrc.BaslerCCDCamera
import IsgConsole.ImgSrc.DahuaCamera

namespace IsgConsole.ImgSrc

open IsgConsole.Theory IsgConsole.BaseLib

set_option autoImplicit false

/-- **A refused serial number leaves the camera as it was**, after any run and whatever the library
answers, exactly where it is no text or there was nothing to stop, to close or to destroy. -/
theorem refused_serial_number (verifyEncryptCode : Bytes → Bytes → Bool) :
    (∀ (events : List (Imv × DahuaCamera.Event)) (imv : Imv) (value : Json)
      (after : EngineObject DahuaCamera),
      let before := DahuaCamera.reached verifyEncryptCode events
      let setters := DahuaCamera.setters verifyEncryptCode imv
      setAttr (cameraClass setters).attrList before serial_number value false = (false, after) →
      (after.world = before.world ↔
        jsonType value ≠ .String ∨ before.world.Idle imv (value.toString []))) ∧
    ∀ (events : List (Pylon × BaslerCCDCamera.Event)) (pylon : Pylon) (value : Json)
      (before after : EngineObject BaslerCCDCamera),
      BaslerCCDCamera.reached verifyEncryptCode events = some before →
      let setters := BaslerCCDCamera.setters verifyEncryptCode pylon
      setAttr (cameraClass setters).attrList before serial_number value false = (false, after) →
      (after.world = before.world ↔
        jsonType value ≠ .String ∨ before.world.Idle pylon (value.toString [])) := by
  constructor
  · intro events imv value after before setters refused
    refine serial_refused_iff (DahuaCamera.reached_serialText _ events) refused ?_
    intro old w changed
    exact DahuaCamera.onSerialNumberChange_refused verifyEncryptCode imv changed
  · intro events pylon value before after ran setters refused
    refine serial_refused_iff (BaslerCCDCamera.reached_serialText _ ran) refused ?_
    intro old w changed
    exact BaslerCCDCamera.onSerialNumberChange_refused verifyEncryptCode pylon changed

/-! ## Two cameras and a wrong number -/

/-- The library finds one device, which opens. -/
def oneDevice : Imv :=
  { Imv.nothing with
    enumDevices := some [utf8 "4K01"], createHandle := some 1, openDevice := true }

/-- The start of a `DahuaCamera` with its device. -/
def dahuaStart : List (Imv × DahuaCamera.Event) :=
  [(oneDevice, .setAttr serial_number (.string (utf8 "4K01")) true)]

/-- The start of a `BaslerCCDCamera` without. -/
def baslerStart : List (Pylon × BaslerCCDCamera.Event) :=
  [(.nothing, .setAttr serial_number (.string (utf8 "2133")) true)]

/-- No access code is right. -/
def locked : Bytes → Bytes → Bool := fun _ _ => false

/-- A refused number closes the device of the first camera, which stays online, and ends the search
of the second. -/
theorem wrong_number_closes :
    let dahua := DahuaCamera.reached locked dahuaStart
    let refused := setAttr (cameraClass (DahuaCamera.setters locked oneDevice)).attrList dahua
      serial_number (.string (utf8 "4K02")) false
    (refused.1 = false ∧
      dahua.world.m_Imv_Handle = some { address := 1, link := .opened } ∧
      refused.2.world = { dahua.world with m_Imv_Handle := none } ∧ dahua.world.m_online = true) ∧
    ∃ basler, BaslerCCDCamera.reached locked baslerStart = some basler ∧
      basler.world.m_findCameraTimer = true ∧
      let refused := setAttr (cameraClass (BaslerCCDCamera.setters locked .nothing)).attrList basler
        serial_number (.string (utf8 "2134")) false
      refused.1 = false ∧ refused.2.world.m_findCameraTimer = false := by
  refine ⟨by decide +kernel, _, rfl, by decide +kernel⟩

end IsgConsole.ImgSrc
