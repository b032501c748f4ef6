/-
# ImgSrc.ImageSrcDev — the attributes of a camera

A camera of the network has the attributes of `ImageSrcDev`.  Its class defines the setters of the
serial number, the gain and the exposure time, and what happens as it is enabled or disabled.
-/
import IsgConsole.BaseLib.ObjectAttributes

namespace IsgConsole.ImgSrc

open IsgConsole.Theory IsgConsole.BaseLib IsgConsole.Theory.Json

set_option autoImplicit false

variable {W : Type}

/-- The loop over the devices found on the network. -/
def isFound (devices : List Bytes) (serialNumber : Bytes) : Bool := serialNumber ∈ devices

/-- What the class of a camera overrides. -/
structure CameraSetters (W : Type) extends Switch W where
  onSerialNumberChange : EngineObject W → Bytes → Bytes → Bool → Bool × W
  onGainRawChange : EngineObject W → Bool → Bool
  onExposeTimeChange : EngineObject W → Bool → Bool

def serial_number : Bytes := utf8 "serial_number"
def access_code : Bytes := utf8 "access_code"

def m_serialNumber (setters : CameraSetters W) : Attribute W :=
  { m_key := serial_number, value := .string []
    m_setter := some (.device fun s newValue oldValue trusted =>
      setters.onSerialNumberChange s (newValue.toString []) (oldValue.toString []) trusted) }

/-- The attributes of a camera. -/
def cameraAttributes (setters : CameraSetters W) : List (Attribute W) :=
  engineAttributes setters.toSwitch [] none ++
  [m_serialNumber setters,
   { m_key := access_code, value := .string [] },
   { m_key := utf8 "gain", value := int (-1)
     m_setter := some (.device fun s _ _ trusted =>
      (setters.onGainRawChange s trusted, s.world)) },
   { m_key := utf8 "exposure_time", value := int (-1)
     m_setter := some (.device fun s _ _ trusted =>
      (setters.onExposeTimeChange s trusted, s.world)) },
   { m_key := utf8 "image_save_strategy", value := int 0 },
   { m_key := utf8 "image_save_sample", value := int 10 },
   { m_key := utf8 "image_save_format", value := .string (utf8 "JPG") },
   { m_key := utf8 "capture_compensation_ms", value := int 0 }]

theorem cameraAttributes_plain (setters : CameraSetters W) :
    ∀ a ∈ cameraAttributes setters, a.isPlain = true := by
  simp [cameraAttributes, engineAttributes, m_serialNumber, Attribute.isPlain, enabledSetter]

/-- The class of a camera. -/
def cameraClass (setters : CameraSetters W) : EngineClass W :=
  .ofPlain (cameraAttributes setters)
    (distinct_of_keys ["enabled", "name", "serial_number", "access_code", "gain",
      "exposure_time", "image_save_strategy", "image_save_sample", "image_save_format",
      "capture_compensation_ms"] rfl (by decide))
    (cameraAttributes_plain setters)

theorem serialNumber_own (setters : CameraSetters W) :
    m_serialNumber setters ∈ (cameraClass setters).attrList :=
  List.mem_append_right _ List.mem_cons_self

/-- The serial number of a camera is a text. -/
def SerialText (s : EngineObject W) : Prop := jsonType (s.m_value serial_number) = .String

theorem serialText_constructed (setters : CameraSetters W) (world : W) :
    SerialText ((cameraClass setters).constructed world) := by
  unfold SerialText
  rw [show serial_number = (m_serialNumber setters).m_key from rfl,
    EngineClass.constructed_value (serialNumber_own setters)]
  rfl

theorem serialText_setAttr (setters : CameraSetters W) {s : EngineObject W} (text : SerialText s)
    (key : Bytes) (value : Json) (trusted : Bool) :
    SerialText (setAttr (cameraClass setters).attrList s key value trusted).2 := by
  unfold SerialText
  rw [jsonType_setAttr]
  · exact text
  · intro a own
    exact Attribute.plain_iff.mpr (cameraAttributes_plain setters a own)

/-- A new serial number. -/
theorem setAttr_serial (setters : CameraSetters W) {s : EngineObject W} (text : SerialText s)
    (value : Json) (trusted : Bool) :
    setAttr (cameraClass setters).attrList s serial_number value trusted =
      if jsonType value = .String then
        let changed := setters.onSerialNumberChange s (value.toString [])
          ((s.m_value serial_number).toString []) trusted
        if changed.1 then (true, { s with world := changed.2 }.put serial_number value)
        else (false, { s with world := changed.2 })
      else (false, s) := by
  have stored : jsonType (s.m_value serial_number) = .String := text
  have set : setAttr (cameraClass setters).attrList s serial_number value trusted =
      (m_serialNumber setters).setValue s value trusted :=
    EngineClass.setAttr_own (serialNumber_own setters) s value trusted
  rw [set]
  by_cases string : jsonType value = .String
  · simp [Attribute.setValue, m_serialNumber, Setter.run, stored, string]
    rfl
  · simp [Attribute.setValue, m_serialNumber, stored, string]

/-- What a refused serial number can be. -/
theorem serial_refused {setters : CameraSetters W} {s s' : EngineObject W} (text : SerialText s)
    {value : Json} {trusted : Bool}
    (refused : setAttr (cameraClass setters).attrList s serial_number value trusted = (false, s')) :
    jsonType value ≠ .String ∧ s'.world = s.world ∨
      jsonType value = .String ∧
        setters.onSerialNumberChange s (value.toString []) ((s.m_value serial_number).toString [])
          trusted = (false, s'.world) := by
  rw [setAttr_serial setters text] at refused
  split at refused
  next string =>
      right
      refine ⟨string, ?_⟩
      dsimp only at refused
      split at refused
      next => cases refused
      next no =>
          obtain ⟨-, rfl⟩ := Prod.mk.inj refused
          exact Prod.ext (by simpa using no) rfl
  next other =>
      left
      obtain ⟨-, rfl⟩ := Prod.mk.inj refused
      exact ⟨other, rfl⟩

/-- A refused serial number leaves the camera as it was if it is no text, or if the setter does. -/
theorem serial_refused_iff {setters : CameraSetters W} {s s' : EngineObject W} (text : SerialText s)
    {value : Json} {trusted : Bool} {Kept : Prop}
    (refused : setAttr (cameraClass setters).attrList s serial_number value trusted = (false, s'))
    (kept : ∀ old w, setters.onSerialNumberChange s (value.toString []) old trusted = (false, w) →
      (w = s.world ↔ Kept)) :
    s'.world = s.world ↔ jsonType value ≠ .String ∨ Kept := by
  rcases serial_refused text refused with ⟨other, same⟩ | ⟨string, changed⟩
  · exact iff_of_true same (.inl other)
  · rw [kept _ _ changed]
    constructor
    · exact .inr
    · rintro (other | kept)
      · exact absurd string other
      · exact kept

end IsgConsole.ImgSrc
