/-
# BaseLib.QtJson — what the program relies on of Qt's JSON classes

`QJsonDocument` and `QString` are Qt's.  `QtJson` is what the program uses of them, as a
parameter that carries the documented behaviour the results rest on; `QtJson.reference` is
the reader and writer of `Theory.Json`, so the behaviour is that of an actual codec.
-/
import IsgConsole.Theory.Json.Held
import IsgConsole.Theory.Json.Line

namespace IsgConsole.BaseLib

open IsgConsole.Theory IsgConsole.Theory.Json

set_option autoImplicit false

structure QtJson where
  /-- The `double` of a number, printed; `none` where it is not finite. -/
  round : Decimal → Option Decimal
  /-- Integers of 53 bits are exact. -/
  round_int : ∀ n : Int, -2 ^ 53 ≤ n → n ≤ 2 ^ 53 → round (.ofInt n) = some (.ofInt n)
  /-- `QJsonDocument(v).toJson(format)`. -/
  toJson : Format → Json → Bytes
  /-- `QJsonDocument::fromJson(text)`; `none` is the null document. -/
  fromJson : Bytes → Option Json
  /-- `QString::fromStdString(text).toLocal8Bit()`, under the codec `main` installs. -/
  toLocal8Bit : Bytes → Bytes
  /-- `QString::fromLocal8Bit`, under that codec. -/
  fromLocal8Bit : Bytes → Bytes
  /-- Reading undoes writing, of what a `QJsonValue` holds: members in key order, and `double`s. -/
  fromJson_toJson : ∀ format v, v.isDocument → fromJson (toJson format v) = some (v.held round)
  /-- What is read is in `QJsonValue`s. -/
  fromJson_held : ∀ text v, fromJson text = some v → isHeld round v = true
  /-- The text of an array starts with its bracket, and such a text holds an array. -/
  toJson_array : ∀ format vs, ∃ rest, toJson format (.array vs) = lbracket :: rest
  fromJson_bracket : ∀ rest v, fromJson (lbracket :: rest) = some v → ∃ vs, v = .array vs
  /-- A compact text is one line that begins with no blank. -/
  toJson_line : ∀ v, ∃ c text, toJson .Compact (.array [v]) = lbracket :: c :: (text ++ [rbracket]) ∧
    0x20 < c ∧ Line text
  /-- A value of ASCII strings is written in ASCII. -/
  toJson_ascii : ∀ format v, AsciiValue v → Ascii (toJson format v)
  /-- The local codec keeps ASCII bytes where they stand. -/
  toLocal8Bit_nil : toLocal8Bit [] = []
  toLocal8Bit_ascii : ∀ b rest, b < 0x80 → toLocal8Bit (b :: rest) = b :: toLocal8Bit rest
  /-- ASCII texts are read as they are, and what is read of a line is one. -/
  fromLocal8Bit_ascii : ∀ bs, Ascii bs → fromLocal8Bit bs = bs
  fromLocal8Bit_line : ∀ bs, 0x0A ∉ bs → 0x0A ∉ fromLocal8Bit bs

namespace QtJson

variable (qt : QtJson)

/-- An ASCII text passes the local codec unchanged. -/
theorem toLocal8Bit_of_ascii {bs : Bytes} (ascii : Ascii bs) : qt.toLocal8Bit bs = bs := by
  induction bs with
  | nil => exact qt.toLocal8Bit_nil
  | cons b bs ih =>
      have later := ih fun c member => ascii c (List.mem_cons_of_mem _ member)
      rw [qt.toLocal8Bit_ascii b bs (ascii b List.mem_cons_self), later]

/-- `QJsonDocument::object()` of a text: empty unless the document is an object. -/
def object (text : Bytes) : JsonObject :=
  match qt.fromJson text with
  | some v => v.toObject
  | none => []

/-- `object()` of an array document is the empty object, in any encoding of its strings. -/
theorem object_array (format : Format) (vs : List Json) :
    qt.object (qt.toLocal8Bit (qt.toJson format (.array vs))) = [] := by
  obtain ⟨rest, text⟩ := qt.toJson_array format vs
  rw [text, qt.toLocal8Bit_ascii _ _ (by decide), object]
  cases read : qt.fromJson (lbracket :: qt.toLocal8Bit rest) with
  | none => rfl
  | some v =>
      obtain ⟨ws, rfl⟩ := qt.fromJson_bracket _ _ read
      rfl

theorem object_toJson (format : Format) (ms : JsonObject) :
    qt.object (qt.toJson format (.object ms)) = (held qt.round (.object ms)).toObject := by
  rw [object, qt.fromJson_toJson format _ rfl]

/-- A value that a `QJsonValue` holds as it is. -/
def Holds (v : Json) : Prop := isHeld qt.round v = true

instance (v : Json) : Decidable (qt.Holds v) := inferInstanceAs (Decidable (_ = true))

theorem holds_int {n : Int} (above : -2 ^ 53 ≤ n) (below : n ≤ 2 ^ 53) : qt.Holds (int n) :=
  decide_eq_true (qt.round_int n above below)

/-- The object of a text is one of them. -/
theorem holds_object (text : Bytes) : qt.Holds (.object (qt.object text)) := by
  unfold object
  cases read : qt.fromJson text with
  | none => rfl
  | some v =>
      have holds := qt.fromJson_held text v read
      cases v with
      | object ms => exact holds
      | _ => rfl

/-- **Such a value is read as it was written.** -/
theorem fromJson_of_holds (format : Format) {v : Json} (document : v.isDocument)
    (holds : qt.Holds v) : qt.fromJson (qt.toJson format v) = some v := by
  rw [qt.fromJson_toJson format v document, held_of_isHeld _ holds]

theorem object_of_holds (format : Format) {ms : JsonObject} (holds : qt.Holds (.object ms)) :
    qt.object (qt.toJson format (.object ms)) = ms := by
  rw [object_toJson, held_of_isHeld _ holds]
  rfl

/-- The codec of `Theory.Json` with exact numbers, and a local codec that leaves every byte as it
is. -/
def reference : QtJson where
  round := some
  round_int _ _ _ := rfl
  toJson := Json.toJson
  fromJson text := (Json.fromJson text).map (held some)
  toLocal8Bit := id
  fromLocal8Bit := id
  fromJson_toJson format _ document := by rw [Json.fromJson_toJson format document]; rfl
  fromJson_held text v read := by
    obtain ⟨w, -, rfl⟩ := Option.map_eq_some_iff.mp read
    exact isHeld_held (fun _ _ same => same ▸ rfl) w
  toJson_array := toJson_bracket
  fromJson_bracket rest v read := by
    obtain ⟨w, found, rfl⟩ := Option.map_eq_some_iff.mp read
    obtain ⟨vs, rfl⟩ := Json.fromJson_bracket found
    exact ⟨_, rfl⟩
  toJson_line v := by
    obtain ⟨c, text, head, ink⟩ := print_head v
    have line := print_line v
    rw [head] at line
    refine ⟨c, text, ?_, ink, (List.forall_mem_cons.mp line).2⟩
    show lbracket :: (print .compact v ++ [rbracket]) = _
    rw [head]
    rfl
  toJson_ascii format _ ascii := Json.toJson_ascii format ascii
  toLocal8Bit_nil := rfl
  toLocal8Bit_ascii _ _ _ := rfl
  fromLocal8Bit_ascii _ _ := rfl
  fromLocal8Bit_line _ line := line

end QtJson

end IsgConsole.BaseLib
