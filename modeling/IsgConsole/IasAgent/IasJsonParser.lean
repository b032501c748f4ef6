/-
# IasAgent.IasJsonParser — the fields of an algorithm configuration

Each accessor reads one key of a JSON object; a missing key, or a value that is not an
`int`, reads as the default `QJsonValue::toInt` is given.
-/
import IsgConsole.BaseLib.QtJson

namespace IsgConsole.IasAgent

open IsgConsole.Theory IsgConsole.BaseLib IsgConsole.Theory.Json

set_option autoImplicit false

/-- `QJsonValue::toInt(defaultValue)`. -/
def toIntOr (defaultValue : Int) : Json → Int
  | .number d => d.toInt?.getD defaultValue
  | _ => defaultValue

namespace IasJsonParser

def getMethod (inputJson : JsonObject) : Int := (inputJson.get (utf8 "method")).toInt

def getId (inputJson : JsonObject) : Int := (inputJson.get (utf8 "id")).toInt

def getComponentType (inputJson : JsonObject) : Int :=
  (inputJson.get (utf8 "componentType")).toInt

def getComponentId (inputJson : JsonObject) : Int := (inputJson.get (utf8 "componentId")).toInt

/-- Group 1 unless the configuration says otherwise. -/
def getGroup (inputJson : JsonObject) : Int := toIntOr 1 (inputJson.get (utf8 "group"))

/-- Not a feature item unless the configuration says otherwise. -/
def getFeature (inputJson : JsonObject) : Int := toIntOr 2 (inputJson.get (utf8 "is_feature"))

def getLocateIdX (inputJson : JsonObject) : Int := (inputJson.get (utf8 "locator_x_id")).toInt

def getLocateIdY (inputJson : JsonObject) : Int := (inputJson.get (utf8 "locator_y_id")).toInt

/-- `IasJsonParser::toQString`. -/
def toQString (qt : QtJson) (inputJson : JsonObject) : Bytes :=
  qt.toJson .Indented (.object inputJson)

end IasJsonParser

end IsgConsole.IasAgent
