/-
# IasCore.PatchCoreInference — anomalies, with a model for every camera
-/
import IsgConsole.IasCore.BaseAiInference

namespace IsgConsole.IasCore

open IsgConsole.Theory IsgConsole.BaseLib IsgConsole.Inspector IsgConsole.Theory.Json

set_option autoImplicit false

structure PatchCoreInference where
  m_camera_map : Int → Option PatchCore

namespace PatchCoreInference

/-- The entry of a defect region. -/
def pos_infoObj (patchcore_result : PatchCoreResult) : Json :=
  let points := pointArray patchcore_result.ltx patchcore_result.lty patchcore_result.rbx
    patchcore_result.rby
  .objectOf
    [(utf8 "id", int 0),
     (utf8 "moduleId", int 1),
     (utf8 "draw", .array [drawJson points (utf8 "FF0000")]),
     (utf8 "result", int 0),
     (utf8 "params", .object [])]

/-- The list of entries of a picture. -/
def pos_infoArray (patchcore_result : PatchCoreResult) : List Json :=
  if patchcore_result.result then [] else [pos_infoObj patchcore_result]

/-- `PatchCoreInference::infer`. -/
def infer (self : PatchCoreInference) (qt : QtJson) (ids : List Int) (images : List Mat) :
    Option (List BaseAIResult) :=
  if 1 < ids.length then some (BaseAIResult.refuse ids)
  else do
    let id ← ids.head?
    match self.m_camera_map id with
    | none => return [{ BaseAIResult.start with m_result := false }]
    | some patchCore =>
        let patchcore_result := patchCore images
        return List.replicate ids.length
          { m_result := patchcore_result.result
            m_position_info := positionInfo qt (pos_infoArray patchcore_result)
            m_isg_info := [] }

end PatchCoreInference

end IsgConsole.IasCore
