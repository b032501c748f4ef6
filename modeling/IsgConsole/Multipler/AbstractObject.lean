/-
# Multipler.AbstractObject — what packets and boxes have in common

The statistics of detected objects, and which of them are reported with a picture: one in
every `rate` objects, none when the rate is not positive.
-/
import Mathlib.Data.Int.Notation

namespace IsgConsole.Multipler

set_option autoImplicit false

structure AbstractObject where
  m_detectTotalCount : Int
  m_detectNgCount : Int
  m_originalReportRate : Int
  m_originalReportIndex : Int
  m_binningReportRate : Int
  m_binningReportIndex : Int
  deriving DecidableEq

namespace AbstractObject

/-- `AbstractObject` as it is constructed. -/
def start : AbstractObject :=
  { m_detectTotalCount := 0, m_detectNgCount := 0, m_originalReportRate := 1,
    m_originalReportIndex := 0, m_binningReportRate := 3, m_binningReportIndex := 0 }

/-- `AbstractObject::getStatistic`: read and clear. -/
def getStatistic (s : AbstractObject) : (Int × Int) × AbstractObject :=
  ((s.m_detectTotalCount, s.m_detectNgCount), { s with m_detectTotalCount := 0, m_detectNgCount := 0 })

/-- Whether this object is reported, and the index for the next one. -/
def sample (rate index : Int) : Bool × Int :=
  if rate ≤ 0 then (false, index)
  else if rate ≤ index + 1 then (true, 0)
  else (false, index + 1)

/-- `AbstractObject::orginalReport`. -/
def orginalReport (s : AbstractObject) : Bool × AbstractObject :=
  let (report, index) := sample s.m_originalReportRate s.m_originalReportIndex
  (report, { s with m_originalReportIndex := index })

/-- `AbstractObject::binningReport`. -/
def binningReport (s : AbstractObject) : Bool × AbstractObject :=
  let (report, index) := sample s.m_binningReportRate s.m_binningReportIndex
  (report, { s with m_binningReportIndex := index })

end AbstractObject

end IsgConsole.Multipler
