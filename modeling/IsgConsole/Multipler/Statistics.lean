/-
# Multipler.Statistics — the counters the TCP thread collects

The worker threads count detected, NG and kicked objects in `QAtomicInt`s.  The TCP thread
collects each count by reading the counter and storing zero afterwards: two atomic steps,
between which a worker may count.

With an IO board the packets report its count as their NG count: `CPacketResult::getStatistic`
has read and cleared `m_detectNgCount` by then, and what it read is overwritten.

Values are in a commutative group: `Int32` is the arithmetic of a `QAtomicInt`, `Int` that
of counts which never overflow.
-/
import IsgConsole.Multipler.AbstractObject
import IsgConsole.Theory.ClearOnRead
import Mathlib.Algebra.Order.BigOperators.Group.List
import Mathlib.Algebra.Order.Group.Int

namespace IsgConsole.Multipler

open IsgConsole.Theory IsgConsole.Theory.ClearOnRead

set_option autoImplicit false

instance instAddCommGroupInt32 : AddCommGroup Int32 where
  add_assoc := Int32.add_assoc
  zero_add := Int32.zero_add
  add_zero := Int32.add_zero
  neg_add_cancel := Int32.add_left_neg
  add_comm := Int32.add_comm
  sub_eq_add_neg := Int32.sub_eq_add_neg
  nsmul := nsmulRec
  zsmul := zsmulRec

namespace Statistics

/-- Who counts: the packets or boxes, and the image multiplers by their ids. -/
inductive Owner where
  | objectResult
  | imageMultipler (id : Int)
  deriving DecidableEq

inductive Counter where
  | m_detectTotalCount (owner : Owner)
  | m_detectNgCount (owner : Owner)
  | m_kickCount
  deriving DecidableEq

/-- A call of the TCP thread; `pcpUdpCtrl` is whether there is an IO board then. -/
inductive Call where
  | getStatistic (owner : Owner)
  | packetStatistic (pcpUdpCtrl : Bool)
  | getNGCount
  deriving DecidableEq

variable {M : Type}

/-- `AbstractObject::getStatistic` and `CImageMultipler::getStatistic`; `ng` is whether the NG
count reaches the caller. -/
def getStatistic (owner : Owner) (ng : Bool) : List (Op Counter M) :=
  [.read (.m_detectTotalCount owner) true, .read (.m_detectNgCount owner) ng,
   .clear (.m_detectTotalCount owner), .clear (.m_detectNgCount owner)]

/-- `PCPUdpCtrl::getNGCount`. -/
def getNGCount : List (Op Counter M) := [.read .m_kickCount true, .clear .m_kickCount]

/-- `CPacketResult::getStatistic`: the count of the board overwrites `NgCount`. -/
def packetStatistic (pcpUdpCtrl : Bool) : List (Op Counter M) :=
  if pcpUdpCtrl then getStatistic .objectResult false ++ getNGCount
  else getStatistic .objectResult true

/-- The atomic steps of a call. -/
def Call.steps : Call → List (Op Counter M)
  | .getStatistic owner => Statistics.getStatistic owner true
  | .packetStatistic pcpUdpCtrl => Statistics.packetStatistic pcpUdpCtrl
  | .getNGCount => Statistics.getNGCount

/-- The calls of one `TcpClient::onStatisticReportTimeout`: the packets or the boxes, and every
image multipler. -/
def onStatisticReportTimeout (registared packets pcpUdpCtrl : Bool) (imageMultiplers : List Int) :
    List Call :=
  if registared then
    (if packets then .packetStatistic pcpUdpCtrl else .getStatistic .objectResult) ::
      imageMultiplers.map fun id => .getStatistic (.imageMultipler id)
  else []

/-- The steps of the TCP thread are those of its calls; the workers add in between. -/
def Interleaves (calls : List Call) (run : List (Op Counter M)) : Prop :=
  readerSteps run = calls.flatMap Call.steps

/-- All counters are zero at the start. -/
def start [Zero M] : Counter → M := fun _ => 0

/-- What the calls returned of a counter and what is left in it is what was added. -/
def Conserved [AddCommGroup M] (run : List (Op Counter M)) : Prop :=
  ∀ counter, (valuesOf counter (Machine.outputs step start run)).sum +
    Machine.final step start run counter = (added counter run).sum

/-! ## The reader takes turns -/

theorem inTurn_getStatistic (counter : Counter) (owner : Owner) (ng : Bool)
    (ops : List (Op Counter M)) :
    InTurn counter false (getStatistic owner ng ++ ops) ↔ InTurn counter false ops := by
  show InTurn counter false (.read (.m_detectTotalCount owner) true ::
    .read (.m_detectNgCount owner) ng :: .clear (.m_detectTotalCount owner) ::
    .clear (.m_detectNgCount owner) :: ops) ↔ _
  by_cases total : Counter.m_detectTotalCount owner = counter
  · have other : Counter.m_detectNgCount owner ≠ counter := by
      rw [← total]
      nofun
    simp [InTurn, total, other]
  · by_cases ng : Counter.m_detectNgCount owner = counter
    · simp [InTurn, total, ng]
    · simp [InTurn, total, ng]

theorem inTurn_getNGCount (counter : Counter) (ops : List (Op Counter M)) :
    InTurn counter false (getNGCount ++ ops) ↔ InTurn counter false ops := by
  show InTurn counter false (.read .m_kickCount true :: .clear .m_kickCount :: ops) ↔ _
  by_cases kick : Counter.m_kickCount = counter <;> simp [InTurn, kick]

theorem inTurn_packetStatistic (counter : Counter) (pcpUdpCtrl : Bool)
    (ops : List (Op Counter M)) :
    InTurn counter false (packetStatistic pcpUdpCtrl ++ ops) ↔ InTurn counter false ops := by
  unfold packetStatistic
  cases pcpUdpCtrl with
  | true =>
      rw [if_pos rfl, List.append_assoc, inTurn_getStatistic, inTurn_getNGCount]
  | false => rw [if_neg Bool.false_ne_true, inTurn_getStatistic]

/-- Every call reads a counter before it clears it. -/
theorem inTurn_calls (counter : Counter) (calls : List Call) :
    InTurn counter false (calls.flatMap (Call.steps (M := M))) := by
  induction calls with
  | nil => rfl
  | cons call calls ih =>
      rw [List.flatMap_cons]
      cases call with
      | getStatistic owner => exact (inTurn_getStatistic counter owner true _).mpr ih
      | packetStatistic pcpUdpCtrl => exact (inTurn_packetStatistic counter pcpUdpCtrl _).mpr ih
      | getNGCount => exact (inTurn_getNGCount counter _).mpr ih

/-! ## Any interleaving -/

/-- The amounts added to a counter in a run that no call returns although they are cleared: those
that come between a reading and the clearing, and those whose reading is overwritten. -/
def unreturned (counter : Counter) (run : List (Op Counter M)) : List M :=
  lost counter (.unread []) run

/-- What is added to a counter is returned, is still there, or is returned by no call. -/
theorem balanced [AddCommGroup M] {calls : List Call} {run : List (Op Counter M)}
    (interleaves : Interleaves calls run) (counter : Counter) :
    (valuesOf counter (Machine.outputs step start run)).sum +
      Machine.final step start run counter + (unreturned counter run).sum =
      (added counter run).sum := by
  have inTurn : InTurn counter false run := by
    rw [← inTurn_readerSteps, interleaves]
    exact inTurn_calls counter calls
  rw [unreturned, balance counter run start (.unread []) (fun _ => rfl) inTurn]
  exact zero_add _

/-- **Counts are conserved exactly if the amounts that no call returns come to nothing.** -/
theorem conserved_iff [AddCommGroup M] {calls : List Call} {run : List (Op Counter M)}
    (interleaves : Interleaves calls run) :
    Conserved run ↔ ∀ counter, (unreturned counter run).sum = 0 := by
  constructor
  · intro conserved counter
    have all := balanced interleaves counter
    rw [conserved counter] at all
    exact add_eq_left.mp all
  · intro nothing counter
    have all := balanced interleaves counter
    rw [nothing counter, add_zero] at all
    exact all

/-- Where only positive counts are added, there may be none. -/
theorem conserved_of_positive {calls : List Call} {run : List (Op Counter Int)}
    (interleaves : Interleaves calls run)
    (positive : ∀ counter, ∀ amount ∈ unreturned counter run, 0 < amount) :
    Conserved run ↔ ∀ counter, unreturned counter run = [] := by
  constructor
  · intro conserved counter
    by_contra some
    have more := List.sum_pos _ (positive counter) some
    have all := balanced interleaves counter
    rw [conserved counter] at all
    omega
  · intro nothing counter
    have all := balanced interleaves counter
    rw [nothing counter, List.sum_nil, add_zero] at all
    exact all

/-! ## Without workers in between -/

/-- `getStatistic` on its own is that of `AbstractObject`. -/
theorem getStatistic_alone (s : AbstractObject) (owner : Owner) (memory : Counter → Int)
    (total : memory (.m_detectTotalCount owner) = s.m_detectTotalCount)
    (ng : memory (.m_detectNgCount owner) = s.m_detectNgCount) :
    Machine.outputs step memory (getStatistic owner true) =
        [(.m_detectTotalCount owner, s.getStatistic.1.1),
         (.m_detectNgCount owner, s.getStatistic.1.2)] ∧
      Machine.final step memory (getStatistic owner true) (.m_detectTotalCount owner) =
        s.getStatistic.2.m_detectTotalCount ∧
      Machine.final step memory (getStatistic owner true) (.m_detectNgCount owner) =
        s.getStatistic.2.m_detectNgCount := by
  have cleared : Machine.final step memory (getStatistic owner true) =
      Function.update (Function.update memory (.m_detectTotalCount owner) 0)
        (.m_detectNgCount owner) 0 := rfl
  rw [cleared]
  refine ⟨?_, ?_, ?_⟩
  · show [(Counter.m_detectTotalCount owner, memory _),
      (Counter.m_detectNgCount owner, memory _)] = _
    rw [total, ng]
    rfl
  · rw [Function.update_of_ne (by simp), Function.update_self]
    rfl
  · exact Function.update_self _ _ _

/-! ## A packet in between, and a packet that is kicked -/

/-- The TCP thread reports once; a packet starts when its counter has been read. -/
def packetInBetween : List (Op Counter Int32) :=
  [.read (.m_detectTotalCount .objectResult) true, .read (.m_detectNgCount .objectResult) true,
   .add (.m_detectTotalCount .objectResult) 1,
   .clear (.m_detectTotalCount .objectResult), .clear (.m_detectNgCount .objectResult)]

theorem packetInBetween_interleaves :
    Interleaves (onStatisticReportTimeout true true false []) packetInBetween := rfl

theorem packetInBetween_iff :
    Conserved packetInBetween ↔ ∀ counter, (unreturned counter packetInBetween).sum = 0 :=
  conserved_iff packetInBetween_interleaves

/-- A faulty packet is counted, and the board has not kicked it yet when the TCP thread reports. -/
def packetKicked : List (Op Counter Int32) :=
  .add (.m_detectNgCount .objectResult) 1 :: packetStatistic true

/-- The packet is never reported, and the faulty one not as faulty. -/
theorem packetInBetween_lost :
    (Interleaves (onStatisticReportTimeout true true false []) packetInBetween ∧
      ¬ Conserved packetInBetween) ∧
    (Interleaves (onStatisticReportTimeout true true true []) packetKicked ∧
      ¬ Conserved packetKicked) := by
  refine ⟨⟨packetInBetween_interleaves, ?started⟩, rfl, ?kicked⟩
  case started =>
    intro conserved
    have count := conserved (.m_detectTotalCount .objectResult)
    revert count
    decide
  case kicked =>
    intro conserved
    have count := conserved (.m_detectNgCount .objectResult)
    revert count
    decide

end Statistics

end IsgConsole.Multipler
