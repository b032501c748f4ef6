/-
# IOCtrl.ModbusCtrl — registers under decimal addresses

An address is a text with a number: its ten-thousands name one of four tables and the rest a register
from 1 to 1024.  `setIOValue` and `getIOValue` check that a register is not behind the last one, and
hand the others to the server, whose answer they do not look at; a register 0, or one of a negative
number, comes to it as one behind the last.

The server is one over the map `init` gives it, and which number a text is, is a parameter.

* `setIOValue_store` — what is set is read, and nothing else changes;
* `run_register` — a register over many calls;
* `stores_iff` — **at which addresses the registers are a store.**
-/
import Mathlib.Data.List.Induction
import Mathlib.Logic.Function.Basic
import IsgConsole.Theory.Json.Value

namespace IsgConsole.IOCtrl.ModbusCtrl

open IsgConsole.Theory

set_option autoImplicit false

/-! ## The server -/

/-- The registers of a table. -/
def REGISTER_MAX_SIZE : Nat := 1024

/-- `QModbusDataUnit::RegisterType`, as far as `init` maps it. -/
inductive RegisterType where
  | Coils
  | DiscreteInputs
  | InputRegisters
  | HoldingRegisters
  deriving DecidableEq

/-- The registers `init` maps: the addresses from 0 up, in each table. -/
abbrev Registers := RegisterType → Fin REGISTER_MAX_SIZE → UInt16

/-- One register replaced. -/
def Registers.put (s : Registers) (table : RegisterType) (register : Fin REGISTER_MAX_SIZE)
    (data : UInt16) : Registers :=
  Function.update s table (Function.update (s table) register data)

/-- `QModbusServer::setData`. -/
def setData (s : Registers) (table : RegisterType) (address data : UInt16) : Bool × Registers :=
  if mapped : address.toNat < REGISTER_MAX_SIZE then
    (true, s.put table ⟨address.toNat, mapped⟩ data)
  else (false, s)

/-- `QModbusServer::data`: whether it succeeds, and what it leaves in `val`. -/
def data (s : Registers) (table : RegisterType) (address val : UInt16) : Bool × UInt16 :=
  if mapped : address.toNat < REGISTER_MAX_SIZE then (true, s table ⟨address.toNat, mapped⟩)
  else (false, val)

/-! ## `ModbusCtrl` -/

def ADDR_OUTPUT_BIT : Int := 0
def ADDR_INPUT_BIT : Int := 1
def ADDR_INPUT_REGISTER : Int := 3
def ADDR_OUTPUT_REGISTER : Int := 4

/-- The table for an `ADDR_TYPE`. -/
def tableOf (AddrType : Int) : Option RegisterType :=
  if AddrType = ADDR_OUTPUT_BIT then some .Coils
  else if AddrType = ADDR_INPUT_BIT then some .DiscreteInputs
  else if AddrType = ADDR_INPUT_REGISTER then some .InputRegisters
  else if AddrType = ADDR_OUTPUT_REGISTER then some .HoldingRegisters
  else none

section Control

-- `QString::toInt`
variable (toInt : Bytes → Int)

/-- `ModbusCtrl::setIOValue`. -/
def setIOValue (s : Registers) (IOAddr : Bytes) (value : Int) : Bool × Registers :=
  let AddrType := (toInt IOAddr).tdiv 10000
  let addr := (toInt IOAddr).tmod 10000 - 1
  if addr ≥ REGISTER_MAX_SIZE then (false, s)
  else
    match tableOf AddrType with
    | some table => (true, (setData s table (UInt16.ofInt addr) (UInt16.ofInt value)).2)
    | none => (false, s)

/-- `ModbusCtrl::getIOValue`; `val` is what it finds in its variable, which has no value yet. -/
def getIOValue (val : UInt16) (s : Registers) (IOAddr : Bytes) : Int :=
  let AddrType := (toInt IOAddr).tdiv 10000
  let addr := (toInt IOAddr).tmod 10000 - 1
  if addr ≥ REGISTER_MAX_SIZE then 0
  else
    match tableOf AddrType with
    | some table => (data s table (UInt16.ofInt addr) val).2.toNat
    | none => 0

end Control

/-! ## Addresses -/

/-- The ten-thousands of the addresses of a table. -/
def RegisterType.number : RegisterType → Int
  | .Coils => 0
  | .DiscreteInputs => 1
  | .InputRegisters => 3
  | .HoldingRegisters => 4

/-- The address of a register; they are counted from one. -/
def addressOf (table : RegisterType) (register : Fin REGISTER_MAX_SIZE) : Int :=
  table.number * 10000 + (register + 1)

/-- The address of some register. -/
def Denotes (address : Int) : Prop := ∃ table register, address = addressOf table register

/-- An address in front of the first register of a table. -/
def Before (address : Int) : Prop :=
  (-9999 ≤ address ∧ address ≤ 0) ∨ address = 10000 ∨ address = 30000 ∨ address = 40000

theorem number_tableOf {AddrType : Int} {table : RegisterType} :
    tableOf AddrType = some table ↔ AddrType = table.number := by
  constructor
  · intro found
    unfold tableOf at found
    split_ifs at found <;>
      (cases found; assumption)
  · rintro rfl
    cases table <;> rfl

/-- The parts of an address: the rest has its sign. -/
theorem parts (address : Int) :
    address = 10000 * address.tdiv 10000 + address.tmod 10000 ∧
      (0 ≤ address → 0 ≤ address.tmod 10000 ∧ address.tmod 10000 < 10000) ∧
      (address < 0 → -10000 < address.tmod 10000 ∧ address.tmod 10000 ≤ 0) := by
  refine ⟨(Int.mul_tdiv_add_tmod address 10000).symm, fun start => ?_, fun negative => ?_⟩
  · rw [Int.tmod_eq_emod_of_nonneg start]
    omega
  · obtain ⟨positive, rfl⟩ : ∃ positive, address = -positive := ⟨-address, by omega⟩
    rw [Int.neg_tmod, Int.tmod_eq_emod_of_nonneg (by omega)]
    omega

theorem parts_addressOf (table : RegisterType) (register : Fin REGISTER_MAX_SIZE) :
    (addressOf table register).tdiv 10000 = table.number ∧
      (addressOf table register).tmod 10000 - 1 = register := by
  have whole : 0 ≤ table.number := by cases table <;> decide
  have small : (register : Nat) < 1024 := register.isLt
  obtain ⟨split, positive, -⟩ := parts (addressOf table register)
  rw [addressOf] at split positive ⊢
  omega

/-- The check of the register passes, and there is a table: the address of a register, or one in
front of the first. -/
theorem denotes_or_before {address : Int} {table : RegisterType}
    (checked : ¬ address.tmod 10000 - 1 ≥ REGISTER_MAX_SIZE)
    (found : tableOf (address.tdiv 10000) = some table) : Denotes address ∨ Before address := by
  have number := number_tableOf.mp found
  obtain ⟨split, positive, negative⟩ := parts address
  unfold REGISTER_MAX_SIZE at checked
  by_cases first : 1 ≤ address.tmod 10000
  · left
    refine ⟨table, ⟨(address.tmod 10000 - 1).toNat, ?_⟩, ?_⟩
    · unfold REGISTER_MAX_SIZE
      omega
    · rw [addressOf, ← number]
      dsimp only
      omega
  · right
    unfold Before
    cases table <;> simp only [RegisterType.number] at number <;> omega

theorem before_parts {address : Int} (before : Before address) :
    (-10000 ≤ address.tmod 10000 - 1 ∧ address.tmod 10000 - 1 < 0) ∧
      ∃ table, tableOf (address.tdiv 10000) = some table := by
  obtain ⟨split, positive, negative⟩ := parts address
  have number : ∀ table : RegisterType, address.tdiv 10000 = table.number →
      ∃ table, tableOf (address.tdiv 10000) = some table := fun table same =>
    ⟨table, number_tableOf.mpr same⟩
  rcases before with ⟨low, high⟩ | rfl | rfl | rfl
  · exact ⟨by omega, number .Coils (by simp only [RegisterType.number]; omega)⟩
  · exact ⟨by decide, number .DiscreteInputs rfl⟩
  · exact ⟨by decide, number .InputRegisters rfl⟩
  · exact ⟨by decide, number .HoldingRegisters rfl⟩

theorem not_denotes_of_before {address : Int} (before : Before address) : ¬ Denotes address := by
  rintro ⟨table, register, rfl⟩
  have negative := (before_parts before).1.2
  rw [(parts_addressOf table register).2] at negative
  omega

/-! ## Single calls -/

section Calls

variable {toInt : Bytes → Int} {s : Registers} {IOAddr : Bytes} {table : RegisterType}
variable {register : Fin REGISTER_MAX_SIZE}

/-- The server finds the register. -/
theorem mapped_ofInt (register : Fin REGISTER_MAX_SIZE) :
    ∃ mapped : (UInt16.ofInt register).toNat < REGISTER_MAX_SIZE,
      (⟨(UInt16.ofInt register).toNat, mapped⟩ : Fin REGISTER_MAX_SIZE) = register := by
  have small : (register : Nat) < 1024 := register.isLt
  have same : (UInt16.ofInt register).toNat = register := by
    rw [UInt16.ofInt, UInt16.toNat_ofNat']
    omega
  exact ⟨same.trans_lt register.isLt, Fin.ext same⟩

/-- A negative address is one behind the last register. -/
theorem unmapped_ofInt {address : Int} (low : -10000 ≤ address) (negative : address < 0) :
    ¬ (UInt16.ofInt address).toNat < REGISTER_MAX_SIZE := by
  unfold REGISTER_MAX_SIZE
  rw [UInt16.ofInt, UInt16.toNat_ofNat']
  omega

theorem setIOValue_register (denotes : toInt IOAddr = addressOf table register) (value : Int) :
    setIOValue toInt s IOAddr value = (true, s.put table register (UInt16.ofInt value)) := by
  obtain ⟨number, index⟩ := parts_addressOf table register
  obtain ⟨mapped, same⟩ := mapped_ofInt register
  have small : ¬ (register : Int) ≥ REGISTER_MAX_SIZE := by
    have inside := register.isLt
    omega
  simp only [setIOValue, denotes, number, index, if_neg small, number_tableOf.mpr rfl, setData,
    dif_pos mapped, same]

theorem getIOValue_register (denotes : toInt IOAddr = addressOf table register) (val : UInt16) :
    getIOValue toInt val s IOAddr = (s table register).toNat := by
  obtain ⟨number, index⟩ := parts_addressOf table register
  obtain ⟨mapped, same⟩ := mapped_ofInt register
  have small : ¬ (register : Int) ≥ REGISTER_MAX_SIZE := by
    have inside := register.isLt
    omega
  simp only [getIOValue, denotes, number, index, if_neg small, number_tableOf.mpr rfl, data,
    dif_pos mapped, same]

/-- The server refuses, and the call succeeds. -/
theorem setIOValue_before (before : Before (toInt IOAddr)) (value : Int) :
    setIOValue toInt s IOAddr value = (true, s) := by
  obtain ⟨⟨low, negative⟩, table, found⟩ := before_parts before
  have small : ¬ (toInt IOAddr).tmod 10000 - 1 ≥ REGISTER_MAX_SIZE := by omega
  simp only [setIOValue, if_neg small, found, setData, dif_neg (unmapped_ofInt low negative)]

/-- What is read there is what was in the variable. -/
theorem getIOValue_before (before : Before (toInt IOAddr)) (val : UInt16) :
    getIOValue toInt val s IOAddr = val.toNat := by
  obtain ⟨⟨low, negative⟩, table, found⟩ := before_parts before
  have small : ¬ (toInt IOAddr).tmod 10000 - 1 ≥ REGISTER_MAX_SIZE := by omega
  simp only [getIOValue, if_neg small, found, data, dif_neg (unmapped_ofInt low negative)]

theorem refused (nowhere : ¬ Denotes (toInt IOAddr)) (behind : ¬ Before (toInt IOAddr))
    (value : Int) (val : UInt16) :
    setIOValue toInt s IOAddr value = (false, s) ∧ getIOValue toInt val s IOAddr = 0 := by
  by_cases checked : (toInt IOAddr).tmod 10000 - 1 ≥ REGISTER_MAX_SIZE
  · simp only [setIOValue, getIOValue, if_pos checked, and_self]
  · have none' : tableOf ((toInt IOAddr).tdiv 10000) = none := by
      cases found : tableOf ((toInt IOAddr).tdiv 10000) with
      | none => rfl
      | some table =>
          rcases denotes_or_before checked found with denotes | before
          · exact absurd denotes nowhere
          · exact absurd before behind
    simp only [setIOValue, getIOValue, if_neg checked, none', and_self]

end Calls

/-! ## Many calls -/

theorem addressOf_injective {table table' : RegisterType} {register register' : Fin REGISTER_MAX_SIZE}
    (same : addressOf table register = addressOf table' register') :
    table = table' ∧ register = register' := by
  obtain ⟨number, index⟩ := parts_addressOf table register
  obtain ⟨number', index'⟩ := parts_addressOf table' register'
  rw [same, number'] at number
  rw [same, index'] at index
  refine ⟨Option.some.inj ?_, Fin.ext (by omega)⟩
  rw [← number_tableOf.mpr rfl, ← number, number_tableOf.mpr rfl]

theorem put_apply (s : Registers) (table table' : RegisterType)
    (register register' : Fin REGISTER_MAX_SIZE) (data : UInt16) :
    s.put table register data table' register' =
      if table' = table ∧ register' = register then data else s table' register' := by
  unfold Registers.put
  by_cases here : table' = table
  · subst here
    rw [Function.update_self, Function.update_apply]
    simp
  · rw [Function.update_of_ne here, if_neg fun this => here this.1]

/-- A call of `setIOValue` sets the register with its address, if there is one. -/
theorem setIOValue_apply (toInt : Bytes → Int) (s : Registers) (IOAddr : Bytes) (value : Int)
    (table : RegisterType) (register : Fin REGISTER_MAX_SIZE) :
    (setIOValue toInt s IOAddr value).2 table register =
      if toInt IOAddr = addressOf table register then UInt16.ofInt value
      else s table register := by
  by_cases denotes : Denotes (toInt IOAddr)
  · obtain ⟨table', register', address⟩ := denotes
    rw [setIOValue_register address]
    dsimp only
    rw [put_apply, address]
    refine if_congr ⟨?_, fun same => ?_⟩ rfl rfl
    · rintro ⟨rfl, rfl⟩
      rfl
    · obtain ⟨rfl, rfl⟩ := addressOf_injective same
      exact ⟨rfl, rfl⟩
  · rw [if_neg fun address => denotes ⟨table, register, address⟩]
    by_cases before : Before (toInt IOAddr)
    · rw [setIOValue_before before]
    · rw [(refused denotes before value 0).1]

/-- **A register behind any calls** holds the last value it was set to. -/
theorem run_register (toInt : Bytes → Int) (calls : List (Bytes × Int)) (s : Registers)
    (table : RegisterType) (register : Fin REGISTER_MAX_SIZE) :
    (calls.foldl (fun s call => (setIOValue toInt s call.1 call.2).2) s) table register =
      match calls.reverse.find? fun call => toInt call.1 = addressOf table register with
      | some call => UInt16.ofInt call.2
      | none => s table register := by
  induction calls using List.reverseRecOn with
  | nil => rfl
  | append_singleton calls call ih =>
      rw [List.foldl_append, List.foldl_cons, List.foldl_nil, setIOValue_apply, ih,
        List.reverse_append, List.reverse_singleton, List.singleton_append, List.find?_cons]
      by_cases own : toInt call.1 = addressOf table register
      · rw [if_pos own, decide_eq_true own]
      · rw [if_neg own, decide_eq_false own]

/-! ## A store -/

/-- What a call is to do: it succeeds at the addresses of registers, where the value is read
afterwards and every other register is as before; elsewhere nothing changes and zero is read. -/
structure Stores (toInt : Bytes → Int) (val : UInt16) (s : Registers) (IOAddr : Bytes)
    (value : Int) : Prop where
  succeeds : (setIOValue toInt s IOAddr value).1 = true ↔ Denotes (toInt IOAddr)
  stored : ∀ table register, toInt IOAddr = addressOf table register →
    getIOValue toInt val (setIOValue toInt s IOAddr value).2 IOAddr = value % 65536
  others : ∀ table register, toInt IOAddr ≠ addressOf table register →
    (setIOValue toInt s IOAddr value).2 table register = s table register
  elsewhere : ¬ Denotes (toInt IOAddr) → (setIOValue toInt s IOAddr value).2 = s ∧
    getIOValue toInt val s IOAddr = 0

/-- **At which addresses the registers are a store**: at all but those in front of a table, whatever
the registers hold. -/
theorem stores_iff (toInt : Bytes → Int) (val : UInt16) (s : Registers) (IOAddr : Bytes)
    (value : Int) : Stores toInt val s IOAddr value ↔ ¬ Before (toInt IOAddr) := by
  constructor
  · intro stores before
    have succeeded : (setIOValue toInt s IOAddr value).1 = true := by rw [setIOValue_before before]
    exact not_denotes_of_before before (stores.succeeds.mp succeeded)
  · intro behind
    refine ⟨⟨fun succeeded => ?_, ?_⟩, ?_, ?_, fun nowhere => ?_⟩
    · by_contra nowhere
      rw [(refused nowhere behind value val).1] at succeeded
      cases succeeded
    · rintro ⟨table, register, address⟩
      rw [setIOValue_register address]
    · intro table register address
      rw [getIOValue_register address, setIOValue_apply, if_pos address, UInt16.ofInt,
        UInt16.toNat_ofNat']
      omega
    · intro table register other
      rw [setIOValue_apply, if_neg other]
    · obtain ⟨unset, unread⟩ := refused (s := s) nowhere behind value val
      exact ⟨by rw [unset], unread⟩

/-- The number of a text of digits. -/
def digitsToInt (text : Bytes) : Int := text.foldl (fun n digit => 10 * n + (digit.toNat - 48)) 0

/-- Register zero of the inputs: the call succeeds and sets nothing, and a seven that was in the
variable is read. -/
theorem register_zero_succeeds :
    setIOValue digitsToInt (fun _ _ => 0) (utf8 "10000") 1 = (true, fun _ _ => 0) ∧
      getIOValue digitsToInt 7 (fun _ _ => 0) (utf8 "10000") = 7 ∧
      ¬ Stores digitsToInt 7 (fun _ _ => 0) (utf8 "10000") 1 := by
  have before : Before (digitsToInt (utf8 "10000")) := .inr (.inl (by decide +kernel))
  refine ⟨setIOValue_before before 1, getIOValue_before before 7, fun stores => ?_⟩
  have none' := stores.elsewhere (not_denotes_of_before before)
  rw [getIOValue_before before 7] at none'
  exact absurd none'.2 (by decide)

end IsgConsole.IOCtrl.ModbusCtrl
