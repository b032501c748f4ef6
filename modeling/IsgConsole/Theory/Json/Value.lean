/-
# Theory.Json.Value — JSON values

The values of RFC 8259.  Strings and keys are UTF-8 byte strings, numbers are exact
decimals in normal form (`Decimal`), and an object is the list of its members; where
a key stands twice the later member counts (`value`).  `insert` keeps the members in
key order and replaces the member it finds.

The accessors (`toObject`, `toArray`, `at`, `toInt`, ..) are total: a value of another
kind reads as the empty object, the empty array, a default.
-/
import Mathlib.Data.List.Induction
import IsgConsole.Theory.Bytes

namespace IsgConsole.Theory

set_option autoImplicit false

/-- The UTF-8 bytes of a literal. -/
def utf8 (s : String) : Bytes := s.toUTF8.data.toList

theorem utf8_injective : Function.Injective utf8 := by
  intro s t same
  have bytes : s.toUTF8 = t.toUTF8 := ByteArray.ext (Array.ext' same)
  exact String.toByteArray_inj.mp bytes

/-! ## Numbers -/

/-- `mantissa · 10 ^ (-scale)` with the fewest digits behind the point. -/
structure Decimal where
  mantissa : Int
  scale : Nat
  normal : scale = 0 ∨ mantissa % 10 ≠ 0
  deriving DecidableEq

namespace Decimal

def ofInt (n : Int) : Decimal := ⟨n, 0, .inl rfl⟩

/-- Drop trailing zeros behind the point. -/
def strip : Int → Nat → Decimal
  | m, 0 => ⟨m, 0, .inl rfl⟩
  | m, s + 1 => if zero : m % 10 = 0 then strip (m / 10) s else ⟨m, s + 1, .inr zero⟩

theorem strip_normal (d : Decimal) : strip d.mantissa d.scale = d := by
  obtain ⟨m, s, normal⟩ := d
  cases s with
  | zero => rfl
  | succ s =>
      have digit : m % 10 ≠ 0 := normal.resolve_left (Nat.succ_ne_zero s)
      simp only [strip, dif_neg digit]

/-- `mantissa · 10 ^ exponent`. -/
def ofExponent (mantissa exponent : Int) : Decimal :=
  if 0 ≤ exponent then ofInt (mantissa * 10 ^ exponent.toNat) else strip mantissa (-exponent).toNat

theorem ofExponent_self (d : Decimal) : ofExponent d.mantissa (-(d.scale : Int)) = d := by
  by_cases whole : d.scale = 0
  · obtain ⟨m, s, normal⟩ := d
    simp only at whole
    subst whole
    simp [ofExponent, ofInt]
  · have negative : ¬ (0 : Int) ≤ -(d.scale : Int) := by omega
    rw [ofExponent, if_neg negative]
    simpa using strip_normal d

/-- The value as an `int`, when it is one. -/
def toInt? (d : Decimal) : Option Int :=
  if d.scale = 0 ∧ -2 ^ 31 ≤ d.mantissa ∧ d.mantissa < 2 ^ 31 then some d.mantissa else none

end Decimal

/-! ## Values -/

inductive Json where
  | null
  | bool (b : Bool)
  | number (d : Decimal)
  | string (s : Bytes)
  | array (elements : List Json)
  | object (members : List (Bytes × Json))

/-- The members of an object. -/
abbrev JsonObject := List (Bytes × Json)

namespace JsonObject

/-- The member a key names; the last one when it stands twice. -/
def value (key : Bytes) : JsonObject → Option Json
  | [] => none
  | (k, v) :: members =>
      match value key members with
      | some later => some later
      | none => if k = key then some v else none

/-- Put a member in key order in front of the first larger key. -/
def place (key : Bytes) (v : Json) : JsonObject → JsonObject
  | [] => [(key, v)]
  | (k, w) :: members =>
      if key < k then (key, v) :: (k, w) :: members else (k, w) :: place key v members

def insert (key : Bytes) (v : Json) (members : JsonObject) : JsonObject :=
  place key v (members.filter fun m => m.1 ≠ key)

theorem value_eq_none {key : Bytes} {members : JsonObject} (fresh : ∀ m ∈ members, m.1 ≠ key) :
    value key members = none := by
  induction members with
  | nil => rfl
  | cons m members ih =>
      obtain ⟨k, v⟩ := m
      have rest := ih fun m later => fresh m (List.mem_cons_of_mem _ later)
      simp only [value, rest, if_neg (fresh (k, v) List.mem_cons_self)]

theorem value_place_self {key : Bytes} {v : Json} {members : JsonObject}
    (fresh : ∀ m ∈ members, m.1 ≠ key) : value key (place key v members) = some v := by
  induction members with
  | nil => simp [place, value]
  | cons m members ih =>
      obtain ⟨k, w⟩ := m
      by_cases before : key < k
      · rw [place, if_pos before, value, value_eq_none fresh]
        simp
      · rw [place, if_neg before, value, ih fun m later => fresh m (List.mem_cons_of_mem _ later)]

theorem value_place_other {key other : Bytes} {v : Json} {members : JsonObject}
    (ne : key ≠ other) : value other (place key v members) = value other members := by
  induction members with
  | nil => simp [place, value, ne]
  | cons m members ih =>
      obtain ⟨k, w⟩ := m
      by_cases before : key < k
      · rw [place, if_pos before, value]
        cases found : value other ((k, w) :: members) with
        | none => simp [ne]
        | some u => rfl
      · rw [place, if_neg before, value, ih, value]

theorem value_filter_other {key other : Bytes} {members : JsonObject} (ne : key ≠ other) :
    value other (members.filter fun m => m.1 ≠ key) = value other members := by
  induction members with
  | nil => rfl
  | cons m members ih =>
      obtain ⟨k, w⟩ := m
      by_cases same : k = key
      · subst same
        simp only [List.filter_cons, ne_eq, not_true_eq_false, decide_false, Bool.false_eq_true,
          if_false, value, if_neg ne]
        rw [ih]
        cases value other members <;> rfl
      · simp only [List.filter_cons, ne_eq, same, not_false_eq_true, decide_true, if_true, value]
        rw [ih]

@[simp] theorem value_insert_self (key : Bytes) (v : Json) (members : JsonObject) :
    value key (insert key v members) = some v := by
  apply value_place_self
  intro m kept
  simpa using (List.mem_filter.mp kept).2

theorem value_insert_other {key other : Bytes} (v : Json) (members : JsonObject)
    (ne : key ≠ other) : value other (insert key v members) = value other members := by
  rw [insert, value_place_other ne, value_filter_other ne]

/-- These members, inserted in this order. -/
def ofInserts (members : List (Bytes × Json)) : JsonObject :=
  members.foldl (fun object m => insert m.1 m.2 object) []

theorem insert_ne_nil (key : Bytes) (v : Json) (members : JsonObject) :
    insert key v members ≠ [] := by
  intro empty
  have found := value_insert_self key v members
  rw [empty] at found
  cases found

theorem mem_place {key : Bytes} {v : Json} {members : JsonObject} {m : Bytes × Json}
    (there : m ∈ place key v members) : m = (key, v) ∨ m ∈ members := by
  induction members with
  | nil => exact .inl (List.mem_singleton.mp there)
  | cons head members ih =>
      obtain ⟨k, w⟩ := head
      rw [place] at there
      split at there
      · exact List.mem_cons.mp there
      · rcases List.mem_cons.mp there with rfl | later
        · exact .inr List.mem_cons_self
        · exact (ih later).imp_right (List.mem_cons_of_mem _)

theorem ofInserts_concat (members : List (Bytes × Json)) (m : Bytes × Json) :
    ofInserts (members.concat m) = insert m.1 m.2 (ofInserts members) := by
  simp only [ofInserts, List.concat_eq_append, List.foldl_append, List.foldl_cons, List.foldl_nil]

theorem value_concat (key : Bytes) (members : JsonObject) (m : Bytes × Json) :
    value key (members.concat m) = if m.1 = key then some m.2 else value key members := by
  induction members with
  | nil => rfl
  | cons head members ih =>
      rw [List.concat_cons, value, ih, value]
      by_cases same : m.1 = key
      · rw [if_pos same, if_pos same]
      · rw [if_neg same, if_neg same]

/-- Inserting keeps the last value of every key. -/
theorem value_ofInserts (key : Bytes) (members : List (Bytes × Json)) :
    value key (ofInserts members) = value key members := by
  induction members using List.reverseRecOn with
  | nil => rfl
  | append_singleton members m ih =>
      rw [← List.concat_eq_append, ofInserts_concat, value_concat]
      by_cases same : m.1 = key
      · rw [if_pos same, ← same, value_insert_self]
      · rw [if_neg same, value_insert_other _ _ same, ih]

/-- Members under keys that tell their values. -/
theorem value_map (f : Bytes → Json) (key : Bytes) (keys : List Bytes) :
    value key (keys.map fun k => (k, f k)) = if key ∈ keys then some (f key) else none := by
  induction keys with
  | nil => rfl
  | cons k keys ih =>
      rw [List.map_cons, value, ih]
      by_cases later : key ∈ keys
      · simp [later]
      · by_cases here : k = key
        · subst here
          simp [later]
        · simp [later, here, Ne.symm here]

theorem mem_ofInserts {members : List (Bytes × Json)} {m : Bytes × Json}
    (there : m ∈ ofInserts members) : m ∈ members := by
  induction members using List.reverseRecOn with
  | nil => cases there
  | append_singleton members last ih =>
      rw [← List.concat_eq_append, ofInserts_concat, insert] at there
      rw [List.mem_append, List.mem_singleton]
      rcases mem_place there with rfl | before
      · exact .inr rfl
      · exact .inl (ih (List.mem_filter.mp before).1)

theorem ofInserts_ne_nil {members : List (Bytes × Json)} (some' : members ≠ []) :
    ofInserts members ≠ [] := by
  obtain ⟨first, last, rfl⟩ := (List.eq_nil_or_concat members).resolve_left some'
  rw [ofInserts_concat]
  exact insert_ne_nil _ _ _

end JsonObject

namespace Json

def toObject : Json → JsonObject
  | object members => members
  | _ => []

def toArray : Json → List Json
  | array elements => elements
  | _ => []

def toInt : Json → Int
  | number d => d.toInt?.getD 0
  | _ => 0

def toBool : Json → Bool
  | bool b => b
  | _ => false

def toString (fallback : Bytes) : Json → Bytes
  | string s => s
  | _ => fallback

/-- An `int` as a JSON number. -/
def int (n : Int) : Json := number (Decimal.ofInt n)

theorem toInt_int (n : Int) : (int n).toInt = if -2 ^ 31 ≤ n ∧ n < 2 ^ 31 then n else 0 := by
  simp only [int, toInt, Decimal.toInt?, Decimal.ofInt, true_and]
  split <;> rfl

/-- The object of these members, inserted in this order. -/
def objectOf (members : List (Bytes × Json)) : Json := object (JsonObject.ofInserts members)

/-- What a whole JSON text may hold: an array or an object. -/
def isDocument : Json → Bool
  | array _ | object _ => true
  | _ => false

end Json

/-- `QJsonValue` of a key that may be missing: missing reads as null. -/
def JsonObject.get (members : JsonObject) (key : Bytes) : Json := (members.value key).getD .null

end IsgConsole.Theory
