/-
# Theory.Expiry — clock readings, ages and tables whose entries run out of time

A clock is read as a signed 64-bit number and time stamps are unsigned, so an age is computed
modulo `2 ^ 64`.

* `elapsed_exact_iff` — when the age is the difference;
* `le_elapsed_iff_iff`, `lt_elapsed_iff_iff` — when a comparison with it says what the sum of time
  stamp and limit says;
* `Reclaims` — a scan of a table takes out what is due, and nothing else;
* `reclaims_iff_of_scan` — when a scan that stops at the first due entry does.
-/
import IsgConsole.Theory.Machine

namespace IsgConsole.Theory.Expiry

set_option autoImplicit false

/-! ## Ages -/

section Ages

variable (clock : Int64) (timeStamp limit : UInt64)

/-- The age of a time stamp: the clock reading is converted, and the difference wraps. -/
def elapsed : UInt64 := clock.toUInt64 - timeStamp

/-- The age is the difference of the two readings. -/
def Exact : Prop := ((elapsed clock timeStamp).toNat : Int) = clock.toInt - timeStamp.toNat

instance : Decidable (Exact clock timeStamp) :=
  inferInstanceAs (Decidable (_ = _))

/-- The limit is over, by the sum of time stamp and limit. -/
def Expired : Prop := (timeStamp.toNat + limit.toNat : Int) ≤ clock.toInt

instance : Decidable (Expired clock timeStamp limit) :=
  inferInstanceAs (Decidable ((timeStamp.toNat + limit.toNat : Int) ≤ clock.toInt))

theorem toNat_elapsed :
    ((elapsed clock timeStamp).toNat : Int) = (clock.toInt - timeStamp.toNat) % 2 ^ 64 := by
  have reading : clock.toInt = clock.toBitVec.toInt := rfl
  have word : clock.toUInt64.toNat = clock.toBitVec.toNat := rfl
  have signed := BitVec.toInt_eq_toNat_cond clock.toBitVec
  have bound := clock.toBitVec.isLt
  have stampBound := timeStamp.toNat_lt
  rw [elapsed, UInt64.toNat_sub, reading, word, signed]
  split <;> omega

theorem elapsed_of_past (past : (timeStamp.toNat : Int) ≤ clock.toInt) :
    ((elapsed clock timeStamp).toNat : Int) = clock.toInt - timeStamp.toNat := by
  have bound : clock.toInt < 2 ^ 63 := Int64.toInt_lt clock
  rw [toNat_elapsed]
  omega

theorem elapsed_exact_iff :
    Exact clock timeStamp ↔ (timeStamp.toNat : Int) ≤ clock.toInt := by
  constructor
  · intro exact
    have positive := Int.natCast_nonneg (elapsed clock timeStamp).toNat
    unfold Exact at exact
    omega
  · exact elapsed_of_past clock timeStamp

/-- The limit is reached: by the sum, unless the time stamp is ahead of the clock. -/
theorem le_elapsed_of_past (past : (timeStamp.toNat : Int) ≤ clock.toInt) :
    limit ≤ elapsed clock timeStamp ↔ Expired clock timeStamp limit := by
  have age := elapsed_of_past clock timeStamp past
  rw [UInt64.le_iff_toNat_le, Expired]
  omega

theorem lt_elapsed_of_past (past : (timeStamp.toNat : Int) ≤ clock.toInt) :
    limit < elapsed clock timeStamp ↔ (timeStamp.toNat + limit.toNat : Int) < clock.toInt := by
  have age := elapsed_of_past clock timeStamp past
  rw [UInt64.lt_iff_toNat_lt]
  omega

/-- **When the comparison with the age is right.**  A time stamp ahead of the clock passes for an
old one, unless the wrapped age falls short of the limit. -/
theorem le_elapsed_iff_iff :
    (limit ≤ elapsed clock timeStamp ↔ Expired clock timeStamp limit) ↔
      ((timeStamp.toNat : Int) ≤ clock.toInt ∨
        (clock.toInt - timeStamp.toNat) % 2 ^ 64 < limit.toNat) := by
  by_cases past : (timeStamp.toNat : Int) ≤ clock.toInt
  · exact iff_of_true (le_elapsed_of_past clock timeStamp limit past) (.inl past)
  · rw [UInt64.le_iff_toNat_le, ← toNat_elapsed, Expired]
    omega

theorem lt_elapsed_iff_iff :
    (limit < elapsed clock timeStamp ↔ (timeStamp.toNat + limit.toNat : Int) < clock.toInt) ↔
      ((timeStamp.toNat : Int) ≤ clock.toInt ∨
        (clock.toInt - timeStamp.toNat) % 2 ^ 64 ≤ limit.toNat) := by
  by_cases past : (timeStamp.toNat : Int) ≤ clock.toInt
  · exact iff_of_true (lt_elapsed_of_past clock timeStamp limit past) (.inl past)
  · rw [UInt64.lt_iff_toNat_lt, ← toNat_elapsed]
    omega

end Ages

/-! ## Scans of a table -/

section Scans

variable {K V : Type} [DecidableEq K] {due : V → Prop} {before after : Hash K V}

/-- Every due entry is gone, and every other one is where it was. -/
structure Reclaims (due : V → Prop) (before after : Hash K V) : Prop where
  gone : ∀ key v, after.lookup key = some v → ¬ due v
  kept : ∀ key v, before.lookup key = some v → ¬ due v → after.lookup key = some v

/-- At most one entry is due, and it is stored under the key it names. -/
def LoneDue (due : V → Prop) (own : V → K) (table : Hash K V) : Prop :=
  ∀ key v, table.lookup key = some v → due v →
    own v = key ∧ ∀ key' v', table.lookup key' = some v' → due v' → key' = key

/-- A scan that found nothing due and changed nothing. -/
theorem reclaims_self (none : ∀ key v, before.lookup key = some v → ¬ due v) :
    Reclaims due before before :=
  ⟨none, fun _ _ held _ => held⟩

/-- A scan that stops at a due entry removes what is stored under the key the entry names. -/
structure Takes (due : V → Prop) (own : V → K) (before : Hash K V) (key : K) (v : V)
    (after : Hash K V) : Prop where
  held : before.lookup key = some v
  isDue : due v
  removed : after.lookup (own v) = none
  /-- An entry under a foreign key stays due where it is. -/
  stays : own v ≠ key → ∃ v', after.lookup key = some v' ∧ due v'
  others : ∀ key', key' ≠ own v → key' ≠ key → after.lookup key' = before.lookup key'

/-- **A scan that stops at the first due entry reclaims all** when there is no other. -/
theorem reclaims_iff_of_takes {own : V → K} {key : K} {v : V}
    (takes : Takes due own before key v after) :
    Reclaims due before after ↔ LoneDue due own before := by
  constructor
  · intro reclaims
    have home : own v = key := by
      by_contra foreign
      obtain ⟨v', still, dueStill⟩ := takes.stays foreign
      exact reclaims.gone key v' still dueStill
    have only : ∀ key' v', before.lookup key' = some v' → due v' → key' = key := by
      intro key' v' held' due'
      by_contra other
      have same := takes.others key' (home ▸ other) other
      exact reclaims.gone key' v' (same.trans held') due'
    intro key₁ v₁ held₁ due₁
    obtain rfl := only key₁ v₁ held₁ due₁
    obtain rfl : v = v₁ := Option.some.inj (takes.held.symm.trans held₁)
    exact ⟨home, only⟩
  · intro lone
    obtain ⟨home, only⟩ := lone key v takes.held takes.isDue
    constructor
    · intro key' v' found due'
      by_cases same : key' = key
      · rw [same, ← home, takes.removed] at found
        cases found
      · rw [takes.others key' (home ▸ same) same] at found
        exact same (only key' v' found due')
    · intro key' v' held' young
      have apart : key' ≠ key := by
        rintro rfl
        obtain rfl : v = v' := Option.some.inj (takes.held.symm.trans held')
        exact young takes.isDue
      rw [takes.others key' (home ▸ apart) apart, held']

/-- A scan that changes nothing where nothing is due, or stops at the first due entry. -/
theorem reclaims_iff_of_scan {own : V → K}
    (scan : after = before ∧ (∀ key v, before.lookup key = some v → ¬ due v) ∨
      ∃ key v, Takes due own before key v after) :
    Reclaims due before after ↔ LoneDue due own before := by
  rcases scan with ⟨rfl, none⟩ | ⟨_, _, takes⟩
  · exact iff_of_true (reclaims_self none) fun key v held isDue => absurd isDue (none key v held)
  · exact reclaims_iff_of_takes takes

end Scans

end IsgConsole.Theory.Expiry
