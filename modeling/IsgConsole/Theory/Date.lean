/-
# Theory.Date — dates, counted and written down

A `Date` is one of the Gregorian calendar from the first day of the year 1 on.  `number` counts the
days in front of it, and `ofNumber` finds the date again.  Written with as many digits for every
part, year first, dates are ordered as their texts are.

* `number_lt_iff` — an earlier date has fewer days in front of it;
* `number_ofNumber`, `number_addDays` — dates of some days earlier or later;
* `text_lt_iff` — **texts are ordered as dates are**, whatever stands between the parts.
-/
import Mathlib.Data.List.Lex
import IsgConsole.Theory.Json.Print

namespace IsgConsole.Theory

open Json

set_option autoImplicit false

/-! ## The calendar -/

def isLeapYear (year : Nat) : Bool :=
  year % 4 = 0 ∧ (year % 100 ≠ 0 ∨ year % 400 = 0)

/-- The days of a month; of a number that is none, none. -/
def daysInMonth (year : Nat) : Nat → Nat
  | 1 | 3 | 5 | 7 | 8 | 10 | 12 => 31
  | 4 | 6 | 9 | 11 => 30
  | 2 => if isLeapYear year then 29 else 28
  | _ => 0

/-- The days of the months in front of one. -/
def daysBeforeMonth (year : Nat) : Nat → Nat
  | 0 => 0
  | month + 1 => daysBeforeMonth year month + daysInMonth year month

def daysInYear (year : Nat) : Nat := daysBeforeMonth year 13

/-- The days of the years in front of one, from the year 1. -/
def daysBeforeYear : Nat → Nat
  | 0 | 1 => 0
  | year + 2 => daysBeforeYear (year + 1) + daysInYear (year + 1)

@[ext]
structure Date where
  year : Nat
  month : Nat
  day : Nat
  year_pos : 1 ≤ year
  month_pos : 1 ≤ month
  month_le : month ≤ 12
  day_pos : 1 ≤ day
  day_le : day ≤ daysInMonth year month

theorem daysInMonth_pos (year : Nat) {month : Nat} (first : 1 ≤ month) (last : month ≤ 12) :
    1 ≤ daysInMonth year month := by
  interval_cases month <;> simp only [daysInMonth] <;> first | omega | (split <;> omega)

theorem daysBeforeMonth_mono (year : Nat) {month month' : Nat} (le : month ≤ month') :
    daysBeforeMonth year month ≤ daysBeforeMonth year month' := by
  induction le with
  | refl => exact le_rfl
  | step _ ih => exact ih.trans (Nat.le_add_right _ _)

theorem daysBeforeYear_mono {year year' : Nat} (le : year ≤ year') :
    daysBeforeYear year ≤ daysBeforeYear year' := by
  induction le with
  | refl => exact le_rfl
  | @step later le ih =>
      cases later with
      | zero => exact ih
      | succ later => exact ih.trans (Nat.le_add_right _ _)

namespace Date

/-- The days in front of a date. -/
def number (d : Date) : Nat :=
  daysBeforeYear d.year + daysBeforeMonth d.year d.month + (d.day - 1)

/-- One date is in front of another. -/
def Before (d e : Date) : Prop :=
  d.year < e.year ∨ d.year = e.year ∧ (d.month < e.month ∨ d.month = e.month ∧ d.day < e.day)

theorem number_in_year (d : Date) :
    d.number < daysBeforeYear d.year + daysInYear d.year := by
  have day := d.day_le
  have pos := d.day_pos
  have month : daysBeforeMonth d.year (d.month + 1) ≤ daysInYear d.year :=
    daysBeforeMonth_mono d.year (Nat.succ_le_succ d.month_le)
  have step : daysBeforeMonth d.year (d.month + 1) =
      daysBeforeMonth d.year d.month + daysInMonth d.year d.month := rfl
  unfold number
  omega

theorem number_lt_of_before {d e : Date} (before : d.Before e) : d.number < e.number := by
  rcases before with year | ⟨year, month | ⟨month, day⟩⟩
  · have last := d.number_in_year
    have next : daysBeforeYear (d.year + 1) = daysBeforeYear d.year + daysInYear d.year := by
      obtain ⟨y, same⟩ := Nat.exists_eq_add_of_le' d.year_pos
      rw [same]
      rfl
    have le := daysBeforeYear_mono (Nat.succ_le_of_lt year)
    simp only [Nat.succ_eq_add_one] at le
    unfold number at *
    omega
  · have le := daysBeforeMonth_mono e.year (Nat.succ_le_of_lt month)
    have step : daysBeforeMonth e.year (d.month + 1) =
        daysBeforeMonth e.year d.month + daysInMonth e.year d.month := rfl
    have day := d.day_le
    have pos := d.day_pos
    unfold number
    rw [year] at day ⊢
    simp only [Nat.succ_eq_add_one] at le
    omega
  · have pos := d.day_pos
    unfold number
    rw [year, month]
    omega

theorem before_trichotomy (d e : Date) : d.Before e ∨ d = e ∨ e.Before d := by
  unfold Before
  rcases lt_trichotomy d.year e.year with year | year | year
  · exact .inl (.inl year)
  · rcases lt_trichotomy d.month e.month with month | month | month
    · exact .inl (.inr ⟨year, .inl month⟩)
    · rcases lt_trichotomy d.day e.day with day | day | day
      · exact .inl (.inr ⟨year, .inr ⟨month, day⟩⟩)
      · exact .inr (.inl (Date.ext year month day))
      · exact .inr (.inr (.inr ⟨year.symm, .inr ⟨month.symm, day⟩⟩))
    · exact .inr (.inr (.inr ⟨year.symm, .inl month⟩))
  · exact .inr (.inr (.inl year))

/-- **An earlier date has fewer days in front of it.** -/
theorem number_lt_iff {d e : Date} : d.number < e.number ↔ d.Before e := by
  refine ⟨fun less => ?_, number_lt_of_before⟩
  rcases before_trichotomy d e with before | rfl | behind
  · exact before
  · exact absurd less (lt_irrefl _)
  · exact absurd (number_lt_of_before behind) (lt_asymm less)

theorem year_le_of_before {d e : Date} (before : d.Before e) : d.year ≤ e.year := by
  rcases before with year | ⟨year, -⟩
  · exact year.le
  · exact year.le

/-! ## Days later -/

def first : Date where
  year := 1
  month := 1
  day := 1
  year_pos := le_rfl
  month_pos := le_rfl
  month_le := by decide
  day_pos := le_rfl
  day_le := by decide

/-- The next day. -/
def next (d : Date) : Date :=
  if inside : d.day < daysInMonth d.year d.month then
    { d with day := d.day + 1, day_pos := Nat.le_add_left 1 d.day, day_le := inside }
  else if more : d.month < 12 then
    { year := d.year, month := d.month + 1, day := 1
      year_pos := d.year_pos, month_pos := Nat.le_add_left 1 d.month, month_le := more
      day_pos := le_rfl
      day_le := daysInMonth_pos d.year (Nat.le_add_left 1 d.month) more }
  else
    { year := d.year + 1, month := 1, day := 1
      year_pos := Nat.le_add_left 1 d.year, month_pos := le_rfl, month_le := by decide
      day_pos := le_rfl, day_le := daysInMonth_pos _ le_rfl (by decide) }

theorem number_next (d : Date) : d.next.number = d.number + 1 := by
  have pos := d.day_pos
  have le := d.day_le
  unfold next
  split
  next inside =>
    simp only [number]
    omega
  next outside =>
    split
    next more =>
      have step : daysBeforeMonth d.year (d.month + 1) =
          daysBeforeMonth d.year d.month + daysInMonth d.year d.month := rfl
      simp only [number, step]
      omega
    next last =>
      have month : d.month = 12 := by
        have := d.month_le
        omega
      have step : daysInYear d.year =
          daysBeforeMonth d.year d.month + daysInMonth d.year d.month := by
        rw [month]
        rfl
      have year : daysBeforeYear (d.year + 1) = daysBeforeYear d.year + daysInYear d.year := by
        obtain ⟨y, same⟩ := Nat.exists_eq_add_of_le' d.year_pos
        rw [same]
        rfl
      have front : daysBeforeMonth (d.year + 1) 1 = 0 := rfl
      simp only [number, year, step, front]
      omega

/-- The date with so many days in front of it. -/
def ofNumber : Nat → Date
  | 0 => first
  | n + 1 => (ofNumber n).next

theorem number_ofNumber (n : Nat) : (ofNumber n).number = n := by
  induction n with
  | zero => rfl
  | succ n ih => rw [ofNumber, number_next, ih]

/-- `QDate::addDays`; the dates begin with the first. -/
def addDays (d : Date) (days : Int) : Date := ofNumber (d.number + days).toNat

theorem number_addDays {d : Date} {days : Int} (begun : 0 ≤ d.number + days) :
    ((d.addDays days).number : Int) = d.number + days := by
  rw [addDays, number_ofNumber, Int.toNat_of_nonneg begun]

end Date

/-! ## Texts -/

theorem digit_lt_iff {m n : Nat} (small : m < 10) (small' : n < 10) :
    digit m < digit n ↔ m < n := by
  interval_cases m <;> interval_cases n <;> decide

/-- Numbers written with as many digits are ordered as their texts are, and equal ones as what
stands behind them is. -/
theorem padDigits_lt_iff {s m n : Nat} (fits : m < 10 ^ s) (fits' : n < 10 ^ s)
    (rest rest' : Bytes) :
    padDigits s m ++ rest < padDigits s n ++ rest' ↔ m < n ∨ m = n ∧ rest < rest' := by
  induction s generalizing m n rest rest' with
  | zero =>
      have zero : m = 0 := by simpa using fits
      have zero' : n = 0 := by simpa using fits'
      simp [padDigits, zero, zero']
  | succ s ih =>
      have high : m / 10 < 10 ^ s := by
        rw [Nat.div_lt_iff_lt_mul (by decide), ← Nat.pow_succ]
        exact fits
      have high' : n / 10 < 10 ^ s := by
        rw [Nat.div_lt_iff_lt_mul (by decide), ← Nat.pow_succ]
        exact fits'
      have digit_lt := digit_lt_iff (Nat.mod_lt m (by decide : 0 < 10))
        (Nat.mod_lt n (by decide : 0 < 10))
      have digit_lt' := digit_lt_iff (Nat.mod_lt n (by decide : 0 < 10))
        (Nat.mod_lt m (by decide : 0 < 10))
      have digit_eq : digit (m % 10) = digit (n % 10) ↔ m % 10 = n % 10 := by
        constructor
        · intro same
          rw [same] at digit_lt digit_lt'
          have below := digit_lt.not.mp (UInt8.lt_irrefl _)
          have above := digit_lt'.not.mp (UInt8.lt_irrefl _)
          omega
        · exact congrArg digit
      rw [padDigits, padDigits, List.append_assoc, List.append_assoc, ih high high',
        List.singleton_append, List.singleton_append, List.cons_lt_cons_iff, digit_lt, digit_eq]
      constructor
      · rintro (less | ⟨same, less | ⟨same', less⟩⟩)
        · exact .inl (by omega)
        · exact .inl (by omega)
        · exact .inr ⟨by omega, less⟩
      · rintro (less | ⟨rfl, less⟩)
        · by_cases same : m / 10 = n / 10
          · exact .inr ⟨same, .inl (by omega)⟩
          · exact .inl (by omega)
        · exact .inr ⟨rfl, .inr ⟨rfl, less⟩⟩

namespace Date

/-- A date as text: `yyyy`, `MM` and `dd`, and something between them. -/
def text (between : Bytes) (d : Date) : Bytes :=
  padDigits 4 d.year ++ (between ++ (padDigits 2 d.month ++ (between ++ padDigits 2 d.day)))

/-- What stands in front of both texts is no matter. -/
theorem append_lt_append_iff (front : Bytes) {rest rest' : Bytes} :
    front ++ rest < front ++ rest' ↔ rest < rest' := by
  induction front with
  | nil => rfl
  | cons b front ih => rw [List.cons_append, List.cons_append, List.cons_lt_cons_self, ih]

/-- **Texts are ordered as dates are.** -/
theorem text_lt_iff {d e : Date} (short : d.year < 10000) (short' : e.year < 10000)
    (between : Bytes) : d.text between < e.text between ↔ d.number < e.number := by
  have month : ∀ f : Date, f.month < 10 ^ 2 := fun f => f.month_le.trans_lt (by decide)
  have day : ∀ f : Date, f.day < 10 ^ 2 := by
    intro f
    have le : daysInMonth f.year f.month ≤ 31 := by
      unfold daysInMonth
      split <;> first | omega | (split <;> omega)
    exact (f.day_le.trans le).trans_lt (by decide)
  have last : padDigits 2 d.day < padDigits 2 e.day ↔ d.day < e.day := by
    have this := padDigits_lt_iff (day d) (day e) [] []
    simpa using this
  rw [number_lt_iff, text, text, padDigits_lt_iff short short', append_lt_append_iff,
    padDigits_lt_iff (month d) (month e), append_lt_append_iff, last]
  rfl

end Date

end IsgConsole.Theory
