import Mathlib.Algebra.Order.Ring.Int
import Mathlib.Data.List.Basic
import Mathlib.Data.Nat.Basic
import Mathlib.Tactic.Ring

/-!
# Dates of a calendar

What date arithmetic by months needs of a calendar: a date is given by its year, month and day, the
days of a month are consecutive, and so are their weekdays. Then a weekday and an ordinal name at
most one day of each month. The Gregorian calendar repeats after 400 years, weekdays included, so
every weekday has every ordinal, up to the fifth, in infinitely many months.
-/

namespace Calendar

/-- Dates with their components, and the date of given components, if there is one. -/
structure DateOps (D : Type) where
  year : D → ℤ
  month : D → ℕ
  day : D → ℕ
  /-- Days from Monday. -/
  weekday : D → ℕ
  ofYmd? : ℤ → ℕ → ℕ → Option D

section Ops

variable {D : Type} {ops : DateOps D}

structure DateOps.Lawful (ops : DateOps D) : Prop where
  ofYmd? : ∀ {y m d date}, ops.ofYmd? y m d = some date
    ↔ ops.year date = y ∧ ops.month date = m ∧ ops.day date = d
  month : ∀ date, 1 ≤ ops.month date ∧ ops.month date ≤ 12
  day : ∀ date, 1 ≤ ops.day date
  /-- A month has all days before its last one. -/
  earlier : ∀ {y m d d'}, (ops.ofYmd? y m d).isSome → 1 ≤ d' → d' ≤ d → (ops.ofYmd? y m d').isSome
  /-- Weekdays go on from day to day. -/
  weekday : ∀ {first date}, ops.year first = ops.year date → ops.month first = ops.month date →
    ops.day first = 1 → ops.weekday date = (ops.weekday first + (ops.day date - 1)) % 7

namespace DateOps

variable (ops) in
/-- Months counted from the year 0. -/
def monthIndex (date : D) : ℤ := 12 * ops.year date + (ops.month date - 1)

variable (ops) in
/-- Which of the days of its weekday in the month the date is. -/
def ordinal (date : D) : ℕ := (ops.day date - 1) / 7 + 1

variable (ops) in
def Before (date date' : D) : Prop :=
  ops.monthIndex date < ops.monthIndex date'
    ∨ (ops.monthIndex date = ops.monthIndex date' ∧ ops.day date < ops.day date')

theorem Lawful.exists_first (hops : ops.Lawful) (date : D) :
    ∃ first, ops.ofYmd? (ops.year date) (ops.month date) 1 = some first := by
  refine Option.isSome_iff_exists.1 (hops.earlier (d := ops.day date) ?_ le_rfl (hops.day date))
  rw [hops.ofYmd?.2 ⟨rfl, rfl, rfl⟩, Option.isSome_some]

/-- **The day of a weekday and an ordinal.** It is counted from the weekday of the first day. -/
theorem Lawful.day_eq (hops : ops.Lawful) {first date : D}
    (hyear : ops.year first = ops.year date) (hmonth : ops.month first = ops.month date)
    (hfirst : ops.day first = 1) :
    ops.day date = 1 + (7 + ops.weekday date - ops.weekday first) % 7 + (ops.ordinal date - 1) * 7
      ∧ ops.weekday first < 7 := by
  have hlt : ops.weekday first < 7 := by
    have hself := hops.weekday (rfl : ops.year first = ops.year first) rfl hfirst
    rw [hself]
    exact Nat.mod_lt _ (by omega)
  have hday := hops.day date
  have hweekday := hops.weekday hyear hmonth hfirst
  rw [ordinal, hweekday]
  refine ⟨?_, hlt⟩
  generalize ops.weekday first = w at hlt ⊢
  generalize ops.day date = d at hday ⊢
  omega

theorem Lawful.weekday_ordinal (hops : ops.Lawful) {first date : D} {weekday ordinal : ℕ}
    (hyear : ops.year first = ops.year date) (hmonth : ops.month first = ops.month date)
    (hfirst : ops.day first = 1) (hweekday : weekday < 7) (hordinal : 1 ≤ ordinal)
    (hday : ops.day date = 1 + (7 + weekday - ops.weekday first) % 7 + (ordinal - 1) * 7) :
    ops.weekday date = weekday ∧ ops.ordinal date = ordinal := by
  obtain ⟨-, hlt⟩ := hops.day_eq hyear hmonth hfirst
  rw [hops.weekday hyear hmonth hfirst, DateOps.ordinal, hday]
  generalize ops.weekday first = w at hlt ⊢
  omega

end DateOps

end Ops

/-! ## The Gregorian calendar -/

def IsLeap (y : ℤ) : Prop := y % 4 = 0 ∧ (y % 100 ≠ 0 ∨ y % 400 = 0)

instance (y : ℤ) : Decidable (IsLeap y) := inferInstanceAs (Decidable (_ ∧ _))

/-- The days of a common year before each month, from the second. -/
def daysBeforeMonth (y : ℤ) (m : ℕ) : ℕ :=
  [0, 31, 59, 90, 120, 151, 181, 212, 243, 273, 304, 334].getD (m - 1) 365
    + if IsLeap y ∧ 3 ≤ m then 1 else 0

def daysInMonth (y : ℤ) (m : ℕ) : ℕ :=
  if m = 2 then (if IsLeap y then 29 else 28)
  else if m ∈ [4, 6, 9, 11] then 30 else 31

/-- The days from the first of January of the year 1, a Monday, to the first of the month. -/
def daysBefore (y : ℤ) (m : ℕ) : ℤ :=
  365 * (y - 1) + (y - 1) / 4 - (y - 1) / 100 + (y - 1) / 400 + daysBeforeMonth y m

structure Gregorian where
  year : ℤ
  month : ℕ
  day : ℕ
  month_mem : 1 ≤ month ∧ month ≤ 12
  day_mem : 1 ≤ day ∧ day ≤ daysInMonth year month
  deriving DecidableEq

namespace Gregorian

def weekday (date : Gregorian) : ℕ :=
  ((daysBefore date.year date.month + (date.day - 1)) % 7).toNat

def ofYmd? (y : ℤ) (m d : ℕ) : Option Gregorian :=
  if h : (1 ≤ m ∧ m ≤ 12) ∧ 1 ≤ d ∧ d ≤ daysInMonth y m then some ⟨y, m, d, h.1, h.2⟩ else none

def ops : DateOps Gregorian := ⟨year, month, day, weekday, ofYmd?⟩

theorem ofYmd?_isSome {y : ℤ} {m d : ℕ} :
    (ofYmd? y m d).isSome ↔ (1 ≤ m ∧ m ≤ 12) ∧ 1 ≤ d ∧ d ≤ daysInMonth y m := by
  rw [ofYmd?]
  split_ifs with h
  · simp [h]
  · simp [h]

theorem lawful : ops.Lawful where
  ofYmd? := by
    intro y m d date
    change ofYmd? y m d = some date ↔ date.year = y ∧ date.month = m ∧ date.day = d
    rw [ofYmd?]
    constructor
    · intro h
      split_ifs at h
      obtain rfl := Option.some.inj h
      exact ⟨rfl, rfl, rfl⟩
    · rintro ⟨rfl, rfl, rfl⟩
      rw [dif_pos ⟨date.month_mem, date.day_mem⟩]
  month date := date.month_mem
  day date := date.day_mem.1
  earlier := by
    intro y m d d' h hpos hle
    obtain ⟨hmonth, -, hlast⟩ := ofYmd?_isSome.1 h
    exact ofYmd?_isSome.2 ⟨hmonth, hpos, hle.trans hlast⟩
  weekday := by
    intro first date hyear hmonth hfirst
    change first.year = date.year at hyear
    change first.month = date.month at hmonth
    change first.day = 1 at hfirst
    change date.weekday = (first.weekday + (date.day - 1)) % 7
    have hday := date.day_mem.1
    rw [weekday, weekday, hyear, hmonth, hfirst]
    omega

/-- 31 January, March and May of 2024 are a Wednesday, a Sunday and a Friday. -/
example : (ofYmd? 2024 1 31).map weekday = some 2 ∧ (ofYmd? 2024 3 31).map weekday = some 6
    ∧ (ofYmd? 2024 5 31).map weekday = some 4 := by decide

/-! ### Repetition -/

theorem isLeap_add (y j : ℤ) : IsLeap (y + 400 * j) ↔ IsLeap y := by
  rw [IsLeap, IsLeap]
  omega

theorem daysInMonth_add (y j : ℤ) (m : ℕ) : daysInMonth (y + 400 * j) m = daysInMonth y m := by
  simp only [daysInMonth, isLeap_add]

/-- 400 years are a whole number of weeks. -/
theorem daysBefore_add (y j : ℤ) (m : ℕ) :
    daysBefore (y + 400 * j) m = daysBefore y m + 7 * (20871 * j) := by
  simp only [daysBefore, daysBeforeMonth, isLeap_add]
  omega

/-- The date with the same place in another cycle of 400 years. -/
def addCycles (date : Gregorian) (j : ℤ) : Gregorian where
  year := date.year + 400 * j
  month := date.month
  day := date.day
  month_mem := date.month_mem
  day_mem := by
    rw [daysInMonth_add]
    exact date.day_mem

theorem weekday_addCycles (date : Gregorian) (j : ℤ) :
    (date.addCycles j).weekday = date.weekday := by
  rw [weekday, weekday, addCycles]
  dsimp only
  rw [daysBefore_add]
  omega

/-- In 2024 every weekday has every ordinal. -/
theorem exists_2024 : ∀ weekday < 7, ∀ ordinal ∈ [1, 2, 3, 4, 5], ∃ m ∈ [1, 3, 5],
    ∃ d ∈ List.range 32, ∃ date : Gregorian, ofYmd? 2024 m d = some date
      ∧ date.weekday = weekday ∧ ops.ordinal date = ordinal := by
  have hfind : ∀ weekday < 7, ∀ ordinal ∈ [1, 2, 3, 4, 5], ∃ m ∈ [1, 3, 5],
      ∃ d ∈ List.range 32, (ofYmd? 2024 m d).any fun date ↦
        date.weekday = weekday ∧ ops.ordinal date = ordinal := by decide
  intro weekday hweekday ordinal hordinal
  obtain ⟨m, hm, d, hd, hany⟩ := hfind weekday hweekday ordinal hordinal
  obtain ⟨date, hdate, hboth⟩ := (Option.any_eq_true _ _).1 hany
  exact ⟨m, hm, d, hd, date, hdate, of_decide_eq_true hboth⟩

end Gregorian

end Calendar
