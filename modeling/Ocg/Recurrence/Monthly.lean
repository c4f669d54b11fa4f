import Ocg.Calendar.Date
import Ocg.Calendar.Hits

/-!
# Monthly recurrence

A monthly series repeats an event on the same ordinal weekday, such as the third Monday, and skips
months without one. `monthly_occurrences_start_times` walks over the months until it has as many
start times as were asked for. Seen from the start each month is a place, and the walk collects the
first hits; it ends because a weekday and an ordinal come back again and again.

The calendar is a parameter; years are integers, as the calendar's range ends long before that of
the machine's. The walk has fuel, and the result says that enough fuel gives the start times.
-/

namespace Ocg.Recurrence

open Calendar

structure NaiveDateTime (D T : Type) where
  date : D
  time : T
  deriving DecidableEq

variable {D T : Type} (ops : DateOps D)

/-! ## The functions -/

/-- `next_month`. -/
def nextMonth (year : ℤ) (month : ℕ) : ℤ × ℕ :=
  if month = 12 then (year + 1, 1) else (year, month + 1)

/-- `nth_weekday_in_month`. -/
def nthWeekdayInMonth (year : ℤ) (month weekday ordinal : ℕ) : Option D := do
  let firstDay ← ops.ofYmd? year month 1
  let weekdayOffset := (7 + weekday - ops.weekday firstDay) % 7
  let targetDay := 1 + weekdayOffset + (ordinal - 1) * 7
  let targetDate ← ops.ofYmd? year month targetDay
  if ops.month targetDate = month then some targetDate else none

/-- The loop of `monthly_occurrences_start_times`. -/
def monthlyLoop (ordinal weekday : ℕ) (time : T) (additionalOccurrences : ℕ) :
    ℕ → ℤ → ℕ → List (NaiveDateTime D T) → Option (List (NaiveDateTime D T))
  | fuel, year, month, occurrenceStartTimes =>
    if additionalOccurrences ≤ occurrenceStartTimes.length then some occurrenceStartTimes
    else match fuel with
      | 0 => none
      | fuel + 1 =>
        let (year, month) := nextMonth year month
        match nthWeekdayInMonth ops year month weekday ordinal with
        | some nextDate =>
          monthlyLoop ordinal weekday time additionalOccurrences fuel year month
            (occurrenceStartTimes ++ [⟨nextDate, time⟩])
        | none =>
          monthlyLoop ordinal weekday time additionalOccurrences fuel year month
            occurrenceStartTimes

/-- `monthly_occurrences_start_times`. -/
def monthlyOccurrencesStartTimes (fuel : ℕ) (startsAt : NaiveDateTime D T)
    (additionalOccurrences : ℕ) : Option (List (NaiveDateTime D T)) :=
  let date := startsAt.date
  let ordinal := (ops.day date - 1) / 7 + 1
  monthlyLoop ops ordinal (ops.weekday date) startsAt.time additionalOccurrences fuel
    (ops.year date) (ops.month date) []

/-! ## What it is for -/

/-- A later month's time on the same ordinal weekday. -/
structure Recurs (startsAt next : NaiveDateTime D T) : Prop where
  month : ops.monthIndex startsAt.date < ops.monthIndex next.date
  weekday : ops.weekday next.date = ops.weekday startsAt.date
  ordinal : ops.ordinal next.date = ops.ordinal startsAt.date
  time : next.time = startsAt.time

/-- The calendar goes on for so many recurrences. -/
def HasRoom (startsAt : NaiveDateTime D T) (n : ℕ) : Prop :=
  ∃ times : List (NaiveDateTime D T), times.length = n ∧ times.Nodup
    ∧ ∀ next ∈ times, Recurs ops startsAt next

/-- The first recurrences, in their order. -/
structure IsFirst (startsAt : NaiveDateTime D T) (n : ℕ) (times : List (NaiveDateTime D T)) :
    Prop where
  length : times.length = n
  increasing : times.Pairwise fun time time' ↦ ops.Before time.date time'.date
  recurs : ∀ next ∈ times, Recurs ops startsAt next
  /-- Nothing before one of them is left out. -/
  complete : ∀ earlier, Recurs ops startsAt earlier →
    (∃ next ∈ times, ops.Before earlier.date next.date) → earlier ∈ times

/-! ## The walk over the months -/

section Walk

variable {ops} {year : ℤ} {month weekday ordinal : ℕ} {startsAt : NaiveDateTime D T}

/-- The month that is so many months later. -/
def monthAfter (year : ℤ) (month k : ℕ) : ℤ × ℕ := (fun p ↦ nextMonth p.1 p.2)^[k] (year, month)

theorem monthAfter_succ (year : ℤ) (month k : ℕ) :
    monthAfter year month (k + 1)
      = nextMonth (monthAfter year month k).1 (monthAfter year month k).2 := by
  rw [monthAfter, Function.iterate_succ_apply']
  rfl

theorem monthAfter_index (year : ℤ) (hmonth : 1 ≤ month ∧ month ≤ 12) (k : ℕ) :
    12 * (monthAfter year month k).1 + ((monthAfter year month k).2 - 1)
        = 12 * year + ((month : ℤ) - 1) + k
      ∧ 1 ≤ (monthAfter year month k).2 ∧ (monthAfter year month k).2 ≤ 12 := by
  induction k with
  | zero => exact ⟨by simp [monthAfter], hmonth⟩
  | succ k ih =>
    rw [monthAfter_succ, nextMonth]
    split_ifs with hlast
    · dsimp only
      omega
    · dsimp only
      omega

/-- **The day that is looked for**, if the month has one. -/
theorem nthWeekdayInMonth_eq_some (hops : ops.Lawful) (hweekday : weekday < 7)
    (hordinal : 1 ≤ ordinal) {date : D} :
    nthWeekdayInMonth ops year month weekday ordinal = some date
      ↔ ops.year date = year ∧ ops.month date = month ∧ ops.weekday date = weekday
        ∧ ops.ordinal date = ordinal := by
  simp only [nthWeekdayInMonth, Option.bind_eq_bind, Option.bind_eq_some_iff]
  constructor
  · rintro ⟨first, hfirst, target, htarget, hif⟩
    split_ifs at hif
    obtain rfl := Option.some.inj hif
    obtain ⟨hyear, hmonth, hday⟩ := hops.ofYmd?.1 hfirst
    obtain ⟨hyear', hmonth', hday'⟩ := hops.ofYmd?.1 htarget
    obtain ⟨hsame, hsame'⟩ := hops.weekday_ordinal (hyear.trans hyear'.symm)
      (hmonth.trans hmonth'.symm) hday hweekday hordinal hday'
    exact ⟨hyear', hmonth', hsame, hsame'⟩
  · rintro ⟨rfl, rfl, rfl, rfl⟩
    obtain ⟨first, hfirst⟩ := hops.exists_first date
    obtain ⟨hyear, hmonth, hday⟩ := hops.ofYmd?.1 hfirst
    refine ⟨first, hfirst, date, ?_, if_pos rfl⟩
    rw [hops.ofYmd?]
    exact ⟨rfl, rfl, (hops.day_eq hyear hmonth hday).1⟩

variable (ops startsAt) in
/-- The recurrence in each later month. -/
def recurrence (k : ℕ) : Option (NaiveDateTime D T) :=
  let next := monthAfter (ops.year startsAt.date) (ops.month startsAt.date) (k + 1)
  (nthWeekdayInMonth ops next.1 next.2 (ops.weekday startsAt.date)
    (ops.ordinal startsAt.date)).map fun date ↦ ⟨date, startsAt.time⟩

theorem recurrence_eq_some (hops : ops.Lawful) {k : ℕ} {next : NaiveDateTime D T} :
    recurrence ops startsAt k = some next ↔ Recurs ops startsAt next
      ∧ ops.monthIndex next.date = ops.monthIndex startsAt.date + k + 1 := by
  have hlt : ops.weekday startsAt.date < 7 := by
    obtain ⟨first, hfirst⟩ := hops.exists_first startsAt.date
    obtain ⟨hyear, hmonth, hday⟩ := hops.ofYmd?.1 hfirst
    rw [hops.weekday hyear hmonth hday]
    exact Nat.mod_lt _ (by omega)
  have hpos : 1 ≤ ops.ordinal startsAt.date := Nat.le_add_left 1 _
  obtain ⟨hindex, hmem⟩ := monthAfter_index (ops.year startsAt.date) (hops.month startsAt.date)
    (k + 1)
  rw [recurrence, Option.map_eq_some_iff]
  constructor
  · rintro ⟨date, hdate, rfl⟩
    obtain ⟨hyear, hmonth, hweekday, hordinal⟩ :=
      (nthWeekdayInMonth_eq_some hops hlt hpos).1 hdate
    have hnext : ops.monthIndex date = ops.monthIndex startsAt.date + k + 1 := by
      rw [DateOps.monthIndex, DateOps.monthIndex, hyear, hmonth, hindex]
      push_cast
      ring
    exact ⟨⟨by dsimp only; omega, hweekday, hordinal, rfl⟩, hnext⟩
  · rintro ⟨⟨-, hweekday, hordinal, htime⟩, hnext⟩
    refine ⟨next.date, ?_, by rw [← htime]⟩
    rw [nthWeekdayInMonth_eq_some hops hlt hpos]
    have hmonth := hops.month next.date
    rw [DateOps.monthIndex, DateOps.monthIndex] at hnext
    push_cast at hindex
    exact ⟨by omega, by omega, hweekday, hordinal⟩

theorem monthlyLoop_eq_collect (n fuel k : ℕ) (times : List (NaiveDateTime D T)) :
    monthlyLoop ops (ops.ordinal startsAt.date) (ops.weekday startsAt.date) startsAt.time n fuel
        (monthAfter (ops.year startsAt.date) (ops.month startsAt.date) k).1
        (monthAfter (ops.year startsAt.date) (ops.month startsAt.date) k).2 times
      = collect (recurrence ops startsAt) n fuel k times := by
  induction fuel generalizing k times with
  | zero => rw [monthlyLoop, collect]
  | succ fuel ih =>
    rw [monthlyLoop, collect, ← monthAfter_succ, recurrence]
    cases hdate : nthWeekdayInMonth ops
        (monthAfter (ops.year startsAt.date) (ops.month startsAt.date) (k + 1)).1
        (monthAfter (ops.year startsAt.date) (ops.month startsAt.date) (k + 1)).2
        (ops.weekday startsAt.date) (ops.ordinal startsAt.date) with
    | none =>
      simp only [hdate, Option.map_none, Option.toList_none, List.append_nil, ih]
    | some date =>
      simp only [hdate, Option.map_some, Option.toList_some, ih]

/-- **The walk collects the first recurrences**, if it has fuel for the months up to the last. -/
theorem collect_recurrence (hops : ops.Lawful) {n : ℕ} (hroom : HasRoom ops startsAt n) :
    ∃ k, ∀ fuel ≥ k, ∃ times, collect (recurrence ops startsAt) n fuel 0 [] = some times
      ∧ IsFirst ops startsAt n times := by
  obtain ⟨found, hlength, hnodup, hfound⟩ := hroom
  -- the months up to the last of the known recurrences
  have hplace : ∀ next ∈ found, ∃ i, recurrence ops startsAt i = some next := by
    intro next hnext
    have hmonth := (hfound next hnext).month
    refine ⟨(ops.monthIndex next.date - ops.monthIndex startsAt.date - 1).toNat, ?_⟩
    exact (recurrence_eq_some hops).2 ⟨hfound next hnext, by omega⟩
  obtain ⟨k, hk⟩ : ∃ k, ∀ next ∈ found, next ∈ hits (recurrence ops startsAt) k := by
    clear hlength hnodup hfound
    induction found with
    | nil => exact ⟨0, by simp⟩
    | cons next found ih =>
      obtain ⟨k, hk⟩ := ih fun next hnext ↦ hplace next (List.mem_cons_of_mem _ hnext)
      obtain ⟨i, hi⟩ := hplace next List.mem_cons_self
      refine ⟨max k (i + 1), fun next' hnext' ↦ ?_⟩
      obtain rfl | hnext' := List.mem_cons.1 hnext'
      · exact mem_hits.2 ⟨i, by omega, hi⟩
      · exact (hits_initial (le_max_left k (i + 1))).subset (hk next' hnext')
  refine ⟨k, fun fuel hfuel ↦ ?_⟩
  have henough : n ≤ (hits (recurrence ops startsAt) (0 + fuel)).length := by
    rw [Nat.zero_add, ← hlength]
    exact (length_le_length_hits hnodup hk).trans (hits_initial hfuel).length_le
  refine ⟨_, collect_eq (by simp [hits]) henough, ?_⟩
  rw [Nat.zero_add] at henough ⊢
  set all := hits (recurrence ops startsAt) fuel with hall
  have hrecurs : ∀ next ∈ all, Recurs ops startsAt next := by
    intro next hnext
    obtain ⟨i, -, hi⟩ := mem_hits.1 hnext
    exact ((recurrence_eq_some hops).1 hi).1
  have hincreasing : all.Pairwise fun time time' ↦
      ops.monthIndex time.date < ops.monthIndex time'.date := by
    refine pairwise_hits (fun i j a b hij ha hb ↦ ?_) fuel
    have ha' := ((recurrence_eq_some hops).1 ha).2
    have hb' := ((recurrence_eq_some hops).1 hb).2
    omega
  refine ⟨by rw [List.length_take, min_eq_left henough], ?_, ?_, ?_⟩
  · exact (hincreasing.sublist (List.take_sublist n all)).imp Or.inl
  · exact fun next hnext ↦ hrecurs next (List.mem_of_mem_take hnext)
  · rintro earlier hearlier ⟨next, hnext, hbefore⟩
    obtain ⟨j, hj, hnextj⟩ := mem_hits.1 (List.mem_of_mem_take hnext)
    have hnexti := ((recurrence_eq_some hops).1 hnextj).2
    have hmonth := hearlier.month
    have hle : ops.monthIndex earlier.date ≤ ops.monthIndex next.date := by
      obtain hlt | ⟨heq, -⟩ := hbefore
      · exact hlt.le
      · exact heq.le
    obtain ⟨i, hi⟩ : ∃ i : ℕ, ops.monthIndex earlier.date = ops.monthIndex startsAt.date + i + 1 :=
      ⟨(ops.monthIndex earlier.date - ops.monthIndex startsAt.date - 1).toNat, by omega⟩
    have hmem : earlier ∈ all :=
      mem_hits.2 ⟨i, by omega, (recurrence_eq_some hops).2 ⟨hearlier, hi⟩⟩
    rw [← List.take_append_drop n all, List.mem_append] at hmem
    obtain hmem | hmem := hmem
    · exact hmem
    · -- what comes after the first recurrences is in a later month than each of them
      rw [← List.take_append_drop n all, List.pairwise_append] at hincreasing
      exact absurd (hincreasing.2.2 next hnext earlier hmem) (by omega)

end Walk

/-! ## The Gregorian calendar has room -/

/-- The date of a weekday and an ordinal in 2024, so many cycles of 400 years later. -/
theorem gregorian_hasRoom (startsAt : NaiveDateTime Gregorian T) (n : ℕ) :
    HasRoom Gregorian.ops startsAt n := by
  have hlt : Gregorian.ops.weekday startsAt.date < 7 := by
    change ((_ : ℤ) % 7).toNat < 7
    omega
  have hordinal : Gregorian.ops.ordinal startsAt.date ∈ [1, 2, 3, 4, 5] := by
    have hday := startsAt.date.day_mem
    have hle : startsAt.date.day ≤ 31 := by
      refine hday.2.trans ?_
      rw [daysInMonth]
      split_ifs <;> omega
    change (startsAt.date.day - 1) / 7 + 1 ∈ [1, 2, 3, 4, 5]
    simp only [List.mem_cons, List.not_mem_nil, or_false]
    omega
  obtain ⟨m, -, d, -, date, hdate, hweekday, hsame⟩ :=
    Gregorian.exists_2024 _ hlt _ hordinal
  obtain ⟨hyear, -, -⟩ := Gregorian.lawful.ofYmd?.1 hdate
  change date.year = 2024 at hyear
  let cycle (i : ℕ) : Gregorian := date.addCycles (|startsAt.date.year| + i)
  refine ⟨(List.range n).map fun i ↦ ⟨cycle i, startsAt.time⟩, by simp, ?_, ?_⟩
  · refine List.Nodup.map (fun i j hij ↦ ?_) List.nodup_range
    have hcycle := congrArg (fun next : NaiveDateTime Gregorian T ↦ next.date.year) hij
    simp only [cycle, Gregorian.addCycles] at hcycle
    omega
  · intro next hnext
    obtain ⟨i, -, rfl⟩ := List.mem_map.1 hnext
    refine ⟨?_, (date.weekday_addCycles _).trans hweekday, hsame, rfl⟩
    have hmonth := date.month_mem
    have hmonth' := startsAt.date.month_mem
    have habs := le_abs_self startsAt.date.year
    have hnonneg := abs_nonneg startsAt.date.year
    change 12 * startsAt.date.year + ((startsAt.date.month : ℤ) - 1)
      < 12 * (date.year + 400 * (|startsAt.date.year| + i)) + ((date.month : ℤ) - 1)
    omega

/-! ## The result -/

/-- **Monthly recurrence is complete.** In every calendar that goes on for long enough, and the
Gregorian calendar does, the function ends with the first recurrences of the start. -/
theorem monthly_recurrence :
    (∀ {D T : Type} (ops : DateOps D), ops.Lawful → ∀ (startsAt : NaiveDateTime D T) (n : ℕ),
      HasRoom ops startsAt n → ∃ k, ∀ fuel ≥ k, ∃ times,
        monthlyOccurrencesStartTimes ops fuel startsAt n = some times
          ∧ IsFirst ops startsAt n times)
    ∧ ∀ {T : Type} (startsAt : NaiveDateTime Gregorian T) (n : ℕ),
      HasRoom Gregorian.ops startsAt n := by
  refine ⟨fun ops hops startsAt n hroom ↦ ?_, gregorian_hasRoom⟩
  obtain ⟨k, hk⟩ := collect_recurrence hops hroom
  refine ⟨k, fun fuel hfuel ↦ ?_⟩
  obtain ⟨times, htimes, hfirst⟩ := hk fuel hfuel
  exact ⟨times, (monthlyLoop_eq_collect n fuel 0 []).trans htimes, hfirst⟩

/-- The fifth Monday after that of January 2024 is in April. -/
theorem monthly_recurrence_sample :
    let startsAt : NaiveDateTime Gregorian ℕ := ⟨⟨2024, 1, 29, by decide, by decide⟩, 19⟩
    Gregorian.ops.Lawful ∧ HasRoom Gregorian.ops startsAt 2 ∧ ∃ k, ∀ fuel ≥ k, ∃ times,
      monthlyOccurrencesStartTimes Gregorian.ops fuel startsAt 2 = some times
        ∧ IsFirst Gregorian.ops startsAt 2 times :=
  ⟨Gregorian.lawful, monthly_recurrence.2 _ 2,
    monthly_recurrence.1 Gregorian.ops Gregorian.lawful _ 2 (monthly_recurrence.2 _ 2)⟩

/-- February has none. -/
example : monthlyOccurrencesStartTimes Gregorian.ops 9
    (⟨⟨2024, 1, 29, by decide, by decide⟩, 19⟩ : NaiveDateTime Gregorian ℕ) 2
      = some [⟨⟨2024, 4, 29, by decide, by decide⟩, 19⟩,
        ⟨⟨2024, 7, 29, by decide, by decide⟩, 19⟩] := by decide +kernel

end Ocg.Recurrence
