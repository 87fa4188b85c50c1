import Mathlib.Order.Monotone.Basic
import TableMapper.Proofs.Text.InBase
import TableMapper.Time.Calendar

/-!
# Days and instants in the Gregorian calendar

`Calendar.dateOfDay` computes a date by a few divisions.  This file says that the dates so computed
are those of the Gregorian calendar, one after the other.

* `Calendar.nextDate` is the date of the next day, by the lengths of months and the rule for leap
  years.
* `Calendar.Place` is a place in the cycle of 400 years, as century, cycle of four years, year and
  day; `Calendar.dateOfDay_place` is the date at a place.
* `Calendar.dateOfDay_add_one` says that the day after a day has the date after its date.
* `Calendar.isDate_dateOfDay` and `Calendar.dateNumber_lt` say what follows: there are no
  other dates than those of the calendar, and they come in the order of the days.
* `Calendar.Valid` says that the parts of an instant are in their ranges; those of every number of
  microseconds are (`Calendar.valid_ofMicros`).
* `Calendar.timeNumber` is the time of day as one number, with a range for each part that is a power
  of two.  It is smaller for an earlier millisecond of the day (`Calendar.timeNumber_lt_iff`).
-/

namespace TableMapper

namespace Calendar

/-! ### The calendar -/

/-- The years with a leap day. -/
def IsLeap (year : Int) : Prop := year % 4 = 0 ∧ (year % 100 ≠ 0 ∨ year % 400 = 0)

instance (year : Int) : Decidable (IsLeap year) := inferInstanceAs (Decidable (_ ∧ _))

/-- The length of a month. -/
def monthLength (year : Int) (month : Nat) : Nat :=
  if month = 2 then (if IsLeap year then 29 else 28)
  else if month = 4 ∨ month = 6 ∨ month = 9 ∨ month = 11 then 30
  else 31

/-- The date of the next day. -/
def nextDate : Int × Nat × Nat → Int × Nat × Nat
  | (year, month, day) =>
    if day < monthLength year month then (year, month, day + 1)
    else if month < 12 then (year, month + 1, 1)
    else (year + 1, 1, 1)

/-- A date that the calendar has. -/
def IsDate (date : Int × Nat × Nat) : Prop :=
  1 ≤ date.2.1 ∧ date.2.1 ≤ 12 ∧ 1 ≤ date.2.2 ∧ date.2.2 ≤ monthLength date.1 date.2.1

instance (date : Int × Nat × Nat) : Decidable (IsDate date) :=
  inferInstanceAs (Decidable (_ ∧ _ ∧ _ ∧ _))

theorem monthLength_le (year : Int) (month : Nat) : monthLength year month ≤ 31 := by
  unfold monthLength
  split_ifs <;> decide

theorem monthLength_of_ne {month : Nat} (other : month ≠ 2) (year year' : Int) :
    monthLength year month = monthLength year' month := by
  rw [monthLength, monthLength, if_neg other, if_neg other]

theorem monthLength_february (year : Int) :
    monthLength year 2 = if IsLeap year then 29 else 28 := if_pos rfl

theorem nextDate_of_lt {year : Int} {month day : Nat} (inMonth : day < monthLength year month) :
    nextDate (year, month, day) = (year, month, day + 1) := if_pos inMonth

theorem nextDate_of_le {year : Int} {month day : Nat} (last : monthLength year month ≤ day)
    (inYear : month < 12) : nextDate (year, month, day) = (year, month + 1, 1) :=
  (if_neg (Nat.not_lt.mpr last)).trans (if_pos inYear)

theorem nextDate_december (year : Int) : nextDate (year, 12, 31) = (year + 1, 1, 1) := by
  have last : ¬ 31 < monthLength year 12 := Nat.not_lt.mpr (monthLength_le year 12)
  rw [nextDate, if_neg last, if_neg (Nat.lt_irrefl 12)]

/-! ### The cycle of 400 years -/

/-- A day of the cycle of 400 years.  Years start in March, so that a leap day is the last one of
a year, of a cycle of four years, and of the whole cycle; a century has no such day at its end. -/
structure Place where
  century : Nat
  /-- The cycle of four years in the century. -/
  cycle : Nat
  /-- The year in its cycle. -/
  year : Nat
  /-- The day in its year. -/
  day : Nat
  century_lt : century < 4
  cycle_lt : cycle < 25
  year_lt : year < 4
  day_lt : day < 365 ∨ day = 365 ∧ year = 3 ∧ (cycle < 24 ∨ century = 3)

namespace Place

/-- The years of the cycle before this one. -/
def yearOfEra (p : Place) : Nat := 100 * p.century + 4 * p.cycle + p.year

/-- The days of the cycle before this one. -/
def dayOfEra (p : Place) : Nat := 36524 * p.century + 1461 * p.cycle + 365 * p.year + p.day

theorem dayOfEra_lt (p : Place) : p.dayOfEra < 146097 := by
  obtain ⟨century, cycle, year, day, hcentury, hcycle, hyear, hday⟩ := p
  simp only [dayOfEra]
  omega

theorem exists_dayOfEra {d : Nat} (hd : d < 146097) : ∃ p : Place, p.dayOfEra = d := by
  obtain ⟨century, hcentury⟩ : ∃ n, n = min 3 (d / 36524) := ⟨_, rfl⟩
  obtain ⟨inCentury, hrest⟩ : ∃ n, n = d - 36524 * century := ⟨_, rfl⟩
  obtain ⟨cycle, hcycle⟩ : ∃ n, n = inCentury / 1461 := ⟨_, rfl⟩
  obtain ⟨inCycle, hrest'⟩ : ∃ n, n = inCentury - 1461 * cycle := ⟨_, rfl⟩
  obtain ⟨year, hyear⟩ : ∃ n, n = min 3 (inCycle / 365) := ⟨_, rfl⟩
  refine ⟨⟨century, cycle, year, inCycle - 365 * year, ?_, ?_, ?_, ?_⟩, ?_⟩
  · omega
  · omega
  · omega
  · omega
  · simp only [dayOfEra]
    omega

/-- The year is found from the day by dividing what the leap days are taken from. -/
theorem yearOfEra_eq (p : Place) :
    (p.dayOfEra - p.dayOfEra / 1460 + p.dayOfEra / 36524 - p.dayOfEra / 146096) / 365 =
      p.yearOfEra := by
  obtain ⟨century, cycle, year, day, hcentury, hcycle, hyear, hday⟩ := p
  simp only [dayOfEra, yearOfEra]
  obtain ⟨d, hd⟩ : ∃ d, d = 36524 * century + 1461 * cycle + 365 * year + day := ⟨_, rfl⟩
  rw [← hd]
  by_cases last : d = 146096
  -- the leap day of the last century is the only day that the last term is for
  · obtain rfl : century = 3 := by omega
    obtain rfl : cycle = 24 := by omega
    obtain rfl : year = 3 := by omega
    rw [last]
  · have whole : d / 146096 = 0 := by omega
    have centuries : d / 36524 = century := by omega
    have cycles : d / 1460 =
        25 * century + cycle + (24 * century + cycle + 365 * year + day) / 1460 := by omega
    rw [whole, centuries, cycles]
    omega

/-- What is left of the days after the years before. -/
theorem day_eq (p : Place) : p.dayOfEra -
    (365 * p.yearOfEra + p.yearOfEra / 4 - p.yearOfEra / 100) = p.day := by
  obtain ⟨century, cycle, year, day, hcentury, hcycle, hyear, hday⟩ := p
  simp only [dayOfEra, yearOfEra]
  have cycles : (100 * century + 4 * cycle + year) / 4 = 25 * century + cycle := by omega
  have centuries : (100 * century + 4 * cycle + year) / 100 = century := by omega
  rw [cycles, centuries]
  omega

/-- The first day of the year after, in this cycle of 400 years or in the next. -/
theorem exists_next (p : Place) (era : Int) (last : p.day = 364 ∧ ¬(p.year = 3 ∧
    (p.cycle < 24 ∨ p.century = 3)) ∨ p.day = 365) :
    ∃ (q : Place) (era' : Int), q.day = 0 ∧
      q.yearOfEra + era' * 400 = p.yearOfEra + era * 400 + 1 ∧
      146097 * era' + q.dayOfEra = 146097 * era + p.dayOfEra + 1 := by
  obtain ⟨century, cycle, year, day, hcentury, hcycle, hyear, hday⟩ := p
  simp only [dayOfEra, yearOfEra] at last ⊢
  by_cases inCycle : year < 3
  · refine ⟨⟨century, cycle, year + 1, 0, hcentury, hcycle, by omega, by omega⟩, era, rfl, ?_⟩
    dsimp only
    omega
  by_cases inCentury : cycle < 24
  · refine ⟨⟨century, cycle + 1, 0, 0, hcentury, by omega, by omega, by omega⟩, era, rfl, ?_⟩
    dsimp only
    omega
  by_cases inEra : century < 3
  · refine ⟨⟨century + 1, 0, 0, 0, by omega, by omega, by omega, by omega⟩, era, rfl, ?_⟩
    dsimp only
    omega
  · refine ⟨⟨0, 0, 0, 0, by omega, by omega, by omega, by omega⟩, era + 1, rfl, ?_⟩
    dsimp only
    omega

end Place

/-! ### The months of a year -/

/-- Month and day of a day of the year, which starts in March. -/
def monthDay (day : Nat) : Nat × Nat :=
  let m := (5 * day + 2) / 153
  (if m < 10 then m + 3 else m - 9, day - (153 * m + 2) / 5 + 1)

/-- The date at a place: January and February are of the next year. -/
theorem dateOfDay_place (era : Int) (p : Place) :
    dateOfDay (146097 * era + p.dayOfEra - 719468) =
      (p.yearOfEra + era * 400 + (if (monthDay p.day).1 ≤ 2 then 1 else 0), monthDay p.day) := by
  have small := p.dayOfEra_lt
  have whole : (146097 * era + p.dayOfEra - 719468 + 719468) / 146097 = era := by omega
  have rest : ((146097 * era + p.dayOfEra - 719468 + 719468) % 146097).toNat = p.dayOfEra := by
    omega
  simp only [dateOfDay, whole, rest, p.yearOfEra_eq, p.day_eq]
  rfl

theorem exists_place (day : Int) :
    ∃ (era : Int) (p : Place), day = 146097 * era + p.dayOfEra - 719468 := by
  obtain ⟨p, hp⟩ := Place.exists_dayOfEra (d := ((day + 719468) % 146097).toNat) (by omega)
  exact ⟨(day + 719468) / 146097, p, by omega⟩

/-- From a day to the next in a year without a leap day, the end of February apart. -/
def Follows (date next : Nat × Nat) : Prop :=
  date.2 < monthLength 1 date.1 ∧ next = (date.1, date.2 + 1) ∨
  date.2 = monthLength 1 date.1 ∧ date.1 ≠ 2 ∧ date.1 < 12 ∧ next = (date.1 + 1, 1) ∨
  date = (12, 31) ∧ next = (1, 1)

instance (date next : Nat × Nat) : Decidable (Follows date next) :=
  inferInstanceAs (Decidable (_ ∨ _ ∨ _))

/-- The days of a year run through its months, of which February is the last. -/
theorem follows_monthDay {day : Nat} (before : day < 364) :
    Follows (monthDay day) (monthDay (day + 1)) := by
  have all : ∀ day < 364, Follows (monthDay day) (monthDay (day + 1)) := by decide +kernel
  exact all day before

theorem monthLength_one_le (year : Int) (month : Nat) :
    monthLength 1 month ≤ monthLength year month := by
  by_cases february : month = 2
  · subst february
    rw [monthLength_february, monthLength_february, if_neg (by decide)]
    split_ifs <;> decide
  · exact (monthLength_of_ne february 1 year).le

/-- Within a year that starts in March the dates follow each other. -/
theorem nextDate_of_follows {date next : Nat × Nat} (follows : Follows date next) (year : Int) :
    nextDate (year + (if date.1 ≤ 2 then 1 else 0), date) =
      (year + (if next.1 ≤ 2 then 1 else 0), next) := by
  obtain ⟨month, day⟩ := date
  obtain ⟨inMonth, rfl⟩ | ⟨last, other, inYear, rfl⟩ | ⟨last, rfl⟩ := follows
  · exact nextDate_of_lt (Nat.lt_of_lt_of_le inMonth (monthLength_one_le _ month))
  · have same : (month + 1 ≤ 2) = (month ≤ 2) := propext (by dsimp only at other; omega)
    rw [nextDate_of_le ((monthLength_of_ne other _ 1).le.trans last.ge) inYear]
    simp only [same]
  · obtain ⟨rfl, rfl⟩ := Prod.mk.inj last
    exact (nextDate_december _).trans (by simp)

/-! ### Days in order -/

/-- The leap day of a place is that of the year of its February. -/
theorem Place.isLeap_iff (p : Place) (era : Int) :
    IsLeap (p.yearOfEra + era * 400 + 1) ↔ p.year = 3 ∧ (p.cycle < 24 ∨ p.century = 3) := by
  obtain ⟨century, cycle, year, day, hcentury, hcycle, hyear, hday⟩ := p
  simp only [IsLeap, Place.yearOfEra]
  omega

/-- **The day after a day** has the date after its date. -/
theorem dateOfDay_add_one (day : Int) : dateOfDay (day + 1) = nextDate (dateOfDay day) := by
  obtain ⟨era, p, rfl⟩ := exists_place day
  have leap := p.isLeap_iff era
  by_cases last : p.day = 364 ∧ ¬(p.year = 3 ∧ (p.cycle < 24 ∨ p.century = 3)) ∨ p.day = 365
  -- the year ends with the last day of February
  · obtain ⟨q, era', first, year, next⟩ := p.exists_next era last
    have march : monthDay q.day = (3, 1) := by rw [first]; rfl
    have there : 146097 * era + p.dayOfEra - 719468 + 1 = 146097 * era' + q.dayOfEra - 719468 := by
      omega
    rw [there, dateOfDay_place, dateOfDay_place, march, year]
    obtain ⟨day, common⟩ | day := last
    · have february : monthDay p.day = (2, 28) := by rw [day]; rfl
      have length : monthLength (p.yearOfEra + era * 400 + 1) 2 = 28 := by
        rw [monthLength_february, if_neg (mt leap.mp common)]
      rw [february]
      exact ((nextDate_of_le length.le (by decide)).trans (by simp)).symm
    · have february : monthDay p.day = (2, 29) := by rw [day]; rfl
      have length : monthLength (p.yearOfEra + era * 400 + 1) 2 ≤ 29 := by
        rw [monthLength_february]
        split_ifs <;> decide
      rw [february]
      exact ((nextDate_of_le length (by decide)).trans (by simp)).symm
  · have inYear : p.day + 1 < 365 ∨
        p.day + 1 = 365 ∧ p.year = 3 ∧ (p.cycle < 24 ∨ p.century = 3) := by
      have day := p.day_lt
      omega
    obtain ⟨q, next⟩ : ∃ q : Place, q = { p with day := p.day + 1, day_lt := inYear } := ⟨_, rfl⟩
    have there : 146097 * era + p.dayOfEra - 719468 + 1 = 146097 * era + q.dayOfEra - 719468 := by
      rw [next]
      simp only [Place.dayOfEra]
      omega
    have year : q.yearOfEra = p.yearOfEra := by rw [next]; rfl
    have day : q.day = p.day + 1 := by rw [next]
    rw [there, dateOfDay_place, dateOfDay_place, year, day]
    by_cases before : p.day < 364
    · exact (nextDate_of_follows (follows_monthDay before) _).symm
    -- only a leap year goes on after the twenty-eighth of February
    · have february : p.day = 364 := by omega
      have length : monthLength (p.yearOfEra + era * 400 + 1) 2 = 29 := by
        rw [monthLength_february, if_pos (leap.mpr (by omega))]
      have twentyEighth : 28 < monthLength (p.yearOfEra + era * 400 + 1) 2 := by omega
      rw [february]
      exact (nextDate_of_lt twentyEighth).symm

example : dateOfDay 0 = (1970, 1, 1) := by decide

/-- Days have dates of the calendar. -/
theorem isDate_dateOfDay (day : Int) : IsDate (dateOfDay day) := by
  obtain ⟨era, p, rfl⟩ := exists_place day
  have all : ∀ day < 366, 1 ≤ (monthDay day).1 ∧ (monthDay day).1 ≤ 12 ∧ 1 ≤ (monthDay day).2 ∧
      ((monthDay day).2 ≤ monthLength 1 (monthDay day).1 ∨ day = 365) := by decide +kernel
  obtain ⟨january, december, first, last⟩ := all p.day (by have day := p.day_lt; omega)
  rw [dateOfDay_place]
  refine ⟨january, december, first, ?_⟩
  obtain inMonth | leapDay := last
  · exact inMonth.trans (monthLength_one_le _ _)
  · have february : monthDay p.day = (2, 29) := by rw [leapDay]; rfl
    have leap := (p.isLeap_iff era).mpr (by have day := p.day_lt; omega)
    have length : monthLength (p.yearOfEra + era * 400 + 1) 2 = 29 := by
      rw [monthLength_february, if_pos leap]
    dsimp only
    rw [february]
    exact length.ge

/-- A date as one number, with 16 places for the months of a year and 32 for the days of a month. -/
def dateNumber : Int × Nat × Nat → Int
  | (year, month, day) => (year * 16 + month) * 32 + day

theorem dateNumber_lt_nextDate {date : Int × Nat × Nat} (valid : IsDate date) :
    dateNumber date < dateNumber (nextDate date) := by
  obtain ⟨year, month, day⟩ := date
  obtain ⟨january, december, first, last⟩ := valid
  have longest := monthLength_le year month
  dsimp only at january december first last
  simp only [nextDate]
  split_ifs
  all_goals
    simp only [dateNumber]
    omega

/-- **Dates come in the order of the days.** -/
theorem dateNumber_lt {d e : Int} (before : d < e) :
    dateNumber (dateOfDay d) < dateNumber (dateOfDay e) := by
  have increasing : StrictMono fun day => dateNumber (dateOfDay day) := by
    refine strictMono_int_of_lt_succ fun day => ?_
    rw [dateOfDay_add_one]
    exact dateNumber_lt_nextDate (isDate_dateOfDay day)
  exact increasing before

end Calendar

/-! ### Instants -/

namespace Calendar

/-- An instant of the calendar.  A leap second is twice as long as another one. -/
structure Valid (c : Calendar) : Prop where
  date : IsDate (c.year, c.month, c.day)
  hour : c.hour < 24
  minute : c.minute < 60
  second : c.second < 60
  micros : c.micros < 2000000

theorem date_ofMicros (us : Int) : ((ofMicros us).year, (ofMicros us).month, (ofMicros us).day) =
    dateOfDay (us / microsPerDay) := rfl

theorem valid_ofMicros (us : Int) : (ofMicros us).Valid := by
  have inDay : (us % microsPerDay).toNat < 86400000000 := by
    unfold microsPerDay
    omega
  refine ⟨?_, ?_, ?_, ?_, ?_⟩
  · rw [date_ofMicros]
    exact isDate_dateOfDay _
  · exact Nat.div_lt_of_lt_mul inDay
  · exact Nat.mod_lt _ (by decide)
  · exact Nat.mod_lt _ (by decide)
  · exact (Nat.mod_lt _ (by decide)).trans (by decide)

/-! ### The time of day -/

/-- The millisecond of the second, the last one in the second half of a leap second. -/
def milli (c : Calendar) : Nat := min 999 (c.micros / 1000)

/-- The time of day as one number, with 64 places for minutes and seconds and 1024 for
milliseconds. -/
def timeNumber (c : Calendar) : Nat :=
  ((c.hour * 64 + c.minute) * 64 + c.second) * 1024 + c.milli

theorem milli_lt (c : Calendar) : c.milli < 1000 := by
  unfold milli
  omega

theorem timeNumber_lt {c : Calendar} (valid : c.Valid) : c.timeNumber < 2 ^ 27 := by
  have hour := valid.hour
  have minute := valid.minute
  have second := valid.second
  have milli := c.milli_lt
  unfold timeNumber
  omega

/-- The milliseconds since the day began. -/
def milliOfDay (ms : Int) : Nat := (ms % 86400000).toNat

/-- The parts of the time of day count its milliseconds. -/
theorem milliOfDay_eq (ms : Int) : milliOfDay ms =
    (((ofMillis ms).hour * 60 + (ofMillis ms).minute) * 60 + (ofMillis ms).second) * 1000 +
      (ofMillis ms).milli := by
  have micros : (ms * 1000 % microsPerDay).toNat = milliOfDay ms * 1000 := by
    unfold microsPerDay milliOfDay
    omega
  simp only [ofMillis, ofMicros, milli, micros]
  omega

/-- The first part that differs decides, whatever ranges the parts have. -/
theorem parts_lt_iff {c d : Calendar} (hc : c.Valid) (hd : d.Valid) {p q r : Nat} (hp : 60 ≤ p)
    (hq : 60 ≤ q) (hr : 1000 ≤ r) :
    ((c.hour * p + c.minute) * q + c.second) * r + c.milli <
        ((d.hour * p + d.minute) * q + d.second) * r + d.milli ↔
      c.hour < d.hour ∨ c.hour = d.hour ∧ (c.minute < d.minute ∨ c.minute = d.minute ∧
        (c.second < d.second ∨ c.second = d.second ∧ c.milli < d.milli)) := by
  have minutes : c.minute < p ∧ d.minute < p := ⟨hc.minute.trans_le hp, hd.minute.trans_le hp⟩
  have seconds : c.second < q ∧ d.second < q := ⟨hc.second.trans_le hq, hd.second.trans_le hq⟩
  have millis : c.milli < r ∧ d.milli < r := ⟨c.milli_lt.trans_le hr, d.milli_lt.trans_le hr⟩
  rw [Text.mul_add_lt_iff millis.1 millis.2, Text.mul_add_lt_iff seconds.1 seconds.2,
    Text.mul_add_eq_iff seconds.1 seconds.2, Text.mul_add_lt_iff minutes.1 minutes.2,
    Text.mul_add_eq_iff minutes.1 minutes.2]
  tauto

/-- **An earlier millisecond of the day** has a smaller number. -/
theorem timeNumber_lt_iff (s t : Int) :
    (ofMillis s).timeNumber < (ofMillis t).timeNumber ↔ milliOfDay s < milliOfDay t := by
  have validS : (ofMillis s).Valid := valid_ofMicros (s * 1000)
  have validT : (ofMillis t).Valid := valid_ofMicros (t * 1000)
  have padded := parts_lt_iff validS validT (p := 64) (q := 64) (r := 1024) (by decide) (by decide)
    (by decide)
  have counted := parts_lt_iff validS validT (p := 60) (q := 60) (r := 1000) le_rfl le_rfl le_rfl
  rw [milliOfDay_eq s, milliOfDay_eq t]
  exact padded.trans counted.symm

end Calendar

end TableMapper
