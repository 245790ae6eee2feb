import Mathlib.Order.Monotone.Basic
import SemanticLayer.Data.Moment
import SemanticLayer.Granularity

/-!
# The calendar

Dates of the Gregorian calendar, extended to all years from 0, and times of day to the microsecond.
Days are numbered from the first day of year 0, which was a Saturday, and a time is placed on one
line of microseconds (`instant`).

`period g t` tells the periods of a granularity apart, and `Timestamp.start` gives the microsecond
at which the period of a time begins. The main statement is `start_eq_iff`: two periods begin at the
same microsecond only if they are the same. It rests on `Date.number_injective`: no two dates have
one number, since years and months are laid end to end (`yearStart_succ`, `monthStart`).
-/

namespace SemanticLayer.Calendar

/-! ## Days -/

/-- The number of days of a year. -/
def yearLength (year : Nat) : Nat := if Moment.isLeap year then 366 else 365

/-- The number of days before a year. -/
def yearStart (year : Nat) : Nat :=
  365 * year + (year + 3) / 4 + (year + 399) / 400 - (year + 99) / 100

/-- The number of days of a year in its first months. -/
def monthStart (year : Nat) : Nat → Nat
  | 0 => 0
  | months + 1 => monthStart year months + Moment.daysIn year (months + 1)

/-- A day of the calendar. -/
structure Date where
  year : Nat
  month : Nat
  day : Nat
  month_mem : 1 ≤ month ∧ month ≤ 12
  day_mem : 1 ≤ day ∧ day ≤ Moment.daysIn year month
  deriving DecidableEq

def Date.number (d : Date) : Nat := yearStart d.year + monthStart d.year (d.month - 1) + (d.day - 1)

theorem yearStart_succ (year : Nat) : yearStart (year + 1) = yearStart year + yearLength year := by
  have h4 : (year + 1 + 3) / 4 = (year + 3) / 4 + if year % 4 = 0 then 1 else 0 := by
    split <;> omega
  have h100 : (year + 1 + 99) / 100 = (year + 99) / 100 + if year % 100 = 0 then 1 else 0 := by
    split <;> omega
  have h400 : (year + 1 + 399) / 400 = (year + 399) / 400 + if year % 400 = 0 then 1 else 0 := by
    split <;> omega
  have hfew : (year + 99) / 100 ≤ 365 * year + (year + 3) / 4 := by omega
  have h100of : year % 400 = 0 → year % 100 = 0 := by omega
  have h4of : year % 100 = 0 → year % 4 = 0 := by omega
  have hleap : yearLength year = 365 + (if year % 4 = 0 then 1 else 0) +
      (if year % 400 = 0 then 1 else 0) - if year % 100 = 0 then 1 else 0 := by
    unfold yearLength Moment.isLeap
    by_cases c400 : year % 400 = 0
    · simp [c400, h100of c400, h4of (h100of c400)]
    · by_cases c100 : year % 100 = 0
      · simp [c400, c100, h4of c100]
      · by_cases c4 : year % 4 = 0 <;> simp [c400, c100, c4]
  unfold yearStart
  rw [hleap, h4, h100, h400]
  generalize (year + 3) / 4 = q4 at hfew ⊢
  generalize (year + 99) / 100 = q100 at hfew ⊢
  generalize (year + 399) / 400 = q400
  by_cases c100 : year % 100 = 0
  · rw [if_pos c100, if_pos (h4of c100)]
    omega
  · rw [if_neg c100]
    omega

/-- Years lie end to end. -/
theorem yearStart_add_le {y y' : Nat} (h : y < y') :
    yearStart y + yearLength y ≤ yearStart y' := by
  have hmono : Monotone yearStart := monotone_nat_of_le_succ fun y => by
    rw [yearStart_succ]
    exact Nat.le_add_right ..
  rw [← yearStart_succ]
  exact hmono h

/-- Months lie end to end. -/
theorem monthStart_add_le (year : Nat) {m m' : Nat} (h : m < m') :
    monthStart year m + Moment.daysIn year (m + 1) ≤ monthStart year m' := by
  have hmono : Monotone (monthStart year) := monotone_nat_of_le_succ fun m => Nat.le_add_right ..
  exact hmono h

/-- The twelve months make up the year. -/
theorem monthStart_twelve (year : Nat) : monthStart year 12 = yearLength year := by
  unfold yearLength
  cases h : Moment.isLeap year <;> simp [monthStart, Moment.daysIn, h]

theorem one_le_daysIn (year month : Nat) : 1 ≤ Moment.daysIn year month := by
  unfold Moment.daysIn
  repeat' split
  all_goals decide

namespace Date

variable (d e : Date)

/-- The number of a day within its year, from zero. -/
def dayOfYear : Nat := monthStart d.year (d.month - 1) + (d.day - 1)

theorem number_eq : d.number = yearStart d.year + d.dayOfYear := Nat.add_assoc ..

theorem dayOfYear_lt : d.dayOfYear < yearLength d.year := by
  obtain ⟨hm, hm'⟩ := d.month_mem
  obtain ⟨hd, hd'⟩ := d.day_mem
  have hmonth : monthStart d.year (d.month - 1) + Moment.daysIn d.year (d.month - 1 + 1) ≤
      monthStart d.year 12 := monthStart_add_le d.year (by omega)
  rw [Nat.sub_add_cancel hm, monthStart_twelve] at hmonth
  unfold dayOfYear
  omega

variable {d e}

/-- Days that lie within one and the same run of days, from the beginning of a year to its end, lie
in the same year. -/
theorem year_eq_of_number {n : Nat} (hd : yearStart d.year ≤ n) (hd' : n ≤ d.number)
    (he : yearStart e.year ≤ n) (he' : n ≤ e.number) : d.year = e.year := by
  have hdlt := d.dayOfYear_lt
  have helt := e.dayOfYear_lt
  rw [number_eq] at hd' he'
  rcases Nat.lt_trichotomy d.year e.year with h | h | h
  · have hgap := yearStart_add_le h
    omega
  · exact h
  · have hgap := yearStart_add_le h
    omega

/-- No two dates have one number. -/
theorem number_injective : Function.Injective number := by
  intro d e h
  have hyear : d.year = e.year := by
    rcases Nat.le_total (yearStart d.year) (yearStart e.year) with hle | hle
    · refine year_eq_of_number (n := yearStart e.year) hle ?_ (Nat.le_refl _) ?_
      · rw [h, number_eq]
        exact Nat.le_add_right ..
      · rw [number_eq]
        exact Nat.le_add_right ..
    · refine year_eq_of_number (n := yearStart d.year) (Nat.le_refl _) ?_ hle ?_
      · rw [number_eq]
        exact Nat.le_add_right ..
      · rw [← h, number_eq]
        exact Nat.le_add_right ..
  obtain ⟨dy, dm, dd, ⟨hm, hm'⟩, ⟨hd, hd'⟩⟩ := d
  obtain ⟨ey, em, ed, ⟨gm, gm'⟩, ⟨gd, gd'⟩⟩ := e
  obtain rfl : dy = ey := hyear
  have hday : monthStart dy (dm - 1) + (dd - 1) = monthStart dy (em - 1) + (ed - 1) := by
    have hsum : yearStart dy + monthStart dy (dm - 1) + (dd - 1) =
        yearStart dy + monthStart dy (em - 1) + (ed - 1) := h
    omega
  have hmonth : dm = em := by
    rcases Nat.lt_trichotomy dm em with hlt | heq | hlt
    · have hgap := monthStart_add_le dy (show dm - 1 < em - 1 by omega)
      rw [Nat.sub_add_cancel hm] at hgap
      omega
    · exact heq
    · have hgap := monthStart_add_le dy (show em - 1 < dm - 1 by omega)
      rw [Nat.sub_add_cancel gm] at hgap
      omega
  subst hmonth
  obtain rfl : dd = ed := by omega
  rfl

variable (d)

/-- The day of the week, from Monday as zero. -/
def weekday : Nat := (d.number + 5) % 7

/-- The number of the week, which begins on Monday. -/
def week : Nat := (d.number + 5) / 7

/-- The number of the quarter of the year, from one. -/
def quarter : Nat := (d.month + 2) / 3

def firstOfYear : Date where
  year := d.year
  month := 1
  day := 1
  month_mem := ⟨Nat.le_refl 1, d.month_mem.1.trans d.month_mem.2⟩
  day_mem := ⟨Nat.le_refl 1, one_le_daysIn ..⟩

def firstOfQuarter : Date where
  year := d.year
  month := 3 * (d.quarter - 1) + 1
  day := 1
  month_mem := by
    have h := d.month_mem
    unfold quarter
    omega
  day_mem := ⟨Nat.le_refl 1, one_le_daysIn ..⟩

def firstOfMonth : Date where
  year := d.year
  month := d.month
  day := 1
  month_mem := d.month_mem
  day_mem := ⟨Nat.le_refl 1, one_le_daysIn ..⟩

variable {d}

theorem firstOfYear_eq_iff : d.firstOfYear = e.firstOfYear ↔ d.year = e.year := by
  simp [firstOfYear]

theorem firstOfMonth_eq_iff :
    d.firstOfMonth = e.firstOfMonth ↔ d.year = e.year ∧ d.month = e.month := by
  simp [firstOfMonth]

theorem firstOfQuarter_eq_iff :
    d.firstOfQuarter = e.firstOfQuarter ↔ d.year = e.year ∧ d.quarter = e.quarter := by
  have hd := d.month_mem
  have he := e.month_mem
  have hmonth : 3 * (d.quarter - 1) + 1 = 3 * (e.quarter - 1) + 1 ↔ d.quarter = e.quarter := by
    unfold quarter
    omega
  simp [firstOfQuarter, ← hmonth]

theorem eq_iff : d = e ↔ d.year = e.year ∧ d.month = e.month ∧ d.day = e.day := by
  cases d
  cases e
  simp

/-- The Mondays of two weeks are the same day exactly if the weeks are the same. -/
theorem monday_eq_iff : (d.number : Int) - d.weekday = e.number - e.weekday ↔ d.week = e.week := by
  unfold weekday week
  omega

end Date

/-! ## Times -/

/-- A date with a time of day. -/
structure Timestamp where
  date : Date
  hour : Nat
  minute : Nat
  second : Nat
  microsecond : Nat
  hour_lt : hour < 24
  minute_lt : minute < 60
  second_lt : second < 60
  microsecond_lt : microsecond < 1000000
  deriving DecidableEq

/-- The microseconds of a day. -/
def dayLength : Int := 86400000000

/-- A time of a day on the line of microseconds. -/
def instant (day : Int) (hour minute second microsecond : Nat) : Int :=
  dayLength * day + 3600000000 * hour + 60000000 * minute + 1000000 * second + microsecond

/-- The beginning of a day on the line of microseconds. -/
def midnight (day : Int) : Int := instant day 0 0 0 0

theorem midnight_inj {day day' : Int} : midnight day = midnight day' ↔ day = day' := by
  unfold midnight instant dayLength
  omega

/-- What tells the periods of a granularity apart. -/
def period (g : Granularity) (t : Timestamp) : List Nat :=
  match g with
  | .year => [t.date.year]
  | .quarter => [t.date.year, t.date.quarter]
  | .month => [t.date.year, t.date.month]
  | .week => [t.date.week]
  | .day => [t.date.year, t.date.month, t.date.day]
  | .hour => [t.date.year, t.date.month, t.date.day, t.hour]
  | .minute => [t.date.year, t.date.month, t.date.day, t.hour, t.minute]
  | .second => [t.date.year, t.date.month, t.date.day, t.hour, t.minute, t.second]

namespace Timestamp

/-- A time on the line of microseconds. -/
def point (t : Timestamp) : Int := instant t.date.number t.hour t.minute t.second t.microsecond

/-- The beginning of the period in which a time lies. -/
def start (t : Timestamp) : Granularity → Int
  | .year => midnight t.date.firstOfYear.number
  | .quarter => midnight t.date.firstOfQuarter.number
  | .month => midnight t.date.firstOfMonth.number
  | .week => midnight (t.date.number - t.date.weekday)
  | .day => midnight t.date.number
  | .hour => instant t.date.number t.hour 0 0 0
  | .minute => instant t.date.number t.hour t.minute 0 0
  | .second => instant t.date.number t.hour t.minute t.second 0

variable {t u : Timestamp}

/-- Two days begin at the same time only if they are the same. -/
theorem midnight_number_eq_iff {d e : Date} : midnight d.number = midnight e.number ↔ d = e := by
  rw [midnight_inj, Int.ofNat_inj, Date.number_injective.eq_iff]

/-- A time of day in hours, minutes and seconds is unique. -/
theorem instant_eq_iff {day day' : Int} {h h' m m' s s' : Nat} (hh : h < 24) (hh' : h' < 24)
    (hm : m < 60) (hm' : m' < 60) (hs : s < 60) (hs' : s' < 60) :
    instant day h m s 0 = instant day' h' m' s' 0 ↔ day = day' ∧ h = h' ∧ m = m' ∧ s = s' := by
  unfold instant dayLength
  omega

/-- Two periods begin at the same time exactly if they are the same. -/
theorem start_eq_iff (g : Granularity) : t.start g = u.start g ↔ period g t = period g u := by
  have hclock (m m' s s' : Nat) (hm : m < 60) (hm' : m' < 60) (hs : s < 60) (hs' : s' < 60) :
      instant t.date.number t.hour m s 0 = instant u.date.number u.hour m' s' 0 ↔
        (t.date.year = u.date.year ∧ t.date.month = u.date.month ∧ t.date.day = u.date.day) ∧
          t.hour = u.hour ∧ m = m' ∧ s = s' := by
    rw [instant_eq_iff t.hour_lt u.hour_lt hm hm' hs hs', Int.ofNat_inj,
      Date.number_injective.eq_iff, Date.eq_iff]
  unfold start period
  cases g with
  | year => simp [midnight_number_eq_iff, Date.firstOfYear_eq_iff]
  | quarter => simp [midnight_number_eq_iff, Date.firstOfQuarter_eq_iff]
  | month => simp [midnight_number_eq_iff, Date.firstOfMonth_eq_iff]
  | week => simp [midnight_inj, Date.monday_eq_iff]
  | day => simp [midnight_number_eq_iff, Date.eq_iff]
  | hour =>
    have h := hclock 0 0 0 0 (by decide) (by decide) (by decide) (by decide)
    simp [h, and_assoc]
  | minute =>
    have h := hclock t.minute u.minute 0 0 t.minute_lt u.minute_lt (by decide) (by decide)
    simp [h, and_assoc]
  | second =>
    have h := hclock t.minute u.minute t.second u.second t.minute_lt u.minute_lt t.second_lt
      u.second_lt
    simp [h, and_assoc]

end Timestamp

end SemanticLayer.Calendar
