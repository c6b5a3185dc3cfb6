/-!
# Moments

A moment is a number of seconds since the start of the year 1970. It is shown as a date and a time
of day in the universal time zone. The calendar repeats itself every four hundred years, which are
counted from a first of March so that a leap day is the last day of its year.

Main statements:

* `days_dateOfDays` — counted in years and months, a date is as many days away as it is for.
* `dateOfDays_bounds` — it has one of twelve months, and a day that months have.
-/

namespace SpectralBench

structure Moment where
  seconds : Nat
  deriving DecidableEq, Repr

/-- A day of the calendar. -/
structure Date where
  year : Nat
  month : Nat
  day : Nat
  deriving DecidableEq, Repr

/-- The days from the first of March of the year 0 to a date. -/
def Date.days (date : Date) : Nat :=
  let year := if date.month ≤ 2 then date.year - 1 else date.year
  let month := if date.month ≤ 2 then date.month + 9 else date.month - 3
  365 * year + year / 4 - year / 100 + year / 400 + (153 * month + 2) / 5 + (date.day - 1)

namespace Moment

/-- The days of four hundred years. -/
def daysOfCycle : Nat := 146097

/-- The days from the first of March of the year 0 to the start of the year 1970. -/
def daysBefore : Nat := 719468

/-- The day of the calendar, for a number of days since the start of the year 1970. -/
def dateOfDays (days : Nat) : Date :=
  let shifted := days + daysBefore
  let cycle := shifted / daysOfCycle
  let dayOfCycle := shifted % daysOfCycle
  let yearOfCycle :=
    (dayOfCycle - dayOfCycle / 1460 + dayOfCycle / 36524 - dayOfCycle / 146096) / 365
  let dayOfYear := dayOfCycle - (365 * yearOfCycle + yearOfCycle / 4 - yearOfCycle / 100)
  let shiftedMonth := (5 * dayOfYear + 2) / 153
  let day := dayOfYear - (153 * shiftedMonth + 2) / 5 + 1
  let month := if shiftedMonth < 10 then shiftedMonth + 3 else shiftedMonth - 9
  let year := yearOfCycle + cycle * 400
  ⟨if month ≤ 2 then year + 1 else year, month, day⟩

def date (moment : Moment) : Date :=
  dateOfDays (moment.seconds / 86400)

/-- The days of a cycle in front of one of its years. -/
def daysInFront (year : Nat) : Nat :=
  365 * year + year / 4 - year / 100

/-- The days of a cycle without the leap days in front of one of them. -/
def plainDays (day : Nat) : Nat :=
  day - day / 1460 + day / 36524 - day / 146096

theorem plainDays_mono {a b : Nat} (h : a ≤ b) : plainDays a ≤ plainDays b := by
  induction h with
  | refl => exact Nat.le_refl _
  | step _ ih =>
    refine Nat.le_trans ih ?_
    unfold plainDays
    omega

/-- A year begins on its first day, not before, and is over after its leap day. -/
theorem plainDays_daysInFront : ∀ year : Fin 400,
    (0 < year.val → plainDays (daysInFront year - 1) < 365 * year) ∧
      365 * (year + 1) ≤ plainDays (daysInFront year + 366) := by
  decide +kernel

theorem year_bounds {day : Nat} (hday : day < daysOfCycle) : plainDays day / 365 < 400 ∧
    daysInFront (plainDays day / 365) ≤ day ∧ day ≤ daysInFront (plainDays day / 365) + 365 := by
  have hyear : plainDays day / 365 < 400 := by
    unfold daysOfCycle at hday
    unfold plainDays
    omega
  generalize hy : plainDays day / 365 = year at hyear
  obtain ⟨hfirst, hnext⟩ := plainDays_daysInFront ⟨year, hyear⟩
  dsimp only at hfirst hnext
  refine ⟨hyear, Nat.le_of_not_lt fun hbefore => ?_, Nat.le_of_not_lt fun hbehind => ?_⟩
  · have hpos : 0 < year := by
      refine Nat.pos_of_ne_zero fun hzero => ?_
      subst hzero
      exact absurd hbefore (Nat.not_lt_zero _)
    have hmono := plainDays_mono (Nat.le_sub_one_of_lt hbefore)
    have hlast := hfirst hpos
    omega
  · have hmono := plainDays_mono (show daysInFront year + 366 ≤ day by omega)
    omega

/-- A date has as many days in front of it as it is for. -/
theorem days_dateOfDays (days : Nat) : (dateOfDays days).days = days + daysBefore := by
  have hday : (days + daysBefore) % daysOfCycle < daysOfCycle := Nat.mod_lt _ (by decide)
  have hsplit := Nat.div_add_mod (days + daysBefore) daysOfCycle
  obtain ⟨hyear, hfirst, hlast⟩ := year_bounds hday
  unfold dateOfDays
  unfold plainDays at hyear hfirst hlast
  dsimp only
  generalize (days + daysBefore) % daysOfCycle = day at *
  generalize (days + daysBefore) / daysOfCycle = cycle at *
  generalize (day - day / 1460 + day / 36524 - day / 146096) / 365 = year at *
  rw [← hsplit]
  have hof : day = daysInFront year + (day - daysInFront year) := by omega
  have hlong : day - daysInFront year ≤ 365 := by omega
  rw [show day - (365 * year + year / 4 - year / 100) = day - daysInFront year from rfl]
  generalize day - daysInFront year = dayOfYear at *
  subst hof
  -- months are counted from March, so none of them is longer than what is left of the year
  have hmonth : (5 * dayOfYear + 2) / 153 ≤ 11 := by omega
  have hstart : (153 * ((5 * dayOfYear + 2) / 153) + 2) / 5 ≤ dayOfYear := by omega
  generalize (5 * dayOfYear + 2) / 153 = month at *
  unfold Date.days daysOfCycle daysInFront
  dsimp only
  have hleap : (year + cycle * 400) / 4 = year / 4 + 100 * cycle := by omega
  have hcentury : (year + cycle * 400) / 100 = year / 100 + 4 * cycle := by omega
  have hcycle : (year + cycle * 400) / 400 = cycle := by omega
  obtain hspring | hwinter := Nat.lt_or_ge month 10
  · have hnotEarly : ¬month + 3 ≤ 2 := by omega
    simp only [if_pos hspring, if_neg hnotEarly, Nat.add_sub_cancel, hleap, hcentury, hcycle]
    omega
  · have hearly : month - 9 ≤ 2 := by omega
    simp only [if_neg (Nat.not_lt.2 hwinter), if_pos hearly, Nat.add_sub_cancel, hleap, hcentury,
      hcycle, Nat.sub_add_cancel (Nat.le_of_succ_le hwinter)]
    omega

theorem dateOfDays_bounds (days : Nat) : 1 ≤ (dateOfDays days).month ∧
    (dateOfDays days).month ≤ 12 ∧ 1 ≤ (dateOfDays days).day ∧ (dateOfDays days).day ≤ 31 := by
  have hday : (days + daysBefore) % daysOfCycle < daysOfCycle := Nat.mod_lt _ (by decide)
  obtain ⟨-, hfirst, hlast⟩ := year_bounds hday
  unfold dateOfDays
  unfold plainDays daysInFront at hfirst hlast
  dsimp only
  generalize (days + daysBefore) % daysOfCycle = day at *
  generalize (day - day / 1460 + day / 36524 - day / 146096) / 365 = year at *
  have hlong : day - (365 * year + year / 4 - year / 100) ≤ 365 := by omega
  generalize day - (365 * year + year / 4 - year / 100) = dayOfYear at *
  refine ⟨?_, ?_, ?_, ?_⟩
  · split <;> omega
  · split <;> omega
  · omega
  · omega

example : date ⟨0⟩ = ⟨1970, 1, 1⟩ := by
  decide

/-- A leap day of a year that can be divided by a hundred. -/
example : date ⟨951782400⟩ = ⟨2000, 2, 29⟩ := by
  decide +kernel

/-- A number with at least two digits. -/
def twoDigits (n : Nat) : String :=
  if n < 10 then s!"0{n}" else toString n

/-- The date and the time of day. -/
def dateAndTime (moment : Moment) : String :=
  let date := moment.date
  let second := moment.seconds % 86400
  s!"{date.year}-{twoDigits date.month}-{twoDigits date.day}T" ++
    s!"{twoDigits (second / 3600)}:{twoDigits (second / 60 % 60)}:{twoDigits (second % 60)}"

/-- The form in which a report shows its start. -/
def inReport (moment : Moment) : String :=
  moment.dateAndTime ++ "+00:00"

/-- The form in which a log shows when an entry was made. -/
def inLog (moment : Moment) : String :=
  moment.dateAndTime ++ "Z"

end Moment

end SpectralBench
