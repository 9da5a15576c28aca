import Mathlib.Data.List.Count
import Mathlib.Order.Basic
import VoodooOne.Library.DecimalText

/-!
# Instants of the proleptic Gregorian calendar

An instant counts the milliseconds since the start of the year 1, up to the end of the year 9999.
Its civil rendering in UTC has fixed-width columns, so the order of renderings is the order of
instants, and the rendering can be read back.
-/

namespace Calendar

def isLeap (year : Nat) : Bool := year % 4 == 0 && (year % 100 != 0 || year % 400 == 0)

/-- Days from the start of the year 1 to the start of `year`. -/
def daysBeforeYear (year : Nat) : Nat :=
  (year - 1) * 365 + (year - 1) / 4 - (year - 1) / 100 + (year - 1) / 400

/-- Days of a year before its `month`. -/
def daysBeforeMonth (leap : Bool) (month : Nat) : Nat :=
  [0, 0, 31, 59, 90, 120, 151, 181, 212, 243, 273, 304, 334].getD month 0 +
    if leap && decide (2 < month) then 1 else 0

/-- Year and zero-based day of the year of a zero-based day count. -/
def yearDay (days : Nat) : Nat × Nat :=
  let inEra := days % 146097
  let century := min 3 (inEra / 36524)
  let inCentury := inEra - 36524 * century
  let inCycle := inCentury % 1461
  let yearOfCycle := min 3 (inCycle / 365)
  (400 * (days / 146097) + 100 * century + 4 * (inCentury / 1461) + yearOfCycle + 1,
    inCycle - 365 * yearOfCycle)

/-- Month that contains a zero-based day of the year. -/
def monthOf (leap : Bool) (day : Nat) : Nat :=
  1 + ([2, 3, 4, 5, 6, 7, 8, 9, 10, 11, 12].countP fun month =>
    decide (daysBeforeMonth leap month ≤ day))

variable {left right : Nat}

theorem daysBeforeYear_mono (le : left ≤ right) : daysBeforeYear left ≤ daysBeforeYear right := by
  have centuries (year : Nat) : year / 100 = year / 4 / 25 := by rw [Nat.div_div_eq_div_mul]
  have quotients : (left - 1) / 4 ≤ (right - 1) / 4 := Nat.div_le_div_right (by omega)
  have eras : (left - 1) / 400 ≤ (right - 1) / 400 := Nat.div_le_div_right (by omega)
  unfold daysBeforeYear
  rw [centuries, centuries]
  omega

/-- A year written in eras, centuries and four-year cycles starts after their whole days. -/
theorem daysBeforeYear_split {total : Nat} (era century cycle year : Nat)
    (parts : total = 400 * era + 100 * century + 4 * cycle + year + 1)
    (bounds : century < 4 ∧ cycle < 25 ∧ year < 4) :
    daysBeforeYear total = 146097 * era + 36524 * century + 1461 * cycle + 365 * year := by
  have fourth : (total - 1) / 4 = 100 * era + 25 * century + cycle := by omega
  have hundredth : (total - 1) / 100 = 4 * era + century := by omega
  have fourHundredth : (total - 1) / 400 = era := by omega
  rw [daysBeforeYear, fourth, hundredth, fourHundredth]
  omega

theorem yearDay_parts (days : Nat) : ∃ era century cycle year,
    century < 4 ∧ cycle < 25 ∧ year < 4 ∧
    (yearDay days).1 = 400 * era + 100 * century + 4 * cycle + year + 1 ∧
    days = 146097 * era + 36524 * century + 1461 * cycle + 365 * year + (yearDay days).2 ∧
    ((yearDay days).2 < 365 ∨ (yearDay days).2 = 365 ∧ year = 3 ∧ (cycle ≠ 24 ∨ century = 3)) := by
  refine ⟨days / 146097, min 3 (days % 146097 / 36524),
    (days % 146097 - 36524 * min 3 (days % 146097 / 36524)) / 1461,
    min 3 ((days % 146097 - 36524 * min 3 (days % 146097 / 36524)) % 1461 / 365),
    ?_, ?_, ?_, rfl, ?_, ?_⟩
  · omega
  · omega
  · omega
  · simp only [yearDay]
    omega
  · simp only [yearDay]
    omega

theorem yearDay_sum (days : Nat) : daysBeforeYear (yearDay days).1 + (yearDay days).2 = days := by
  obtain ⟨era, century, cycle, year, centuries, cycles, years, first, sum, -⟩ := yearDay_parts days
  rw [daysBeforeYear_split era century cycle year first ⟨centuries, cycles, years⟩]
  omega

theorem yearDay_day_lt (days : Nat) : (yearDay days).2 < 366 := by
  obtain ⟨_, _, _, _, _, _, _, _, _, day⟩ := yearDay_parts days
  omega

theorem lt_daysBeforeYear_succ (days : Nat) : days < daysBeforeYear ((yearDay days).1 + 1) := by
  obtain ⟨era, century, cycle, year, centuries, cycles, years, first, sum, day⟩ :=
    yearDay_parts days
  rw [first]
  clear first
  by_cases inCycle : year < 3
  · rw [daysBeforeYear_split era century cycle (year + 1) (by rfl) ⟨centuries, cycles, by omega⟩]
    omega
  obtain rfl : year = 3 := by omega
  by_cases inCentury : cycle < 24
  · rw [daysBeforeYear_split era century (cycle + 1) 0 (by ring) ⟨centuries, by omega, by omega⟩]
    omega
  obtain rfl : cycle = 24 := by omega
  by_cases inEra : century < 3
  · rw [daysBeforeYear_split era (century + 1) 0 0 (by ring) ⟨by omega, by omega, by omega⟩]
    omega
  obtain rfl : century = 3 := by omega
  rw [daysBeforeYear_split (era + 1) 0 0 0 (by ring) ⟨by omega, by omega, by omega⟩]
  omega

theorem year_mono (le : left ≤ right) : (yearDay left).1 ≤ (yearDay right).1 := by
  by_contra later
  have bound := lt_daysBeforeYear_succ right
  have below := daysBeforeYear_mono (show (yearDay right).1 + 1 ≤ (yearDay left).1 by omega)
  have sum := yearDay_sum left
  omega

theorem monthOf_mono (leap : Bool) (le : left ≤ right) :
    monthOf leap left ≤ monthOf leap right := by
  apply Nat.add_le_add_left
  apply List.countP_mono_left
  intro month _ reached
  simp only [decide_eq_true_eq] at reached ⊢
  omega

theorem monthOf_le (leap : Bool) (day : Nat) : monthOf leap day ≤ 12 := by
  unfold monthOf
  have bound := List.countP_le_length
    (p := fun month => decide (daysBeforeMonth leap month ≤ day))
    (l := [2, 3, 4, 5, 6, 7, 8, 9, 10, 11, 12])
  simp only [List.length_cons, List.length_nil] at bound
  omega

theorem day_in_month (leap : Bool) {day : Nat} (inYear : day < 366) :
    daysBeforeMonth leap (monthOf leap day) ≤ day ∧
      day < daysBeforeMonth leap (monthOf leap day) + 32 := by
  have all : ∀ leap : Bool, ∀ day < 366, daysBeforeMonth leap (monthOf leap day) ≤ day ∧
      day < daysBeforeMonth leap (monthOf leap day) + 32 := by decide +kernel
  exact all leap day inYear

/-- A moment of the years 1 to 9999, in whole milliseconds of UTC. -/
structure Instant where
  /-- Milliseconds since the start of the year 1. -/
  milliseconds : Nat
  /-- The moment lies before the year 10000. -/
  inRange : milliseconds < 315537897600000
deriving DecidableEq

namespace Instant

theorem milliseconds_injective : Function.Injective milliseconds := by
  rintro ⟨left, _⟩ ⟨right, _⟩ same
  simpa using same

instance : LinearOrder Instant := LinearOrder.lift' milliseconds milliseconds_injective

variable {left right : Instant}

theorem lt_iff : left < right ↔ left.milliseconds < right.milliseconds :=
  Iff.rfl

theorem le_iff : left ≤ right ↔ left.milliseconds ≤ right.milliseconds :=
  Iff.rfl

/-- The moment that follows by a number of milliseconds, unless it leaves the calendar. -/
def later (instant : Instant) (milliseconds : Nat) : Option Instant :=
  if inRange : instant.milliseconds + milliseconds < 315537897600000 then
    some ⟨instant.milliseconds + milliseconds, inRange⟩
  else none

theorem later_eq_some {instant next : Instant} {milliseconds : Nat} :
    instant.later milliseconds = some next ↔
      next.milliseconds = instant.milliseconds + milliseconds := by
  unfold later
  split
  · rw [Option.some.injEq]
    constructor
    · rintro rfl
      rfl
    · intro same
      exact milliseconds_injective same.symm
  · constructor
    · simp
    · intro same
      have := next.inRange
      omega

/-- Zero-based day count. -/
def days (instant : Instant) : Nat := instant.milliseconds / 86400000

def year (instant : Instant) : Nat := (yearDay instant.days).1

def dayOfYear (instant : Instant) : Nat := (yearDay instant.days).2

def month (instant : Instant) : Nat := monthOf (isLeap instant.year) instant.dayOfYear

def day (instant : Instant) : Nat :=
  instant.dayOfYear - daysBeforeMonth (isLeap instant.year) instant.month + 1

/-- Milliseconds since midnight. -/
def timeOfDay (instant : Instant) : Nat := instant.milliseconds % 86400000

/-- Year, month, day, hour, minute, second and millisecond. -/
def fields (instant : Instant) : List Nat :=
  [instant.year, instant.month, instant.day, instant.timeOfDay / 3600000,
    instant.timeOfDay / 60000 % 60, instant.timeOfDay / 1000 % 60, instant.timeOfDay % 1000]

/-- Columns of the text `YYYY-MM-DDThh:mm:ss.mmm+00:00`. -/
def isoColumns : List DecimalText.Column :=
  [⟨4, ['-']⟩, ⟨2, ['-']⟩, ⟨2, ['T']⟩, ⟨2, [':']⟩, ⟨2, [':']⟩, ⟨2, ['.']⟩,
    ⟨3, ['+', '0', '0', ':', '0', '0']⟩]

/-- Civil rendering in UTC with milliseconds. -/
def isoformat (instant : Instant) : String :=
  String.ofList (DecimalText.render isoColumns instant.fields)

def count : List Nat → Nat
  | [year, month, day, hour, minute, second, millisecond] =>
      (daysBeforeYear year + daysBeforeMonth (isLeap year) month + (day - 1)) * 86400000 +
        hour * 3600000 + minute * 60000 + second * 1000 + millisecond
  | _ => 0

/-- The moment whose civil rendering is `text`. -/
def ofIsoformat? (text : String) : Option Instant :=
  if inRange : count (DecimalText.read isoColumns text.toList) < 315537897600000 then
    if isoformat ⟨count (DecimalText.read isoColumns text.toList), inRange⟩ = text then
      some ⟨count (DecimalText.read isoColumns text.toList), inRange⟩
    else none
  else none

theorem year_le (instant : Instant) : instant.year ≤ 9999 := by
  by_contra later
  have sum := yearDay_sum instant.days
  have below := daysBeforeYear_mono (show 10000 ≤ (yearDay instant.days).1 by
    unfold year at later
    omega)
  have last : daysBeforeYear 10000 = 3652059 := rfl
  have days : instant.days < 3652059 := by
    have := instant.inRange
    unfold days
    omega
  omega

theorem month_le (instant : Instant) : instant.month ≤ 12 := monthOf_le ..

theorem dayOfYear_in_month (instant : Instant) :
    daysBeforeMonth (isLeap instant.year) instant.month ≤ instant.dayOfYear ∧
      instant.dayOfYear < daysBeforeMonth (isLeap instant.year) instant.month + 32 :=
  day_in_month _ (yearDay_day_lt _)

theorem fields_fit (instant : Instant) : DecimalText.Fits isoColumns instant.fields := by
  have year := instant.year_le
  have month := instant.month_le
  have day : instant.day < 100 := by
    have := instant.dayOfYear_in_month
    unfold Instant.day
    omega
  have time : instant.timeOfDay < 86400000 := Nat.mod_lt _ (by norm_num)
  refine .cons ?_ (.cons ?_ (.cons ?_ (.cons ?_ (.cons ?_ (.cons ?_ (.cons ?_ .nil)))))) <;>
    simp only [Nat.reducePow] <;> omega

theorem count_fields (instant : Instant) : count instant.fields = instant.milliseconds := by
  have sum := yearDay_sum instant.days
  have inMonth := instant.dayOfYear_in_month
  have split : instant.milliseconds = instant.days * 86400000 + instant.timeOfDay := by
    unfold days timeOfDay
    omega
  have time : instant.timeOfDay = instant.timeOfDay / 3600000 * 3600000 +
      instant.timeOfDay / 60000 % 60 * 60000 + instant.timeOfDay / 1000 % 60 * 1000 +
      instant.timeOfDay % 1000 := by omega
  have date : daysBeforeYear instant.year + daysBeforeMonth (isLeap instant.year) instant.month +
      (instant.day - 1) = instant.days := by
    unfold day
    unfold year dayOfYear at *
    omega
  simp only [fields, count]
  rw [date]
  omega

theorem fields_lt (less : left < right) : left.fields < right.fields := by
  rw [lt_iff] at less
  have days_le : left.days ≤ right.days := Nat.div_le_div_right (by omega)
  have years : left.year ≤ right.year := year_mono days_le
  simp only [fields, List.cons_lt_cons_iff]
  by_cases sameDays : left.days = right.days
  · right
    have sameYear : left.year = right.year := by simp only [year, sameDays]
    have sameDay : left.dayOfYear = right.dayOfYear := by simp only [dayOfYear, sameDays]
    have sameMonth : left.month = right.month := by simp only [month, sameYear, sameDay]
    refine ⟨sameYear, .inr ⟨sameMonth, .inr ⟨by simp only [day, sameYear, sameMonth, sameDay], ?_⟩⟩⟩
    have times : left.timeOfDay < right.timeOfDay := by
      unfold days at sameDays
      unfold timeOfDay
      omega
    by_cases hours : left.timeOfDay / 3600000 < right.timeOfDay / 3600000
    · exact .inl hours
    refine .inr ⟨by omega, ?_⟩
    by_cases minutes : left.timeOfDay / 60000 % 60 < right.timeOfDay / 60000 % 60
    · exact .inl minutes
    refine .inr ⟨by omega, ?_⟩
    by_cases seconds : left.timeOfDay / 1000 % 60 < right.timeOfDay / 1000 % 60
    · exact .inl seconds
    exact .inr ⟨by omega, .inl (by omega)⟩
  · rcases Nat.lt_or_eq_of_le years with earlier | sameYear
    · exact .inl earlier
    refine .inr ⟨sameYear, ?_⟩
    have daysOfYear : left.dayOfYear < right.dayOfYear := by
      have leftSum := yearDay_sum left.days
      have rightSum := yearDay_sum right.days
      unfold year at sameYear
      unfold dayOfYear
      rw [sameYear] at leftSum
      omega
    have months : left.month ≤ right.month := by
      simp only [month, sameYear]
      exact monthOf_mono _ (by omega)
    rcases Nat.lt_or_eq_of_le months with earlier | sameMonth
    · exact .inl earlier
    refine .inr ⟨sameMonth, .inl ?_⟩
    have inMonth := left.dayOfYear_in_month
    unfold day
    rw [sameYear, sameMonth] at inMonth ⊢
    omega

theorem isoformat_lt_isoformat : left.isoformat < right.isoformat ↔ left < right := by
  have strict {left right : Instant} (less : left < right) : left.isoformat < right.isoformat := by
    rw [String.lt_iff_toList_lt, isoformat, isoformat, String.toList_ofList, String.toList_ofList]
    exact DecimalText.render_lt_render left.fields_fit right.fields_fit (fields_lt less)
  refine ⟨fun texts => ?_, strict⟩
  rcases lt_trichotomy left right with less | same | greater
  · exact less
  · rw [same] at texts
    exact absurd texts (lt_irrefl _)
  · exact absurd texts (lt_asymm (strict greater))

theorem isoformat_le_isoformat : left.isoformat ≤ right.isoformat ↔ left ≤ right := by
  rw [← not_lt, isoformat_lt_isoformat, not_lt]

/-- Reading accepts exactly the renderings, each as the moment it renders. -/
theorem ofIsoformat?_eq_some {text : String} {instant : Instant} :
    ofIsoformat? text = some instant ↔ instant.isoformat = text := by
  constructor
  · intro read
    unfold ofIsoformat? at read
    split_ifs at read with inRange same
    rw [Option.some.injEq] at read
    rw [← read]
    exact same
  · rintro rfl
    have counted : count (DecimalText.read isoColumns instant.isoformat.toList) =
        instant.milliseconds := by
      rw [isoformat, String.toList_ofList, DecimalText.read_render instant.fields_fit, count_fields]
    have found (inRange) : (⟨count (DecimalText.read isoColumns instant.isoformat.toList),
        inRange⟩ : Instant) = instant := milliseconds_injective counted
    have inRange : count (DecimalText.read isoColumns instant.isoformat.toList) <
        315537897600000 := by
      rw [counted]
      exact instant.inRange
    rw [ofIsoformat?, dif_pos inRange, found inRange, if_pos rfl]

theorem isoformat_injective : Function.Injective isoformat := by
  intro left right same
  have found := ofIsoformat?_eq_some.mpr same
  rw [ofIsoformat?_eq_some.mpr rfl, Option.some.injEq] at found
  exact found.symm

end Instant

end Calendar
