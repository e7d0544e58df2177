import Mathlib.Order.Monotone.Basic
import ScriptGateway.Time.Timestamp
/-!
# The date of a day

A date is found by taking off whole years and then whole months, and a date counts back to the
days before it. The two agree: what is taken off is exactly what is counted, and what is left is
less than the next year or month.

* `Civil.toMillis`: counts back, over the days of the years before, of the months before, and the
  day.
* `daysBeforeYear_eq`: the days before a year in closed form, with the leap years among them.
* `takeYears_spec`, `takeMonths_spec`: what is taken off and what is left.
* `Civil.IsValid`: a date that exists, at a time of day that exists.
* `isValid_ofDuration`, `toMillis_ofDuration`: the date of a duration exists, and counts back to it.
-/

namespace ScriptGateway

namespace Civil

/-! ## 1. Counting back -/

/-- The days of all years before `year`, from year 0 on. -/
def daysBeforeYear : Nat → Nat
  | 0 => 0
  | year + 1 => daysBeforeYear year + daysInYear year

/-- The days of the first months of a year. -/
def daysOfMonths : List Nat → Nat
  | [] => 0
  | length :: rest => length + daysOfMonths rest

/-- The days from the start of 1970 to this date. -/
def toDays (c : Civil) : Nat :=
  daysBeforeYear c.year - daysBeforeYear 1970
    + daysOfMonths ((monthLengths c.year).take (c.month - 1)) + (c.day - 1)

/-- The milliseconds from the start of 1970 to this date and time. -/
def toMillis (c : Civil) : Nat :=
  (((c.toDays * 24 + c.hour) * 60 + c.minute) * 60 + c.second) * 1000 + c.milli

/-! ## 2. Years -/

/-- The days before a year: every fourth year has one more, but for whole centuries that are no
multiple of four. -/
theorem daysBeforeYear_eq (year : Nat) :
    daysBeforeYear year = 365 * year + (year + 3) / 4 - (year + 99) / 100 + (year + 399) / 400 := by
  induction year with
  | zero => rfl
  | succ year ih =>
    rw [daysBeforeYear, ih, daysInYear, isLeapYear]
    simp only [Bool.or_eq_true, Bool.and_eq_true, beq_iff_eq, bne_iff_ne]
    split <;> omega

theorem daysInYear_pos (year : Nat) : 0 < daysInYear year := by
  unfold daysInYear
  split <;> omega

theorem daysBeforeYear_strictMono : StrictMono daysBeforeYear :=
  strictMono_nat_of_lt_succ fun year => Nat.lt_add_of_pos_right (daysInYear_pos year)

/-- **What is left of a count of days is less than a year, and what was taken off are the years
before.** Years that are numbered modulo 65536 are not reached. -/
theorem takeYears_spec {year days : Nat}
    (h : daysBeforeYear year + days < daysBeforeYear 65536) :
    (takeYears year days).2 < daysInYear (takeYears year days).1 ∧
      daysBeforeYear (takeYears year days).1 + (takeYears year days).2 =
        daysBeforeYear year + days := by
  fun_induction takeYears year days with
  | case1 year days whole ih =>
    have next : daysBeforeYear (year + 1) = daysBeforeYear year + daysInYear year := rfl
    have below : year + 1 < 65536 := by
      refine daysBeforeYear_strictMono.lt_iff_lt.mp ?_
      omega
    have same : (year + 1) % 65536 = year + 1 := Nat.mod_eq_of_lt below
    rw [same] at ih ⊢
    obtain ⟨rest, count⟩ := ih (by omega)
    refine ⟨rest, ?_⟩
    omega
  | case2 year days part =>
    exact ⟨Nat.lt_of_not_le part, rfl⟩

/-! ## 3. Months -/

/-- The months of a year are its days. -/
theorem daysOfMonths_monthLengths (year : Nat) :
    daysOfMonths (monthLengths year) = daysInYear year := by
  unfold monthLengths daysInYear
  split <;> rfl

theorem length_monthLengths (year : Nat) : (monthLengths year).length = 12 := rfl

theorem daysOfMonths_append (lengths more : List Nat) :
    daysOfMonths (lengths ++ more) = daysOfMonths lengths + daysOfMonths more := by
  induction lengths with
  | nil => rw [List.nil_append, daysOfMonths, Nat.zero_add]
  | cons length lengths ih => rw [List.cons_append, daysOfMonths, daysOfMonths, ih, Nat.add_assoc]

/-- More months have at least as many days. -/
theorem daysOfMonths_le {lengths more : List Nat} (h : lengths <+: more) :
    daysOfMonths lengths ≤ daysOfMonths more := by
  obtain ⟨rest, rfl⟩ := h
  rw [daysOfMonths_append]
  exact Nat.le_add_right _ _

/-- **What is left of a count of days is less than a month, and what was taken off are the months
before.** -/
theorem takeMonths_spec {lengths : List Nat} {days : Nat} (h : days < daysOfMonths lengths)
    (month : Nat) :
    ∃ before length, (takeMonths month days lengths).1 = month + before ∧
      lengths[before]? = some length ∧ (takeMonths month days lengths).2 < length ∧
      daysOfMonths (lengths.take before) + (takeMonths month days lengths).2 = days := by
  induction lengths generalizing month days with
  | nil => simp [daysOfMonths] at h
  | cons length rest ih =>
    rw [takeMonths]
    rcases Nat.lt_or_ge days length with inside | whole
    · rw [if_pos inside]
      exact ⟨0, length, rfl, rfl, inside, Nat.zero_add days⟩
    · rw [if_neg (Nat.not_lt.mpr whole)]
      have left : days - length < daysOfMonths rest := by
        simp only [daysOfMonths] at h
        omega
      obtain ⟨before, found, number, place, inside, count⟩ := ih left (month + 1)
      refine ⟨before + 1, found, by omega, place, inside, ?_⟩
      rw [List.take_succ_cons, daysOfMonths]
      omega

/-! ## 4. Dates -/

/-- **A date and a time of day that exist.** -/
structure IsValid (c : Civil) : Prop where
  month : 1 ≤ c.month ∧ c.month ≤ 12
  /-- The day is one of its month in its year. -/
  day : 1 ≤ c.day ∧ ∃ length, (monthLengths c.year)[c.month - 1]? = some length ∧ c.day ≤ length
  hour : c.hour < 24
  minute : c.minute < 60
  second : c.second < 60
  milli : c.milli < 1000

/-- No month is longer than thirty-one days. -/
theorem IsValid.day_le {c : Civil} (h : c.IsValid) : c.day ≤ 31 := by
  obtain ⟨-, length, place, last⟩ := h.day
  have short : ∀ length ∈ monthLengths c.year, length ≤ 31 := by
    unfold monthLengths
    split <;> decide
  exact Nat.le_trans last (short length (List.mem_of_getElem? place))

/-- The first moment of a year. -/
def startOfYear (year : Nat) : Civil :=
  { year, month := 1, day := 1, hour := 0, minute := 0, second := 0, milli := 0 }

theorem toMillis_startOfYear (year : Nat) : (startOfYear year).toMillis =
    (daysBeforeYear year - daysBeforeYear 1970) * 86400000 := by
  simp only [toMillis, toDays, startOfYear, Nat.sub_self, List.take_zero, daysOfMonths]
  omega

/-- The days that passed of the year of a duration. -/
def dayOfYear (d : Duration) : Nat :=
  (takeYears 1970 (d.seconds / 86400)).2

theorem month_ofDuration (d : Duration) : (ofDuration d).month =
    (takeMonths 1 (dayOfYear d) (monthLengths (ofDuration d).year)).1 :=
  rfl

theorem day_ofDuration (d : Duration) : (ofDuration d).day =
    (takeMonths 1 (dayOfYear d) (monthLengths (ofDuration d).year)).2 + 1 :=
  rfl

section OfDuration

variable {d : Duration}

/-- Whole days are what is counted of a duration before the time of day. -/
theorem days_lt_of_toMillis_lt {year : Nat} (h : d.toMillis < (startOfYear year).toMillis) :
    daysBeforeYear 1970 + d.seconds / 86400 < daysBeforeYear year := by
  rw [toMillis_startOfYear, Duration.toMillis] at h
  omega

/-- The days of a duration, counted from year 0 on: those before its year, and those of its year
that passed. -/
theorem days_ofDuration {year : Nat} (small : year ≤ 65536)
    (h : d.toMillis < (startOfYear year).toMillis) :
    dayOfYear d < daysInYear (ofDuration d).year ∧
      daysBeforeYear (ofDuration d).year + dayOfYear d =
        daysBeforeYear 1970 + d.seconds / 86400 := by
  have top : daysBeforeYear year ≤ daysBeforeYear 65536 :=
    daysBeforeYear_strictMono.monotone small
  exact takeYears_spec (Nat.lt_of_lt_of_le (days_lt_of_toMillis_lt h) top)

/-- No duration leads to a year before 1970. -/
theorem since_ofDuration {year : Nat} (small : year ≤ 65536)
    (h : d.toMillis < (startOfYear year).toMillis) : 1970 ≤ (ofDuration d).year := by
  obtain ⟨rest, count⟩ := days_ofDuration small h
  have next : daysBeforeYear ((ofDuration d).year + 1) =
      daysBeforeYear (ofDuration d).year + daysInYear (ofDuration d).year := rfl
  have since : 1970 < (ofDuration d).year + 1 :=
    daysBeforeYear_strictMono.lt_iff_lt.mp (by omega)
  exact Nat.le_of_lt_succ since

/-- The year of a duration, and the days of it that passed. -/
theorem year_ofDuration {year : Nat} (small : year ≤ 65536)
    (h : d.toMillis < (startOfYear year).toMillis) :
    (ofDuration d).year < year ∧ dayOfYear d < daysInYear (ofDuration d).year ∧
      daysBeforeYear (ofDuration d).year - daysBeforeYear 1970 + dayOfYear d =
        d.seconds / 86400 := by
  have bound := days_lt_of_toMillis_lt h
  obtain ⟨rest, count⟩ := days_ofDuration small h
  have before : (ofDuration d).year < year :=
    daysBeforeYear_strictMono.lt_iff_lt.mp (by omega)
  have start : daysBeforeYear 1970 ≤ daysBeforeYear (ofDuration d).year :=
    daysBeforeYear_strictMono.monotone (since_ofDuration small h)
  refine ⟨before, rest, ?_⟩
  omega

/-- **The date of a duration**: its month, its day in that month, and what they count. -/
theorem date_ofDuration {year : Nat} (small : year ≤ 65536)
    (h : d.toMillis < (startOfYear year).toMillis) :
    ∃ before length, (ofDuration d).month = before + 1 ∧
      (monthLengths (ofDuration d).year)[before]? = some length ∧
      1 ≤ (ofDuration d).day ∧ (ofDuration d).day ≤ length ∧
      (ofDuration d).toDays = d.seconds / 86400 := by
  obtain ⟨-, rest, count⟩ := year_ofDuration small h
  obtain ⟨before, length, number, place, inside, sum⟩ :=
    takeMonths_spec (daysOfMonths_monthLengths _ ▸ rest) 1
  have month := month_ofDuration d
  have day := day_ofDuration d
  refine ⟨before, length, by omega, place, by omega, by omega, ?_⟩
  rw [toDays, month, day, number, Nat.add_sub_cancel_left, Nat.add_sub_cancel]
  omega

/-- The time of day counts back to the seconds after midnight. -/
theorem time_ofDuration (d : Duration) :
    ((ofDuration d).hour * 60 + (ofDuration d).minute) * 60 + (ofDuration d).second =
      d.seconds % 86400 := by
  simp only [ofDuration]
  omega

/-- **The date and the time of a duration exist.** -/
theorem isValid_ofDuration {year : Nat} (small : year ≤ 65536) (below : d.nanos < 1000000000)
    (h : d.toMillis < (startOfYear year).toMillis) : (ofDuration d).IsValid := by
  obtain ⟨before, length, number, place, first, last, -⟩ := date_ofDuration small h
  have twelve : before < 12 := by
    obtain ⟨inside, -⟩ := List.getElem?_eq_some_iff.mp place
    rwa [length_monthLengths] at inside
  refine ⟨by omega, ⟨first, length, ?_, last⟩, ?_, ?_, ?_, ?_⟩
  · rw [number, Nat.add_sub_cancel]
    exact place
  all_goals
    simp only [ofDuration]
    omega

/-- **The date and the time of a duration count back to it**, to the millisecond. -/
theorem toMillis_ofDuration {year : Nat} (small : year ≤ 65536)
    (h : d.toMillis < (startOfYear year).toMillis) : (ofDuration d).toMillis = d.toMillis := by
  obtain ⟨before, length, -, -, -, -, days⟩ := date_ofDuration small h
  have time := time_ofDuration d
  have milli : (ofDuration d).milli = d.nanos / 1000000 := rfl
  rw [toMillis, Duration.toMillis, days, milli]
  omega

end OfDuration

end Civil

end ScriptGateway
