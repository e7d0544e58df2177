import Mathlib.Data.String.Basic
import ScriptGateway.Proofs.Time.Timestamp
/-!
# Timestamps sort chronologically

The fields of a timestamp stand in the order of their weight and have fixed widths, so texts are in
the order of the dates they spell. Dates that exist are in the order of the milliseconds they count.

* `Civil.fields`: the fields of a date and a time, the heaviest first.
* `toChars_lt_iff`: texts are in the order of the fields.
* `fields_lt_iff`: dates are in the order of the fields.
* `timestamp_order`: timestamps of durations before the year 10000.
-/

namespace ScriptGateway

open Decimal (padded_append_lt_iff)

namespace Civil

/-- The fields of a date and a time, from the years down to the milliseconds. -/
def fields (c : Civil) : List Nat :=
  [c.year, c.month, c.day, c.hour, c.minute, c.second, c.milli]

theorem fields_injective : Function.Injective fields := by
  intro b c h
  cases b
  cases c
  simpa [fields] using h

/-! ## 1. The order of texts -/

/-- **Texts are in the order of the fields.** -/
theorem toChars_lt_iff {b c : Civil} (hb : b.IsValid) (hc : c.IsValid) (yb : b.year < 10000)
    (yc : c.year < 10000) : b.toChars < c.toChars ↔ b.fields < c.fields := by
  have two {m n k : Nat} (hm : m < k) (hn : n < k) (hk : k ≤ 100) (s t : List Char) :
      Decimal.padded 2 m ++ s < Decimal.padded 2 n ++ t ↔ m < n ∨ m = n ∧ s < t :=
    padded_append_lt_iff (Nat.lt_of_lt_of_le hm hk) (Nat.lt_of_lt_of_le hn hk) s t
  have months := two (Nat.lt_succ_of_le hb.month.2) (Nat.lt_succ_of_le hc.month.2) (by decide)
  have days := two (Nat.lt_succ_of_le hb.day_le) (Nat.lt_succ_of_le hc.day_le) (by decide)
  have hours := two hb.hour hc.hour (by decide)
  have minutes := two hb.minute hc.minute (by decide)
  have seconds := two hb.second hc.second (by decide)
  have years := @padded_append_lt_iff 4 b.year c.year yb yc
  have millis := @padded_append_lt_iff 3 b.milli c.milli hb.milli hc.milli
  simp only [toChars, fields, List.append_assoc, List.cons_append, years, months, days, hours,
    minutes, seconds, millis, List.cons_lt_cons_iff, Char.lt_irrefl, List.lt_irrefl, false_or,
    true_and]

/-! ## 2. The order of dates -/

/-- The days of a year up to a date are among those of any months that include its own. -/
theorem IsValid.daysOfMonths_le {c : Civil} (h : c.IsValid) {month : Nat} (hm : c.month ≤ month) :
    daysOfMonths ((monthLengths c.year).take (c.month - 1)) + c.day ≤
      daysOfMonths ((monthLengths c.year).take month) := by
  obtain ⟨-, length, place, last⟩ := h.day
  have own : c.month - 1 + 1 = c.month := Nat.sub_add_cancel h.month.1
  calc daysOfMonths ((monthLengths c.year).take (c.month - 1)) + c.day
      ≤ daysOfMonths ((monthLengths c.year).take (c.month - 1)) + length :=
        Nat.add_le_add_left last _
    _ = daysOfMonths ((monthLengths c.year).take (c.month - 1 + 1)) := by
        rw [List.take_add_one, place, daysOfMonths_append]
        rfl
    _ ≤ daysOfMonths ((monthLengths c.year).take month) := by
        rw [own]
        exact Civil.daysOfMonths_le (List.take_prefix_take_left hm)

/-- A later date counts more days. -/
theorem toDays_lt {b c : Civil} (hb : b.IsValid) (since : 1970 ≤ b.year)
    (h : b.year < c.year ∨ b.year = c.year ∧ (b.month < c.month ∨
      b.month = c.month ∧ b.day < c.day)) : b.toDays < c.toDays := by
  have first := hb.day.1
  rcases h with year | ⟨year, month | ⟨month, day⟩⟩
  · have whole := hb.daysOfMonths_le hb.month.2
    rw [← length_monthLengths b.year, List.take_length, daysOfMonths_monthLengths] at whole
    have start : daysBeforeYear 1970 ≤ daysBeforeYear b.year :=
      daysBeforeYear_strictMono.monotone since
    have next : daysBeforeYear b.year + daysInYear b.year ≤ daysBeforeYear c.year :=
      daysBeforeYear_strictMono.monotone year
    simp only [toDays]
    omega
  · have before := hb.daysOfMonths_le (Nat.le_sub_one_of_lt month)
    simp only [toDays, ← year]
    omega
  · simp only [toDays, ← year, ← month]
    omega

/-- A later date, or a later time of the same date, counts more milliseconds. -/
theorem toMillis_lt {b c : Civil} (hb : b.IsValid) (since : 1970 ≤ b.year)
    (h : b.fields < c.fields) : b.toMillis < c.toMillis := by
  have hour := hb.hour
  have minute := hb.minute
  have second := hb.second
  have milli := hb.milli
  simp only [fields, List.cons_lt_cons_iff, List.lt_irrefl, and_false, or_false] at h
  have days : b.toDays < c.toDays ∨ b.toDays = c.toDays ∧ (b.hour < c.hour ∨ b.hour = c.hour ∧
      (b.minute < c.minute ∨ b.minute = c.minute ∧
        (b.second < c.second ∨ b.second = c.second ∧ b.milli < c.milli))) := by
    rcases h with year | ⟨year, month | ⟨month, day | ⟨day, time⟩⟩⟩
    · exact .inl (toDays_lt hb since (.inl year))
    · exact .inl (toDays_lt hb since (.inr ⟨year, .inl month⟩))
    · exact .inl (toDays_lt hb since (.inr ⟨year, .inr ⟨month, day⟩⟩))
    · exact .inr ⟨by simp only [toDays, year, month, day], time⟩
  simp only [toMillis]
  omega

/-- **Dates are in the order of the fields.** -/
theorem fields_lt_iff {b c : Civil} (hb : b.IsValid) (hc : c.IsValid) (sb : 1970 ≤ b.year)
    (sc : 1970 ≤ c.year) : b.fields < c.fields ↔ b.toMillis < c.toMillis := by
  refine ⟨toMillis_lt hb sb, fun less => ?_⟩
  rcases lt_trichotomy b.fields c.fields with before | same | after
  · exact before
  · rw [fields_injective same] at less
    exact (Nat.lt_irrefl _ less).elim
  · exact (Nat.lt_asymm less (toMillis_lt hc sc after)).elim

end Civil

/-! ## 3. The order of timestamps -/

theorem timestamp_lt_iff {d e : Duration} (hd : d.nanos < 1000000000) (he : e.nanos < 1000000000)
    (bd : d.toMillis < (Civil.startOfYear 10000).toMillis)
    (be : e.toMillis < (Civil.startOfYear 10000).toMillis) :
    timestamp d < timestamp e ↔ d.toMillis < e.toMillis := by
  have small : 10000 ≤ 65536 := by decide
  have vd := Civil.isValid_ofDuration small hd bd
  have ve := Civil.isValid_ofDuration small he be
  rw [timestamp, timestamp, String.lt_iff_toList_lt, String.toList_ofList, String.toList_ofList,
    Civil.toChars_lt_iff vd ve (Civil.year_ofDuration small bd).1
      (Civil.year_ofDuration small be).1,
    Civil.fields_lt_iff vd ve (Civil.since_ofDuration small bd) (Civil.since_ofDuration small be),
    Civil.toMillis_ofDuration small bd, Civil.toMillis_ofDuration small be]

/-- **Timestamps sort chronologically.** The texts of durations before the year 10000 are in the
order of their milliseconds, and equal just if these are. -/
theorem timestamp_order (d e : Duration) (hd : d.nanos < 1000000000) (he : e.nanos < 1000000000)
    (bd : d.toMillis < (Civil.startOfYear 10000).toMillis)
    (be : e.toMillis < (Civil.startOfYear 10000).toMillis) :
    (timestamp d < timestamp e ↔ d.toMillis < e.toMillis) ∧
      (timestamp d = timestamp e ↔ d.toMillis = e.toMillis) := by
  have before := timestamp_lt_iff hd he bd be
  have after := timestamp_lt_iff he hd be bd
  refine ⟨before, ?_⟩
  rw [le_antisymm_iff, ← not_lt, ← not_lt, before, after]
  omega

/-- The last moment of a year. -/
def lastMoment : Duration :=
  { seconds := 1704067199, nanos := 999999999 }

/-- The moment after it. -/
def newYear : Duration :=
  { seconds := 1704067200, nanos := 0 }

/-- All fields but the first change to less, and what is lost of a moment is below a millisecond. -/
theorem timestamp_order_newYear :
    timestamp lastMoment = "2023-12-31T23:59:59.999Z" ∧
      timestamp newYear = "2024-01-01T00:00:00.000Z" ∧
      timestamp lastMoment < timestamp newYear ∧
      timestamp { lastMoment with nanos := 999000000 } = timestamp lastMoment := by
  have before {d : Duration} (h : d.toMillis ≤ 1704067200000) :
      d.toMillis < (Civil.startOfYear 10000).toMillis := by
    rw [Civil.toMillis_startOfYear, Civil.daysBeforeYear_eq, Civil.daysBeforeYear_eq]
    omega
  have last := before (d := lastMoment) (by decide)
  have first := before (d := newYear) (by decide)
  have rounded := before (d := { lastMoment with nanos := 999000000 }) (by decide)
  obtain ⟨less, -⟩ := timestamp_order lastMoment newYear (by decide) (by decide) last first
  obtain ⟨-, same⟩ := timestamp_order _ lastMoment (by decide) (by decide) rounded last
  exact ⟨by decide +kernel, by decide +kernel, less.mpr (by decide), same.mpr (by decide)⟩

end ScriptGateway
