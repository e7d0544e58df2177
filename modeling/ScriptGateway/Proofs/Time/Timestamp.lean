import ScriptGateway.Proofs.Decimal.Padded
import ScriptGateway.Proofs.Time.Calendar
/-!
# Timestamps are the true calendar time

A timestamp is read back field by field: its text has one shape, its fields are a date and a time
that exist, and they count back to the milliseconds of the duration.

* `Civil.read?`: reads a timestamp of the shape `YYYY-MM-DDTHH:MM:SS.mmmZ`.
* `read?_toChars`: what is written of fields that fit is read as these fields.
* `timestamp_true`: the timestamp of every duration before the year 10000.
-/

namespace ScriptGateway

open Decimal (padded)

/-! ## 1. Fields of a text -/

/-- A number of so many digits, and what follows it. -/
def number? (width : Nat) (s : List Char) : Option (Nat × List Char) :=
  if (s.take width).length = width ∧ (s.take width).all Char.isDigit then
    some (Decimal.digitsValue (s.take width), s.drop width)
  else none

/-- A number of so many digits after a mark, and what follows it. -/
def numberAfter? (c : Char) (width : Nat) : List Char → Option (Nat × List Char)
  | [] => none
  | d :: rest => if d = c then number? width rest else none

theorem number?_padded {width n : Nat} (h : n < 10 ^ width) (rest : List Char) :
    number? width (padded width n ++ rest) = some (n, rest) := by
  have digits : (padded width n).all Char.isDigit = true :=
    List.all_eq_true.mpr fun _ => Decimal.isDigit_of_mem_padded
  have size := Decimal.length_padded width n
  rw [number?, List.take_left' size, List.drop_left' size, if_pos ⟨size, digits⟩,
    Decimal.digitsValue_padded h]

theorem numberAfter?_padded {width n : Nat} (h : n < 10 ^ width) (c : Char) (rest : List Char) :
    numberAfter? c width (c :: (padded width n ++ rest)) = some (n, rest) :=
  (if_pos rfl).trans (number?_padded h rest)

/-! ## 2. Reading a timestamp -/

namespace Civil

/-- Reads a timestamp: `YYYY-MM-DDTHH:MM:SS.mmmZ`, and nothing after it. -/
def read? (s : List Char) : Option Civil := do
  let (year, s) ← number? 4 s
  let (month, s) ← numberAfter? '-' 2 s
  let (day, s) ← numberAfter? '-' 2 s
  let (hour, s) ← numberAfter? 'T' 2 s
  let (minute, s) ← numberAfter? ':' 2 s
  let (second, s) ← numberAfter? ':' 2 s
  let (milli, s) ← numberAfter? '.' 3 s
  if s = ['Z'] then some { year, month, day, hour, minute, second, milli } else none

theorem length_toChars (c : Civil) : c.toChars.length = 24 := by
  simp only [toChars, List.length_append, List.length_cons, List.length_nil,
    Decimal.length_padded]

/-- **What is written of fields that fit is read as these fields.** -/
theorem read?_toChars {c : Civil} (hc : c.IsValid) (hy : c.year < 10000) :
    read? c.toChars = some c := by
  have year : c.year < 10 ^ 4 := hy
  have month : c.month < 10 ^ 2 := by
    have := hc.month
    omega
  have day : c.day < 10 ^ 2 := Nat.lt_of_le_of_lt hc.day_le (by decide)
  have hour : c.hour < 10 ^ 2 := Nat.lt_trans hc.hour (by decide)
  have minute : c.minute < 10 ^ 2 := Nat.lt_trans hc.minute (by decide)
  have second : c.second < 10 ^ 2 := Nat.lt_trans hc.second (by decide)
  have milli : c.milli < 10 ^ 3 := hc.milli
  simp only [read?, toChars, List.append_assoc, List.cons_append, number?_padded year,
    numberAfter?_padded month, numberAfter?_padded day, numberAfter?_padded hour,
    numberAfter?_padded minute, numberAfter?_padded second, numberAfter?_padded milli,
    Option.bind_eq_bind, Option.bind_some, if_true]

end Civil

/-! ## 3. Timestamps -/

/-- **Timestamps are the true calendar time.** The text for a duration before the year 10000 has
twenty-four characters, they spell a date and a time that exist, and these count back to the
milliseconds of the duration. -/
theorem timestamp_true (d : Duration) (below : d.nanos < 1000000000)
    (before : d.toMillis < (Civil.startOfYear 10000).toMillis) :
    (timestamp d).toList.length = 24 ∧
      ∃ c : Civil, Civil.read? (timestamp d).toList = some c ∧ c.IsValid ∧
        c.toMillis = d.toMillis := by
  have valid := Civil.isValid_ofDuration (by decide) below before
  obtain ⟨year, -⟩ := Civil.year_ofDuration (by decide) before
  rw [timestamp, String.toList_ofList]
  exact ⟨Civil.length_toChars _, Civil.ofDuration d, Civil.read?_toChars valid year, valid,
    Civil.toMillis_ofDuration (by decide) before⟩

/-- The last millisecond of a leap day. -/
theorem timestamp_true_leapDay :
    ∃ c : Civil, Civil.read? "2000-02-29T23:59:59.999Z".toList = some c ∧ c.IsValid ∧
      c.toMillis = 951868799999 := by
  have text : timestamp { seconds := 951868799, nanos := 999999999 } =
      "2000-02-29T23:59:59.999Z" := by
    decide +kernel
  have before : Duration.toMillis { seconds := 951868799, nanos := 999999999 } <
      (Civil.startOfYear 10000).toMillis := by
    rw [Civil.toMillis_startOfYear, Civil.daysBeforeYear_eq, Civil.daysBeforeYear_eq]
    decide
  have last := timestamp_true { seconds := 951868799, nanos := 999999999 } (by decide) before
  rw [text] at last
  exact last.2

end ScriptGateway
