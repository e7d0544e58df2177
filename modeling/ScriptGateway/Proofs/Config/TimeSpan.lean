import Mathlib.Data.List.Basic
import ScriptGateway.Config.TimeSpan
import ScriptGateway.Proofs.Decimal.Natural
import ScriptGateway.Proofs.Text.Utf8
/-!
# Which texts are time spans

A trimmed text in lower case switches the limit off, or it is a number with an optional unit, or it
is no time span. The seconds of a span are cut to 64 bits. A unit is one byte, so what stands before
it can be cut off as text.

* `units`, `IsNumeral`, `Spells`: a number with a unit, said without reading it.
* `spells_concat_iff`, `spells_iff_of_unitless`: with a unit at the end, and without.
* `readNormalTimeSpan_of_isOff`, `readNormalTimeSpan_of_not_isOff`: what is read from which text.
* `time_span_exact`: all of it, for every text.
-/

namespace ScriptGateway.Config

open Decimal (digitsValue readBelow? readBelow?_eq_some_iff wordLimit)

/-! ## 1. Numbers with a unit -/

/-- The units that may stand at the end, and their seconds. Without one a number means seconds. -/
def units : List (List Char × Nat) :=
  [([], 1), (['s'], 1), (['m'], 60), (['h'], 3600), (['d'], 86400), (['w'], 604800)]

/-- An optional plus sign and at least one digit. -/
def IsNumeral (s : List Char) (n : Nat) : Prop :=
  ∃ digits, (s = digits ∨ s = '+' :: digits) ∧ digits ≠ [] ∧ (∀ c ∈ digits, c.isDigit = true) ∧
    digitsValue digits = n

/-- A text that is a number with a unit of so many seconds. -/
def Spells (t : List Char) (n unit : Nat) : Prop :=
  ∃ number suffix, t = number ++ suffix ∧ IsNumeral number n ∧ (suffix, unit) ∈ units

theorem readBelow?_wordLimit {s : List Char} {n : Nat} :
    readBelow? wordLimit s = some n ↔ IsNumeral s n ∧ n < 2 ^ 64 := by
  rw [readBelow?_eq_some_iff (by decide)]
  unfold IsNumeral
  constructor
  · intro ⟨digits, form, filled, all, value, below⟩
    exact ⟨⟨digits, form, filled, all, value⟩, below⟩
  · intro ⟨⟨digits, form, filled, all, value⟩, below⟩
    exact ⟨digits, form, filled, all, value, below⟩

/-- A unit is nothing, or one character that stands for some seconds. -/
theorem mem_units {suffix : List Char} {unit : Nat} :
    (suffix, unit) ∈ units ↔
      suffix = [] ∧ unit = 1 ∨ ∃ c, suffix = [c] ∧ unitSeconds? c = some unit := by
  have letters (c : Char) : unitSeconds? c = some unit ↔ ([c], unit) ∈ units := by
    unfold unitSeconds? units
    split_ifs <;> simp_all [eq_comm]
  constructor
  · intro h
    rcases suffix with _ | ⟨c, _ | ⟨c', suffix⟩⟩
    · exact .inl ⟨rfl, by simpa [units] using h⟩
    · exact .inr ⟨c, rfl, (letters c).mpr h⟩
    · simp [units] at h
  · intro h
    rcases h with ⟨rfl, rfl⟩ | ⟨c, rfl, hc⟩
    · decide
    · exact (letters c).mp hc

theorem unitSeconds?_of_isDigit {c : Char} (h : c.isDigit = true) : unitSeconds? c = none := by
  unfold unitSeconds?
  split_ifs with hs hm hh hd hw
  all_goals first | rfl | (subst_vars; cases h)

/-- A numeral ends in a digit, which is no unit. -/
theorem IsNumeral.unitless {s : List Char} {n : Nat} (h : IsNumeral s n) :
    s.getLast?.bind unitSeconds? = none := by
  obtain ⟨digits, form, filled, all, -⟩ := h
  have last : s.getLast? = some (digits.getLast filled) := by
    rcases form with rfl | rfl
    · exact List.getLast?_eq_some_getLast filled
    · rw [List.getLast?_cons, List.getLast?_eq_some_getLast filled, Option.getD_some]
  rw [last, Option.bind_some]
  exact unitSeconds?_of_isDigit (all _ (List.getLast_mem filled))

/-- A text with a unit at the end. -/
theorem spells_concat_iff {s : List Char} {c : Char} {seconds n unit : Nat}
    (hc : unitSeconds? c = some seconds) :
    Spells (s ++ [c]) n unit ↔ IsNumeral s n ∧ unit = seconds := by
  constructor
  · intro ⟨number, suffix, parts, numeral, mem⟩
    rcases mem_units.mp mem with ⟨rfl, -⟩ | ⟨c', rfl, hc'⟩
    · have unitless := numeral.unitless
      rw [List.append_nil] at parts
      rw [← parts, List.getLast?_concat, Option.bind_some, hc] at unitless
      cases unitless
    · obtain ⟨same, last⟩ := List.append_inj' parts rfl
      obtain rfl := List.singleton_inj.mp last
      rw [hc] at hc'
      exact ⟨same ▸ numeral, (Option.some.inj hc').symm⟩
  · intro ⟨numeral, same⟩
    subst same
    exact ⟨s, [c], rfl, numeral, mem_units.mpr (.inr ⟨c, rfl, hc⟩)⟩

/-- A text without one. -/
theorem spells_iff_of_unitless {t : List Char} {n unit : Nat}
    (h : t.getLast?.bind unitSeconds? = none) : Spells t n unit ↔ IsNumeral t n ∧ unit = 1 := by
  constructor
  · intro ⟨number, suffix, parts, numeral, mem⟩
    rcases mem_units.mp mem with ⟨rfl, one⟩ | ⟨c, rfl, hc⟩
    · rw [List.append_nil] at parts
      exact ⟨parts ▸ numeral, one⟩
    · rw [parts, List.getLast?_concat, Option.bind_some, hc] at h
      cases h
  · intro ⟨numeral, one⟩
    subst one
    exact ⟨t, [], (List.append_nil t).symm, numeral, mem_units.mpr (.inl ⟨rfl, rfl⟩)⟩

/-- A text spells at most one span. -/
theorem Spells.unique {t : List Char} {n n' unit unit' : Nat} (h : Spells t n unit)
    (h' : Spells t n' unit') (below : n < 2 ^ 64) (below' : n' < 2 ^ 64) :
    n = n' ∧ unit = unit' := by
  have same {s : List Char} (hs : IsNumeral s n) (hs' : IsNumeral s n') : n = n' := by
    have first := readBelow?_wordLimit.mpr ⟨hs, below⟩
    have second := readBelow?_wordLimit.mpr ⟨hs', below'⟩
    exact Option.some.inj (first.symm.trans second)
  cases hu : t.getLast?.bind unitSeconds? with
  | some seconds =>
    obtain ⟨c, last, hc⟩ := Option.bind_eq_some_iff.mp hu
    rw [← List.dropLast_append_getLast? c last] at h h'
    obtain ⟨numeral, rfl⟩ := (spells_concat_iff hc).mp h
    obtain ⟨numeral', rfl⟩ := (spells_concat_iff hc).mp h'
    exact ⟨same numeral numeral', rfl⟩
  | none =>
    obtain ⟨numeral, rfl⟩ := (spells_iff_of_unitless hu).mp h
    obtain ⟨numeral', rfl⟩ := (spells_iff_of_unitless hu).mp h'
    exact ⟨same numeral numeral', rfl⟩

/-! ## 2. What is read -/

/-- A text that switches the limit off. -/
def IsOff (t : List Char) : Prop :=
  t = [] ∨ t = "off".toList ∨ t = "0".toList

/-- The span of so many units, cut to 64 bits of seconds. -/
def spanOf (n unit : Nat) : Duration :=
  { seconds := min (n * unit) (2 ^ 64 - 1), nanos := 0 }

theorem readNormalTimeSpan_of_isOff {t : List Char} (h : IsOff t) :
    readNormalTimeSpan t = .ok none := by
  rcases h with rfl | rfl | rfl <;> rfl

/-- **A text that does not switch the limit off is read just if it spells a span.** -/
theorem readNormalTimeSpan_of_not_isOff {t : List Char} (h : ¬ IsOff t) :
    (∃ n unit, n < 2 ^ 64 ∧ Spells t n unit ∧ readNormalTimeSpan t = .ok (some (spanOf n unit))) ∨
      (∃ e, readNormalTimeSpan t = .error e) ∧ ∀ n unit, n < 2 ^ 64 → ¬ Spells t n unit := by
  have other : (t = ['o', 'f', 'f'] || t = ['0'] || t = []) = false := by
    simp_all [IsOff]
  unfold readNormalTimeSpan
  rw [other]
  cases hu : t.getLast?.bind unitSeconds? with
  | some seconds =>
    obtain ⟨c, last, hc⟩ := Option.bind_eq_some_iff.mp hu
    have spells (n unit : Nat) : Spells t n unit ↔ IsNumeral t.dropLast n ∧ unit = seconds := by
      rw [← spells_concat_iff hc, List.dropLast_append_getLast? c last]
    cases hn : readBelow? wordLimit t.dropLast with
    | some n =>
      obtain ⟨numeral, below⟩ := readBelow?_wordLimit.mp hn
      exact .inl ⟨n, seconds, below, (spells n seconds).mpr ⟨numeral, rfl⟩, rfl⟩
    | none =>
      refine .inr ⟨⟨_, rfl⟩, fun n unit below spelled => ?_⟩
      have numeral := ((spells n unit).mp spelled).1
      rw [readBelow?_wordLimit.mpr ⟨numeral, below⟩] at hn
      cases hn
  | none =>
    cases hn : readBelow? wordLimit t with
    | some n =>
      obtain ⟨numeral, below⟩ := readBelow?_wordLimit.mp hn
      refine .inl ⟨n, 1, below, (spells_iff_of_unitless hu).mpr ⟨numeral, rfl⟩, ?_⟩
      have uncut : min (n * 1) (2 ^ 64 - 1) = n := by omega
      simp only [spanOf, uncut]
      rfl
    | none =>
      refine .inr ⟨⟨_, rfl⟩, fun n unit below spelled => ?_⟩
      have numeral := ((spells_iff_of_unitless hu).mp spelled).1
      rw [readBelow?_wordLimit.mpr ⟨numeral, below⟩] at hn
      cases hn

/-! ## 3. Every text -/

/-- A text as it is read: without white space at its ends, and then in lower case. -/
def normal (s : String) : List Char :=
  Text.lowerChars (Text.trimChars s.toList)

/-- **What is read from a text.** -/
structure ReadExactly (s : String) : Prop where
  /-- The limit is switched off just by an empty text, `off` and `0`. -/
  off : readTimeSpan s = .ok none ↔ IsOff (normal s)
  /-- A span comes just of any other text that is a number below 2^64 with a unit, and is so many
  units, cut to 64 bits of seconds. -/
  span : ∀ d, readTimeSpan s = .ok (some d) ↔ ¬ IsOff (normal s) ∧
    ∃ n unit, Spells (normal s) n unit ∧ n < 2 ^ 64 ∧ d = spanOf n unit
  /-- Every other text is refused. -/
  refused : (∃ e, readTimeSpan s = .error e) ↔ ¬ IsOff (normal s) ∧
    ¬ ∃ n unit, Spells (normal s) n unit ∧ n < 2 ^ 64
  /-- The unit is the last byte of the text, and the bytes before it are a text again. -/
  cut : ∀ c unit, (normal s).getLast? = some c → unitSeconds? c = some unit →
    (Text.Utf8.encode (normal s)).dropLast = Text.Utf8.encode (normal s).dropLast

theorem encode_dropLast {t : List Char} {c : Char} {unit : Nat} (last : t.getLast? = some c)
    (hc : unitSeconds? c = some unit) :
    (Text.Utf8.encode t).dropLast = Text.Utf8.encode t.dropLast := by
  have small : c.toNat < 0x80 := by
    unfold unitSeconds? at hc
    split_ifs at hc with hs hm hh hd hw
    all_goals subst_vars; decide
  have parts := List.dropLast_append_getLast? c last
  have bytes : Text.Utf8.encode t = Text.Utf8.encode t.dropLast ++ [UInt8.ofNat c.toNat] := by
    rw [← parts, Text.Utf8.encode, List.flatMap_append, List.flatMap_singleton,
      Text.Utf8.encodeChar_one small, parts]
    rfl
  rw [bytes, List.dropLast_concat]

/-- **Time spans are read exactly.** -/
theorem time_span_exact (s : String) : ReadExactly s := by
  have outcome : IsOff (normal s) ∧ readTimeSpan s = .ok none ∨ ¬ IsOff (normal s) ∧
      ((∃ n unit, n < 2 ^ 64 ∧ Spells (normal s) n unit ∧
          readTimeSpan s = .ok (some (spanOf n unit))) ∨
        (∃ e, readTimeSpan s = .error e) ∧ ∀ n unit, n < 2 ^ 64 → ¬ Spells (normal s) n unit) := by
    by_cases h : IsOff (normal s)
    · exact .inl ⟨h, readNormalTimeSpan_of_isOff h⟩
    · exact .inr ⟨h, readNormalTimeSpan_of_not_isOff h⟩
  have cut := @encode_dropLast (normal s)
  rcases outcome with ⟨off, read⟩ | ⟨on, ⟨n, unit, below, spells, read⟩ | ⟨⟨e, read⟩, none⟩⟩
  · refine ⟨iff_of_true read off, fun d => iff_of_false ?_ fun h => h.1 off,
      iff_of_false ?_ fun h => h.1 off, fun c unit => cut⟩
    · simp [read]
    · simp [read]
  · refine ⟨iff_of_false (by simp [read]) on, fun d => ?_, iff_of_false (by simp [read]) ?_,
      fun c unit => cut⟩
    · constructor
      · intro h
        rw [read] at h
        obtain rfl := Option.some.inj (Except.ok.inj h)
        exact ⟨on, n, unit, spells, below, rfl⟩
      · intro ⟨_, n', unit', spells', below', same⟩
        obtain ⟨rfl, rfl⟩ := spells.unique spells' below below'
        rw [read, same]
    · exact fun h => h.2 ⟨n, unit, spells, below⟩
  · have unspelled : ¬ ∃ n unit, Spells (normal s) n unit ∧ n < 2 ^ 64 :=
      fun ⟨n, unit, spells, below⟩ => none n unit below spells
    refine ⟨iff_of_false (by simp [read]) on, fun d => iff_of_false (by simp [read]) ?_,
      iff_of_true ⟨e, read⟩ ⟨on, unspelled⟩, fun c unit => cut⟩
    exact fun ⟨_, n, unit, spells, below, _⟩ => unspelled ⟨n, unit, spells, below⟩

example : readTimeSpan " +36H\n" = .ok (some (.ofSeconds 129600)) := by decide +kernel

end ScriptGateway.Config
