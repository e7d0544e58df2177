import Mathlib.Data.List.Infix
import ScriptGateway.Project.Version
import ScriptGateway.Proofs.Decimal.Natural
import ScriptGateway.Proofs.Text.Split
/-!
# What a constraint asks for

A constraint asks for a minimum just if its first alternative begins with one: an operator and white
space, which may both be missing, and two numbers with a point between them. Everything after the
second number is ignored.

* `StandsBefore`: the text before the first occurrence of a mark.
* `Begins`: a text that begins with a minimum, its runs of digits as long as can be.
* `Asks`, `minimum?_eq_some_iff`: the minimum of a constraint.
-/

namespace ScriptGateway.Project.Constraint

/-! ## 1. The first alternative -/

/-- What stands before the first occurrence of a mark: everything if there is none. -/
inductive StandsBefore (mark s : List Char) : List Char → Prop where
  | all (none : ¬ mark <:+: s) : StandsBefore mark s s
  | cut {before : List Char} (after : List Char) (place : s = before ++ mark ++ after)
      (first : ∀ other rest, s = other ++ mark ++ rest → before.length ≤ other.length) :
      StandsBefore mark s before

theorem StandsBefore.unique {mark s b c : List Char} (hb : StandsBefore mark s b)
    (hc : StandsBefore mark s c) : b = c := by
  have somewhere {before after : List Char} (h : s = before ++ mark ++ after) : mark <:+: s :=
    ⟨before, after, h.symm⟩
  cases hb with
  | all none =>
    cases hc with
    | all _ => rfl
    | cut _ place _ => exact (none (somewhere place)).elim
  | cut _ place first =>
    cases hc with
    | all none => exact (none (somewhere place)).elim
    | cut _ place' first' =>
      have length := Nat.le_antisymm (first _ _ place') (first' _ _ place)
      rw [place, List.append_assoc, List.append_assoc] at place'
      exact (List.append_inj place' length).1

/-- One more character in front, with which no mark begins. -/
theorem StandsBefore.cons {mark s before : List Char} {c : Char} (h : StandsBefore mark s before)
    (hc : ¬ mark <+: c :: s) : StandsBefore mark (c :: s) (c :: before) := by
  cases h with
  | all none =>
    refine .all fun occurs => ?_
    rcases List.infix_cons_iff.mp occurs with front | later
    · exact hc front
    · exact none later
  | cut after place first =>
    refine .cut after (by rw [place]; rfl) fun other rest h => ?_
    cases other with
    | nil => exact (hc ⟨rest, h.symm⟩).elim
    | cons d other => exact Nat.succ_le_succ (first other rest (List.cons.inj h).2)

/-- **The first alternative is what stands before the first double bar.** -/
theorem standsBefore_firstAlternative (s : List Char) :
    StandsBefore ['|', '|'] s (firstAlternative s) := by
  fun_induction firstAlternative s with
  | case1 rest => exact .cut rest rfl fun _ _ _ => Nat.zero_le _
  | case2 c rest bars ih =>
    refine ih.cons ?_
    rintro ⟨after, h⟩
    obtain ⟨bar, more⟩ := List.cons.inj h
    exact bars after bar.symm more.symm
  | case3 => exact .all (by decide)

/-! ## 2. A minimum at the front -/

/-- The operators that may stand before a minimum. -/
def operators : List (List Char) :=
  [[], ['>', '='], ['>'], ['^'], ['~']]

/-- **A text that begins with a minimum**: with an operator and white space, which may both be
missing, and two runs of digits with a point between them, each as long as can be. -/
def Begins (s major minor : List Char) : Prop :=
  ∃ operator space rest, operator ∈ operators ∧ (∀ c ∈ space, Text.isBlank c = true) ∧
    s = operator ++ (space ++ (major ++ '.' :: (minor ++ rest))) ∧
    (∀ c ∈ major, Decimal.isAnyDigit c = true) ∧ (∀ c ∈ minor, Decimal.isAnyDigit c = true) ∧
    ∀ c ∈ rest.head?, Decimal.isAnyDigit c = false

theorem exists_dropOperator (s : List Char) :
    ∃ operator ∈ operators, s = operator ++ dropOperator s := by
  fun_cases dropOperator s with
  | case1 rest => exact ⟨['>', '='], by decide, rfl⟩
  | case2 rest => exact ⟨['>'], by decide, rfl⟩
  | case3 rest => exact ⟨['^'], by decide, rfl⟩
  | case4 rest => exact ⟨['~'], by decide, rfl⟩
  | case5 => exact ⟨[], by decide, rfl⟩

/-- An operator ends where a character follows that is part of none. -/
theorem dropOperator_append {operator : List Char} (h : operator ∈ operators) {c : Char}
    (hc : c ∉ ['>', '=', '^', '~']) (rest : List Char) :
    dropOperator (operator ++ c :: rest) = c :: rest := by
  simp only [List.mem_cons, List.not_mem_nil, or_false, not_or] at hc
  obtain ⟨greater, equal, caret, tilde⟩ := hc
  simp only [operators, List.mem_cons, List.not_mem_nil, or_false] at h
  rcases h with rfl | rfl | rfl | rfl | rfl
  · simp [dropOperator, greater, caret, tilde]
  · rfl
  · simp [dropOperator, equal]
  · rfl
  · rfl

/-- The code points of white space. -/
def blankValues : List Nat :=
  [9, 10, 11, 12, 13, 0x20, 0x85, 0xA0, 0x1680, 0x2000, 0x2001, 0x2002, 0x2003, 0x2004, 0x2005,
    0x2006, 0x2007, 0x2008, 0x2009, 0x200A, 0x2028, 0x2029, 0x202F, 0x205F, 0x3000]

theorem mem_blankValues {c : Char} (h : Text.isBlank c = true) : c.toNat ∈ blankValues := by
  simp only [Text.isBlank, Bool.or_eq_true, Bool.and_eq_true, decide_eq_true_eq,
    beq_iff_eq] at h
  simp only [blankValues, List.mem_cons, List.not_mem_nil, or_false]
  omega

/-- No white space is a digit. -/
theorem isAnyDigit_of_isBlank {c : Char} (h : Text.isBlank c = true) :
    Decimal.isAnyDigit c = false := by
  have outside : ∀ v ∈ blankValues,
      (Decimal.digitRanges.any fun range => range.1 ≤ v && v ≤ range.2) = false := by
    decide
  exact outside _ (mem_blankValues h)

/-- What follows an operator begins with white space, a digit or a point, so with no operator. -/
theorem inner_not_mem {c : Char}
    (h : Text.isBlank c = true ∨ Decimal.isAnyDigit c = true ∨ c = '.') :
    c ∉ ['>', '=', '^', '~'] := by
  intro mem
  simp only [List.mem_cons, List.not_mem_nil, or_false] at mem
  rcases mem with rfl | rfl | rfl | rfl <;> exact absurd h (by decide)

/-- What is read after the operator and the white space. -/
theorem dropWhile_dropOperator {operator space major tail : List Char} (ho : operator ∈ operators)
    (hs : ∀ c ∈ space, Text.isBlank c = true) (hm : ∀ c ∈ major, Decimal.isAnyDigit c = true) :
    (dropOperator (operator ++ (space ++ (major ++ '.' :: tail)))).dropWhile Text.isBlank =
      major ++ '.' :: tail := by
  have number : (major ++ '.' :: tail).dropWhile Text.isBlank = major ++ '.' :: tail := by
    cases major with
    | nil => rfl
    | cons c major =>
      have apart : ¬ Text.isBlank c = true := fun blank => by
        have digit := hm c List.mem_cons_self
        rw [isAnyDigit_of_isBlank blank] at digit
        cases digit
      rw [List.cons_append, List.dropWhile_cons, if_neg apart]
  have unsigned : dropOperator (operator ++ (space ++ (major ++ '.' :: tail))) =
      space ++ (major ++ '.' :: tail) := by
    cases space with
    | nil =>
      cases major with
      | nil => exact dropOperator_append ho (inner_not_mem (.inr (.inr rfl))) _
      | cons c major =>
        exact dropOperator_append ho (inner_not_mem (.inr (.inl (hm c List.mem_cons_self)))) _
    | cons c space =>
      exact dropOperator_append ho (inner_not_mem (.inl (hs c List.mem_cons_self))) _
  rw [unsigned, List.dropWhile_append_of_pos hs, number]

/-- The runs of digits that are read, and the point between them. -/
theorem begins_iff {s major minor : List Char} : Begins s major minor ↔
    ((dropOperator s).dropWhile Text.isBlank).takeWhile Decimal.isAnyDigit = major ∧
      ∃ rest, ((dropOperator s).dropWhile Text.isBlank).dropWhile Decimal.isAnyDigit = '.' :: rest ∧
        rest.takeWhile Decimal.isAnyDigit = minor := by
  have digits {t : List Char} : ∀ c ∈ t.takeWhile Decimal.isAnyDigit, Decimal.isAnyDigit c = true :=
    fun _ => List.mem_takeWhile_imp
  constructor
  · rintro ⟨operator, space, rest, ho, hs, rfl, hmajor, hminor, ended⟩
    rw [dropWhile_dropOperator ho hs hmajor, List.takeWhile_append_of_pos hmajor,
      List.dropWhile_append_of_pos hmajor]
    refine ⟨List.append_nil _, minor ++ rest, rfl, ?_⟩
    rw [List.takeWhile_append_of_pos hminor]
    cases rest with
    | nil => exact List.append_nil _
    | cons c rest =>
      rw [List.takeWhile_cons, ended c rfl]
      exact List.append_nil _
  · rintro ⟨rfl, rest, point, rfl⟩
    obtain ⟨operator, ho, front⟩ := exists_dropOperator s
    refine ⟨operator, (dropOperator s).takeWhile Text.isBlank,
      rest.dropWhile Decimal.isAnyDigit, ho, fun _ => List.mem_takeWhile_imp, ?_, digits, digits,
      ?_⟩
    · rw [List.takeWhile_append_dropWhile, ← point, List.takeWhile_append_dropWhile,
        List.takeWhile_append_dropWhile]
      exact front
    · intro c hc
      have := List.head?_dropWhile_not Decimal.isAnyDigit rest
      rw [hc] at this
      simpa using this

/-! ## 3. The minimum of a constraint -/

/-- **A run of digits that gives a number**: ASCII digits that fit a word of 32 bits. -/
structure Gives (run : List Char) (n : Nat) : Prop where
  filled : run ≠ []
  ascii : ∀ c ∈ run, c.isDigit = true
  value : Decimal.digitsValue run = n
  fits : n < UInt32.size

theorem number?_eq_some_iff {run : List Char} (h : ∀ c ∈ run, Decimal.isAnyDigit c = true)
    {n : Nat} : number? run = some n ↔ Gives run n := by
  have unsigned : ∀ rest, run ≠ '+' :: rest := by
    rintro rest rfl
    exact absurd (h '+' List.mem_cons_self) (by decide)
  rw [number?, Decimal.readBelow?_eq_some_iff (by decide)]
  constructor
  · rintro ⟨digits, rfl | plus, filled, ascii, value, fits⟩
    · exact ⟨filled, ascii, value, fits⟩
    · exact (unsigned _ plus).elim
  · exact fun g => ⟨run, .inl rfl, g.filled, g.ascii, g.value, g.fits⟩

/-- **The minimum that a constraint asks for.** -/
def Asks (constraint : String) (minimum : Version) : Prop :=
  ∃ alternative major minor, StandsBefore ['|', '|'] constraint.toList alternative ∧
    Begins (Text.trimChars alternative) major minor ∧ Gives major minimum.major ∧
    Gives minor minimum.minor

theorem Begins.digits {s major minor : List Char} (h : Begins s major minor) :
    (∀ c ∈ major, Decimal.isAnyDigit c = true) ∧ ∀ c ∈ minor, Decimal.isAnyDigit c = true := by
  obtain ⟨-, -, -, -, -, -, hmajor, hminor, -⟩ := h
  exact ⟨hmajor, hminor⟩

/-- **Exactly what a constraint asks for is read from it.** -/
theorem minimum?_eq_some_iff {constraint : String} {minimum : Version} :
    minimum? constraint = some minimum ↔ Asks constraint minimum := by
  have stands := standsBefore_firstAlternative constraint.toList
  constructor
  · intro h
    simp only [minimum?, List.span_eq_takeWhile_dropWhile] at h
    split at h
    · next rest point =>
      split at h
      · next major minor hmajor hminor =>
        obtain rfl := Option.some.inj h
        have begins := begins_iff.mpr ⟨rfl, rest, point, rfl⟩
        exact ⟨_, _, _, stands, begins, (number?_eq_some_iff begins.digits.1).mp hmajor,
          (number?_eq_some_iff begins.digits.2).mp hminor⟩
      · cases h
    · cases h
  · rintro ⟨alternative, major, minor, before, begins, hmajor, hminor⟩
    obtain rfl := before.unique stands
    have major? := (number?_eq_some_iff begins.digits.1).mpr hmajor
    have minor? := (number?_eq_some_iff begins.digits.2).mpr hminor
    obtain ⟨rfl, rest, point, rfl⟩ := begins_iff.mp begins
    simp only [minimum?, List.span_eq_takeWhile_dropWhile, point, major?, minor?]

end ScriptGateway.Project.Constraint
