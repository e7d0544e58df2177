import ScriptGateway.Proofs.Decimal.Numeral
/-!
# Unsigned numbers below a limit

A text is read as an unsigned number just if it spells one below the limit: a plus sign that may be
missing, and at least one digit. Only the value counts, however many zeros lead.

* `readDigits_eq_ok_iff`: digits that are read onto a value.
* `readBelow?_eq_some_iff`: which texts are read, and as which number.
-/

namespace ScriptGateway.Decimal

/-- The value of digits read onto a value. -/
def valueFrom (value : Nat) (ds : List Char) : Nat :=
  ds.foldl (fun value c => value * 10 + (digit? c).getD 0) value

/-- More digits never make a value smaller. -/
theorem le_valueFrom (value : Nat) (ds : List Char) : value ≤ valueFrom value ds := by
  induction ds generalizing value with
  | nil => exact Nat.le_refl _
  | cons c ds ih =>
    have next := ih (value * 10 + (digit? c).getD 0)
    exact Nat.le_trans (by omega) next

theorem isDigit_of_digit? {c : Char} {d : Nat} (h : digit? c = some d) : c.isDigit = true := by
  unfold digit? at h
  split at h
  · next range => exact Char.isDigit_iff_toNat.mpr range
  · cases h

/-- **Digits are read onto a value just if what they come to is below the limit.** -/
theorem readDigits_eq_ok_iff {limit value n : Nat} (below : value < limit) {s : List Char} :
    readDigits limit value s = .ok n ↔
      (∀ c ∈ s, c.isDigit = true) ∧ valueFrom value s = n ∧ n < limit := by
  induction s generalizing value with
  | nil =>
    simp only [readDigits, valueFrom, List.foldl_nil, Except.ok.injEq]
    constructor
    · rintro rfl
      exact ⟨nofun, rfl, below⟩
    · exact fun h => h.2.1
  | cons c s ih =>
    rw [readDigits, List.forall_mem_cons]
    cases hc : digit? c with
    | none =>
      refine iff_of_false nofun fun h => ?_
      rw [digit?_of_isDigit h.1.1] at hc
      cases hc
    | some d =>
      have value_cons : valueFrom value (c :: s) = valueFrom (value * 10 + d) s := by
        rw [valueFrom, List.foldl_cons, hc]
        rfl
      rw [value_cons, and_iff_right (isDigit_of_digit? hc)]
      by_cases next : value * 10 + d < limit
      · exact (if_pos next).congr_left.trans (ih next)
      · -- the limit is passed, and no further digit leads back below it
        have above := le_valueFrom (value * 10 + d) s
        refine iff_of_false ?_ ?_
        · show ¬ (if value * 10 + d < limit then _ else _) = _
          rw [if_neg next]
          exact nofun
        · rintro ⟨-, rfl, small⟩
          omega

theorem readBelow?_eq_some {limit n : Nat} {s : List Char} :
    readBelow? limit s = some n ↔ readBelow limit s = .ok n := by
  unfold readBelow?
  cases readBelow limit s with
  | error e => exact iff_of_false nofun nofun
  | ok m => exact Option.some_inj.trans ⟨congrArg _, Except.ok.inj⟩

/-- **A text is read just if it spells a number below the limit.** -/
theorem readBelow?_eq_some_iff {limit n : Nat} (positive : 0 < limit) {s : List Char} :
    readBelow? limit s = some n ↔ ∃ digits, (s = digits ∨ s = '+' :: digits) ∧ digits ≠ [] ∧
      (∀ c ∈ digits, c.isDigit = true) ∧ digitsValue digits = n ∧ n < limit := by
  have plus {s : List Char} : ¬ ∀ c ∈ '+' :: s, c.isDigit = true := fun h =>
    absurd (h '+' List.mem_cons_self) (by decide)
  rw [readBelow?_eq_some]
  unfold readBelow
  split
  · refine iff_of_false nofun ?_
    rintro ⟨digits, rfl | h, filled, -⟩
    · exact filled rfl
    · cases h
  · refine iff_of_false nofun ?_
    rintro ⟨digits, rfl | h, filled, all, -⟩
    · exact plus all
    · exact filled (List.cons.inj h).2.symm
  · next digits more =>
    rw [readDigits_eq_ok_iff positive]
    constructor
    · exact fun h => ⟨digits, .inr rfl, more, h⟩
    · rintro ⟨other, rfl | h, -, all, value⟩
      · exact (plus all).elim
      · obtain rfl : digits = other := (List.cons.inj h).2
        exact ⟨all, value⟩
  · next filled _ unsigned =>
    rw [readDigits_eq_ok_iff positive]
    constructor
    · exact fun h => ⟨s, .inl rfl, filled, h⟩
    · rintro ⟨digits, rfl | h, -, all, value⟩
      · exact ⟨all, value⟩
      · exact (unsigned digits h).elim

end ScriptGateway.Decimal
