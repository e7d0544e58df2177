import Mathlib.Algebra.Ring.Nat
import ScriptGateway.Decimal.Numeral
/-!
# Numbers of fixed width

A number that is written with a fixed width has as many digits as that, leading zeros included.
Digits of a number that does not fit are lost at the front, and of no other.

* `length_padded`, `isDigit_of_mem_padded`: what a field of digits looks like.
* `digitsValue_padded`: the digits of a number that fits have its value.
* `padded_append_lt_iff`: texts that begin with such fields are in the order of the numbers first.
-/

namespace ScriptGateway.Decimal

theorem length_padded (width n : Nat) : (padded width n).length = width := by
  induction width generalizing n with
  | zero => rfl
  | succ width ih => rw [padded, List.length_append, ih, List.length_singleton]

theorem isDigit_digitChar {d : Nat} (h : d < 10) : (digitChar d).isDigit = true := by
  have all : ∀ d < 10, (digitChar d).isDigit = true := by decide
  exact all d h

theorem isDigit_of_mem_padded {width n : Nat} {c : Char} (h : c ∈ padded width n) :
    c.isDigit = true := by
  induction width generalizing n with
  | zero => simp [padded] at h
  | succ width ih =>
    rw [padded, List.mem_append, List.mem_singleton] at h
    rcases h with h | h
    · exact ih h
    · rw [h]
      exact isDigit_digitChar (Nat.mod_lt n (by decide))

theorem digit?_digitChar {d : Nat} (h : d < 10) : digit? (digitChar d) = some d := by
  have all : ∀ d < 10, digit? (digitChar d) = some d := by decide
  exact all d h

theorem digitsValue_concat (ds : List Char) (c : Char) :
    digitsValue (ds ++ [c]) = digitsValue ds * 10 + (digit? c).getD 0 := by
  simp only [digitsValue, List.foldl_append, List.foldl_cons, List.foldl_nil]

/-- **The digits of a number that fits have its value.** -/
theorem digitsValue_padded {width n : Nat} (h : n < 10 ^ width) :
    digitsValue (padded width n) = n := by
  induction width generalizing n with
  | zero =>
    have zero : n = 0 := by simpa using h
    rw [zero]
    rfl
  | succ width ih =>
    have fits : n / 10 < 10 ^ width := by
      rw [Nat.pow_succ] at h
      exact Nat.div_lt_of_lt_mul (by omega)
    rw [padded, digitsValue_concat, ih fits, digit?_digitChar (Nat.mod_lt n (by decide)),
      Option.getD_some]
    omega

theorem digitChar_lt_iff {d e : Nat} (hd : d < 10) (he : e < 10) :
    digitChar d < digitChar e ↔ d < e := by
  have all : ∀ d < 10, ∀ e < 10, digitChar d < digitChar e ↔ d < e := by decide
  exact all d hd e he

theorem digitChar_inj {d e : Nat} (hd : d < 10) (he : e < 10) :
    digitChar d = digitChar e ↔ d = e := by
  have all : ∀ d < 10, ∀ e < 10, digitChar d = digitChar e ↔ d = e := by decide
  exact all d hd e he

/-- **Texts that begin with fields of one width are in the order of the numbers**, and for equal
numbers in the order of what follows. -/
theorem padded_append_lt_iff {width m n : Nat} (hm : m < 10 ^ width) (hn : n < 10 ^ width)
    (s t : List Char) : padded width m ++ s < padded width n ++ t ↔ m < n ∨ m = n ∧ s < t := by
  induction width generalizing m n s t with
  | zero =>
    have hm : m = 0 := by simpa using hm
    have hn : n = 0 := by simpa using hn
    subst hm hn
    simp [padded]
  | succ width ih =>
    have fits {k : Nat} (hk : k < 10 ^ (width + 1)) : k / 10 < 10 ^ width :=
      Nat.div_lt_of_lt_mul (by rwa [Nat.pow_succ, Nat.mul_comm] at hk)
    have last (k : Nat) : k % 10 < 10 := Nat.mod_lt k (by decide)
    rw [padded, padded, List.append_assoc, List.append_assoc, ih (fits hm) (fits hn),
      List.singleton_append, List.singleton_append, List.cons_lt_cons_iff,
      digitChar_lt_iff (last m) (last n), digitChar_inj (last m) (last n)]
    by_cases less : s < t
    · simp only [less, and_true]
      omega
    · simp only [less, and_false, or_false]
      omega

end ScriptGateway.Decimal
