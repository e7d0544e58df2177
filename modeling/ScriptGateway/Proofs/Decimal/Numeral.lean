import Mathlib.Algebra.Ring.Int.Defs
import Mathlib.Data.List.TakeDrop
import ScriptGateway.Decimal.Numeral
/-!
# Reading whole numbers back

The digits of a number, followed by anything that does not continue them, are read as its numeral.

* `digitsValue_ofNat`: the digits of a number have its value.
* `ofList_ofInt`, `ofInt_inj`: the text of a number is the usual one, and of no other number.
* `length_ofInt_le`: how long it can be.
* `Ended`: what may follow a number so that it ends there.
* `read?_ofInt`: reading takes exactly the number off the front of a text.
-/

namespace ScriptGateway.Decimal

/-! ## 1. Digits -/

theorem digit?_of_isDigit {c : Char} (h : c.isDigit = true) : digit? c = some (c.toNat - 0x30) :=
  if_pos (Char.isDigit_iff_toNat.mp h)

theorem isDigit_of_mem_ofNat {n : Nat} {c : Char} (h : c ∈ ofNat n) : c.isDigit = true :=
  Nat.isDigit_of_mem_toDigits (by decide) (by decide) h

theorem ofNat_ne_nil (n : Nat) : ofNat n ≠ [] :=
  Nat.toDigits_ne_nil

/-- **The digits of a number have its value.** -/
theorem digitsValue_ofNat (n : Nat) : digitsValue (ofNat n) = n := by
  have steps (ds : List Char) (hd : ∀ c ∈ ds, c.isDigit = true) (value : Nat) :
      ds.foldl (fun value c => value * 10 + (digit? c).getD 0) value =
        Nat.ofDigitChars 10 ds value := by
    induction ds generalizing value with
    | nil => rfl
    | cons c ds ih =>
      rw [List.foldl_cons, ih fun d hm => hd d (List.mem_cons_of_mem _ hm),
        digit?_of_isDigit (hd c List.mem_cons_self), Nat.mul_comm value, Nat.ofDigitChars_cons]
      rfl
  rw [digitsValue, steps _ (fun c => isDigit_of_mem_ofNat), ofNat, Nat.ofDigitChars_ten_toDigits]

/-- Only zero begins with a zero. -/
theorem head_ofNat {n : Nat} (h : 0 < n) : (ofNat n).head? ≠ some '0' := by
  induction n using Nat.strongRecOn with
  | ind n ih =>
    unfold ofNat at ih ⊢
    rcases Nat.lt_or_ge n 10 with small | large
    · rw [Nat.toDigits_of_lt_base small]
      intro e
      have zero := Nat.digitChar_eq_zero.mp (Option.some.inj e)
      omega
    · rw [Nat.toDigits_of_base_le (by decide) large, List.head?_append,
        List.head?_eq_some_head Nat.toDigits_ne_nil, Option.some_or, ← List.head?_eq_some_head]
      exact ih (n / 10) (by omega) (by omega)

theorem ofNat_inj {m n : Nat} : ofNat m = ofNat n ↔ m = n := by
  refine ⟨fun h => ?_, congrArg _⟩
  rw [← digitsValue_ofNat m, h, digitsValue_ofNat]

theorem minus_not_mem_ofNat (n : Nat) : '-' ∉ ofNat n := fun h =>
  absurd (isDigit_of_mem_ofNat h) (by decide)

/-- **Different numbers have different texts.** -/
theorem ofInt_inj {m n : Int} : ofInt m = ofInt n ↔ m = n := by
  refine ⟨fun h => ?_, congrArg _⟩
  cases m with
  | ofNat m =>
    cases n with
    | ofNat n => exact congrArg _ (ofNat_inj.mp h)
    | negSucc n =>
      have minus : ofNat m = '-' :: ofNat (n + 1) := h
      exact (minus_not_mem_ofNat m (minus ▸ List.mem_cons_self)).elim
  | negSucc m =>
    cases n with
    | ofNat n =>
      have minus : '-' :: ofNat (m + 1) = ofNat n := h
      exact (minus_not_mem_ofNat n (minus ▸ List.mem_cons_self)).elim
    | negSucc n =>
      have digits := ofNat_inj.mp (List.cons.inj h).2
      exact congrArg _ (Nat.succ.inj digits)

theorem ofList_ofInt (n : Int) : String.ofList (ofInt n) = toString n := by
  cases n with
  | ofNat n => rfl
  | negSucc n =>
    show String.ofList ('-' :: ofNat (n + 1)) = "-" ++ (n + 1).repr
    rw [← String.toList_inj, String.toList_ofList, String.toList_append,
      Nat.repr_eq_ofList_toDigits]
    exact congrArg ('-' :: ·) String.toList_ofList.symm

theorem of_mem_ofInt {n : Int} {c : Char} (h : c ∈ ofInt n) : c = '-' ∨ c.isDigit = true := by
  cases n with
  | ofNat n => exact .inr (isDigit_of_mem_ofNat h)
  | negSucc n => exact (List.mem_cons.mp h).imp_right isDigit_of_mem_ofNat

/-- **How long the text of a number can be**: a negative one may have a digit less, since the sign
takes a character. -/
theorem length_ofInt_le {k : Nat} (positive : 0 < k) {n : Int} (low : -10 ^ k < n)
    (high : n < 10 ^ (k + 1)) : (ofInt n).length ≤ k + 1 := by
  cases n with
  | ofNat n =>
    have below : n < 10 ^ (k + 1) := Int.ofNat_lt.mp (by push_cast; exact high)
    exact (Nat.length_toDigits_le_iff (by decide) k.succ_pos).mpr below
  | negSucc n =>
    have below : n + 1 < 10 ^ k := by
      rw [Int.negSucc_eq, Int.neg_lt_neg_iff] at low
      exact_mod_cast low
    exact Nat.succ_le_succ ((Nat.length_toDigits_le_iff (by decide) positive).mpr below)

/-! ## 2. Where a number ends -/

/-- What follows a number: nothing that could belong to it. -/
def Ended (rest : List Char) : Prop :=
  ∀ c ∈ rest.head?, digit? c = none ∧ c ≠ '.' ∧ c ≠ 'e' ∧ c ≠ 'E'

theorem ended_cons {c : Char} {rest : List Char}
    (h : digit? c = none ∧ c ≠ '.' ∧ c ≠ 'e' ∧ c ≠ 'E') : Ended (c :: rest) :=
  fun _ hd => Option.some.inj hd ▸ h

theorem spanDigits_append {ds rest : List Char} (hd : ∀ c ∈ ds, c.isDigit = true)
    (he : Ended rest) : spanDigits (ds ++ rest) = (ds, rest) := by
  have digits : ∀ c ∈ ds, (digit? c).isSome = true := fun c hc => by
    rw [digit?_of_isDigit (hd c hc)]
    rfl
  rw [spanDigits, List.span_eq_takeWhile_dropWhile, List.takeWhile_append_of_pos digits,
    List.dropWhile_append_of_pos digits]
  cases rest with
  | nil => rw [List.takeWhile_nil, List.dropWhile_nil, List.append_nil]
  | cons c rest =>
    have other : (digit? c).isSome = false := by rw [(he c rfl).1]; rfl
    simp only [List.takeWhile_cons, List.dropWhile_cons, other, Bool.false_eq_true, if_false,
      List.append_nil]

theorem readWhole_ofNat (n : Nat) {rest : List Char} (he : Ended rest) :
    readWhole (ofNat n ++ rest) = some (ofNat n, rest) := by
  have plain : ((ofNat n).isEmpty || ((ofNat n).length > 1 && (ofNat n).head? == some '0')) =
      false := by
    rw [List.isEmpty_eq_false_iff.mpr (ofNat_ne_nil n), Bool.false_or]
    rcases Nat.eq_zero_or_pos n with rfl | positive
    · rfl
    · rw [beq_false_of_ne (head_ofNat positive), Bool.and_false]
  rw [readWhole, spanDigits_append (fun c => isDigit_of_mem_ofNat) he]
  exact if_neg (Bool.not_eq_true _ ▸ plain)

theorem readFraction_of_ended {rest : List Char} (he : Ended rest) :
    readFraction rest = some (none, rest) := by
  unfold readFraction
  split
  · exact ((he '.' rfl).2.1 rfl).elim
  · rfl

theorem readExponent_of_ended {rest : List Char} (he : Ended rest) :
    readExponent rest = some (none, rest) := by
  unfold readExponent
  split
  · exact ((he 'e' rfl).2.2.1 rfl).elim
  · exact ((he 'E' rfl).2.2.2 rfl).elim
  · rfl

/-- **Reading takes exactly the number off the front.** -/
theorem read?_ofInt (n : Int) {rest : List Char} (he : Ended rest) :
    Numeral.read? (ofInt n ++ rest) = some (Numeral.ofInt n, rest) := by
  cases n with
  | ofNat n =>
    show Numeral.read? (ofNat n ++ rest) = some (⟨false, ofNat n, none, none⟩, rest)
    have unsigned : ∀ more, ofNat n ++ rest ≠ '-' :: more := fun more e => by
      obtain ⟨c, digits, hd⟩ := List.exists_cons_of_ne_nil (ofNat_ne_nil n)
      rw [hd, List.cons_append] at e
      have digit := isDigit_of_mem_ofNat (hd ▸ List.mem_cons_self : c ∈ ofNat n)
      rw [(List.cons.inj e).1] at digit
      exact absurd digit (by decide)
    simp only [Numeral.read?, readWhole_ofNat n he, readFraction_of_ended he,
      readExponent_of_ended he, Option.bind_eq_bind, Option.bind_some]
    rfl
  | negSucc n =>
    have numeral : Numeral.ofInt (.negSucc n) = ⟨true, ofNat (n + 1), none, none⟩ := by
      rw [Numeral.ofInt, decide_eq_true (Int.negSucc_lt_zero n)]
      rfl
    rw [numeral]
    show Numeral.read? ('-' :: (ofNat (n + 1) ++ rest)) = _
    simp only [Numeral.read?, readWhole_ofNat _ he, readFraction_of_ended he,
      readExponent_of_ended he, Option.bind_eq_bind, Option.bind_some]
    rfl

end ScriptGateway.Decimal
