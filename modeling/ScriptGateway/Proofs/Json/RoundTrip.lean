import ScriptGateway.Json.Printer
import ScriptGateway.Json.Reader
import ScriptGateway.Proofs.Decimal.Numeral
import ScriptGateway.Proofs.Text.Split
/-!
# Reading back what was written

A value without floating-point numbers is read back from its text as it was, whatever characters
its texts hold. A text may be followed by anything that does not continue a number, so the proofs
carry the rest along.

* `readString_escaped`: an escaped character is read as that character.
* `Exact`: values without floating-point numbers.
* `Reads`, `reads_of_exact`: such a value is taken exactly off the front of a text.
* `read_write`: and is all of its text, up to blanks.
* `printable_write`: no control character is in the text.
-/

namespace ScriptGateway.Json

open Decimal (Ended ended_cons)

/-! ## 1. Strings -/

/-- How a character is written inside a string. -/
inductive Escaped : Char → List Char → Prop
  | short {c e : Char} (hu : e ≠ 'u') (visible : 0x20 ≤ e.toNat) (h : shortEscape? e = some c) :
      Escaped c ['\\', e]
  | control {c : Char} (h : c.toNat < 0x20) :
      Escaped c ['\\', 'u', '0', '0', hexDigit (c.toNat / 16), hexDigit (c.toNat % 16)]
  | plain {c : Char} (hq : c ≠ '"') (hb : c ≠ '\\') (h : 0x20 ≤ c.toNat) : Escaped c [c]

theorem escaped_escapedChar (c : Char) : Escaped c (escapedChar c) := by
  unfold escapedChar
  iterate 7
    split
    · subst_vars
      exact .short (by decide) (by decide) (by decide)
  split
  · exact .control ‹_›
  · exact .plain ‹_› ‹_› (Nat.le_of_not_lt ‹_›)

theorem hexUnit?_control {n : Nat} (h : n < 0x20) :
    hexUnit? '0' '0' (hexDigit (n / 16)) (hexDigit (n % 16)) = some n := by
  have all : ∀ n < 0x20,
      hexUnit? '0' '0' (hexDigit (n / 16)) (hexDigit (n % 16)) = some n := by decide
  exact all n h

/-- **An escaped character is read as that character.** -/
theorem readString_escaped {c : Char} {cs : List Char} (h : Escaped c cs)
    (done rest : List Char) : readString done (cs ++ rest) = readString (c :: done) rest := by
  cases h with
  | short hu _ h =>
    show readString done ('\\' :: _ :: rest) = _
    rw [readString.eq_3 done _ rest fun _ _ _ _ _ he => (hu he).elim, h]
    rfl
  | control h =>
    show readString done ('\\' :: 'u' :: '0' :: '0' :: hexDigit _ :: hexDigit _ :: rest) = _
    rw [readString.eq_2, hexUnit?_control h]
    show (if _ then _ else if _ then _ else readString (Char.ofNat c.toNat :: done) rest) = _
    rw [if_neg (by omega), if_neg (by omega), Char.ofNat_toNat]
  | plain hq hb h =>
    show readString done (c :: rest) = _
    rw [readString.eq_4 done c rest hq (fun _ _ _ _ _ he => (hb he).elim)
      (fun _ _ he => (hb he).elim), if_neg (Nat.not_lt.mpr h)]

theorem readString_flatMap (cs done rest : List Char) :
    readString done (cs.flatMap escapedChar ++ '"' :: rest) =
      some (String.ofList (done.reverse ++ cs), rest) := by
  induction cs generalizing done with
  | nil => rw [List.flatMap_nil, List.nil_append, readString.eq_1, List.append_nil]
  | cons c cs ih =>
    rw [List.flatMap_cons, List.append_assoc, readString_escaped (escaped_escapedChar c), ih,
      List.reverse_cons, List.append_assoc, List.singleton_append]

/-- **A text is read back**, after its opening quotation mark. -/
theorem readString_writeText (s : String) (rest : List Char) :
    readString [] (s.toList.flatMap escapedChar ++ '"' :: rest) = some (s, rest) := by
  rw [readString_flatMap, List.reverse_nil, List.nil_append, String.ofList_toList]

/-! ## 2. How a text begins -/

/-- A value without floating-point numbers. -/
inductive Exact : Value → Prop
  | null : Exact .null
  | bool (b : Bool) : Exact (.bool b)
  | int (n : Int) : Exact (.int n)
  | text (s : String) : Exact (.text s)
  | list {items : List Value} (h : ∀ v ∈ items, Exact v) : Exact (.list items)
  | object {fields : List (String × Value)} (h : ∀ f ∈ fields, Exact f.2) : Exact (.object fields)

/-- The characters with which a number begins. -/
def BeginsNumber (c : Char) : Prop :=
  c = '-' ∨ c.isDigit = true

instance (c : Char) : Decidable (BeginsNumber c) :=
  inferInstanceAs (Decidable (c = '-' ∨ c.isDigit = true))

theorem BeginsNumber.ne {c other : Char} (h : BeginsNumber c) (ho : ¬ BeginsNumber other) :
    c ≠ other :=
  fun e => ho (e ▸ h)

theorem exists_cons_ofInt (n : Int) :
    ∃ c s, Decimal.ofInt n = c :: s ∧ BeginsNumber c := by
  cases n with
  | ofNat n =>
    obtain ⟨c, s, hs⟩ := List.exists_cons_of_ne_nil (Decimal.ofNat_ne_nil n)
    exact ⟨c, s, hs, .inr (Decimal.isDigit_of_mem_ofNat (hs ▸ List.mem_cons_self))⟩
  | negSucc n => exact ⟨'-', Decimal.ofNat (n + 1), rfl, .inl rfl⟩

theorem isSpace_of_beginsNumber {c : Char} (h : BeginsNumber c) : isSpace c = false := by
  simp only [isSpace, h.ne (show ¬ BeginsNumber ' ' by decide),
    h.ne (show ¬ BeginsNumber '\n' by decide), h.ne (show ¬ BeginsNumber '\t' by decide),
    h.ne (show ¬ BeginsNumber '\r' by decide), decide_false, Bool.or_false]

/-- No value begins with a blank or a closing bracket. -/
theorem exists_cons_write {v : Value} (h : Exact v) :
    ∃ c s, write v = c :: s ∧ isSpace c = false ∧ c ≠ ']' := by
  cases h with
  | null => exact ⟨'n', _, by rw [write], by decide, by decide⟩
  | bool b =>
    cases b
    · exact ⟨'f', _, by rw [write], by decide, by decide⟩
    · exact ⟨'t', _, by rw [write], by decide, by decide⟩
  | int n =>
    obtain ⟨c, s, hs, hc⟩ := exists_cons_ofInt n
    exact ⟨c, s, by rw [write, hs], isSpace_of_beginsNumber hc, hc.ne (by decide)⟩
  | text s => exact ⟨'"', _, by rw [write, writeText], by decide, by decide⟩
  | list => exact ⟨'[', _, by rw [write], by decide, by decide⟩
  | object => exact ⟨'\x7b', _, by rw [write], by decide, by decide⟩

theorem skipSpace_cons {c : Char} (h : isSpace c = false) (s : List Char) :
    skipSpace (c :: s) = c :: s :=
  List.dropWhile_cons_of_neg (by rw [h]; exact Bool.false_ne_true)

theorem skipSpace_write {v : Value} (h : Exact v) (rest : List Char) :
    skipSpace (write v ++ rest) = write v ++ rest := by
  obtain ⟨c, s, hs, hc, -⟩ := exists_cons_write h
  rw [hs]
  exact skipSpace_cons hc _

/-! ## 3. Values -/

/-- A value is taken exactly off the front of a text. The fuel needed is no more than what the
value takes of the text. -/
def Reads (v : Value) : Prop :=
  ∀ fuel rest, (write v).length ≤ fuel → Ended rest →
    readValue fuel (write v ++ rest) = some (v, rest)

/-- No text of a value is empty, so there is fuel for a first step. -/
theorem exists_succ_of_write {v : Value} (h : Exact v) {fuel : Nat}
    (hf : (write v).length ≤ fuel) : ∃ n, fuel = n + 1 := by
  obtain ⟨c, s, hs, -⟩ := exists_cons_write h
  rw [hs] at hf
  exact Nat.exists_eq_add_one.mpr (Nat.lt_of_lt_of_le (Nat.succ_pos _) hf)

theorem readValue_number {c : Char} (h : BeginsNumber c) (fuel : Nat) (s : List Char) :
    readValue (fuel + 1) (c :: s) = readNumber (c :: s) :=
  readValue.eq_8 _ _ (fun _ e => h.ne (by decide) (List.cons.inj e).1)
    (fun _ e => h.ne (by decide) (List.cons.inj e).1)
    (fun _ e => h.ne (by decide) (List.cons.inj e).1)
    (fun _ e => h.ne (by decide) (List.cons.inj e).1)
    (fun _ e => h.ne (by decide) (List.cons.inj e).1)
    (fun _ e => h.ne (by decide) (List.cons.inj e).1)

theorem numeralValue?_ofInt (n : Int) : numeralValue? (.ofInt n) = some (.int n) := by
  have value : Decimal.digitsValue (Decimal.Numeral.ofInt n).whole = n.natAbs :=
    Decimal.digitsValue_ofNat n.natAbs
  rw [numeralValue?, if_pos (show (Decimal.Numeral.ofInt n).isWhole = true from rfl), value]
  cases n with
  | ofNat n => rfl
  | negSucc n =>
    have negative : (Decimal.Numeral.ofInt (.negSucc n)).negative = true :=
      decide_eq_true (Int.negSucc_lt_zero n)
    rw [negative]
    rfl

theorem reads_int (n : Int) : Reads (.int n) := by
  intro fuel rest hf he
  have number : readNumber (Decimal.ofInt n ++ rest) = some (.int n, rest) := by
    simp only [readNumber, Decimal.read?_ofInt n he, numeralValue?_ofInt, Option.bind_eq_bind,
      Option.bind_some, Option.pure_def]
  obtain ⟨fuel, rfl⟩ := exists_succ_of_write (.int n) hf
  obtain ⟨c, s, hs, hc⟩ := exists_cons_ofInt n
  rw [hs] at number
  rw [write, hs]
  exact (readValue_number hc fuel _).trans number

theorem reads_text (s : String) : Reads (.text s) := by
  intro fuel rest hf _
  obtain ⟨fuel, rfl⟩ := exists_succ_of_write (.text s) hf
  rw [write, writeText, List.cons_append, List.append_assoc, List.singleton_append,
    readValue.eq_5, readString_writeText]
  rfl

/-! ## 4. Lists -/

theorem exists_writeItems (v : Value) (items : List Value) :
    ∃ more, writeItems (v :: items) = write v ++ more := by
  cases items with
  | nil => exact ⟨[], by rw [writeItems, List.append_nil]⟩
  | cons w items => exact ⟨_, by rw [writeItems]⟩

theorem exists_cons_writeItems {v : Value} (h : Exact v) (items : List Value) (rest : List Char) :
    ∃ c s, writeItems (v :: items) ++ rest = c :: s ∧ isSpace c = false ∧ c ≠ ']' := by
  obtain ⟨more, hm⟩ := exists_writeItems v items
  obtain ⟨c, s, hs, hc, hb⟩ := exists_cons_write h
  exact ⟨c, s ++ (more ++ rest), by rw [hm, hs, List.append_assoc]; rfl, hc, hb⟩

theorem skipSpace_writeItems {v : Value} (h : Exact v) (items : List Value) (rest : List Char) :
    skipSpace (writeItems (v :: items) ++ rest) = writeItems (v :: items) ++ rest := by
  obtain ⟨c, s, hs, hc, -⟩ := exists_cons_writeItems h items rest
  rw [hs, skipSpace_cons hc]

theorem readItems_writeItems {items : List Value} (hn : items ≠ [])
    (he : ∀ v ∈ items, Exact v) (hr : ∀ v ∈ items, Reads v) (fuel : Nat) (rest : List Char)
    (hf : (writeItems items).length < fuel) :
    readItems fuel (writeItems items ++ ']' :: rest) = some (items, rest) := by
  induction items generalizing fuel with
  | nil => exact (hn rfl).elim
  | cons v items ih =>
    obtain ⟨fuel, rfl⟩ : ∃ n, fuel = n + 1 := ⟨fuel - 1, by omega⟩
    have first := hr v List.mem_cons_self
    cases items with
    | nil =>
      rw [writeItems] at hf ⊢
      rw [readItems.eq_2, first fuel _ (by omega) (ended_cons (by decide))]
      rfl
    | cons w items =>
      -- the comma pays for the step in which the other items are read
      rw [writeItems, List.length_append, List.length_cons] at hf
      have others := ih (List.cons_ne_nil _ _) (fun u hu => he u (List.mem_cons_of_mem _ hu))
        (fun u hu => hr u (List.mem_cons_of_mem _ hu)) fuel (by omega)
      have unspaced := skipSpace_writeItems (he w (List.mem_cons_of_mem _ List.mem_cons_self))
        items (']' :: rest)
      rw [writeItems, List.append_assoc, List.cons_append, readItems.eq_2,
        first fuel _ (by omega) (ended_cons (by decide))]
      simp only [Option.bind_eq_bind, Option.bind_some, skipSpace_cons (c := ',') (by decide),
        unspaced, others, Option.pure_def]

theorem reads_list {items : List Value} (he : ∀ v ∈ items, Exact v)
    (hr : ∀ v ∈ items, Reads v) : Reads (.list items) := by
  intro fuel rest hf _
  obtain ⟨fuel, rfl⟩ := exists_succ_of_write (.list he) hf
  rw [write, List.length_cons, List.length_append, List.length_singleton] at hf
  rw [write, List.cons_append, List.append_assoc, List.singleton_append, readValue.eq_6]
  cases items with
  | nil => rfl
  | cons v items =>
    have inside := readItems_writeItems (List.cons_ne_nil v items) he hr fuel rest (by omega)
    obtain ⟨c, s, hs, -, hb⟩ :=
      exists_cons_writeItems (he v List.mem_cons_self) items (']' :: rest)
    rw [skipSpace_writeItems (he v List.mem_cons_self)]
    split
    · next closed => exact (hb (List.cons.inj (hs.symm.trans closed)).1).elim
    · rw [inside]
      rfl

/-! ## 5. Objects -/

theorem exists_writeFields (f : String × Value) (fields : List (String × Value)) :
    ∃ more, writeFields (f :: fields) = '"' :: more := by
  obtain ⟨name, v⟩ := f
  cases fields with
  | nil => exact ⟨_, by rw [writeFields, writeText]; rfl⟩
  | cons g fields => exact ⟨_, by rw [writeFields, writeText]; rfl⟩

section Field

variable (name : String) {v : Value} (he : Exact v) (hr : Reads v) (fuel : Nat) (rest : List Char)
  (hf : (write v).length ≤ fuel)
include he hr hf

/-- A field after which another one comes. -/
theorem readFields_comma :
    readFields (fuel + 1) (writeText name ++ ':' :: (write v ++ ',' :: rest)) =
      (readFields fuel (skipSpace rest)).map fun (fields, rest) => ((name, v) :: fields, rest) := by
  rw [writeText, List.cons_append, List.append_assoc, List.singleton_append, readFields.eq_2,
    readString_writeText]
  simp only [Option.bind_eq_bind, Option.bind_some, skipSpace_cons (c := ':') (by decide),
    skipSpace_write he, hr fuel _ hf (ended_cons (c := ',') (by decide)),
    skipSpace_cons (c := ',') (by decide)]
  cases readFields fuel (skipSpace rest) <;> rfl

/-- The last field. -/
theorem readFields_close :
    readFields (fuel + 1) (writeText name ++ ':' :: (write v ++ '\x7d' :: rest)) =
      some ([(name, v)], rest) := by
  rw [writeText, List.cons_append, List.append_assoc, List.singleton_append, readFields.eq_2,
    readString_writeText]
  simp only [Option.bind_eq_bind, Option.bind_some, skipSpace_cons (c := ':') (by decide),
    skipSpace_write he, hr fuel _ hf (ended_cons (c := '\x7d') (by decide)),
    skipSpace_cons (c := '\x7d') (by decide)]
  rfl

end Field

theorem readFields_writeFields {fields : List (String × Value)} (hn : fields ≠ [])
    (he : ∀ f ∈ fields, Exact f.2) (hr : ∀ f ∈ fields, Reads f.2) (fuel : Nat) (rest : List Char)
    (hf : (writeFields fields).length < fuel) :
    readFields fuel (writeFields fields ++ '\x7d' :: rest) = some (fields, rest) := by
  induction fields generalizing fuel with
  | nil => exact (hn rfl).elim
  | cons f fields ih =>
    obtain ⟨name, v⟩ := f
    obtain ⟨fuel, rfl⟩ : ∃ n, fuel = n + 1 := ⟨fuel - 1, by omega⟩
    have exact_v : Exact v := he (name, v) List.mem_cons_self
    have reads_v : Reads v := hr (name, v) List.mem_cons_self
    cases fields with
    | nil =>
      rw [writeFields, List.length_append, List.length_cons] at hf
      rw [writeFields, List.append_assoc, List.cons_append,
        readFields_close name exact_v reads_v fuel rest (by omega)]
    | cons g fields =>
      rw [writeFields, List.length_append, List.length_cons, List.length_append,
        List.length_cons] at hf
      have others := ih (List.cons_ne_nil _ _) (fun u hu => he u (List.mem_cons_of_mem _ hu))
        (fun u hu => hr u (List.mem_cons_of_mem _ hu)) fuel (by omega)
      obtain ⟨more, hm⟩ := exists_writeFields g fields
      have unspaced : skipSpace (writeFields (g :: fields) ++ '\x7d' :: rest) =
          writeFields (g :: fields) ++ '\x7d' :: rest := by
        rw [hm]
        exact skipSpace_cons (by decide) _
      rw [writeFields, List.append_assoc, List.cons_append, List.append_assoc, List.cons_append,
        readFields_comma name exact_v reads_v fuel _ (by omega), unspaced, others]
      rfl

theorem reads_object {fields : List (String × Value)} (he : ∀ f ∈ fields, Exact f.2)
    (hr : ∀ f ∈ fields, Reads f.2) : Reads (.object fields) := by
  intro fuel rest hf _
  obtain ⟨fuel, rfl⟩ := exists_succ_of_write (.object he) hf
  rw [write, List.length_cons, List.length_append, List.length_singleton] at hf
  rw [write, List.cons_append, List.append_assoc, List.singleton_append, readValue.eq_7]
  cases fields with
  | nil => rfl
  | cons f fields =>
    have inside := readFields_writeFields (List.cons_ne_nil f fields) he hr fuel rest (by omega)
    obtain ⟨more, hm⟩ := exists_writeFields f fields
    rw [hm, List.cons_append] at inside ⊢
    rw [skipSpace_cons (by decide)]
    show (readFields fuel _).map _ = _
    rw [inside]
    rfl

/-! ## 6. Whole texts -/

/-- **A value without floating-point numbers is taken exactly off the front of a text.** -/
theorem reads_of_exact {v : Value} (h : Exact v) : Reads v := by
  induction h with
  | null =>
    intro fuel rest hf _
    obtain ⟨fuel, rfl⟩ := exists_succ_of_write .null hf
    rw [write]
    exact readValue.eq_2 fuel rest
  | bool b =>
    intro fuel rest hf _
    obtain ⟨fuel, rfl⟩ := exists_succ_of_write (.bool b) hf
    cases b with
    | false => rw [write]; exact readValue.eq_4 fuel rest
    | true => rw [write]; exact readValue.eq_3 fuel rest
  | int n => exact reads_int n
  | text s => exact reads_text s
  | list he hr => exact reads_list he hr
  | object he hr => exact reads_object he hr

theorem skipSpace_blanks {blanks : List Char} (h : ∀ c ∈ blanks, isSpace c = true) :
    skipSpace blanks = [] :=
  Text.dropWhile_eq_nil h

theorem ended_blanks {blanks : List Char} (h : ∀ c ∈ blanks, isSpace c = true) :
    Ended blanks := by
  intro c hc
  have space := h c (List.mem_of_mem_head? hc)
  simp only [isSpace, Bool.or_eq_true, decide_eq_true_eq] at space
  rcases space with ((rfl | rfl) | rfl) | rfl <;> decide

/-- **A value without floating-point numbers is read back from its text**, whatever blanks follow
it. -/
theorem read_write {v : Value} (h : Exact v) {blanks : List Char}
    (hb : ∀ c ∈ blanks, isSpace c = true) : read (write v ++ blanks) = some v := by
  rw [read, skipSpace_write h, reads_of_exact h _ blanks (by rw [List.length_append]; omega)
    (ended_blanks hb)]
  show (if (skipSpace blanks).isEmpty then _ else _) = _
  rw [skipSpace_blanks hb]
  rfl

/-! ## 7. Control characters -/

/-- No control character, in particular no line end. -/
def Printable (s : List Char) : Prop :=
  ∀ c ∈ s, 0x20 ≤ c.toNat

instance (s : List Char) : Decidable (Printable s) :=
  List.decidableBAll _ s

theorem printable_cons {c : Char} {s : List Char} (hc : 0x20 ≤ c.toNat) (hs : Printable s) :
    Printable (c :: s) := fun d hd => by
  rcases List.mem_cons.mp hd with rfl | hd
  · exact hc
  · exact hs d hd

theorem printable_append {s t : List Char} (hs : Printable s) (ht : Printable t) :
    Printable (s ++ t) := fun c hc =>
  (List.mem_append.mp hc).elim (hs c) (ht c)

theorem printable_of_escaped {c : Char} {cs : List Char} (h : Escaped c cs) : Printable cs := by
  cases h with
  | short _ visible => exact printable_cons (by decide) (printable_cons visible nofun)
  | control h =>
    have digit : ∀ n < 16, 0x20 ≤ (hexDigit n).toNat := by decide
    exact printable_append (s := ['\\', 'u', '0', '0']) (by decide)
      (printable_cons (digit _ (by omega)) (printable_cons (digit _ (by omega)) nofun))
  | plain _ _ h => exact printable_cons h nofun

theorem printable_writeText (s : String) : Printable (writeText s) := by
  refine printable_cons (by decide) (printable_append (fun c hc => ?_) (by decide))
  obtain ⟨d, -, hc⟩ := List.mem_flatMap.mp hc
  exact printable_of_escaped (escaped_escapedChar d) c hc

theorem printable_ofInt (n : Int) : Printable (Decimal.ofInt n) := by
  have digits (n : Nat) : Printable (Decimal.ofNat n) := fun c hc => by
    have digit : 0x30 ≤ c.toNat := (Char.isDigit_iff_toNat.mp (Decimal.isDigit_of_mem_ofNat hc)).1
    omega
  cases n with
  | ofNat n => exact digits n
  | negSucc n => exact printable_cons (by decide) (digits (n + 1))

theorem printable_writeItems {items : List Value} (h : ∀ v ∈ items, Printable (write v)) :
    Printable (writeItems items) := by
  induction items with
  | nil => rw [writeItems]; exact nofun
  | cons v items ih =>
    have first := h v List.mem_cons_self
    cases items with
    | nil => rwa [writeItems]
    | cons w items =>
      rw [writeItems]
      exact printable_append first
        (printable_cons (by decide) (ih fun u hu => h u (List.mem_cons_of_mem _ hu)))

theorem printable_writeFields {fields : List (String × Value)}
    (h : ∀ f ∈ fields, Printable (write f.2)) : Printable (writeFields fields) := by
  induction fields with
  | nil => rw [writeFields]; exact nofun
  | cons f fields ih =>
    obtain ⟨name, v⟩ := f
    have first : Printable (write v) := h (name, v) List.mem_cons_self
    cases fields with
    | nil =>
      rw [writeFields]
      exact printable_append (printable_writeText name) (printable_cons (by decide) first)
    | cons g fields =>
      rw [writeFields]
      exact printable_append (printable_writeText name) (printable_cons (by decide)
        (printable_append first
          (printable_cons (by decide) (ih fun u hu => h u (List.mem_cons_of_mem _ hu)))))

/-- **No text of a value holds a control character**, whatever its texts hold. -/
theorem printable_write {v : Value} (h : Exact v) : Printable (write v) := by
  induction h with
  | null => rw [write]; decide
  | bool b => cases b <;> (rw [write]; decide)
  | int n => rw [write]; exact printable_ofInt n
  | text s => rw [write]; exact printable_writeText s
  | list _ ih =>
    rw [write]
    exact printable_cons (by decide) (printable_append (printable_writeItems ih) (by decide))
  | object _ ih =>
    rw [write]
    exact printable_cons (by decide) (printable_append (printable_writeFields ih) (by decide))

end ScriptGateway.Json
