import Mathlib.Algebra.Ring.Nat
import ScriptGateway.Text.Utf8
/-!
# What is read from UTF-8

Reading gives back what was written, and nothing else can be read strictly: a byte sequence is
well-formed just if it is the writing of some text, and of one text only.

* `continuation`: the last bytes of a character, six bits of its value each.
* `length_ofText`: how many bytes a text takes.
* `run_encodeChar`: the decoder reads a character that was written.
* `Pending`: what the decoder knows of the bytes since the last character; `pending_feed` is what
  one byte does to it, `encode_of_run` what all bytes come to.
* `decode?_eq_some_iff`, `decodeLossy_encode`: the strict and the lossy reading.
* `ofText_inj`, `count_encode`: what bytes tell of the text that they write.
* `decodeLossy_append_ascii`: what stands on either side of an ASCII byte is read by itself.
-/

namespace ScriptGateway.Text.Utf8

/-! ## 1. The bytes of a character -/

/-- The byte for six bits of a character's value, the `k`th six from the end. -/
def sextet (v k : Nat) : UInt8 :=
  UInt8.ofNat (0x80 + v / 64 ^ k % 64)

/-- The last `k` bytes of a character. -/
def continuation (v : Nat) : Nat → Bytes
  | 0 => []
  | k + 1 => sextet v k :: continuation v k

theorem toNat_sextet (v k : Nat) : (sextet v k).toNat = 0x80 + v / 64 ^ k % 64 := by
  unfold sextet
  rw [UInt8.toNat_ofNat']
  omega

theorem encodeChar_one {c : Char} (h : c.toNat < 0x80) :
    encodeChar c = [UInt8.ofNat c.toNat] := by
  simp [encodeChar, h]

theorem encodeChar_two {c : Char} (h : 0x80 ≤ c.toNat) (h' : c.toNat < 0x800) :
    encodeChar c = UInt8.ofNat (0xC0 + c.toNat / 64) :: continuation c.toNat 1 := by
  simp [encodeChar, continuation, sextet, Nat.not_lt.mpr h, h']

theorem encodeChar_three {c : Char} (h : 0x800 ≤ c.toNat) (h' : c.toNat < 0x10000) :
    encodeChar c = UInt8.ofNat (0xE0 + c.toNat / 4096) :: continuation c.toNat 2 := by
  have h₁ : ¬ c.toNat < 0x80 := by omega
  simp [encodeChar, continuation, sextet, h₁, Nat.not_lt.mpr h, h']

theorem encodeChar_four {c : Char} (h : 0x10000 ≤ c.toNat) :
    encodeChar c = UInt8.ofNat (0xF0 + c.toNat / 262144) :: continuation c.toNat 3 := by
  have h₁ : ¬ c.toNat < 0x80 := by omega
  have h₂ : ¬ c.toNat < 0x800 := by omega
  simp [encodeChar, continuation, sextet, h₁, h₂, Nat.not_lt.mpr h]

theorem toNat_lt (c : Char) : c.toNat < 0x110000 := by
  have h : c.toNat.isValidChar := c.valid
  unfold Nat.isValidChar at h
  omega

/-- The writing is the one that texts have in memory. -/
theorem encodeChar_eq_utf8EncodeChar (c : Char) : encodeChar c = String.utf8EncodeChar c := by
  have hv := toNat_lt c
  unfold String.utf8EncodeChar
  simp only [Char.toNat_val]
  split
  · next h => rw [encodeChar_one (by omega)]
  split
  · next h₁ h₂ =>
    rw [encodeChar_two (by omega) (by omega)]
    simp [continuation, sextet, Nat.add_comm]
    congr 2; omega
  split
  · next h₁ h₂ h₃ =>
    rw [encodeChar_three (by omega) (by omega)]
    simp [continuation, sextet, Nat.add_comm]
    congr 2; omega
  · next h₁ h₂ h₃ =>
    rw [encodeChar_four (by omega)]
    simp [continuation, sextet, Nat.add_comm]
    congr 2; omega

theorem encode_eq_flatMap (s : List Char) : encode s = s.flatMap String.utf8EncodeChar := by
  unfold encode
  rw [funext encodeChar_eq_utf8EncodeChar]

theorem length_encodeChar (c : Char) : (encodeChar c).length = c.utf8Size := by
  rw [encodeChar_eq_utf8EncodeChar, String.length_utf8EncodeChar]

/-- ASCII characters take one byte each. -/
theorem length_encode_ascii {s : List Char} (h : ∀ c ∈ s, c.toNat < 0x80) :
    (encode s).length = s.length := by
  induction s with
  | nil => rfl
  | cons c s ih =>
    obtain ⟨first, others⟩ := List.forall_mem_cons.mp h
    show (encodeChar c ++ encode s).length = _
    rw [encodeChar_one first, List.length_append, ih others, List.length_singleton,
      List.length_cons, Nat.add_comm]

/-- A text takes as many bytes as its writing has. -/
theorem length_ofText (s : String) : (Bytes.ofText s).length = s.utf8ByteSize := by
  have size : (String.ofList s.toList).toByteArray.size =
      (s.toList.flatMap String.utf8EncodeChar).length := by
    rw [String.toByteArray_ofList, List.utf8Encode, List.size_toByteArray]
  rw [Bytes.ofText, encode_eq_flatMap, ← size, String.ofList_toList]
  rfl

theorem le_of_mem_continuation {v k : Nat} {b : UInt8} (h : b ∈ continuation v k) :
    0x80 ≤ b.toNat := by
  induction k with
  | zero => exact (List.not_mem_nil h).elim
  | succ k ih =>
    rcases List.mem_cons.mp h with rfl | h
    · rw [toNat_sextet]
      omega
    · exact ih h

/-- Only an ASCII character has a byte below 0x80, and that byte is its value. -/
theorem le_of_mem_encodeChar {c : Char} {low : Nat} (hl : low ≤ 0x80) (hc : low ≤ c.toNat)
    {b : UInt8} (hb : b ∈ encodeChar c) : low ≤ b.toNat := by
  have bound := toNat_lt c
  rcases Nat.lt_or_ge c.toNat 0x80 with h₁ | h₁
  · rw [encodeChar_one h₁, List.mem_singleton] at hb
    rw [hb, UInt8.toNat_ofNat']
    omega
  have lead : ∃ first k, encodeChar c = UInt8.ofNat first :: continuation c.toNat k ∧
      0xC0 ≤ first ∧ first < 0x100 := by
    rcases Nat.lt_or_ge c.toNat 0x800 with h₂ | h₂
    · exact ⟨_, _, encodeChar_two h₁ h₂, by omega, by omega⟩
    rcases Nat.lt_or_ge c.toNat 0x10000 with h₃ | h₃
    · exact ⟨_, _, encodeChar_three h₂ h₃, by omega, by omega⟩
    · exact ⟨_, _, encodeChar_four h₃, by omega, by omega⟩
  obtain ⟨first, k, he, hf, hf'⟩ := lead
  rw [he] at hb
  rcases List.mem_cons.mp hb with rfl | hb
  · rw [UInt8.toNat_ofNat']
    omega
  · have := le_of_mem_continuation hb
    omega

theorem le_of_mem_encode {s : List Char} {low : Nat} (hl : low ≤ 0x80)
    (hs : ∀ c ∈ s, low ≤ c.toNat) : ∀ b ∈ encode s, low ≤ b.toNat := by
  intro b hb
  obtain ⟨c, hc, hb⟩ := List.mem_flatMap.mp hb
  exact le_of_mem_encodeChar hl (hs c hc) hb

/-! ## 2. The first byte of a character -/

namespace Decoder

theorem start_one {b : UInt8} (h : b.toNat < 0x80) :
    start b = ([some (Char.ofNat b.toNat)], between) := by
  simp [start, h]

theorem start_two {b : UInt8} (h : 0xC2 ≤ b.toNat) (h' : b.toNat < 0xE0) :
    start b = ([], inside 0 0x80 0xBF (b.toNat - 0xC0)) := by
  have h₁ : ¬ b.toNat < 0x80 := by omega
  simp [start, h₁, Nat.not_lt.mpr h, h']

/-- The second of three bytes is bounded so that nothing overlong and no surrogate is read. -/
theorem start_three {b : UInt8} (h : 0xE0 ≤ b.toNat) (h' : b.toNat < 0xF0) :
    start b = ([], inside 1 (if b.toNat = 0xE0 then 0xA0 else 0x80)
      (if b.toNat = 0xED then 0x9F else 0xBF) (b.toNat - 0xE0)) := by
  have h₁ : ¬ b.toNat < 0x80 := by omega
  have h₂ : ¬ b.toNat < 0xC2 := by omega
  simp only [start, h₁, h₂, Nat.not_lt.mpr h, h', if_false, if_true]
  by_cases h₃ : b.toNat = 0xE0
  · simp [h₃]
  · by_cases h₄ : b.toNat = 0xED <;> simp [h₃, h₄]

/-- The second of four bytes is bounded so that nothing overlong and nothing too high is read. -/
theorem start_four {b : UInt8} (h : 0xF0 ≤ b.toNat) (h' : b.toNat ≤ 0xF4) :
    start b = ([], inside 2 (if b.toNat = 0xF0 then 0x90 else 0x80)
      (if b.toNat = 0xF4 then 0x8F else 0xBF) (b.toNat - 0xF0)) := by
  have h₁ : ¬ b.toNat < 0x80 := by omega
  have h₂ : ¬ b.toNat < 0xC2 := by omega
  have h₃ : ¬ b.toNat < 0xE0 := by omega
  have h₄ : ¬ b.toNat < 0xF0 := by omega
  have h₅ : b.toNat ≠ 0xE0 := by omega
  have h₆ : b.toNat ≠ 0xED := by omega
  simp only [start, h₁, h₂, h₃, h₄, h₅, h₆, if_false]
  by_cases h₇ : b.toNat = 0xF0
  · simp [h₇]
  · by_cases h₈ : b.toNat = 0xF4
    · simp [h₈]
    · have h₉ : b.toNat < 0xF4 := by omega
      simp [h₇, h₈, h₉]

/-- No other byte begins a character. -/
theorem start_malformed {b : UInt8} (h : 0x80 ≤ b.toNat) (h' : b.toNat < 0xC2 ∨ 0xF4 < b.toNat) :
    start b = ([none], between) := by
  have h₁ : ¬ b.toNat < 0x80 := by omega
  unfold start
  rcases h' with h' | h'
  · simp [h₁, h']
  · have h₂ : ¬ b.toNat < 0xC2 := by omega
    have h₃ : ¬ b.toNat < 0xE0 := by omega
    have h₄ : ¬ b.toNat < 0xF0 := by omega
    have h₅ : ¬ b.toNat < 0xF4 := by omega
    have h₆ : b.toNat ≠ 0xE0 := by omega
    have h₇ : b.toNat ≠ 0xED := by omega
    have h₈ : b.toNat ≠ 0xF0 := by omega
    have h₉ : b.toNat ≠ 0xF4 := by omega
    simp [h₁, h₂, h₃, h₄, h₅, h₆, h₇, h₈, h₉]

end Decoder

/-! ## 3. What was written is read -/

/-- A decoder that stands inside a character reads on to its end. -/
theorem run_continuation (v k low high : Nat) (rest : Bytes) (hl : low ≤ 0x80 + v / 64 ^ k % 64)
    (hh : 0x80 + v / 64 ^ k % 64 ≤ high) :
    Decoder.run (.inside k low high (v / 64 ^ (k + 1))) (continuation v (k + 1) ++ rest) =
      some (Char.ofNat v) :: Decoder.run .between rest := by
  have value : v / 64 ^ (k + 1) * 64 + (0x80 + v / 64 ^ k % 64 - 0x80) = v / 64 ^ k := by
    rw [Nat.pow_succ, ← Nat.div_div_eq_div_mul]
    omega
  induction k generalizing low high with
  | zero =>
    simp only [continuation, List.cons_append, List.nil_append, Decoder.run, Decoder.feed,
      toNat_sextet, hl, hh, and_self, if_true, value]
    simp
  | succ k ih =>
    rw [continuation, List.cons_append]
    simp only [Decoder.run, Decoder.feed, toNat_sextet, hl, hh, and_self, if_true, value,
      List.nil_append]
    refine ih 0x80 0xBF (by omega) (by omega) ?_
    rw [Nat.pow_succ, ← Nat.div_div_eq_div_mul]
    omega

/-- **The decoder reads a character that was written.** -/
theorem run_encodeChar (c : Char) (rest : Bytes) :
    Decoder.run .between (encodeChar c ++ rest) = some c :: Decoder.run .between rest := by
  have hv : c.toNat.isValidChar := c.valid
  unfold Nat.isValidChar at hv
  -- one case for each length, as the writer distinguishes them
  by_cases h₁ : c.toNat < 0x80
  · have hb : (UInt8.ofNat c.toNat).toNat = c.toNat := by rw [UInt8.toNat_ofNat']; omega
    rw [encodeChar_one h₁]
    simp [Decoder.run, Decoder.feed, Decoder.start_one (b := UInt8.ofNat c.toNat) (by omega), hb]
  by_cases h₂ : c.toNat < 0x800
  · have hb : (UInt8.ofNat (0xC0 + c.toNat / 64)).toNat = 0xC0 + c.toNat / 64 := by
      rw [UInt8.toNat_ofNat']; omega
    have read := run_continuation c.toNat 0 0x80 0xBF rest (by omega) (by omega)
    rw [encodeChar_two (by omega) h₂, List.cons_append, Decoder.run, Decoder.feed,
      Decoder.start_two (by omega) (by omega), hb]
    simpa using read
  by_cases h₃ : c.toNat < 0x10000
  · have hb : (UInt8.ofNat (0xE0 + c.toNat / 4096)).toNat = 0xE0 + c.toNat / 4096 := by
      rw [UInt8.toNat_ofNat']; omega
    have read := run_continuation c.toNat 1
      (if 0xE0 + c.toNat / 4096 = 0xE0 then 0xA0 else 0x80)
      (if 0xE0 + c.toNat / 4096 = 0xED then 0x9F else 0xBF) rest
      (by split <;> omega) (by split <;> omega)
    rw [encodeChar_three (by omega) h₃, List.cons_append, Decoder.run, Decoder.feed,
      Decoder.start_three (by omega) (by omega), hb]
    simpa using read
  · have hb : (UInt8.ofNat (0xF0 + c.toNat / 262144)).toNat = 0xF0 + c.toNat / 262144 := by
      rw [UInt8.toNat_ofNat']; omega
    have read := run_continuation c.toNat 2
      (if 0xF0 + c.toNat / 262144 = 0xF0 then 0x90 else 0x80)
      (if 0xF0 + c.toNat / 262144 = 0xF4 then 0x8F else 0xBF) rest
      (by split <;> omega) (by split <;> omega)
    rw [encodeChar_four (by omega), List.cons_append, Decoder.run, Decoder.feed,
      Decoder.start_four (by omega) (by omega), hb]
    simpa using read

theorem run_encode (s : List Char) : Decoder.run .between (encode s) = s.map some := by
  induction s with
  | nil => rfl
  | cons c s ih =>
    show Decoder.run .between (encodeChar c ++ encode s) = _
    rw [run_encodeChar, ih, List.map_cons]

/-! ## 4. What is read was written -/

/-- **What the decoder knows inside a character**: whatever the bytes to come make of the value it
has so far is a character, and the bytes since the last one begin its writing. -/
def Pending (bytes : Bytes) : Decoder → Prop
  | .between => bytes = []
  | .inside k low high value => 0x80 ≤ low ∧ high ≤ 0xBF ∧
      ∀ v, v / 64 ^ (k + 1) = value → low ≤ 0x80 + v / 64 ^ k % 64 →
        0x80 + v / 64 ^ k % 64 ≤ high →
          v.isValidChar ∧ encodeChar (Char.ofNat v) = bytes ++ continuation v (k + 1)

/-- What one byte leads to: something malformed, another place inside the character, or its end. -/
inductive Fed (bytes : Bytes) : List Finding × Decoder → Prop where
  | malformed (found : List Finding) (d : Decoder) (h : none ∈ found) : Fed bytes (found, d)
  | inside (d : Decoder) (h : Pending bytes d) : Fed bytes ([], d)
  | complete (c : Char) (h : encodeChar c = bytes) : Fed bytes ([some c], .between)

theorem toNat_ofNat_of_valid {v : Nat} (h : v.isValidChar) : (Char.ofNat v).toNat = v := by
  unfold Char.ofNat
  rw [dif_pos h]
  rfl

theorem fed_start (b : UInt8) : Fed [b] (Decoder.start b) := by
  have hb := b.toNat_lt
  by_cases h₁ : b.toNat < 0x80
  · rw [Decoder.start_one h₁]
    have hv : (Char.ofNat b.toNat).toNat = b.toNat := toNat_ofNat_of_valid (.inl (by omega))
    refine .complete _ ?_
    rw [encodeChar_one (by omega), hv, UInt8.ofNat_toNat]
  by_cases h₂ : b.toNat < 0xC2 ∨ 0xF4 < b.toNat
  · rw [Decoder.start_malformed (by omega) h₂]
    exact .malformed _ _ (List.mem_singleton_self _)
  by_cases h₃ : b.toNat < 0xE0
  · rw [Decoder.start_two (by omega) h₃]
    refine .inside _ ⟨by omega, by omega, fun v hv _ _ => ?_⟩
    have valid : v.isValidChar := .inl (by omega)
    have hc := toNat_ofNat_of_valid valid
    refine ⟨valid, ?_⟩
    rw [encodeChar_two (by omega) (by omega), hc]
    congr 1
    rw [← UInt8.toNat_inj, UInt8.toNat_ofNat']
    omega
  by_cases h₄ : b.toNat < 0xF0
  · rw [Decoder.start_three (by omega) h₄]
    refine .inside _ ⟨by split <;> omega, by split <;> omega, fun v hv hl hh => ?_⟩
    have valid : v.isValidChar := by
      unfold Nat.isValidChar
      split at hh <;> omega
    have hc := toNat_ofNat_of_valid valid
    have low : 0x800 ≤ v := by split at hl <;> omega
    refine ⟨valid, ?_⟩
    rw [encodeChar_three (by omega) (by omega), hc]
    congr 1
    rw [← UInt8.toNat_inj, UInt8.toNat_ofNat']
    omega
  · rw [Decoder.start_four (by omega) (by omega)]
    refine .inside _ ⟨by split <;> omega, by split <;> omega, fun v hv hl hh => ?_⟩
    have valid : v.isValidChar := by
      unfold Nat.isValidChar
      split at hh <;> split at hl <;> omega
    have hc := toNat_ofNat_of_valid valid
    have low : 0x10000 ≤ v := by split at hl <;> omega
    refine ⟨valid, ?_⟩
    rw [encodeChar_four (by omega), hc]
    congr 1
    rw [← UInt8.toNat_inj, UInt8.toNat_ofNat']
    omega

/-- **What one byte does.** -/
theorem pending_feed {bytes : Bytes} {d : Decoder} (h : Pending bytes d) (b : UInt8) :
    Fed (bytes ++ [b]) (d.feed b) := by
  cases d with
  | between =>
    rw [show bytes = [] from h]
    exact fed_start b
  | inside k low high value =>
    obtain ⟨hlow, hhigh, hvalue⟩ := h
    by_cases hb : low ≤ b.toNat ∧ b.toNat ≤ high
    · cases k with
      | zero =>
        obtain ⟨valid, written⟩ := hvalue (value * 64 + (b.toNat - 0x80)) (by omega) (by omega)
          (by omega)
        simp only [Decoder.feed, hb, and_self, if_true]
        refine .complete _ (written.trans ?_)
        have byte : sextet (value * 64 + (b.toNat - 0x80)) 0 = b := by
          rw [← UInt8.toNat_inj, toNat_sextet]
          omega
        rw [continuation, byte, continuation]
      | succ k =>
        simp only [Decoder.feed, hb, and_self, if_true]
        refine .inside _ ⟨by omega, by omega, fun v hv _ _ => ?_⟩
        have next : v / 64 ^ (k + 1) % 64 = b.toNat - 0x80 := by omega
        have above : v / 64 ^ (k + 1 + 1) = value := by
          rw [Nat.pow_succ, ← Nat.div_div_eq_div_mul]
          omega
        obtain ⟨valid, written⟩ := hvalue v above (by omega) (by omega)
        refine ⟨valid, written.trans ?_⟩
        have byte : sextet v (k + 1) = b := by
          rw [← UInt8.toNat_inj, toNat_sextet]
          omega
        rw [continuation, byte, List.append_assoc, List.singleton_append]
    · rw [Decoder.feed, if_neg hb]
      exact .malformed _ _ List.mem_cons_self

/-- **Bytes in which nothing is malformed are the writing of what is read.** -/
theorem encode_of_run {bytes : Bytes} {d : Decoder} {before : Bytes} {s : List Char}
    (h : Pending before d) (hr : d.run bytes = s.map some) : encode s = before ++ bytes := by
  have clean : none ∉ s.map some := by simp
  induction bytes generalizing d before s with
  | nil =>
    cases d with
    | between =>
      have hs : s = [] := by simpa [Decoder.run] using hr.symm
      rw [hs, show before = [] from h]
      rfl
    | inside k low high value =>
      rw [← hr] at clean
      exact absurd (List.mem_singleton_self _) clean
  | cons b bytes ih =>
    have fed := pending_feed h b
    rw [Decoder.run] at hr
    generalize d.feed b = next at fed hr
    cases fed with
    | malformed found d hm =>
      rw [← hr] at clean
      exact absurd (List.mem_append_left _ hm) clean
    | inside d hp =>
      rw [ih hp hr clean, List.append_assoc]
      rfl
    | complete c hc =>
      cases s with
      | nil => simp at hr
      | cons c' s =>
        simp only [List.singleton_append, List.map_cons, List.cons.injEq, Option.some.injEq] at hr
        obtain ⟨rfl, hr⟩ := hr
        have rest : encode s = bytes := ih (d := .between) rfl hr (by simp)
        show encodeChar c ++ encode s = _
        rw [rest, hc, List.append_assoc]
        rfl

/-! ## 5. The strict and the lossy reading -/

theorem mapM_id_eq_some_iff {l : List Finding} {s : List Char} :
    l.mapM id = some s ↔ l = s.map some := by
  induction l generalizing s with
  | nil => simp
  | cons found l ih =>
    cases found with
    | none => cases s <;> simp [List.mapM_cons]
    | some c =>
      have head : (some c :: l).mapM id = (l.mapM id).map (c :: ·) := by
        rw [List.mapM_cons]
        cases l.mapM id <;> rfl
      rw [head, Option.map_eq_some_iff]
      simp only [ih]
      constructor
      · rintro ⟨s, rfl, rfl⟩
        rfl
      · intro h
        cases s with
        | nil => simp at h
        | cons c' s =>
          simp only [List.map_cons, List.cons.injEq, Option.some.injEq] at h
          exact ⟨s, h.2, by rw [h.1]⟩

/-- **A byte sequence can be read strictly just if it is the writing of what is read.** -/
theorem decode?_eq_some_iff {bytes : Bytes} {s : List Char} :
    decode? bytes = some s ↔ encode s = bytes := by
  unfold decode?
  rw [mapM_id_eq_some_iff]
  constructor
  · intro h
    have written : encode s = [] ++ bytes := encode_of_run (d := .between) rfl h
    exact written
  · intro h
    rw [← h, run_encode]

/-- **Nothing is lost of what was written.** -/
theorem decodeLossy_encode (s : List Char) : decodeLossy (encode s) = s := by
  unfold decodeLossy
  rw [run_encode, List.map_map]
  exact List.map_id s

/-- Different texts have different bytes. -/
theorem ofText_inj {s t : String} : Bytes.ofText s = Bytes.ofText t ↔ s = t := by
  refine ⟨fun h => ?_, congrArg _⟩
  have read : decodeLossy (encode s.toList) = decodeLossy (encode t.toList) := congrArg _ h
  rwa [decodeLossy_encode, decodeLossy_encode, String.toList_inj] at read

/-- **An ASCII byte stands for its character and for nothing else**, so there are as many of it. -/
theorem count_encode {c : Char} (hc : c.toNat < 0x80) (s : List Char) :
    (encode s).count (UInt8.ofNat c.toNat) = s.count c := by
  have one (d : Char) :
      (encodeChar d).count (UInt8.ofNat c.toNat) = if d == c then 1 else 0 := by
    rcases Nat.lt_or_ge d.toNat 0x80 with small | large
    · have same : (UInt8.ofNat d.toNat == UInt8.ofNat c.toNat) = (d == c) := by
        rw [Bool.eq_iff_iff, beq_iff_eq, beq_iff_eq, ← UInt8.toNat_inj, ← Char.toNat_inj,
          UInt8.toNat_ofNat', UInt8.toNat_ofNat']
        omega
      rw [encodeChar_one small, List.count_singleton, same]
    · have other : ¬ (d == c) = true := fun e => by
        rw [eq_of_beq e] at large
        omega
      rw [if_neg other, List.count_eq_zero]
      intro byte
      have above := le_of_mem_encodeChar (Nat.le_refl _) large byte
      rw [UInt8.toNat_ofNat'] at above
      omega
  induction s with
  | nil => rfl
  | cons d s ih =>
    show (encodeChar d ++ encode s).count _ = _
    rw [List.count_append, ih, one, List.count_cons, Nat.add_comm]

/-! ## 6. Readings side by side -/

theorem run_cons (d : Decoder) (b : UInt8) (rest : Bytes) :
    d.run (b :: rest) = (d.feed b).1 ++ (d.feed b).2.run rest := by
  cases d <;> rfl

/-- A decoder that no ASCII byte carries on inside a character. -/
def Decoder.AboveAscii : Decoder → Prop
  | .between => True
  | .inside _ low _ _ => 0x80 ≤ low

theorem aboveAscii_start (b : UInt8) : (Decoder.start b).2.AboveAscii := by
  unfold Decoder.start
  simp only
  split_ifs <;> simp [Decoder.AboveAscii]

theorem aboveAscii_feed (d : Decoder) (b : UInt8) : (d.feed b).2.AboveAscii := by
  cases d with
  | between => exact aboveAscii_start b
  | inside missing low high value =>
    unfold Decoder.feed
    simp only
    split
    · cases missing with
      | zero => trivial
      | succ missing => exact Nat.le_refl _
    · exact aboveAscii_start b

/-- An ASCII byte leaves nothing open: what was begun before it is what the end would find. -/
theorem feed_ascii {d : Decoder} (hd : d.AboveAscii) {b : UInt8} (hb : b.toNat < 0x80) :
    d.feed b = (d.run [] ++ [some (Char.ofNat b.toNat)], .between) := by
  cases d with
  | between => exact Decoder.start_one hb
  | inside missing low high value =>
    have below : ¬ (low ≤ b.toNat ∧ b.toNat ≤ high) := fun h =>
      absurd (Nat.le_trans hd h.1) (Nat.not_le.mpr hb)
    simp only [Decoder.feed, if_neg below, Decoder.start_one hb]
    rfl

/-- **An ASCII byte parts the bytes before it from those after it**, well-formed or not. -/
theorem run_append_ascii {d : Decoder} (hd : d.AboveAscii) (before : Bytes) {b : UInt8}
    (hb : b.toNat < 0x80) (rest : Bytes) :
    d.run (before ++ b :: rest) =
      d.run before ++ some (Char.ofNat b.toNat) :: Decoder.run .between rest := by
  induction before generalizing d with
  | nil =>
    rw [List.nil_append, run_cons, feed_ascii hd hb, List.append_assoc, List.singleton_append]
  | cons x before ih =>
    rw [List.cons_append, run_cons, run_cons, ih (aboveAscii_feed d x), List.append_assoc]

theorem decodeLossy_append_ascii (before : Bytes) {b : UInt8} (hb : b.toNat < 0x80)
    (rest : Bytes) :
    decodeLossy (before ++ b :: rest) =
      decodeLossy before ++ Char.ofNat b.toNat :: decodeLossy rest := by
  have above : Decoder.between.AboveAscii := True.intro
  unfold decodeLossy
  rw [run_append_ascii above before hb, List.map_append, List.map_cons]
  rfl

end ScriptGateway.Text.Utf8
