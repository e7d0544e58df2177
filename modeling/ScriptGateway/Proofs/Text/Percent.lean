import ScriptGateway.Text.Percent
/-!
# What percent decoding does

Decoding goes over the bytes once, from the front. Said as a relation, an escape gives its byte,
any other byte stands for itself, and what was decoded is not looked at again.

* `BeginsEscape`: the bytes that an escape begins.
* `Decodes`: the relation; `decodes_iff` says that decoding is what it describes.
-/

namespace ScriptGateway.Text

/-- Whether the bytes begin with a percent sign and two digits. -/
def BeginsEscape (bytes : Bytes) : Prop :=
  ∃ high low rest, bytes = 0x25 :: high :: low :: rest ∧
    (hexValue? high).isSome ∧ (hexValue? low).isSome

/-- How bytes are decoded. -/
inductive Decodes : Bytes → Bytes → Prop where
  | nil : Decodes [] []
  /-- A percent sign and two digits give one byte. -/
  | escape {high low h l : UInt8} {bytes decoded : Bytes} (hh : hexValue? high = some h)
      (hl : hexValue? low = some l) (rest : Decodes bytes decoded) :
      Decodes (0x25 :: high :: low :: bytes) ((h * 16 + l) :: decoded)
  /-- Where no escape begins, a byte stands for itself. -/
  | plain {b : UInt8} {bytes decoded : Bytes} (hb : ¬ BeginsEscape (b :: bytes))
      (rest : Decodes bytes decoded) : Decodes (b :: bytes) (b :: decoded)

theorem percentDecode_escape {high low h l : UInt8} (hh : hexValue? high = some h)
    (hl : hexValue? low = some l) (bytes : Bytes) :
    percentDecode (0x25 :: high :: low :: bytes) = (h * 16 + l) :: percentDecode bytes := by
  simp only [percentDecode, hh, hl]

theorem percentDecode_plain {b : UInt8} {bytes : Bytes} (hb : ¬ BeginsEscape (b :: bytes)) :
    percentDecode (b :: bytes) = b :: percentDecode bytes := by
  generalize hall : b :: bytes = all at hb ⊢
  fun_cases percentDecode all with
  | case1 high low rest h l hl hh =>
    have begins : BeginsEscape (0x25 :: high :: low :: rest) :=
      ⟨high, low, rest, rfl, Option.isSome_of_mem hh, Option.isSome_of_mem hl⟩
    exact absurd begins hb
  | case2 high low rest =>
    obtain ⟨rfl, rfl⟩ := List.cons.inj hall
    rfl
  | case3 c rest =>
    obtain ⟨rfl, rfl⟩ := List.cons.inj hall
    rfl
  | case4 => simp at hall

theorem decodes_percentDecode (bytes : Bytes) : Decodes bytes (percentDecode bytes) := by
  fun_induction percentDecode bytes with
  | case1 high low rest h l hl hh ih => exact .escape hh hl ih
  | case2 high low rest unread ih =>
    refine .plain ?_ ih
    rintro ⟨high', low', rest', heq, hh, hl⟩
    obtain ⟨h, hh⟩ := Option.isSome_iff_exists.mp hh
    obtain ⟨l, hl⟩ := Option.isSome_iff_exists.mp hl
    obtain ⟨rfl, rfl, rfl⟩ : high = high' ∧ low = low' ∧ rest = rest' := by simpa using heq
    exact unread h l hh hl
  | case3 b rest short ih =>
    refine .plain ?_ ih
    rintro ⟨high, low, tail, heq, -, -⟩
    obtain ⟨rfl, rfl⟩ := List.cons.inj heq
    exact short high low tail rfl rfl
  | case4 => exact .nil

/-- **Decoding gives just what the relation describes.** -/
theorem decodes_iff {bytes decoded : Bytes} :
    Decodes bytes decoded ↔ percentDecode bytes = decoded := by
  constructor
  · intro h
    induction h with
    | nil => rfl
    | escape hh hl _ ih => rw [percentDecode_escape hh hl, ih]
    | plain hb _ ih => rw [percentDecode_plain hb, ih]
  · rintro rfl
    exact decodes_percentDecode bytes

end ScriptGateway.Text
