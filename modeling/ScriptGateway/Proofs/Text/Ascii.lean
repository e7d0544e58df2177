import ScriptGateway.Text.Blank
/-!
# ASCII letters

Only ASCII letters have a case here. A fact about all characters is decided on the ASCII ones, and
proved of the others at once.

* `forall_char`: the two parts of such a fact.
* `asciiLower_asciiUpper`, `asciiLower_asciiLower`: lower case after either case.
-/

namespace ScriptGateway.Text

/-- What holds of every ASCII character, and of every other one. -/
theorem forall_char {P : Char → Prop} (ascii : ∀ n < 0x80, P (.ofNat n))
    (other : ∀ c, 0x80 ≤ c.toNat → P c) (c : Char) : P c := by
  rcases Nat.lt_or_ge c.toNat 0x80 with h | h
  · have := ascii c.toNat h
    rwa [Char.ofNat_toNat] at this
  · exact other c h

theorem asciiUpper_of_large {c : Char} (h : 0x80 ≤ c.toNat) : asciiUpper c = c := by
  refine if_neg fun range => ?_
  have below : c.toNat ≤ 122 := range.2
  omega

theorem asciiLower_of_large {c : Char} (h : 0x80 ≤ c.toNat) : asciiLower c = c := by
  refine if_neg fun range => ?_
  have below : c.toNat ≤ 90 := range.2
  omega

theorem asciiLower_asciiUpper (c : Char) : asciiLower (asciiUpper c) = asciiLower c :=
  forall_char (P := fun c => asciiLower (asciiUpper c) = asciiLower c)
    (by decide) (fun _ h => by rw [asciiUpper_of_large h]) c

theorem asciiLower_asciiLower (c : Char) : asciiLower (asciiLower c) = asciiLower c :=
  forall_char (P := fun c => asciiLower (asciiLower c) = asciiLower c)
    (by decide) (fun _ h => by rw [asciiLower_of_large h, asciiLower_of_large h]) c

end ScriptGateway.Text
