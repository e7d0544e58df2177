import ScriptGateway.Text.Blank
/-!
# Case folding onto ASCII

Two texts are equal without regard to case if their full case foldings are. Where one of them
is ASCII, only characters that fold to ASCII letters can meet it: the ASCII capitals, the
Kelvin sign, the long s and the ligatures that fold to two or three letters.
-/

namespace ScriptGateway.Text

/-- The characters outside ASCII whose full case folding is ASCII. -/
def asciiFoldings : List (Char × List Char) :=
  [ ('ß', ['s', 's']), ('ſ', ['s']), ('ẞ', ['s', 's']), ('\u212A', ['k']), ('ﬀ', ['f', 'f']),
    ('ﬁ', ['f', 'i']), ('ﬂ', ['f', 'l']), ('ﬃ', ['f', 'f', 'i']), ('ﬄ', ['f', 'f', 'l']),
    ('ﬅ', ['s', 't']), ('ﬆ', ['s', 't']) ]

/-- The case folding of a character if it is ASCII; any other character stays. -/
def foldChar (c : Char) : List Char :=
  (asciiFoldings.lookup c).getD [asciiLower c]

/-- A text with every character folded that folds to ASCII. -/
def foldToAscii (s : List Char) : List Char :=
  s.flatMap foldChar

end ScriptGateway.Text
