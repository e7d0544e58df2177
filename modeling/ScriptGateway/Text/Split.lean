/-!
# Cutting and joining sequences

Lines, list items and path segments are the pieces that `List.splitOn` gives. The cuts
here serve a separator that counts once, and what has to come off the ends. They work on
any element type, so that the same laws serve characters and bytes.

* `splitOnce` cuts at the first separator, if there is one.
* `dropEndWhile` and `trimBoth` take elements off the end, and off both ends.
* `joinTexts` writes a separator between texts.
-/

namespace ScriptGateway.Text

universe u

variable {α : Type u}

/-- What stands before and after the first `sep`; `none` if it does not occur. -/
def splitOnce [DecidableEq α] (sep : α) : List α → Option (List α × List α)
  | [] => none
  | a :: rest =>
    if a = sep then
      some ([], rest)
    else
      (splitOnce sep rest).map fun (before, after) => (a :: before, after)

/-- Takes elements that satisfy `p` off the end. -/
def dropEndWhile (p : α → Bool) (s : List α) : List α :=
  (s.reverse.dropWhile p).reverse

/-- Takes elements that satisfy `p` off both ends. -/
def trimBoth (p : α → Bool) (s : List α) : List α :=
  dropEndWhile p (s.dropWhile p)

/-- Takes one trailing `a` off, if the sequence ends in one. -/
def dropOneEnd [DecidableEq α] (a : α) (s : List α) : List α :=
  if s.getLast? = some a then s.dropLast else s

/-- The text made of `parts` with `sep` between neighbours. -/
def joinTexts (sep : String) (parts : List String) : String :=
  String.ofList (sep.toList.intercalate (parts.map String.toList))

end ScriptGateway.Text
