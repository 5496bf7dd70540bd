/-!
# Splitting

A text cut at every occurrence of a character. There is always one part more than there are
occurrences, so the empty text has one empty part.
-/

namespace ProxyConsole.Text

/-- The parts of a text between occurrences of a character. -/
def split (sep : Char) : List Char → List (List Char)
  | [] => [[]]
  | c :: cs =>
    if c = sep then [] :: split sep cs
    else match split sep cs with
      | [] => [[c]]
      | part :: parts => (c :: part) :: parts

/-- The text before the first occurrence of a character and the text after it. -/
def cut? (sep : Char) (cs : List Char) : Option (List Char × List Char) :=
  match cs.span (· ≠ sep) with
  | (before, _ :: after) => some (before, after)
  | (_, []) => none

/-- The text before the last occurrence of a character and the text after it. -/
def cutLast? (sep : Char) (cs : List Char) : Option (List Char × List Char) :=
  (cut? sep cs.reverse).map fun (after, before) => (before.reverse, after.reverse)

end ProxyConsole.Text
