/-!
# Words and blanks

The blanks of a request are the space and the tab. A line is cut into its words at runs of blanks, and the value of
a header is what is left once the blanks around it are gone.

* `words`: the words of a line; a blank is in none (`words_blank`).
-/

namespace StaticServer

namespace Text

/-- A space or a tab. -/
def isBlank (c : Char) : Bool := c == ' ' || c == '\t'

/-- The text without the blanks at its two ends. -/
def trimBlanks (cs : List Char) : List Char := ((cs.dropWhile isBlank).reverse.dropWhile isBlank).reverse

/-- The maximal runs of characters that are not blank, in order. -/
def words : List Char → List (List Char)
  | [] => []
  | c :: rest =>
    if isBlank c then words rest
    else
      match rest with
      | [] => [[c]]
      | d :: _ =>
        if isBlank d then [c] :: words rest
        else
          match words rest with
          | word :: more => (c :: word) :: more
          | [] => [[c]]

theorem words_blank {c : Char} (h : isBlank c = true) (rest : List Char) : words (c :: rest) = words rest := by
  simp [words, h]

/-- Equality up to the case of ASCII letters. -/
def sameLetters (a b : List Char) : Bool := a.map Char.toLower == b.map Char.toLower

end Text

end StaticServer
