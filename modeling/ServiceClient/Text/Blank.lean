import ServiceClient.Text.Ranges

/-!
White space and what trimming removes. `isBlank` is the class of Unicode, with the four separators
of ASCII; `isPlainBlank` is the six characters that numerals and octets may have around them.
-/

namespace ServiceClient.Text

/-- The white space characters. -/
def blankRanges : List (Nat × Nat) := [
  (9, 13), (28, 32), (133, 133), (160, 160), (5760, 5760), (8192, 8202), (8232, 8233),
  (8239, 8239), (8287, 8287), (12288, 12288)]

def isBlank (c : Char) : Bool := inRanges blankRanges c

/-- Space, tab, line feed, vertical tab, form feed and carriage return. -/
def isPlainBlank (c : Char) : Bool := c == ' ' || ('\t' ≤ c && c ≤ '\r')

/-- Drops the characters of a class from the end. -/
def dropEnd (p : Char → Bool) (cs : List Char) : List Char :=
  (cs.reverse.dropWhile p).reverse

/-- Drops the characters of a class from both ends. -/
def trimBoth (p : Char → Bool) (cs : List Char) : List Char :=
  dropEnd p (cs.dropWhile p)

/-- A text without white space at its ends. -/
def trim (s : String) : String := String.ofList (trimBoth isBlank s.toList)

/-- The words of a text: what stands between runs of white space. -/
def words (cs : List Char) : List (List Char) :=
  (cs.foldr (fun c (ws : List (List Char)) =>
    if isBlank c then [] :: ws
    else
      match ws with
      | [] => [[c]]
      | w :: ws => (c :: w) :: ws) []).filter (!·.isEmpty)

end ServiceClient.Text
