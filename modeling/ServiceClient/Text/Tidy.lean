import ServiceClient.Text.Blank
import ServiceClient.Text.Split

/-!
Tidy text: no white space at the end of a line, at most two empty lines in a row, no empty line at
the end and exactly one line feed after the last line.
-/

namespace ServiceClient.Text

/-- The longest run of empty lines that is kept. -/
def keptEmptyLines : Nat := 2

/-- Shortens runs of empty lines; `run` empty lines stand directly before. -/
def squeezeEmpty (run : Nat) : List (List Char) → List (List Char)
  | [] => []
  | line :: rest =>
    if line.isEmpty then
      if run < keptEmptyLines then line :: squeezeEmpty (run + 1) rest
      else squeezeEmpty (run + 1) rest
    else line :: squeezeEmpty 0 rest

/-- Drops the empty lines at the end. -/
def dropEmptyEnd (lines : List (List Char)) : List (List Char) :=
  (lines.reverse.dropWhile List.isEmpty).reverse

/-- The lines of the tidy form. -/
def tidyLines (lines : List (List Char)) : List (List Char) :=
  dropEmptyEnd (squeezeEmpty 0 (lines.map (dropEnd isBlank)))

/-- The tidy form of a text. -/
def tidy (text : String) : String :=
  String.ofList (joinWith '\n' (tidyLines (splitOn '\n' text.toList)) ++ ['\n'])

end ServiceClient.Text
