/-!
Text between double quotes in a generated module. `escape` writes a backslash before each backslash
and each double quote. `scan` reads a literal from its first character on: a backslash takes the
next character with it, and the first bare run of the closing quotes ends the literal.
-/

namespace ServiceClient.Text.Literal

/-- Puts a backslash before every character of a class. -/
def escapeEach (p : Char → Bool) (cs : List Char) : List Char :=
  cs.flatMap fun c => if p c then ['\\', c] else [c]

/-- A text as it stands inside a literal. -/
def escape (text : String) : String :=
  String.ofList (escapeEach (· == '"') (escapeEach (· == '\\') text.toList))

/-- The content of a literal closed by `quotes` double quotes, and what follows it. An escaped
backslash or quote stands for itself; before any other character the backslash stays. -/
def scan (quotes : Nat) : List Char → Option (List Char × List Char)
  | [] => if quotes = 0 then some ([], []) else none
  | '\\' :: c :: rest =>
    (scan quotes rest).map fun (content, after) =>
      (if c = '\\' ∨ c = '"' then c :: content else '\\' :: c :: content, after)
  | c :: rest =>
    if (c :: rest).take quotes = List.replicate quotes '"' then
      some ([], (c :: rest).drop quotes)
    else (scan quotes rest).map fun (content, after) => (c :: content, after)

end ServiceClient.Text.Literal
