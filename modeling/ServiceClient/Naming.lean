import ServiceClient.Text.Case
import ServiceClient.Text.Literal

/-!
Names in a generated module. Names of a description become snake case fields and methods and
capitalised types; words that the generated language reserves and types that would clash with names
of the module itself get other names.
-/

namespace ServiceClient.Naming

/-- Characters that a snake case name keeps. -/
def isWordChar (c : Char) : Bool := c.isAlphanum

/-- Everything but ASCII letters, digits and underscores becomes an underscore. -/
def maskOthers (cs : List Char) : List Char :=
  cs.map fun c => if isWordChar c || c == '_' then c else '_'

/-- Sets the last capital of a run apart when a small letter follows it: `ABCd` is `AB_Cd`. -/
def splitCapitalRuns : List Char → List Char
  | a :: b :: c :: rest =>
    if a.isUpper && b.isUpper && c.isLower then a :: '_' :: splitCapitalRuns (b :: c :: rest)
    else a :: splitCapitalRuns (b :: c :: rest)
  | cs => cs

/-- Sets a capital apart from a small letter or a digit before it. -/
def splitHumps : List Char → List Char
  | a :: b :: rest =>
    if (a.isLower || a.isDigit) && b.isUpper then a :: '_' :: splitHumps (b :: rest)
    else a :: splitHumps (b :: rest)
  | cs => cs

/-- Makes one underscore of several in a row. -/
def squeezeUnderscores : List Char → List Char
  | a :: b :: rest =>
    if a = '_' ∧ b = '_' then squeezeUnderscores (b :: rest)
    else a :: squeezeUnderscores (b :: rest)
  | cs => cs

def isUnderscore (c : Char) : Bool := c == '_'

/-- Drops the underscores at both ends. -/
def stripUnderscores (cs : List Char) : List Char :=
  ((cs.dropWhile isUnderscore).reverse.dropWhile isUnderscore).reverse

/-- An underscore goes before a leading digit, and nothing at all is called `field`. -/
def asIdentifier : List Char → List Char
  | [] => ['f', 'i', 'e', 'l', 'd']
  | c :: rest => if c.isDigit then '_' :: c :: rest else c :: rest

/-- Snake case on characters. -/
def snakeChars (cs : List Char) : List Char :=
  asIdentifier
    (stripUnderscores
      (squeezeUnderscores ((splitHumps (splitCapitalRuns (maskOthers cs))).map Char.toLower)))

/-- A name in snake case; a run of capitals stays together. -/
def snakeCase (name : String) : String := String.ofList (snakeChars name.toList)

/-- Puts the first character in upper case. -/
def capitalize (word : String) : String :=
  match word.toList with
  | [] => ""
  | c :: rest => String.ofList (Text.upperChar c ++ rest)

/-- Keywords of the generated language and the builtin types that annotations use: a field of such
a name would hide them. -/
def reservedWords : List String := [
  "False", "None", "True", "and", "as", "assert", "async", "await", "break", "class", "continue",
  "def", "del", "elif", "else", "except", "finally", "for", "from", "global", "if", "import", "in",
  "is", "lambda", "nonlocal", "not", "or", "pass", "raise", "return", "try", "while", "with",
  "yield", "type", "bool", "bytes", "float", "int", "str"]

/-- The field for a member; a reserved word gets an underscore at its end. -/
def fieldName (member : String) : String :=
  let name := snakeCase member
  if name ∈ reservedWords then name ++ "_" else name

/-- Type names that would clash with names every module or one known service defines. -/
def typeNameClashes : List (String × String) := [
  ("Error", "S3Error"),
  ("CancelSpotFleetRequests", "EC2CancelSpotFleetRequests")]

/-- The type for a shape: capitalised, without underscores, and out of the way of clashes. -/
def typeName (shape : String) : String :=
  let name := String.ofList ((capitalize shape).toList.filter (· != '_'))
  (typeNameClashes.lookup name).getD name

/-- The error class for an exception shape. -/
def errorClassName (shape : String) : String := typeName shape ++ "Error"

/-- The client method for an operation. -/
def methodName (operation : String) : String := fieldName operation

def writerName (type : String) : String := "serialize_" ++ snakeCase type

def readerName (type : String) : String := "deserialize_" ++ snakeCase type

end ServiceClient.Naming
