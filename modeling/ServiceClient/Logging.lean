import ServiceClient.Json.Basic

/-!
Names of loggers and the one handler that they share. All names are under one root, so that the
handler of the root serves them.
-/

namespace ServiceClient.Logging

/-- The root of all names. -/
def rootName : String := "shapegen"

/-- A name under the root; names that are there already stay. -/
def qualify (name : String) : String :=
  if name = rootName ∨ (rootName ++ ".").isPrefixOf name then name else rootName ++ "." ++ name

/-- The numbers of named levels. -/
def levelNames : List (String × Int) := [
  ("CRITICAL", 50), ("FATAL", 50), ("ERROR", 40), ("WARN", 30), ("WARNING", 30), ("INFO", 20),
  ("DEBUG", 10), ("NOTSET", 0)]

/-- Why a level is refused. -/
inductive LevelError where
  | unknownName
  | notALevel
  deriving DecidableEq, Repr

/-- The number of a level given by number or name. -/
def level : Json → Except LevelError Int
  | .int n => .ok n
  | .bool b => .ok (if b then 1 else 0)
  | .str name =>
    match levelNames.lookup name with
    | some n => .ok n
    | none => .error .unknownName
  | _ => .error .notALevel

/-- The root's set-up: its level and its only handler. Records do not go further up. -/
structure Setup where
  level : Int
  handler : String
  format : String
  propagates : Bool := false
  deriving DecidableEq, Repr

/-- Sets up the root, with a handler for the console or a plain one. -/
def setup (given : Json) (forConsole : Bool) : Except LevelError Setup :=
  (level given).map fun level =>
    if forConsole then { level, handler := "RichHandler", format := "%(message)s" }
    else {
      level, handler := "StreamHandler"
      format := "%(asctime)s %(levelname)s %(name)s: %(message)s" }

end ServiceClient.Logging
