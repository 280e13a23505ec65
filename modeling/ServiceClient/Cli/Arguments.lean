import ServiceClient.Text.Split

/-!
Arguments of a command. An argument that starts like an option is looked up by its full name, by a
start of a long name that only one option has, or letter by letter; what is left is plain. Arguments
are classified first, so that an ambiguous one is refused before anything else is looked at.
-/

namespace ServiceClient.Arguments

/-- What an option does. -/
inductive Effect where
  /-- Ends the program with help or a version. -/
  | inform
  | switch
  | value
  deriving DecidableEq, Repr

/-- An option with all its names; the first one stands for it. -/
structure Spec where
  names : List String
  effect : Effect
  deriving DecidableEq, Repr

def Spec.key (spec : Spec) : String := spec.names.headD ""

/-- What an argument is taken for. -/
inductive Item where
  /-- An option under one of its names, with a value that is written onto it. -/
  | option (spec : Spec) (name : String) (attached : Option String)
  /-- Looks like an option, but there is none of that name. -/
  | unknown
  | plain
  /-- All after it are plain. -/
  | separator
  deriving DecidableEq, Repr

/-- How a look at arguments can end early. -/
inductive Stop where
  | misused
  /-- An option that informs was met. -/
  | informed
  deriving DecidableEq, Repr

def findName? (specs : List Spec) (name : String) : Option Spec :=
  specs.find? (·.names.contains name)

/-- Whether a text is a negative number. -/
def isNegativeNumber (cs : List Char) : Bool :=
  match cs with
  | '-' :: rest =>
    let (whole, places) := Text.cut '.' rest
    match places with
    | none => !whole.isEmpty && whole.all Char.isDigit
    | some places => whole.all Char.isDigit && !places.isEmpty && places.all Char.isDigit
  | _ => false

/-- The options that an argument may be short for. -/
def candidates (specs : List Spec) (argument : String) : List Item :=
  let names := specs.flatMap fun spec => spec.names.map fun name => (spec, name)
  match argument.toList with
  | '-' :: '-' :: _ =>
    let (start, attached) := Text.cutString '=' argument
    names.filterMap fun (spec, name) =>
      if start.isPrefixOf name then some (.option spec name attached) else none
  | '-' :: letter :: rest =>
    names.filterMap fun (spec, name) =>
      if name = String.ofList ['-', letter] then some (.option spec name (some (String.ofList rest)))
      else if argument.isPrefixOf name then some (.option spec name none)
      else none
  | _ => []

/-- What one argument before a separator is. -/
def classifyOne (specs : List Spec) (argument : String) : Except Stop Item :=
  if !argument.startsWith "-" || argument = "-" then .ok .plain
  else
    match findName? specs argument with
    | some spec => .ok (.option spec argument none)
    | none =>
      let (name, attached) := Text.cutString '=' argument
      match attached, findName? specs name with
      | some _, some spec => .ok (.option spec name attached)
      | _, _ =>
        match candidates specs argument with
        | [item] => .ok item
        | _ :: _ :: _ => .error .misused
        | [] =>
          if isNegativeNumber argument.toList || argument.contains ' ' then .ok .plain
          else .ok .unknown

/-- What all arguments are. -/
def classify (specs : List Spec) : List String → Except Stop (List (Item × String))
  | [] => .ok []
  | "--" :: rest => .ok ((.separator, "--") :: rest.map fun argument => (.plain, argument))
  | argument :: rest => do
    let item ← classifyOne specs argument
    return (item, argument) :: (← classify specs rest)

/-- An option that was met, with its value. -/
structure Setting where
  key : String
  value : Option String
  deriving DecidableEq, Repr

/-- The options in one argument: letters of switches may be joined, and a value may follow the last.
The `next` argument is taken if a value is needed and none is attached. -/
def expand (specs : List Spec) : Nat → Spec → String → Option String → Option String →
    Except Stop (List Setting × Bool)
  | 0, _, _, _, _ => .error .misused
  | fuel + 1, spec, name, attached, next =>
    match spec.effect, attached with
    | .value, some value => .ok ([⟨spec.key, some value⟩], false)
    | .value, none =>
      match next with
      | some value => .ok ([⟨spec.key, some value⟩], true)
      | none => .error .misused
    | _, none => .ok ([⟨spec.key, none⟩], false)
    | _, some letters =>
      match name.toList, letters.toList with
      | ['-', _], letter :: rest =>
        let inner := String.ofList ['-', letter]
        match findName? specs inner with
        | none => .error .misused
        | some innerSpec => do
          let attached := if rest.isEmpty then none else some (String.ofList rest)
          let (settings, took) ← expand specs fuel innerSpec inner attached next
          return (⟨spec.key, none⟩ :: settings, took)
      | _, _ => .error .misused

/-- What a command line gives. -/
structure Given where
  settings : List Setting := []
  /-- The plain argument, if there is one. -/
  plain : Option String := none
  /-- Whether something was left that nothing takes. -/
  extra : Bool := false
  deriving DecidableEq, Repr

/-- The plain argument that is left at the end: one separator in front of it is dropped. -/
def takePlain (given : Given) (rest : List (Item × String)) : Given :=
  let words := rest.map (·.2)
  if given.plain.isSome then { given with extra := given.extra || !words.isEmpty }
  else
    match rest with
    | [] => given
    | (.separator, _) :: [] => given
    | (.separator, _) :: (_, word) :: more =>
      { given with plain := some word, extra := given.extra || !more.isEmpty }
    | (_, word) :: (.separator, _) :: more =>
      { given with plain := some word, extra := given.extra || !more.isEmpty }
    | (_, word) :: more => { given with plain := some word, extra := given.extra || !more.isEmpty }

/-- Whether an option is among the items. -/
def hasOption (items : List (Item × String)) : Bool :=
  items.any fun (item, _) =>
    match item with
    | .option .. | .unknown => true
    | _ => false

/-- The value that follows an option. -/
def nextValue : List (Item × String) → Option String
  | (.plain, word) :: _ => some word
  | _ => none

/-- Goes through the arguments in order. Options that inform end it at once; `allowed` says whether
an option may follow what was given before it. -/
def consume (specs : List Spec) (allowed : Given → Setting → Bool) : Nat → Given →
    List (Item × String) → Except Stop Given
  | 0, _, _ => .error .misused
  | fuel + 1, given, items =>
    match items with
    | [] => .ok given
    | (.option spec name attached, _) :: rest => do
      let (settings, took) ← expand specs (attached.getD "").length.succ spec name attached (nextValue rest)
      let given ← settings.foldlM (fun given setting =>
        if (specs.find? (·.key == setting.key)).map (·.effect) = some .inform then .error .informed
        else if allowed given setting then
          .ok { given with settings := given.settings ++ [setting] }
        else .error .misused) given
      consume specs allowed fuel given (if took then rest.drop 1 else rest)
    | (.unknown, _) :: rest => consume specs allowed fuel { given with extra := true } rest
    | (_, word) :: rest =>
      if hasOption items then
        if given.plain.isSome then consume specs allowed fuel { given with extra := true } rest
        else if given.settings.all fun setting => allowed { given with plain := some word } setting then
          consume specs allowed fuel { given with plain := some word } rest
        else .error .misused
      else .ok (takePlain given items)

/-- Reads the arguments of a command. -/
def read (specs : List Spec) (allowed : Given → Setting → Bool) (arguments : List String) :
    Except Stop Given := do
  let items ← classify specs arguments
  consume specs allowed (items.length + 1) {} items

end ServiceClient.Arguments
