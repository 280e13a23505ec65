import ServiceClient.Text.Blank
import ServiceClient.Text.Case
import ServiceClient.Text.Split

/-!
Text with style marks in square brackets, as it is shown on a console. A mark starts with a small
letter or one of `#`, `/` and `@`; it is not shown itself. A backslash in front makes it plain text.
Closing marks have to have an open one.
-/

namespace ServiceClient.Markup

/-- A piece of marked text. -/
inductive Piece where
  | text (cs : List Char)
  | mark (name : List Char)
  deriving DecidableEq, Repr

def startsMark (c : Char) : Bool := ('a' ≤ c && c ≤ 'z') || c == '#' || c == '/' || c == '@'

/-- The inside of a mark after its opening bracket, and what follows it. -/
def mark? (cs : List Char) : Option (List Char × List Char) :=
  match cs with
  | [] => none
  | first :: _ =>
    if startsMark first then
      let inside := cs.takeWhile fun c => c != '[' && c != ']'
      match cs.drop inside.length with
      | ']' :: rest => some (inside, rest)
      | _ => none
    else none

/-- The pieces of a text. Of the backslashes before a mark each two are one, and one that is left
makes the mark plain. -/
def pieces : Nat → List Char → List Piece
  | 0, _ => []
  | fuel + 1, cs =>
    match cs with
    | [] => []
    | c :: rest =>
      let slashes := cs.takeWhile (· == '\\')
      match cs.drop slashes.length with
      | '[' :: body =>
        match mark? body with
        | some (inside, after) =>
          let shown := List.replicate (slashes.length / 2) '\\'
          if slashes.length % 2 = 1 then
            .text (shown ++ '[' :: inside ++ [']']) :: pieces fuel after
          else
            .text shown :: .mark (Text.cut '=' inside).1 :: pieces fuel after
        | none =>
          if slashes.isEmpty then .text [c] :: pieces fuel rest
          else .text (slashes.dropLast ++ ['[']) :: pieces fuel body
      | _ => .text [c] :: pieces fuel rest

/-- The name of a mark in small letters, without the blanks around it. -/
def markName (cs : List Char) : List Char :=
  (Text.lower (Text.trim (String.ofList cs))).toList

/-- Control characters that a console leaves out. -/
def isDropped (c : Char) : Bool := c.toNat ∈ [7, 8, 11, 12, 13]

/-- The shown text of pieces; `isOpen` holds the open marks, the last one first. None if a closing mark
has no open one. -/
def shown (isOpen : List (List Char)) : List Piece → Option (List Char)
  | [] => some []
  | .text cs :: rest => (shown isOpen rest).map (cs.filter (!isDropped ·) ++ ·)
  | .mark ('/' :: name) :: rest =>
    let name := markName name
    match isOpen with
    | [] => none
    | last :: more =>
      if name.isEmpty ∨ name = last then shown more rest
      else if name ∈ more then shown (last :: more.erase name) rest
      else none
  | .mark name :: rest => shown (markName name :: isOpen) rest

/-- The text that a console shows. -/
def plain? (text : String) : Option String :=
  let cs := text.toList
  (shown [] (pieces (cs.length + 1) cs)).map String.ofList

end ServiceClient.Markup
