import ServiceClient.Codec.Percent
import ServiceClient.Wire.Scalar

/-!
Templates of request paths. A label in braces stands for a value; one with a plus sign at its end is
greedy and takes a value that may contain slashes.
-/

namespace ServiceClient

/-- A place in a template that a value fills. -/
structure UriLabel where
  name : String
  greedy : Bool
  deriving DecidableEq, Repr

/-- A piece of a template. -/
inductive UriPiece where
  | literal (c : Char)
  | label (l : UriLabel)
  deriving DecidableEq, Repr

namespace UriTemplate

def isLabelChar (c : Char) : Bool := c != '}' && c != '+'

/-- The label after an opening brace, and what follows its closing brace. -/
def label? (cs : List Char) : Option (UriLabel × List Char) :=
  let name := cs.takeWhile isLabelChar
  if name.isEmpty then none
  else
    match cs.dropWhile isLabelChar with
    | '}' :: rest => some (⟨String.ofList name, false⟩, rest)
    | '+' :: '}' :: rest => some (⟨String.ofList name, true⟩, rest)
    | _ => none

theorem length_dropWhile_le {α : Type} (p : α → Bool) (xs : List α) :
    (xs.dropWhile p).length ≤ xs.length := by
  induction xs with
  | nil => simp
  | cons x rest ih =>
    rw [List.dropWhile_cons]
    split
    · exact Nat.le_succ_of_le ih
    · exact Nat.le_refl _

theorem label?_length {cs rest : List Char} {l : UriLabel} (h : label? cs = some (l, rest)) :
    rest.length < cs.length := by
  have := length_dropWhile_le isLabelChar cs
  simp only [label?] at h
  split at h
  · simp at h
  · split at h
    · rename_i eq
      simp only [Option.some.injEq, Prod.mk.injEq] at h
      obtain ⟨-, rfl⟩ := h
      simp only [eq, List.length_cons] at this
      omega
    · rename_i eq
      simp only [Option.some.injEq, Prod.mk.injEq] at h
      obtain ⟨-, rfl⟩ := h
      simp only [eq, List.length_cons] at this
      omega
    · simp at h

/-- The pieces of a template; a brace that opens no label stands for itself. -/
def pieces : List Char → List UriPiece
  | [] => []
  | c :: rest =>
    if c = '{' then
      match _h : label? rest with
      | some (l, after) => .label l :: pieces after
      | none => .literal c :: pieces rest
    else .literal c :: pieces rest
termination_by cs => cs.length
decreasing_by
  · have := label?_length _h; simp; omega
  · simp
  · simp

/-- The characters that stay as they are in a value. -/
def safeIn (l : UriLabel) : String := if l.greedy then "/" else ""

/-- Why a template makes no path. -/
inductive Problem where
  /-- There is no value for a label. -/
  | missing (label template : String)
  /-- A value that has no text. -/
  | noText
  deriving DecidableEq, Repr

def Problem.message : Problem → String
  | .missing label template => s!"Missing value for URI label '{label}' in {template}"
  | .noText => ""

/-- The text of a piece of a template. -/
def fill (template : String) (values : List (Value × Value)) : UriPiece → Except Problem (List Char)
  | .literal c => .ok [c]
  | .label l =>
    match Value.findEntry? (.str l.name) values with
    | none | some .null => .error (.missing l.name template)
    | some v =>
      match v.scalarText? with
      | some text => .ok (Percent.encode (safeIn l) text).toList
      | none => .error .noText

/-- The path that a template and values for its labels make. -/
def expand (template : String) (values : List (Value × Value)) : Except Problem String :=
  ((pieces template.toList).mapM (fill template values)).map fun parts => String.ofList parts.flatten

end UriTemplate

end ServiceClient
