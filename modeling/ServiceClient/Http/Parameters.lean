import ServiceClient.Wire.Convert
import ServiceClient.Wire.Scalar

/-!
Query parameters. Their names are texts in well-formed requests, but any key may name one.
-/

namespace ServiceClient

/-- Parameters or header lines, in the order in which their names first appeared. -/
abbrev Parameters := List (Value × Value)

namespace Parameters

/-- Sets a parameter if its name can be one. -/
def set (params : Parameters) (name v : Value) : Except Mismatch Parameters :=
  Value.insertKey name v params

/-- The text of a parameter's value: the items of a list are joined by commas. -/
def textOf? : Value → Option String
  | .list items | .tuple items => (items.mapM Value.scalarText?).map (Text.intercalate ",")
  | v => v.scalarText?

/-- Sets a parameter to the text of a value; null leaves it as it is. -/
def put (params : Parameters) (name v : Value) : Except Mismatch Parameters :=
  if v.isNull then .ok params
  else
    match textOf? v with
    | some text => params.set name (.str text)
    | none => .error .numeral

/-- Sets a parameter for each entry of a map. -/
def putEntries (params : Parameters) (values : Value) : Except Mismatch Parameters :=
  if !values.truthy then .ok params
  else
    match values with
    | .map entries => entries.foldlM (fun params (name, v) => params.put name v) params
    | _ => .error .noEntries

end Parameters

end ServiceClient
