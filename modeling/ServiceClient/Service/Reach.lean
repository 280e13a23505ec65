import ServiceClient.Service.Basic

/-!
Which shapes are sent and which are received. A shape refers to the shapes of its members, elements,
keys or values; all that is reached from an operation's input is sent, and all that is reached from
an output is received. `collect` follows the references with a list of names still to visit and the
names already found.
-/

namespace ServiceClient

/-- The names that a shape refers to, in the order in which they are visited last. -/
def Shape.references (shape : Shape) : Except Fault (List Json) :=
  match shape.kind? with
  | some .struct => .ok (shape.members.map (·.2.shape))
  | some .list => shape.elementShape.map fun member => [member]
  | some .map => do
    let key ← shape.keyShape
    let value ← shape.valueShape
    return [key, value]
  | _ => .ok []

/-- The names of a service's shapes. -/
def Service.shapeNames (service : Service) : List String := service.shapes.map (·.1)

/-- How many of some names have not been found. -/
def unfound (names found : List String) : Nat := names.countP (· ∉ found)

theorem unfound_insert_lt {names found : List String} {name : String}
    (defined : name ∈ names) (fresh : name ∉ found) :
    unfound names (name :: found) < unfound names found := by
  unfold unfound
  induction names with
  | nil => cases defined
  | cons head rest ih =>
    have mono : rest.countP (· ∉ name :: found) ≤ rest.countP (· ∉ found) :=
      List.countP_mono_left fun n _ hn => by simp_all
    rw [List.countP_cons, List.countP_cons]
    by_cases eq : head = name
    · subst eq
      simp [fresh] at mono ⊢
      omega
    · have := ih (by simpa [Ne.symm eq] using defined)
      by_cases seen : head ∈ found <;> simp [seen, eq] <;> simpa using this

theorem mem_keys_of_lookup {β : Type} {name : String} {b : β} {pairs : List (String × β)}
    (h : pairs.lookup name = some b) : name ∈ pairs.map (·.1) := by
  induction pairs with
  | nil => simp at h
  | cons pair rest ih =>
    obtain ⟨key, v⟩ := pair
    rw [List.lookup_cons] at h
    split at h
    · rename_i eq; simp_all
    · simp [ih h]

/-- Visits the pending names, the first one next, and everything that they reach. Names that are
found already are passed over. -/
def Service.collect (service : Service) (pending : List Json) (found : List String) :
    Except Fault (List String) :=
  match pending with
  | [] => .ok found
  | .arr _ :: _ => .error (.notAName .arr)
  | .obj _ :: _ => .error (.notAName .obj)
  | .str name :: rest =>
    if name ∈ found then service.collect rest found
    else
      match _h : service.shapes.lookup name with
      | none => .error (.undefinedShape name)
      | some shape =>
        match shape.references with
        | .error fault => .error fault
        | .ok references => service.collect (references.reverse ++ rest) (name :: found)
  | other :: _ => .error (.undefinedShape other.display)
termination_by (unfound service.shapeNames found, pending.length)
decreasing_by
  · exact Prod.Lex.right _ (by simp)
  · exact Prod.Lex.left _ _ (unfound_insert_lt (mem_keys_of_lookup _h) (by assumption))

/-- The names of the shapes that a client sends and of those that it receives. -/
structure Reach where
  sent : List String
  received : List String
  deriving DecidableEq, Repr

/-- Adds what an input or output leads to, if there is one. -/
def Service.follow (service : Service) (start : Json) (found : List String) :
    Except Fault (List String) :=
  if start.truthy then service.collect [start] found else .ok found

/-- Adds what one operation sends and receives. -/
def Service.reachOperation (service : Service) (reach : Reach) (operation : Operation) :
    Except Fault Reach := do
  let sent ← service.follow operation.input reach.sent
  let received ← service.follow operation.output reach.received
  return { sent, received }

/-- All that the operations of a service send and receive. -/
def Service.reach (service : Service) : Except Fault Reach :=
  (service.operations.map (·.2)).foldlM service.reachOperation { sent := [], received := [] }

end ServiceClient
