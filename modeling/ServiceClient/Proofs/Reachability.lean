import Mathlib
import ServiceClient.Proofs.Outcome
import ServiceClient.Proofs.Pairs
import ServiceClient.Service.Reach

/-!
The shapes that a client sends are those that the inputs of its operations reach, and those that it
receives are what the outputs reach; looking for them fails when something that is reached cannot be
followed, and not otherwise. One list of found names serves all operations, so what carries the
proofs is that the list is settled between two of them: whatever a found shape refers to is found.
-/

namespace ServiceClient

/-- What a shape refers to. A map without a key or a value refers to nothing. -/
inductive Shape.RefersTo (shape : Shape) : Json → Prop where
  | member {name : String} {member : Member} (kind : shape.kind? = some .struct)
      (inside : (name, member) ∈ shape.members) : shape.RefersTo member.shape
  | element {element : Member} (kind : shape.kind? = some .list)
      (present : shape.member = some element) : shape.RefersTo element.shape
  | key {key value : Member} (kind : shape.kind? = some .map) (hasKey : shape.key = some key)
      (hasValue : shape.value = some value) : shape.RefersTo key.shape
  | value {key value : Member} (kind : shape.kind? = some .map) (hasKey : shape.key = some key)
      (hasValue : shape.value = some value) : shape.RefersTo value.shape

/-- A list has an element, and a map has a key and a value. -/
structure Shape.Complete (shape : Shape) : Prop where
  element : shape.kind? = some .list → shape.member.isSome
  key : shape.kind? = some .map → shape.key.isSome
  value : shape.kind? = some .map → shape.value.isSome

namespace Service

/-- The shape that a reference stands for. -/
def Defines (service : Service) (reference : Json) (shape : Shape) : Prop :=
  ∃ name, reference = .str name ∧ service.shapes.lookup name = some shape

/-- One reference leads to another in one step. -/
def Refers (service : Service) (source target : Json) : Prop :=
  ∃ shape, service.Defines source shape ∧ shape.RefersTo target

/-- A reference leads to another in any number of steps. -/
def Reaches (service : Service) : Json → Json → Prop := Relation.ReflTransGen service.Refers

/-- A reference that cannot be followed: no shape is defined there, or one that lacks a part. -/
def Broken (service : Service) (reference : Json) : Prop :=
  ¬ ∃ shape, service.Defines reference shape ∧ shape.Complete

/-- The inputs of the operations that have one. -/
def inputs (service : Service) : List Json :=
  (service.operations.map (·.2.input)).filter Json.truthy

/-- The outputs of the operations that have one. -/
def outputs (service : Service) : List Json :=
  (service.operations.map (·.2.output)).filter Json.truthy

end Service

/-! ### What one shape refers to -/

theorem Shape.mem_references {shape : Shape} {references : List Json}
    (listed : shape.references = .ok references) (target : Json) :
    target ∈ references ↔ shape.RefersTo target := by
  unfold Shape.references at listed
  constructor
  · intro inside
    split at listed
    case h_1 kind =>
      simp only [Except.ok.injEq] at listed
      subst listed
      obtain ⟨⟨name, member⟩, own, rfl⟩ := List.mem_map.mp inside
      exact .member kind own
    case h_2 kind =>
      unfold Shape.elementShape at listed
      split at listed
      case h_1 element present =>
        simp only [Except.map_eq_ok_iff, Except.ok.injEq, exists_eq_left'] at listed
        subst listed
        rw [List.mem_singleton.mp inside]
        exact .element kind present
      case h_2 => simp [Except.map] at listed
    case h_3 kind =>
      unfold Shape.keyShape Shape.valueShape at listed
      split at listed
      case h_1 key hasKey =>
        split at listed
        case h_1 value hasValue =>
          simp only [Except.ok_bind, Except.pure_eq_ok_iff] at listed
          subst listed
          rcases List.mem_cons.mp inside with rfl | inside
          · exact .key kind hasKey hasValue
          · rw [List.mem_singleton.mp inside]
            exact .value kind hasKey hasValue
        case h_2 => simp at listed
      case h_2 => simp at listed
    case h_4 =>
      simp only [Except.ok.injEq] at listed
      subst listed
      cases inside
  · intro refers
    cases refers with
    | member kind inside =>
      simp only [kind, Except.ok.injEq] at listed
      subst listed
      exact List.mem_map.mpr ⟨_, inside, rfl⟩
    | element kind present =>
      simp only [kind, Shape.elementShape, present, Except.map_eq_ok_iff, Except.ok.injEq,
        exists_eq_left'] at listed
      subst listed
      exact List.mem_singleton_self _
    | key kind hasKey hasValue =>
      simp only [kind, Shape.keyShape, Shape.valueShape, hasKey, hasValue, Except.ok_bind,
        Except.pure_eq_ok_iff] at listed
      subst listed
      exact List.mem_cons_self
    | value kind hasKey hasValue =>
      simp only [kind, Shape.keyShape, Shape.valueShape, hasKey, hasValue, Except.ok_bind,
        Except.pure_eq_ok_iff] at listed
      subst listed
      exact List.mem_cons_of_mem _ (List.mem_singleton_self _)

/-- The references of a shape can be listed exactly when it is complete. -/
theorem Shape.references_succeeds_iff {shape : Shape} :
    (∃ references, shape.references = .ok references) ↔ shape.Complete := by
  constructor
  · rintro ⟨references, listed⟩
    unfold Shape.references at listed
    constructor <;> intro kind <;>
      simp only [kind, Shape.elementShape, Shape.keyShape, Shape.valueShape] at listed
    · cases member : shape.member with
      | none => simp [member, Except.map] at listed
      | some element => rfl
    · cases key : shape.key with
      | none => simp [key] at listed
      | some key => rfl
    · cases value : shape.value with
      | none => cases key : shape.key <;> simp [key, value] at listed
      | some value => rfl
  · intro complete
    unfold Shape.references
    split
    case h_1 => exact ⟨_, rfl⟩
    case h_2 kind =>
      obtain ⟨element, present⟩ := Option.isSome_iff_exists.mp (complete.element kind)
      exact ⟨[element.shape], by simp [Shape.elementShape, present, Except.map]⟩
    case h_3 kind =>
      obtain ⟨key, hasKey⟩ := Option.isSome_iff_exists.mp (complete.key kind)
      obtain ⟨value, hasValue⟩ := Option.isSome_iff_exists.mp (complete.value kind)
      exact ⟨[key.shape, value.shape],
        by simp [Shape.keyShape, Shape.valueShape, hasKey, hasValue]⟩
    case h_4 => exact ⟨[], rfl⟩

namespace Service

variable {service : Service}

theorem defines_str {name : String} {shape : Shape} :
    service.Defines (.str name) shape ↔ service.shapes.lookup name = some shape := by
  simp [Defines]

theorem defines_unique {reference : Json} {a b : Shape} (first : service.Defines reference a)
    (second : service.Defines reference b) : a = b := by
  obtain ⟨name, rfl, found⟩ := first
  rw [defines_str, found] at second
  exact Option.some.inj second

/-! ### Following the references -/

/-- The found names are complete up to the pending ones: each stands for a complete shape, and what
that refers to is found or pending. -/
def Settled (service : Service) (pending : List Json) (found : List String) : Prop :=
  ∀ name ∈ found, ∃ shape, service.shapes.lookup name = some shape ∧ shape.Complete ∧
    ∀ target, shape.RefersTo target → target ∈ pending ∨ ∃ other ∈ found, target = .str other

theorem found_subset_collect {pending : List Json} {found result : List String}
    (collected : service.collect pending found = .ok result) :
    ∀ name ∈ found, name ∈ result := by
  fun_induction Service.collect service pending found with
  | case1 found =>
    simp only [Except.ok.injEq] at collected
    subst collected
    exact fun _ inside => inside
  | case4 found name rest seen ih => exact ih collected
  | case7 found name rest fresh shape defined references listed ih =>
    intro other inside
    exact ih collected other (List.mem_cons_of_mem _ inside)
  | _ => cases collected

/-- Every pending reference is found in the end. -/
theorem pending_mem_collect {pending : List Json} {found result : List String}
    (collected : service.collect pending found = .ok result) :
    ∀ reference ∈ pending, ∃ name ∈ result, reference = .str name := by
  fun_induction Service.collect service pending found with
  | case1 found => simp
  | case4 found name rest seen ih =>
    intro reference inside
    rcases List.mem_cons.mp inside with rfl | inside
    · exact ⟨name, found_subset_collect collected name seen, rfl⟩
    · exact ih collected reference inside
  | case7 found name rest fresh shape defined references listed ih =>
    intro reference inside
    rcases List.mem_cons.mp inside with rfl | inside
    · exact ⟨name, found_subset_collect collected name List.mem_cons_self, rfl⟩
    · exact ih collected reference (List.mem_append_right _ inside)
  | _ => cases collected

/-- Following the references keeps the found names settled. -/
theorem settled_collect {pending : List Json} {found result : List String}
    (settled : service.Settled pending found)
    (collected : service.collect pending found = .ok result) : service.Settled [] result := by
  fun_induction Service.collect service pending found with
  | case1 found =>
    simp only [Except.ok.injEq] at collected
    exact collected ▸ settled
  | case4 found name rest seen ih =>
    refine ih ?_ collected
    intro other inside
    obtain ⟨shape, defined, complete, refers⟩ := settled other inside
    refine ⟨shape, defined, complete, fun target refersTo => ?_⟩
    rcases refers target refersTo with pending | known
    · rcases List.mem_cons.mp pending with rfl | pending
      · exact .inr ⟨name, seen, rfl⟩
      · exact .inl pending
    · exact .inr known
  | case7 found name rest fresh shape defined references listed ih =>
    refine ih ?_ collected
    intro other inside
    rcases List.mem_cons.mp inside with rfl | inside
    · refine ⟨shape, defined, Shape.references_succeeds_iff.mp ⟨_, listed⟩, fun target refersTo => ?_⟩
      have member := (Shape.mem_references listed target).mpr refersTo
      exact .inl (List.mem_append_left _ (List.mem_reverse.mpr member))
    · obtain ⟨shape, defined, complete, refers⟩ := settled other inside
      refine ⟨shape, defined, complete, fun target refersTo => ?_⟩
      rcases refers target refersTo with pending | ⟨known, old, rfl⟩
      · rcases List.mem_cons.mp pending with rfl | pending
        · exact .inr ⟨name, List.mem_cons_self, rfl⟩
        · exact .inl (List.mem_append_right _ pending)
      · exact .inr ⟨known, List.mem_cons_of_mem _ old, rfl⟩
  | _ => cases collected

theorem nodup_collect {pending : List Json} {found result : List String} (distinct : found.Nodup)
    (collected : service.collect pending found = .ok result) : result.Nodup := by
  fun_induction Service.collect service pending found with
  | case1 found =>
    simp only [Except.ok.injEq] at collected
    exact collected ▸ distinct
  | case4 found name rest seen ih => exact ih distinct collected
  | case7 found name rest fresh shape defined references listed ih =>
    exact ih (List.nodup_cons.mpr ⟨fresh, distinct⟩) collected
  | _ => cases collected

/-- Whatever is found was found before or is reached from a pending reference. -/
theorem reached_of_mem_collect {pending : List Json} {found result : List String}
    (collected : service.collect pending found = .ok result) :
    ∀ name ∈ result, name ∈ found ∨ ∃ reference ∈ pending, service.Reaches reference (.str name) := by
  fun_induction Service.collect service pending found with
  | case1 found =>
    simp only [Except.ok.injEq] at collected
    subst collected
    exact fun _ inside => .inl inside
  | case4 found name rest seen ih =>
    intro other inside
    rcases ih collected other inside with old | ⟨reference, pending, reaches⟩
    · exact .inl old
    · exact .inr ⟨reference, List.mem_cons_of_mem _ pending, reaches⟩
  | case7 found name rest fresh shape defined references listed ih =>
    intro other inside
    rcases ih collected other inside with old | ⟨reference, pending, reaches⟩
    · rcases List.mem_cons.mp old with rfl | old
      · exact .inr ⟨_, List.mem_cons_self, .refl⟩
      · exact .inl old
    · rcases List.mem_append.mp pending with own | pending
      · have refersTo := (Shape.mem_references listed reference).mp (List.mem_reverse.mp own)
        have step : service.Refers (.str name) reference := ⟨shape, defines_str.mpr defined, refersTo⟩
        exact .inr ⟨_, List.mem_cons_self, .head step reaches⟩
      · exact .inr ⟨reference, List.mem_cons_of_mem _ pending, reaches⟩
  | _ => cases collected

/-- Following the references fails only at one that is broken. -/
theorem broken_of_collect_error {pending : List Json} {found : List String} {fault : Fault}
    (failed : service.collect pending found = .error fault) :
    ∃ reference ∈ pending, ∃ target, service.Reaches reference target ∧ service.Broken target := by
  fun_induction Service.collect service pending found with
  | case1 found => cases failed
  | case4 found name rest seen ih =>
    obtain ⟨reference, pending, broken⟩ := ih failed
    exact ⟨reference, List.mem_cons_of_mem _ pending, broken⟩
  | case5 found name rest fresh undefined =>
    refine ⟨_, List.mem_cons_self, _, .refl, ?_⟩
    rintro ⟨shape, defines, -⟩
    rw [defines_str, undefined] at defines
    cases defines
  | case6 found name rest fresh shape defined fault' unlisted =>
    refine ⟨_, List.mem_cons_self, _, .refl, ?_⟩
    rintro ⟨other, defines, complete⟩
    obtain rfl := defines_unique defines (defines_str.mpr defined)
    obtain ⟨references, listed⟩ := Shape.references_succeeds_iff.mpr complete
    rw [unlisted] at listed
    cases listed
  | case7 found name rest fresh shape defined references listed ih =>
    obtain ⟨reference, pending, target, reaches, broken⟩ := ih failed
    rcases List.mem_append.mp pending with own | pending
    · have refersTo := (Shape.mem_references listed reference).mp (List.mem_reverse.mp own)
      have step : service.Refers (.str name) reference := ⟨shape, defines_str.mpr defined, refersTo⟩
      exact ⟨_, List.mem_cons_self, target, .head step reaches, broken⟩
    · exact ⟨reference, List.mem_cons_of_mem _ pending, target, reaches, broken⟩
  | _ =>
    refine ⟨_, List.mem_cons_self, _, .refl, ?_⟩
    rintro ⟨shape, ⟨name, isText, -⟩, -⟩
    simp_all

/-- Nothing leads out of names that are settled. -/
theorem Settled.reaches {found : List String} (settled : service.Settled [] found) {name : String}
    (inside : name ∈ found) {target : Json} (reaches : service.Reaches (.str name) target) :
    ∃ other ∈ found, target = .str other := by
  induction reaches with
  | refl => exact ⟨name, inside, rfl⟩
  | tail _ step ih =>
    obtain ⟨other, known, rfl⟩ := ih
    obtain ⟨shape, defines, refersTo⟩ := step
    obtain ⟨own, defined, _, refers⟩ := settled other known
    obtain rfl := defines_unique defines (defines_str.mpr defined)
    rcases refers _ refersTo with pending | known
    · cases pending
    · exact known

theorem Settled.not_broken {found : List String} (settled : service.Settled [] found) {name : String}
    (inside : name ∈ found) : ¬ service.Broken (.str name) := by
  obtain ⟨shape, defined, complete, _⟩ := settled name inside
  exact fun broken => broken ⟨shape, defines_str.mpr defined, complete⟩

/-! ### All operations -/

/-- The found names are what some starting references reach. -/
structure Covers (service : Service) (starts : List Json) (found : List String) : Prop where
  distinct : found.Nodup
  settled : service.Settled [] found
  reached : ∀ name ∈ found, ∃ start ∈ starts, service.Reaches start (.str name)
  starts : ∀ start ∈ starts, ∃ name ∈ found, start = .str name

theorem Covers.mem_iff {starts : List Json} {found : List String}
    (covers : service.Covers starts found)
    (name : String) : name ∈ found ↔ ∃ start ∈ starts, service.Reaches start (.str name) := by
  constructor
  · exact covers.reached name
  · rintro ⟨start, inside, reaches⟩
    obtain ⟨first, known, rfl⟩ := covers.starts start inside
    obtain ⟨other, known, same⟩ := covers.settled.reaches known reaches
    obtain rfl := Json.str.inj same
    exact known

theorem Covers.not_broken {starts : List Json} {found : List String}
    (covers : service.Covers starts found) {start target : Json} (inside : start ∈ starts)
    (reaches : service.Reaches start target) : ¬ service.Broken target := by
  obtain ⟨first, known, rfl⟩ := covers.starts start inside
  obtain ⟨other, known, rfl⟩ := covers.settled.reaches known reaches
  exact covers.settled.not_broken known

theorem covers_nil : service.Covers [] [] where
  distinct := List.nodup_nil
  settled := by intro name inside; cases inside
  reached := by intro name inside; cases inside
  starts := by intro start inside; cases inside

/-- Following one more start. The names that are found already are settled, so passing over them
loses nothing. -/
theorem Covers.collect {starts : List Json} {found result : List String} {start : Json}
    (covers : service.Covers starts found) (collected : service.collect [start] found = .ok result) :
    service.Covers (starts ++ [start]) result where
  distinct := nodup_collect covers.distinct collected
  settled := by
    refine settled_collect ?_ collected
    intro name inside
    obtain ⟨shape, defined, complete, refers⟩ := covers.settled name inside
    refine ⟨shape, defined, complete, fun target refersTo => ?_⟩
    rcases refers target refersTo with pending | known
    · cases pending
    · exact .inr known
  reached := by
    intro name inside
    rcases reached_of_mem_collect collected name inside with old | ⟨reference, pending, reaches⟩
    · obtain ⟨first, known, reaches⟩ := covers.reached name old
      exact ⟨first, List.mem_append_left _ known, reaches⟩
    · exact ⟨reference, List.mem_append_right _ pending, reaches⟩
  starts := by
    intro first inside
    rcases List.mem_append.mp inside with old | pending
    · obtain ⟨name, known, rfl⟩ := covers.starts first old
      exact ⟨name, found_subset_collect collected name known, rfl⟩
    · exact pending_mem_collect collected first pending

theorem Covers.follow {starts : List Json} {found result : List String} {start : Json}
    (covers : service.Covers starts found) (done : service.follow start found = .ok result) :
    service.Covers (starts ++ [start].filter Json.truthy) result := by
  unfold Service.follow at done
  split at done
  case isTrue present =>
    rw [List.filter_cons_of_pos present]
    exact covers.collect done
  case isFalse absent =>
    rw [List.filter_cons_of_neg absent]
    simp only [Except.ok.injEq] at done
    subst done
    simpa using covers

theorem broken_of_follow_error {found : List String} {start : Json} {fault : Fault}
    (failed : service.follow start found = .error fault) :
    start.truthy ∧ ∃ target, service.Reaches start target ∧ service.Broken target := by
  unfold follow at failed
  split at failed
  case isTrue present =>
    obtain ⟨reference, inside, broken⟩ := broken_of_collect_error failed
    rw [List.mem_singleton.mp inside] at broken
    exact ⟨present, broken⟩
  case isFalse => cases failed

/-- One operation: both lists of found names stay settled. -/
theorem reachOperation_covers {starts ends : List Json} {reach result : Reach} {operation : Operation}
    (sent : service.Covers starts reach.sent) (received : service.Covers ends reach.received)
    (done : service.reachOperation reach operation = .ok result) :
    service.Covers (starts ++ [operation.input].filter Json.truthy) result.sent ∧
      service.Covers (ends ++ [operation.output].filter Json.truthy) result.received := by
  simp only [reachOperation, Except.bind_eq_ok_iff, Except.pure_eq_ok_iff] at done
  obtain ⟨newSent, sentDone, newReceived, receivedDone, rfl⟩ := done
  exact ⟨sent.follow sentDone, received.follow receivedDone⟩

theorem broken_of_reachOperation_error {reach : Reach} {operation : Operation} {fault : Fault}
    (failed : service.reachOperation reach operation = .error fault) :
    ∃ start ∈ [operation.input, operation.output].filter Json.truthy,
      ∃ target, service.Reaches start target ∧ service.Broken target := by
  unfold reachOperation at failed
  cases sentDone : service.follow operation.input reach.sent with
  | error fault =>
    obtain ⟨present, broken⟩ := broken_of_follow_error sentDone
    exact ⟨operation.input, by simp [present], broken⟩
  | ok sent =>
    rw [sentDone, Except.ok_bind] at failed
    cases receivedDone : service.follow operation.output reach.received with
    | error fault =>
      obtain ⟨present, broken⟩ := broken_of_follow_error receivedDone
      exact ⟨operation.output, by simp [present], broken⟩
    | ok received =>
      rw [receivedDone] at failed
      cases failed

/-- A run over operations, from any lists of names that are settled. -/
theorem foldlM_reachOperation_covers {operations : List Operation} {starts ends : List Json}
    {reach result : Reach} (sent : service.Covers starts reach.sent)
    (received : service.Covers ends reach.received)
    (done : operations.foldlM service.reachOperation reach = .ok result) :
    service.Covers (starts ++ (operations.map (·.input)).filter Json.truthy) result.sent ∧
      service.Covers (ends ++ (operations.map (·.output)).filter Json.truthy) result.received := by
  induction operations generalizing starts ends reach with
  | nil =>
    simp only [List.foldlM_nil, Except.pure_eq_ok_iff] at done
    subst done
    simpa using And.intro sent received
  | cons operation rest ih =>
    simp only [List.foldlM_cons, Except.bind_eq_ok_iff] at done
    obtain ⟨next, first, others⟩ := done
    obtain ⟨sent, received⟩ := reachOperation_covers sent received first
    have all := ih sent received others
    simpa only [List.append_assoc, ← List.filter_append, List.map_cons, List.singleton_append]
      using all

theorem broken_of_foldlM_error {operations : List Operation} {reach : Reach} {fault : Fault}
    (failed : operations.foldlM service.reachOperation reach = .error fault) :
    ∃ operation ∈ operations, ∃ start ∈ [operation.input, operation.output].filter Json.truthy,
      ∃ target, service.Reaches start target ∧ service.Broken target := by
  induction operations generalizing reach with
  | nil => cases failed
  | cons operation rest ih =>
    rw [List.foldlM_cons] at failed
    cases first : service.reachOperation reach operation with
    | error fault =>
      exact ⟨operation, List.mem_cons_self, broken_of_reachOperation_error first⟩
    | ok next =>
      rw [first, Except.ok_bind] at failed
      obtain ⟨other, inside, broken⟩ := ih failed
      exact ⟨other, List.mem_cons_of_mem _ inside, broken⟩

/-- What is sent and received is what the inputs and the outputs reach. -/
theorem covers_of_reach {reach : Reach} (done : service.reach = .ok reach) :
    service.Covers service.inputs reach.sent ∧ service.Covers service.outputs reach.received := by
  have covers := foldlM_reachOperation_covers covers_nil covers_nil done
  rw [List.map_map, List.map_map] at covers
  exact covers

theorem broken_of_reach_error {fault : Fault} (failed : service.reach = .error fault) :
    ∃ start ∈ service.inputs ++ service.outputs,
      ∃ target, service.Reaches start target ∧ service.Broken target := by
  obtain ⟨operation, inside, start, own, broken⟩ := broken_of_foldlM_error failed
  obtain ⟨pair, listed, rfl⟩ := List.mem_map.mp inside
  obtain ⟨own, present⟩ := List.mem_filter.mp own
  refine ⟨start, List.mem_append.mpr ?_, broken⟩
  rcases List.mem_cons.mp own with rfl | own
  · exact .inl (List.mem_filter.mpr ⟨List.mem_map_of_mem listed, present⟩)
  · obtain rfl := List.mem_singleton.mp own
    exact .inr (List.mem_filter.mpr ⟨List.mem_map_of_mem listed, present⟩)

/-- The search fails exactly when something broken is reached. -/
theorem reach_fails_iff : (∃ fault, service.reach = .error fault) ↔
    ∃ start ∈ service.inputs ++ service.outputs,
      ∃ target, service.Reaches start target ∧ service.Broken target := by
  constructor
  · rintro ⟨fault, failed⟩
    exact broken_of_reach_error failed
  · rintro ⟨start, inside, target, reaches, broken⟩
    rw [Except.exists_error_iff]
    rintro ⟨reach, done⟩
    obtain ⟨sent, received⟩ := covers_of_reach done
    rcases List.mem_append.mp inside with inside | inside
    · exact sent.not_broken inside reaches broken
    · exact received.not_broken inside reaches broken

end Service

/-! ### Order -/

/-- Two shapes that differ in the order of their members only. -/
def Shape.Rearranged (a b : Shape) : Prop :=
  a.members.Perm b.members ∧ b = { a with members := b.members }

namespace Shape.Rearranged

variable {a b : Shape}

theorem symm (same : a.Rearranged b) : b.Rearranged a := by
  obtain ⟨members, rest⟩ := same
  refine ⟨members.symm, ?_⟩
  rw [rest]

theorem refersTo (same : a.Rearranged b) {target : Json} (refers : a.RefersTo target) :
    b.RefersTo target := by
  obtain ⟨members, rest⟩ := same
  rw [rest]
  cases refers with
  | member kind inside => exact .member kind (members.mem_iff.mp inside)
  | element kind present => exact .element kind present
  | key kind hasKey hasValue => exact .key kind hasKey hasValue
  | value kind hasKey hasValue => exact .value kind hasKey hasValue

theorem complete (same : a.Rearranged b) (complete : a.Complete) : b.Complete := by
  obtain ⟨-, rest⟩ := same
  rw [rest]
  exact ⟨complete.element, complete.key, complete.value⟩

end Shape.Rearranged

namespace Service

/-- Two services that differ in the order of operations, of shapes and of members only. -/
structure Rearranged (a b : Service) : Prop where
  operations : a.operations.Perm b.operations
  shapes : ∃ shapes, a.shapes.Perm shapes ∧
    List.Forall₂ (fun x y => x.1 = y.1 ∧ x.2.Rearranged y.2) shapes b.shapes

namespace Rearranged

variable {a b : Service} (same : a.Rearranged b) (distinct : (a.shapes.map (·.1)).Nodup)

include same distinct

theorem lookup_rel (name : String) :
    Option.Rel Shape.Rearranged (a.shapes.lookup name) (b.shapes.lookup name) := by
  obtain ⟨shapes, order, related⟩ := same.shapes
  rw [Pairs.lookup_eq_of_perm distinct order]
  exact Pairs.lookup_rel_of_forall₂ related name

theorem defines {reference : Json} {shape : Shape} (defines : a.Defines reference shape) :
    ∃ other, b.Defines reference other ∧ shape.Rearranged other := by
  obtain ⟨name, rfl, found⟩ := defines
  obtain ⟨other, there, related⟩ := Pairs.exists_right (same.lookup_rel distinct name) found
  exact ⟨other, defines_str.mpr there, related⟩

theorem defines_back {reference : Json} {shape : Shape} (defines : b.Defines reference shape) :
    ∃ other, a.Defines reference other ∧ other.Rearranged shape := by
  obtain ⟨name, rfl, found⟩ := defines
  obtain ⟨other, there, related⟩ := Pairs.exists_left (same.lookup_rel distinct name) found
  exact ⟨other, defines_str.mpr there, related⟩

theorem refers_eq : a.Refers = b.Refers := by
  funext source target
  apply propext
  constructor
  · rintro ⟨shape, defines, refers⟩
    obtain ⟨other, defines, related⟩ := same.defines distinct defines
    exact ⟨other, defines, related.refersTo refers⟩
  · rintro ⟨shape, defines, refers⟩
    obtain ⟨other, defines, related⟩ := same.defines_back distinct defines
    exact ⟨other, defines, related.symm.refersTo refers⟩

theorem reaches_eq : a.Reaches = b.Reaches := by
  unfold Reaches
  rw [same.refers_eq distinct]

theorem broken (reference : Json) (broken : b.Broken reference) : a.Broken reference := by
  rintro ⟨shape, defines, complete⟩
  obtain ⟨other, defines, related⟩ := same.defines distinct defines
  exact broken ⟨other, defines, related.complete complete⟩

omit distinct in
theorem mem_inputs_iff (start : Json) : start ∈ a.inputs ↔ start ∈ b.inputs :=
  ((same.operations.map _).filter _).mem_iff

omit distinct in
theorem mem_outputs_iff (start : Json) : start ∈ a.outputs ↔ start ∈ b.outputs :=
  ((same.operations.map _).filter _).mem_iff

/-- The search gives the same names in both services. -/
theorem reach_perm {reach : Reach} (done : a.reach = .ok reach) :
    ∃ other, b.reach = .ok other ∧ reach.sent.Perm other.sent ∧
      reach.received.Perm other.received := by
  have succeeds : ∃ other, b.reach = .ok other := by
    by_contra fails
    obtain ⟨start, inside, target, reaches, broken⟩ :=
      reach_fails_iff.mp (Except.exists_error_iff.mpr fails)
    have failed : ∃ fault, a.reach = .error fault := by
      refine reach_fails_iff.mpr ⟨start, ?_, target, ?_, same.broken distinct target broken⟩
      · simpa only [List.mem_append, same.mem_inputs_iff, same.mem_outputs_iff] using inside
      · rwa [same.reaches_eq distinct]
    obtain ⟨fault, failed⟩ := failed
    rw [done] at failed
    cases failed
  obtain ⟨other, otherDone⟩ := succeeds
  obtain ⟨sent, received⟩ := covers_of_reach done
  obtain ⟨otherSent, otherReceived⟩ := covers_of_reach otherDone
  refine ⟨other, otherDone, ?_, ?_⟩
  · rw [List.perm_ext_iff_of_nodup sent.distinct otherSent.distinct]
    intro name
    simp only [sent.mem_iff, otherSent.mem_iff, same.mem_inputs_iff, same.reaches_eq distinct]
  · rw [List.perm_ext_iff_of_nodup received.distinct otherReceived.distinct]
    intro name
    simp only [received.mem_iff, otherReceived.mem_iff, same.mem_outputs_iff,
      same.reaches_eq distinct]

end Rearranged

/-- The search ends for every service. The names it gives are those of the shapes that some input or
output reaches, each once; it fails exactly when something broken is reached; and what it gives does
not depend on the order in which operations, shapes and members are described. -/
theorem reach_eq_reachable (service : Service) :
    (∀ reach, service.reach = .ok reach →
      reach.sent.Nodup ∧ reach.received.Nodup ∧
      (∀ name, name ∈ reach.sent ↔ ∃ start ∈ service.inputs, service.Reaches start (.str name)) ∧
      (∀ name, name ∈ reach.received ↔
        ∃ start ∈ service.outputs, service.Reaches start (.str name))) ∧
    ((∃ fault, service.reach = .error fault) ↔
      ∃ start ∈ service.inputs ++ service.outputs,
        ∃ target, service.Reaches start target ∧ service.Broken target) ∧
    (∀ other, (service.shapes.map (·.1)).Nodup → service.Rearranged other →
      ∀ reach, service.reach = .ok reach →
        ∃ same, other.reach = .ok same ∧ reach.sent.Perm same.sent ∧
          reach.received.Perm same.received) := by
  refine ⟨?_, reach_fails_iff, ?_⟩
  · intro reach done
    obtain ⟨sent, received⟩ := covers_of_reach done
    exact ⟨sent.distinct, received.distinct, sent.mem_iff, received.mem_iff⟩
  · intro other distinct same reach done
    exact same.reach_perm distinct done

/-- Nodes that hold lists of nodes: one operation sends them and another one returns lists. -/
def trees : Service where
  metadata := { protocol := .str "json", fullName := .str "Trees" }
  shapes := [
    ("Node", {
      name := "Node", type := .str "structure"
      members := [("Children", { shape := .str "Nodes" }),
        ("Label", { shape := .str "Label", deprecated := true })] }),
    ("Nodes", { name := "Nodes", type := .str "list", member := some { shape := .str "Node" } }),
    ("Label", { name := "Label", type := .str "string" })]
  operations := [
    ("Put", { name := .str "Put", input := .str "Node" }),
    ("Get", { name := .str "Get", input := .str "Label", output := .str "Nodes" })]

/-- The same nodes, described in another order. -/
def treesReversed : Service :=
  { trees with shapes := trees.shapes.reverse, operations := trees.operations.reverse }

theorem reach_eq_reachable_trees :
    trees.reach = .ok { sent := ["Nodes", "Label", "Node"], received := ["Label", "Node", "Nodes"] } ∧
      (∃ start ∈ trees.outputs, trees.Reaches start (.str "Label")) ∧
      ∃ same, treesReversed.reach = .ok same ∧
        ["Nodes", "Label", "Node"].Perm same.sent ∧
          ["Label", "Node", "Nodes"].Perm same.received := by
  have done : trees.reach =
      .ok { sent := ["Nodes", "Label", "Node"], received := ["Label", "Node", "Nodes"] } := by cbv
  obtain ⟨names, -, order⟩ := reach_eq_reachable trees
  have same : trees.Rearranged treesReversed := by
    refine ⟨(List.reverse_perm _).symm, _, (List.reverse_perm _).symm, ?_⟩
    exact List.forall₂_same.mpr fun _ _ => ⟨rfl, .refl _, rfl⟩
  refine ⟨done, ?_, order treesReversed (by decide) same _ done⟩
  obtain ⟨-, -, -, received⟩ := names _ done
  exact (received "Label").mp (by decide)

end Service

end ServiceClient
