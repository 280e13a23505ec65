import ServiceClient.Template.Bundled

/-!
A check of templates against the kinds of values that their scopes have. A template that passes can
be rendered in every scope that fits: whatever it uses is there and is of a kind that it can use.
The check follows the template, so each bundled template is checked once and for all scopes.
-/

namespace ServiceClient.Template

/-- Kinds of values in a scope, as far as templates tell them apart. -/
inductive Kind where
  | any
  /-- A value that counts as absent. -/
  | absent
  | text
  | exactly (text : String)
  | flag (value : Bool)
  | list (item : Kind)
  /-- An array of two values. -/
  | pair
  | record (fields : List (String × Kind))

/-- A value is of a kind. -/
inductive Fits : Json → Kind → Prop where
  | any (value : Json) : Fits value .any
  | absent {value : Json} (falsy : value.truthy = false) : Fits value .absent
  | text (s : String) : Fits (.str s) .text
  | exactly (s : String) : Fits (.str s) (.exactly s)
  | flag (b : Bool) : Fits (.bool b) (.flag b)
  | list {items : List Json} {kind : Kind} (each : ∀ item ∈ items, Fits item kind) :
      Fits (.arr items) (.list kind)
  | pair (first second : Json) : Fits (.arr [first, second]) .pair
  | record {values : List (String × Json)} {fields : List (String × Kind)}
      (present : ∀ name kind, fields.lookup name = some kind → (values.lookup name).isSome)
      (each : ∀ name kind value, fields.lookup name = some kind → values.lookup name = some value →
        Fits value kind) : Fits (.obj values) (.record fields)

/-- The kinds of the names that a template sees. -/
abbrev Context := List (String × Kind)

/-- A scope has a value of its kind for every name of a context. -/
def ScopeFits (scope : Scope) (context : Context) : Prop :=
  ∀ name kind, context.lookup name = some kind →
    ∃ value, scope.lookup name = some value ∧ Fits value kind

/-- Whether a value of a kind counts as present, where the kind tells. -/
def Kind.truthy? : Kind → Option Bool
  | absent => some false
  | flag value => some value
  | _ => none

/-- The kind of an expression; none if it may have no value. -/
def Expr.kind? (context : Context) : Expr → Option Kind
  | .name x => context.lookup x
  | .field x part =>
    match context.lookup x with
    | some (.record fields) => fields.lookup part
    | _ => none
  | .orText value _ => (value.kind? context).map fun _ => .any
  | .filtered value _ =>
    match value.kind? context with
    | some .text => some .text
    | _ => none
  | .isText value text =>
    match value.kind? context with
    | some (.exactly s) => some (.flag (s == text))
    | some _ => some .any
    | none => none

/-- The names of a repetition with their kinds, if elements of the kind can be bound to them. -/
def bindKind (names : List String) (source : Kind) : Option Context :=
  match names, source with
  | [name], .list item => some [(name, item)]
  | [first, second], .list .pair => some [(first, .any), (second, .any)]
  | _, _ => none

mutual

/-- Whether a piece can be rendered wherever the context fits. -/
def Node.check (context : Context) : Node → Bool
  | .text _ => true
  | .put value => (value.kind? context).isSome
  | .test value yes no =>
    match value.kind? context with
    | none => false
    | some kind =>
      match kind.truthy? with
      | some true => checkAll context yes
      | some false => checkAll context no
      | none => checkAll context yes && checkAll context no
  | .each names source body =>
    match (source.kind? context).bind (bindKind names) with
    | none => false
    | some bound => checkAll (bound ++ context) body

def checkAll (context : Context) : List Node → Bool
  | [] => true
  | node :: rest => node.check context && checkAll context rest

end

/-! ### Passing the check is enough -/

theorem Fits.truthy {value : Json} {kind : Kind} (fits : Fits value kind) {truth : Bool}
    (known : kind.truthy? = some truth) : value.truthy = truth := by
  cases fits with
  | absent falsy =>
    obtain rfl := Option.some.inj known
    exact falsy
  | flag b =>
    obtain rfl := Option.some.inj known
    cases b <;> rfl
  | _ => cases known

theorem Expr.eval_of_kind? {scope : Scope} {context : Context} (fits : ScopeFits scope context)
    {e : Expr} {kind : Kind} (known : e.kind? context = some kind) :
    ∃ value, e.eval scope = some value ∧ Fits value kind := by
  induction e generalizing kind with
  | name x => exact fits x kind known
  | field x part =>
    simp only [Expr.kind?] at known
    split at known
    case h_1 fields given =>
      obtain ⟨value, found, isRecord⟩ := fits x _ given
      cases isRecord with
      | @record values _ present each =>
        obtain ⟨inner, here⟩ := Option.isSome_iff_exists.mp (present part kind known)
        exact ⟨inner, by simp [Expr.eval, found, Json.get?, here], each part kind inner known here⟩
    case h_2 => cases known
  | orText value text ih =>
    obtain ⟨inner, given, rfl⟩ := Option.map_eq_some_iff.mp known
    obtain ⟨v, result, -⟩ := ih given
    exact ⟨v.orElse (.str text), by simp [Expr.eval, result], .any _⟩
  | filtered value filter ih =>
    simp only [Expr.kind?] at known
    split at known
    case h_1 given =>
      obtain rfl := Option.some.inj known
      obtain ⟨v, result, isText⟩ := ih given
      cases isText with
      | text s => exact ⟨.str (filter.apply s), by simp [Expr.eval, result], .text _⟩
    case h_2 => cases known
  | isText value text ih =>
    simp only [Expr.kind?] at known
    split at known
    case h_1 s given =>
      obtain rfl := Option.some.inj known
      obtain ⟨v, result, isExact⟩ := ih given
      cases isExact with
      | exactly =>
        have same : (Json.str s == Json.str text) = (s == text) := by
          rw [Bool.eq_iff_iff]
          simp
        exact ⟨.bool (s == text), by simp [Expr.eval, result, same], .flag _⟩
    case h_2 given =>
      obtain rfl := Option.some.inj known
      obtain ⟨v, result, -⟩ := ih given
      exact ⟨.bool (v == .str text), by simp [Expr.eval, result], .any _⟩
    case h_3 => cases known

theorem ScopeFits.nil : ScopeFits [] [] := by
  intro name kind known
  cases known

theorem ScopeFits.cons {name : String} {value : Json} {kind : Kind} {scope : Scope}
    {context : Context} (first : Fits value kind) (rest : ScopeFits scope context) :
    ScopeFits ((name, value) :: scope) ((name, kind) :: context) := by
  intro other wanted known
  rw [List.lookup_cons] at known ⊢
  split
  case h_1 same =>
    rw [same] at known
    obtain rfl := Option.some.inj known
    exact ⟨value, rfl, first⟩
  case h_2 different =>
    rw [different] at known
    exact rest other wanted known

/-- An object is a record when it would do as a scope. -/
theorem Fits.ofScope {values : Scope} {fields : Context} (fits : ScopeFits values fields) :
    Fits (.obj values) (.record fields) := by
  refine .record (fun name kind known => ?_) (fun name kind value known found => ?_)
  · obtain ⟨value, found, -⟩ := fits name kind known
    simp [found]
  · obtain ⟨other, here, isKind⟩ := fits name kind known
    rw [found] at here
    obtain rfl := Option.some.inj here
    exact isKind

/-- An array made from a list, each of its values in the same way. -/
theorem Fits.map {α : Type} {items : List α} {f : α → Json} {kind : Kind}
    (each : ∀ item, Fits (f item) kind) : Fits (.arr (items.map f)) (.list kind) := by
  refine .list fun value inside => ?_
  obtain ⟨item, -, rfl⟩ := List.mem_map.mp inside
  exact each item

/-- Each element of a fitting list can be bound, and what is bound fits. -/
theorem bind_of_bindKind {names : List String} {source : Kind} {bound context : Context}
    {scope : Scope} {value : Json} (known : bindKind names source = some bound)
    (fits : Fits value source) (outer : ScopeFits scope context) :
    ∃ items, value.elements = .ok items ∧ ∀ item ∈ items, ∃ own, bind names item = some own ∧
      ScopeFits (own ++ scope) (bound ++ context) := by
  unfold bindKind at known
  split at known
  case h_1 name item =>
    obtain rfl := Option.some.inj known
    cases fits with
    | list each =>
      exact ⟨_, rfl, fun element inside => ⟨_, rfl, .cons (each element inside) outer⟩⟩
  case h_2 first second =>
    obtain rfl := Option.some.inj known
    cases fits with
    | list each =>
      refine ⟨_, rfl, fun element inside => ?_⟩
      cases each element inside with
      | pair a b => exact ⟨_, rfl, .cons (.any a) (.cons (.any b) outer)⟩
  case h_3 => cases known

/-- A repetition succeeds when each of its turns does. -/
theorem map_mapM_isSome {α β γ : Type} {f : α → Option β} {g : List β → γ} {items : List α}
    (each : ∀ item ∈ items, ∃ result, f item = some result) :
    ∃ result, (items.mapM f).map g = some result := by
  induction items generalizing g with
  | nil => exact ⟨g [], rfl⟩
  | cons item rest ih =>
    obtain ⟨first, done⟩ := each item List.mem_cons_self
    obtain ⟨result, all⟩ := @ih (fun others => g (first :: others)) fun item inside =>
      each item (List.mem_cons_of_mem _ inside)
    refine ⟨result, ?_⟩
    rw [List.mapM_cons, done]
    cases results : rest.mapM f with
    | none => simp [results] at all
    | some results => simpa [results] using all

mutual

theorem Node.render_of_check {scope : Scope} {context : Context} (fits : ScopeFits scope context) :
    (node : Node) → node.check context = true → ∃ text, node.render scope = some text
  | .text text, _ => ⟨text, rfl⟩
  | .put value, passes => by
    obtain ⟨kind, known⟩ := Option.isSome_iff_exists.mp passes
    obtain ⟨v, result, -⟩ := Expr.eval_of_kind? fits known
    exact ⟨v.display, by simp [Node.render, result]⟩
  | .test value yes no, passes => by
    simp only [Node.check] at passes
    split at passes
    case h_1 => cases passes
    case h_2 kind known =>
      obtain ⟨v, result, isKind⟩ := Expr.eval_of_kind? fits known
      simp only [Node.render, result]
      split at passes
      case h_1 truth =>
        rw [isKind.truthy truth]
        exact renderAll_of_checkAll fits yes passes
      case h_2 truth =>
        rw [isKind.truthy truth]
        exact renderAll_of_checkAll fits no passes
      case h_3 =>
        obtain ⟨yesPasses, noPasses⟩ := Bool.and_eq_true_iff.mp passes
        split
        · exact renderAll_of_checkAll fits yes yesPasses
        · exact renderAll_of_checkAll fits no noPasses
  | .each names source body, passes => by
    simp only [Node.check] at passes
    split at passes
    case h_1 => cases passes
    case h_2 bound known =>
      obtain ⟨kind, sourceKind, known⟩ := Option.bind_eq_some_iff.mp known
      obtain ⟨v, result, isKind⟩ := Expr.eval_of_kind? fits sourceKind
      obtain ⟨items, elements, each⟩ := bind_of_bindKind known isKind fits
      simp only [Node.render, result, elements]
      refine map_mapM_isSome fun item inside => ?_
      obtain ⟨own, isBound, ownFits⟩ := each item inside
      simp only [isBound]
      exact renderAll_of_checkAll ownFits body passes

theorem renderAll_of_checkAll {scope : Scope} {context : Context} (fits : ScopeFits scope context) :
    (nodes : List Node) → checkAll context nodes = true → ∃ text, renderAll scope nodes = some text
  | [], _ => ⟨"", rfl⟩
  | node :: rest, passes => by
    obtain ⟨first, others⟩ := Bool.and_eq_true_iff.mp passes
    obtain ⟨text, result⟩ := Node.render_of_check fits node first
    obtain ⟨texts, results⟩ := renderAll_of_checkAll fits rest others
    exact ⟨text ++ texts, by simp [renderAll, result, results]⟩

end

/-- A template that passes the check is rendered in every scope that fits. -/
theorem render_of_check {template : Template} {scope : Scope} (context : Context)
    (passes : checkAll context template.nodes = true) (fits : ScopeFits scope context) :
    ∃ text, template.render scope = .ok text := by
  obtain ⟨text, result⟩ := renderAll_of_checkAll fits template.nodes passes
  exact ⟨text, by simp [Template.render, result]⟩

end ServiceClient.Template
