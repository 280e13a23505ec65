import ServiceClient.Proofs.XmlReading

/-!
Namespaces and what a document holds. Prefixes and attributes decide whether a document is well-formed,
and how its tags are written in full. Apart from that they are of no account: a document that is read
has the elements of its plain tokens, whose names have no prefixes and which have no attributes.
-/

namespace ServiceClient.Xml

/-! ### Plain tokens and plain elements -/

/-- A tag without its prefix and its attributes; other tokens are as they are. -/
def Token.plain : Token → Token
  | .openTag name _ => .openTag (splitName name).2 []
  | .closeTag name => .closeTag (splitName name).2
  | t => t

/-- The name of a tag has no brace, as no name in a document has. -/
def Token.BraceFree : Token → Prop
  | .openTag name _ => '\x7d' ∉ name.toList
  | _ => True

namespace Element

mutual

/-- An element with other tags, its own and those within it, and without attributes. -/
def plain (rename : String → String) : Element → Element
  | .mk tag _ text children => .mk (rename tag) [] text (plainAll rename children)

def plainAll (rename : String → String) : List Element → List Element
  | [] => []
  | e :: rest => plain rename e :: plainAll rename rest

end

variable {rename : String → String}

theorem plainAll_eq_map (children : List Element) :
    plainAll rename children = children.map (plain rename) := by
  induction children with
  | nil => rfl
  | cons e rest ih => rw [plainAll, ih, List.map_cons]

theorem tag_plain (e : Element) : (e.plain rename).tag = rename e.tag := by
  cases e
  rw [plain]
  rfl

theorem text_plain (e : Element) : (e.plain rename).text = e.text := by
  cases e
  rw [plain]
  rfl

theorem children_plain (e : Element) : (e.plain rename).children = e.children.map (plain rename) := by
  cases e
  rw [plain, plainAll_eq_map]
  rfl

theorem at?_plain (e : Element) (path : List Nat) :
    (e.plain rename).at? path = (e.at? path).map (plain rename) := by
  induction path generalizing e with
  | nil => rfl
  | cons i rest ih =>
    rw [at?, at?, children_plain, List.getElem?_map]
    cases e.children[i]? with
    | none => rfl
    | some child => exact ih child

end Element

/-! ### Tags that tell the local part of a name -/

/-- No namespace has a brace, which would end it in a full name. -/
def Scope.BraceFree (scope : Scope) : Prop := ∀ pair ∈ scope, '\x7d' ∉ pair.2.toList

theorem Scope.braceFree_initial : Scope.initial.BraceFree := by
  intro pair listed
  rw [List.mem_singleton.mp listed]
  decide

theorem Scope.braceFree_of_enter? {scope inner : Scope} {attributes : List (String × String)}
    (free : scope.BraceFree) (entered : scope.enter? attributes = some inner) : inner.BraceFree := by
  unfold Scope.enter? at entered
  induction attributes generalizing scope with
  | nil =>
    obtain rfl := Option.some.inj entered
    exact free
  | cons first rest ih =>
    obtain ⟨name, uri⟩ := first
    rw [List.foldlM_cons] at entered
    obtain ⟨next, taken, others⟩ := Option.bind_eq_some_iff.mp entered
    refine ih ?_ others
    cases isDeclared : declared? name with
    | none =>
      simp only [isDeclared, Option.some.injEq] at taken
      rwa [← taken]
    | some p =>
      simp only [isDeclared, Option.ite_none_right_eq_some, Option.some.injEq] at taken
      obtain ⟨may, rfl⟩ := taken
      have noBrace : '\x7d' ∉ uri.toList := by
        simp only [mayDeclare, Bool.and_eq_true, Bool.not_eq_true', String.contains_char_eq,
          decide_eq_false_iff_not] at may
        exact may.2
      exact List.forall_mem_cons.mpr ⟨noBrace, free⟩

/-- Whether `rename` gives the local part of a name back from the tag that is made of it. -/
def Tagging.Tells (tagOf : Tagging) (rename : String → String) : Prop :=
  ∀ scope name tag, Scope.BraceFree scope → '\x7d' ∉ name.toList → tagOf scope name = some tag →
    rename tag = (splitName name).2

theorem Scope.tells_localName? : Tagging.Tells Scope.localName? id := by
  intro scope name tag _ _ named
  unfold Scope.localName? at named
  split at named
  case h_1 whole same =>
    obtain rfl := Option.some.inj named
    rw [same]
    rfl
  case h_2 p part _ same =>
    rw [same]
    obtain ⟨-, isTag⟩ := Option.ite_none_right_eq_some.mp named
    exact (Option.some.inj isTag).symm

/-- Names are their own tags. -/
def Tagging.asWritten : Tagging := fun _ name => some name

/-- Whether two ways to make tags know the same prefixes. -/
def Tagging.SameNames (tagOf other : Tagging) : Prop :=
  ∀ scope name, (tagOf scope name).isSome = (other scope name).isSome

theorem Tagging.SameNames.exists_tag {tagOf other : Tagging} (same : tagOf.SameNames other)
    {scope : Scope} {name tag : String} (named : tagOf scope name = some tag) :
    ∃ tag', other scope name = some tag' := by
  apply Option.isSome_iff_exists.mp
  rw [← same, named]
  rfl

/-! ### Building one step further -/

namespace Building

variable {tagOf other : Tagging} {rename : String → String} {b after : Building} {t : Token}

/-- How a token takes a document that is read in part further. -/
inductive Step (tagOf : Tagging) : Building → Token → Building → Prop
  | opens {b : Building} {name tag : String} {attributes : List (String × List Char)} {scope : Scope}
      {kept : List (String × String)} (unclosed : b.root = none)
      (distinct : (attributes.map (·.1)).Nodup)
      (entered : ((b.stack.head?.map (·.scope)).getD Scope.initial).enter?
        (attributes.map fun (n, v) => (n, String.ofList v)) = some scope)
      (named : tagOf scope name = some tag)
      (left : scope.attributes? (attributes.map fun (n, v) => (n, String.ofList v)) = some kept)
      (apart : (kept.map (·.1)).Nodup) :
      Step tagOf b (.openTag name attributes) (b.push { name, scope, tag, attributes := kept })
  | closes (b : Building) (e : OpenElement) : Step tagOf (b.push e) (.closeTag e.name) (b.put e.close)
  | content (b : Building) (e : OpenElement) {t : Token} {cs : List Char}
      (holds : t = .text cs ∨ t = .data cs) : Step tagOf (b.push e) t (b.push (e.addText cs))
  | space {b : Building} {cs : List Char} (outside : b.stack = []) (blank : cs.all isSpace) :
      Step tagOf b (.text cs) b

theorem step_of_step? (stepped : b.step? t tagOf = some after) : Step tagOf b t after := by
  obtain ⟨stack, root⟩ := b
  cases t with
  | openTag name attributes =>
    simp only [step?, open?, Option.bind_eq_bind, Option.bind_eq_some_iff, Option.guard_eq_some',
      Bool.and_eq_true, Option.isNone_iff_eq_none, decide_eq_true_eq, Option.pure_def,
      Option.some.injEq] at stepped
    obtain ⟨-, ⟨unclosed, distinct⟩, scope, entered, tag, named, kept, left, -, apart, rfl⟩ := stepped
    exact .opens unclosed distinct entered named left apart
  | closeTag name =>
    cases stack with
    | nil => cases stepped
    | cons e rest =>
      simp only [step?, close?] at stepped
      by_cases same : e.name = name
      · subst same
        rw [if_pos rfl] at stepped
        have isPut : after = Building.put e.close ⟨rest, root⟩ := by
          cases rest <;> exact (Option.some.inj stepped).symm
        rw [isPut]
        exact .closes ⟨rest, root⟩ e
      · rw [if_neg same] at stepped
        cases stepped
  | text cs =>
    cases stack with
    | nil =>
      obtain ⟨blank, same⟩ := Option.ite_none_right_eq_some.mp stepped
      obtain rfl := Option.some.inj same
      exact .space rfl blank
    | cons e rest =>
      obtain rfl := Option.some.inj stepped
      exact .content ⟨rest, root⟩ e (.inl rfl)
  | data cs =>
    cases stack with
    | nil => cases stepped
    | cons e rest =>
      obtain rfl := Option.some.inj stepped
      exact .content ⟨rest, root⟩ e (.inr rfl)
  | entity name => cases stepped

theorem step?_of_step (step : Step tagOf b t after) : b.step? t tagOf = some after := by
  cases step with
  | opens unclosed distinct entered named left apart =>
    simp [step?, open?, unclosed, distinct, entered, named, left, apart, push]
  | closes b e => exact step?_closeTag
  | content b e holds => rcases holds with rfl | rfl <;> rfl
  | space outside blank =>
    simp only [step?, text?, outside]
    exact if_pos blank

theorem step?_eq_some_iff : b.step? t tagOf = some after ↔ Step tagOf b t after :=
  ⟨step_of_step?, step?_of_step⟩

end Building

/-! ### Documents without prefixes -/

/-- An open element without prefix, namespaces and attributes. -/
def OpenElement.plain (rename : String → String) (e : OpenElement) : OpenElement where
  name := (splitName e.name).2
  scope := Scope.initial
  tag := rename e.tag
  attributes := []
  text := e.text
  children := e.children.map (Element.plain rename)

theorem OpenElement.close_plain (rename : String → String) (e : OpenElement) :
    (e.plain rename).close = e.close.plain rename := by
  rw [close, close, Element.plain, Element.plainAll_eq_map]
  simp [plain]

theorem OpenElement.scope_addText (cs : List Char) (e : OpenElement) :
    (e.addText cs).scope = e.scope := by
  rw [addText]
  split <;> rfl

theorem OpenElement.name_addText (cs : List Char) (e : OpenElement) : (e.addText cs).name = e.name := by
  rw [addText]
  split <;> rfl

theorem OpenElement.plain_addText (rename : String → String) (cs : List Char) (e : OpenElement) :
    (e.addText cs).plain rename = (e.plain rename).addText cs := by
  have childless : (e.plain rename).children.isEmpty = e.children.isEmpty := List.isEmpty_map
  unfold addText
  rw [childless]
  split <;> rfl

namespace Building

variable {tagOf other : Tagging} {rename : String → String} {b b' after : Building} {t : Token}
  {ts : List Token}

/-- A document that is read in part, without prefixes, namespaces and attributes. -/
def plain (rename : String → String) (b : Building) : Building where
  stack := b.stack.map (OpenElement.plain rename)
  root := b.root.map (Element.plain rename)

theorem plain_push (e : OpenElement) (b : Building) :
    (b.push e).plain rename = (b.plain rename).push (e.plain rename) := rfl

theorem plain_put (closed : Element) (b : Building) :
    (b.put closed).plain rename = (b.plain rename).put (closed.plain rename) := by
  obtain ⟨stack, root⟩ := b
  cases stack <;> rfl

theorem scope_plain (b : Building) :
    ((b.plain rename).stack.head?.map (·.scope)).getD Scope.initial = Scope.initial := by
  obtain ⟨stack, root⟩ := b
  cases stack <;> rfl

/-- No namespace that is in scope anywhere has a brace. -/
def BraceFree (b : Building) : Prop := ∀ e ∈ b.stack, e.scope.BraceFree

theorem braceFree_push {e : OpenElement} : (b.push e).BraceFree ↔ e.scope.BraceFree ∧ b.BraceFree :=
  List.forall_mem_cons

theorem braceFree_put {closed : Element} (free : b.BraceFree) : (b.put closed).BraceFree := by
  obtain ⟨stack, root⟩ := b
  cases stack with
  | nil => exact free
  | cons outer rest =>
    obtain ⟨first, others⟩ := List.forall_mem_cons.mp free
    exact List.forall_mem_cons.mpr ⟨first, others⟩

theorem braceFree_of_step (step : Step tagOf b t after) (free : b.BraceFree) : after.BraceFree := by
  cases step with
  | opens unclosed distinct entered named left apart =>
    refine braceFree_push.mpr ⟨Scope.braceFree_of_enter? ?_ entered, free⟩
    obtain ⟨stack, root⟩ := b
    cases stack with
    | nil => exact Scope.braceFree_initial
    | cons outer rest => exact free outer List.mem_cons_self
  | closes b e => exact braceFree_put (braceFree_push.mp free).2
  | content b e _ =>
    rw [braceFree_push] at free ⊢
    rwa [OpenElement.scope_addText]
  | space => exact free

theorem step_plain (tells : tagOf.Tells rename) (step : Step tagOf b t after) (free : b.BraceFree)
    (named : t.BraceFree) : Step Tagging.asWritten (b.plain rename) t.plain (after.plain rename) := by
  have freeAfter := braceFree_of_step step free
  cases step with
  | opens unclosed distinct entered isTag left apart =>
    -- the tag is made in the scope within, which has no braces either
    have isLocal := tells _ _ _ (braceFree_push.mp freeAfter).1 named isTag
    rw [plain_push, OpenElement.plain, isLocal]
    refine .opens ?_ List.nodup_nil ?_ rfl rfl List.nodup_nil
    · rw [plain, unclosed, Option.map_none]
    · rw [scope_plain]
      rfl
  | closes b e =>
    rw [plain_push, plain_put, ← OpenElement.close_plain]
    exact .closes (b.plain rename) (e.plain rename)
  | content b e holds =>
    rw [plain_push, plain_push, OpenElement.plain_addText]
    apply Step.content
    rcases holds with rfl | rfl
    · exact .inl rfl
    · exact .inr rfl
  | space outside blank =>
    refine .space ?_ blank
    rw [plain, outside, List.map_nil]

/-- A document that is read is read without its prefixes and attributes, too. -/
theorem foldlM_plain (tells : tagOf.Tells rename) (free : b.BraceFree)
    (named : ∀ t ∈ ts, t.BraceFree)
    (read : ts.foldlM (fun (b : Building) t => b.step? t tagOf) b = some after) :
    (ts.map Token.plain).foldlM (fun (b : Building) t => b.step? t Tagging.asWritten) (b.plain rename) =
      some (after.plain rename) := by
  induction ts generalizing b with
  | nil =>
    obtain rfl := Option.some.inj read
    rfl
  | cons t rest ih =>
    obtain ⟨first, others⟩ := List.forall_mem_cons.mp named
    rw [List.foldlM_cons] at read
    obtain ⟨next, stepped, later⟩ := Option.bind_eq_some_iff.mp read
    have step := step?_eq_some_iff.mp stepped
    have plainStep := step?_eq_some_iff.mpr (step_plain tells step free first)
    rw [List.map_cons, List.foldlM_cons, plainStep]
    exact ih (braceFree_of_step step free) others later

/-! ### Other tags -/

/-- Whether two documents that are read in part have the same open elements, up to their tags. -/
structure Alike (b b' : Building) : Prop where
  stack : List.Forall₂ (fun e e' : OpenElement => e.name = e'.name ∧ e.scope = e'.scope) b.stack b'.stack
  root : b.root.isSome = b'.root.isSome

namespace Alike

variable {e e' : OpenElement}

theorem scope (alike : b.Alike b') :
    (b.stack.head?.map (·.scope)).getD Scope.initial =
      (b'.stack.head?.map (·.scope)).getD Scope.initial := by
  obtain ⟨stack, root⟩ := b
  obtain ⟨stack', root'⟩ := b'
  cases alike.stack with
  | nil => rfl
  | cons same _ => exact same.2

theorem push (name : e.name = e'.name) (scope : e.scope = e'.scope) (alike : b.Alike b') :
    (b.push e).Alike (b'.push e') :=
  ⟨.cons ⟨name, scope⟩ alike.stack, alike.root⟩

theorem put (closed closed' : Element) (alike : b.Alike b') : (b.put closed).Alike (b'.put closed') := by
  obtain ⟨stack, root⟩ := b
  obtain ⟨stack', root'⟩ := b'
  cases alike.stack with
  | nil => exact ⟨.nil, rfl⟩
  | cons same others => exact ⟨.cons same others, alike.root⟩

theorem of_push (alike : (b.push e).Alike b') :
    ∃ (inner : Building) (e' : OpenElement), b' = inner.push e' ∧ e.name = e'.name ∧
      e.scope = e'.scope ∧ b.Alike inner := by
  obtain ⟨stack', root'⟩ := b'
  cases alike.stack with
  | @cons _ e' _ rest same others =>
    exact ⟨⟨rest, root'⟩, e', rfl, same.1, same.2, others, alike.root⟩

end Alike

theorem step_of_alike (same : tagOf.SameNames other) (step : Step tagOf b t after) (alike : b.Alike b') :
    ∃ after', Step other b' t after' ∧ after.Alike after' := by
  cases step with
  | opens unclosed distinct entered named left apart =>
    obtain ⟨tag', named'⟩ := same.exists_tag named
    rw [alike.scope] at entered
    have unclosed' : b'.root = none := by
      rw [← Option.not_isSome_iff_eq_none, ← alike.root, unclosed]
      exact Bool.false_ne_true
    exact ⟨_, .opens unclosed' distinct entered named' left apart, alike.push rfl rfl⟩
  | closes b e =>
    obtain ⟨inner, e', rfl, isName, -, within⟩ := alike.of_push
    rw [isName]
    exact ⟨_, .closes inner e', within.put _ _⟩
  | content b e holds =>
    obtain ⟨inner, e', rfl, isName, isScope, within⟩ := alike.of_push
    refine ⟨_, .content inner e' holds, within.push ?_ ?_⟩
    · rwa [OpenElement.name_addText, OpenElement.name_addText]
    · rwa [OpenElement.scope_addText, OpenElement.scope_addText]
  | space outside blank =>
    refine ⟨b', .space ?_ blank, alike⟩
    have none := alike.stack
    rw [outside] at none
    exact List.forall₂_nil_left_iff.mp none

/-- Tags do not matter for whether a document is read. -/
theorem foldlM_of_alike (same : tagOf.SameNames other) (alike : b.Alike b')
    (read : ts.foldlM (fun (b : Building) t => b.step? t tagOf) b = some after) :
    ∃ after', ts.foldlM (fun (b : Building) t => b.step? t other) b' = some after' ∧
      after.Alike after' := by
  induction ts generalizing b b' with
  | nil =>
    obtain rfl := Option.some.inj read
    exact ⟨b', rfl, alike⟩
  | cons t rest ih =>
    rw [List.foldlM_cons] at read
    obtain ⟨next, stepped, later⟩ := Option.bind_eq_some_iff.mp read
    obtain ⟨next', step', alike'⟩ := step_of_alike same (step?_eq_some_iff.mp stepped) alike
    obtain ⟨after', read', alikeAfter⟩ := ih alike' later
    refine ⟨after', ?_, alikeAfter⟩
    rw [List.foldlM_cons, step?_eq_some_iff.mpr step']
    exact read'

end Building

/-! ### The names of tags -/

namespace Token

variable {cs rest : List Char} {ts : List Token} {entities : Entities}

theorem not_mem_of_name? {name : String} (read : name? cs = some (name, rest)) :
    '\x7d' ∉ name.toList := by
  simp only [name?, Option.ite_none_right_eq_some, Option.some.injEq, Prod.mk.injEq] at read
  obtain ⟨-, rfl, -⟩ := read
  rw [String.toList_ofList]
  intro inside
  have qualified := List.mem_takeWhile_imp inside
  exact absurd qualified (by decide)

/-- The tokens of a piece of content: only an opening tag has a name that is looked at, and its name is
one that is read. -/
theorem braceFree_of_next? (read : next? cs = some (ts, rest)) : ∀ t ∈ ts, t.BraceFree := by
  unfold next? at read
  split at read
  case h_1 =>
    dsimp only at read
    split at read
    · obtain ⟨rfl, -⟩ := Prod.mk.inj (Option.some.inj read)
      simp [BraceFree]
    · cases read
  case h_2 | h_4 =>
    obtain ⟨_, -, same⟩ := Option.map_eq_some_iff.mp read
    obtain ⟨rfl, -⟩ := Prod.mk.inj same
    simp
  case h_3 =>
    obtain ⟨_, -, same⟩ := Option.map_eq_some_iff.mp read
    obtain ⟨rfl, -⟩ := Prod.mk.inj same
    simp [BraceFree]
  case h_5 =>
    simp only [Option.bind_eq_bind, Option.bind_eq_some_iff, Option.pure_def, Option.some.injEq,
      Prod.mk.injEq, Prod.exists] at read
    obtain ⟨name, after, named, attributes, closed, end', -, rfl, -⟩ := read
    have free : '\x7d' ∉ name.toList := not_mem_of_name? named
    cases closed <;> simp [BraceFree, free]
  case h_6 =>
    split at read
    case h_3 => cases read
    all_goals
      obtain ⟨rfl, -⟩ := Prod.mk.inj (Option.some.inj read)
      simp [BraceFree]
  case h_7 =>
    dsimp only at read
    split at read
    · cases read
    · obtain ⟨rfl, -⟩ := Prod.mk.inj (Option.some.inj read)
      simp [BraceFree]

theorem braceFree_of_ofContent (read : ofContent cs = some ts) : ∀ t ∈ ts, t.BraceFree := by
  fun_induction ofContent cs generalizing ts with
  | case1 =>
    obtain rfl := Option.some.inj read
    simp
  | case2 cs _ first rest isFirst shorter ih =>
    obtain ⟨later, others, rfl⟩ := Option.map_eq_some_iff.mp read
    intro t listed
    rcases List.mem_append.mp listed with inFirst | inLater
    · exact braceFree_of_next? isFirst t inFirst
    · exact ih others t inLater
  | case3 => cases read
  | case4 => cases read

/-- Replacing references brings no other names into the tags. -/
theorem braceFree_of_mapM {f : Token → Option (List Token)} {parts : List (List Token)}
    (keeps : ∀ t : Token, t.BraceFree → ∀ part, f t = some part → ∀ t' ∈ part, t'.BraceFree)
    (free : ∀ t ∈ ts, t.BraceFree) (done : ts.mapM f = some parts) :
    ∀ t ∈ parts.flatten, t.BraceFree := by
  induction ts generalizing parts with
  | nil =>
    obtain rfl := Option.some.inj done
    simp
  | cons first others ih =>
    obtain ⟨here, later⟩ := List.forall_mem_cons.mp free
    rw [List.mapM_cons] at done
    obtain ⟨part, made, more⟩ := Option.bind_eq_some_iff.mp done
    obtain ⟨rest, made', same⟩ := Option.bind_eq_some_iff.mp more
    obtain rfl := Option.some.inj same
    rw [List.flatten_cons]
    intro t listed
    rcases List.mem_append.mp listed with inFirst | inLater
    · exact keeps first here part made t inFirst
    · exact ih later made' t inLater

theorem braceFree_of_expandOne? {depth : Nat} {t : Token} (free : t.BraceFree)
    (expanded : expandOne? depth entities t = some ts) : ∀ t ∈ ts, t.BraceFree := by
  induction depth using Nat.strongRecOn generalizing entities t ts with
  | ind depth ih =>
    unfold expandOne? at expanded
    split at expanded
    case h_1 name attributes =>
      simp only [Option.bind_eq_bind, Option.bind_eq_some_iff, Option.pure_def, Option.some.injEq]
        at expanded
      obtain ⟨_, -, rfl⟩ := expanded
      exact List.forall_mem_singleton.mpr free
    case h_2 name =>
      split at expanded
      case h_1 =>
        obtain rfl := Option.some.inj expanded
        simp [BraceFree]
      case h_2 => cases expanded
      case h_3 depth _ =>
        simp only [Option.bind_eq_bind, Option.bind_eq_some_iff, Option.ite_none_right_eq_some,
          Option.pure_def, Option.some.injEq] at expanded
        obtain ⟨_, -, inner, isInner, -, parts, done, rfl⟩ := expanded
        have within := braceFree_of_mapM (fun t free part made => ih depth (by omega) free made)
          (braceFree_of_ofContent isInner) done
        intro t listed
        obtain ⟨t', inside, rfl⟩ := List.mem_map.mp listed
        have free' := within t' inside
        cases t' <;> exact free'
    case h_3 =>
      obtain rfl := Option.some.inj expanded
      exact List.forall_mem_singleton.mpr free

theorem braceFree_of_ofDocument? (read : ofDocument? cs = some ts) : ∀ t ∈ ts, t.BraceFree := by
  simp only [ofDocument?, Option.bind_eq_bind, Option.bind_eq_some_iff, Prod.exists] at read
  obtain ⟨-, -, -, -, -, entities, content, -, written, isWritten, expanded⟩ := read
  obtain ⟨parts, done, rfl⟩ := Option.map_eq_some_iff.mp expanded
  refine braceFree_of_mapM ?_ (braceFree_of_ofContent isWritten) done
  intro t free part made
  exact braceFree_of_expandOne? free made

end Token

/-! ### Whole documents -/

namespace Element

variable {tagOf other : Tagging} {rename : String → String} {ts : List Token} {root : Element}

theorem ofTokens?_eq_some_iff : ofTokens? ts tagOf = some root ↔
    ∃ b, ts.foldlM (fun (b : Building) t => b.step? t tagOf) {} = some b ∧ b.stack = [] ∧
      b.root = some root := by
  simp [ofTokens?, Option.bind_eq_some_iff, Option.guard_eq_some', List.isEmpty_iff]

theorem ofTokens?_plain (tells : tagOf.Tells rename) (named : ∀ t ∈ ts, t.BraceFree)
    (read : ofTokens? ts tagOf = some root) :
    ofTokens? (ts.map Token.plain) Tagging.asWritten = some (root.plain rename) := by
  obtain ⟨b, run, closed, isRoot⟩ := ofTokens?_eq_some_iff.mp read
  have nothing : Building.BraceFree {} := fun e inside => absurd inside List.not_mem_nil
  refine ofTokens?_eq_some_iff.mpr ⟨_, Building.foldlM_plain tells nothing named run, ?_, ?_⟩
  · rw [Building.plain, closed, List.map_nil]
  · rw [Building.plain, isRoot, Option.map_some]

theorem ofTokens?_of_sameNames (same : tagOf.SameNames other) (read : ofTokens? ts tagOf = some root) :
    ∃ root', ofTokens? ts other = some root' := by
  obtain ⟨b, run, closed, isRoot⟩ := ofTokens?_eq_some_iff.mp read
  obtain ⟨b', run', alike⟩ := Building.foldlM_of_alike same ⟨.nil, rfl⟩ run
  have closed' : b'.stack = [] := by
    have none := alike.stack
    rw [closed] at none
    exact List.forall₂_nil_left_iff.mp none
  have known := alike.root
  rw [isRoot] at known
  obtain ⟨root', isRoot'⟩ := Option.isSome_iff_exists.mp known.symm
  exact ⟨root', ofTokens?_eq_some_iff.mpr ⟨b', run', closed', isRoot'⟩⟩

theorem read_eq_ok_iff {bs : Octets} : Element.read bs tagOf = .ok root ↔
    ∃ cs, decode bs = .ok cs ∧ ∃ ts, Token.ofDocument? cs = some ts ∧ ofTokens? ts tagOf = some root := by
  have made (cs : List Char) : ofChars? cs tagOf = some root ↔
      ∃ ts, Token.ofDocument? cs = some ts ∧ ofTokens? ts tagOf = some root := Option.bind_eq_some_iff
  simp only [← made, Element.read, Except.bind_eq_ok_iff]
  apply exists_congr
  intro cs
  cases ofChars? cs tagOf <;> simp

end Element

/-- The tokens of a document without prefixes and attributes. -/
def plainTokens? (bs : Octets) : Option (List Token) :=
  match decode bs with
  | .ok cs => (Token.ofDocument? cs).map (List.map Token.plain)
  | .error _ => none

theorem plainTokens?_of_tokens {bs : Octets} {cs : List Char} {ts : List Token}
    (decoded : decode bs = .ok cs) (tokens : Token.ofDocument? cs = some ts) :
    plainTokens? bs = some (ts.map Token.plain) := by
  simp only [plainTokens?, decoded, tokens, Option.map_some]

/-- Whether two documents differ in prefixes and attributes only, and so in the namespaces of their
elements. -/
def SameContent (bs bs' : Octets) : Prop :=
  ∃ ts, plainTokens? bs = some ts ∧ plainTokens? bs' = some ts

namespace Element

variable {tagOf other : Tagging} {rename rename' : String → String} {root root' : Element}
  {bs bs' : Octets}

theorem read_plain (tells : tagOf.Tells rename) (read : Element.read bs tagOf = .ok root) :
    ∃ ts, plainTokens? bs = some ts ∧ ofTokens? ts Tagging.asWritten = some (root.plain rename) := by
  obtain ⟨cs, decoded, ts, tokens, isRoot⟩ := read_eq_ok_iff.mp read
  exact ⟨_, plainTokens?_of_tokens decoded tokens,
    ofTokens?_plain tells (Token.braceFree_of_ofDocument? tokens) isRoot⟩

theorem read_of_sameNames (same : tagOf.SameNames other) (read : Element.read bs tagOf = .ok root) :
    ∃ root', Element.read bs other = .ok root' := by
  obtain ⟨cs, decoded, ts, tokens, isRoot⟩ := read_eq_ok_iff.mp read
  obtain ⟨root', isRoot'⟩ := ofTokens?_of_sameNames same isRoot
  exact ⟨root', read_eq_ok_iff.mpr ⟨cs, decoded, ts, tokens, isRoot'⟩⟩

/-- Documents of the same content have the same elements, up to attributes and the form of the tags. -/
theorem plain_eq_of_sameContent {tagOf' : Tagging} (tells : tagOf.Tells rename)
    (tells' : tagOf'.Tells rename') (read : Element.read bs tagOf = .ok root)
    (read' : Element.read bs' tagOf' = .ok root') (same : SameContent bs bs') :
    root.plain rename = root'.plain rename' := by
  obtain ⟨ts, written, written'⟩ := same
  obtain ⟨ts₁, tokens, isRoot⟩ := read_plain tells read
  obtain ⟨ts₂, tokens', isRoot'⟩ := read_plain tells' read'
  obtain rfl := Option.some.inj (tokens.symm.trans written)
  obtain rfl := Option.some.inj (tokens'.symm.trans written')
  exact Option.some.inj (isRoot.symm.trans isRoot')

end Element

theorem SameContent.refl_of_read {tagOf : Tagging} {bs : Octets} {root : Element}
    (read : Element.read bs tagOf = .ok root) : SameContent bs bs := by
  obtain ⟨cs, decoded, ts, tokens, -⟩ := Element.read_eq_ok_iff.mp read
  exact ⟨_, plainTokens?_of_tokens decoded tokens, plainTokens?_of_tokens decoded tokens⟩

end ServiceClient.Xml
