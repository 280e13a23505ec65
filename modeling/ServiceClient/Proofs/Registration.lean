import ServiceClient.Proofs.Pairs
import ServiceClient.Registry

/-!
What a registry serves after registrations and removals. No alias is left dangling: it is kept only
as long as the protocol that it points to. A registration that is refused for an alias is not undone,
though: the protocol stays, and so do the aliases before the one that conflicts. And a registration
that is taken can be without effect: an alias goes before a protocol of the same name.
-/

namespace ServiceClient

namespace Registry

variable {registry : Registry} {protocol name : String} {pair : Pair} {aliases : List String}
  {replace : Bool}

/-- The registry with a pair for a protocol. -/
def stored (registry : Registry) (protocol : String) (pair : Pair) : Registry :=
  { registry with pairs := Pairs.insert protocol pair registry.pairs }

/-- The registry with names that point to a protocol, which does not point to itself. -/
def pointed (registry : Registry) (protocol : String) (names : List String) : Registry :=
  { registry with
    aliases := Pairs.merge registry.aliases
      ((names.filter (· != protocol)).map fun name => (name, protocol)) }

theorem pointed_cons (names : List String) : registry.pointed protocol (name :: names) =
    if name = protocol then registry.pointed protocol names
    else ({ registry with aliases := Pairs.insert name protocol registry.aliases } :
      Registry).pointed protocol names := by
  by_cases own : name = protocol
  · simp [pointed, own]
  · simp [pointed, own, Pairs.merge]

/-- Aliases are added up to the first one that conflicts with what was added before. -/
theorem addAliases_cases (registry : Registry) (protocol : String) (replace : Bool)
    (aliases : List String) :
    registry.addAliases protocol replace aliases = (registry.pointed protocol aliases, none) ∨
    replace = false ∧ ∃ added name rest error, aliases = added ++ name :: rest ∧ name ≠ protocol ∧
      (registry.pointed protocol added).aliasConflict? protocol name = some error ∧
      registry.addAliases protocol replace aliases =
        (registry.pointed protocol added, some error) := by
  -- the aliases added so far are part of the registry that the rest is added to
  induction aliases generalizing registry with
  | nil => exact .inl rfl
  | cons first later ih =>
    by_cases own : first = protocol
    · rcases ih registry with all | ⟨keep, added, name, rest, error, rfl, other, conflict, some⟩
      · left
        rw [addAliases, if_pos own, all, pointed_cons, if_pos own]
      · refine .inr ⟨keep, first :: added, name, rest, error, rfl, other, ?_, ?_⟩
        · rwa [pointed_cons, if_pos own]
        · rw [addAliases, if_pos own, some, pointed_cons, if_pos own]
    · cases check : if replace then none else registry.aliasConflict? protocol first with
      | some error =>
        have keep : replace = false := by
          cases replace
          · rfl
          · cases check
        subst keep
        exact .inr ⟨rfl, [], first, later, error, rfl, own, check, by
          rw [addAliases, if_neg own, check]; rfl⟩
      | none =>
        rcases ih { registry with aliases := Pairs.insert first protocol registry.aliases } with
          all | ⟨keep, added, name, rest, error, rfl, other, conflict, some⟩
        · left
          rw [addAliases, if_neg own, check, pointed_cons, if_neg own]
          exact all
        · refine .inr ⟨keep, first :: added, name, rest, error, rfl, other, ?_, ?_⟩
          · rwa [pointed_cons, if_neg own]
          · rw [addAliases, if_neg own, check, pointed_cons, if_neg own]
            exact some

/-- All that a registration can do. -/
inductive Registers (registry : Registry) (protocol : String) (pair : Pair) (aliases : List String) :
    Bool → Registry × Option RegistrationError → Prop where
  | notAProtocol {replace : Bool} (wrong : pair.protocol.isProtocol = false) :
      Registers registry protocol pair aliases replace (registry, some .notAProtocol)
  | readsNoErrors {replace : Bool} (wrong : pair.errors.readsErrors = false) :
      Registers registry protocol pair aliases replace (registry, some .readsNoErrors)
  | kept (known : registry.hasProtocol protocol = true) :
      Registers registry protocol pair aliases false (registry, none)
  | stored {replace : Bool} : Registers registry protocol pair aliases replace
      ((registry.stored protocol pair).pointed protocol aliases, none)
  | conflict {added : List String} {name : String} {rest : List String} {error : RegistrationError}
      (unknown : registry.hasProtocol protocol = false) (split : aliases = added ++ name :: rest)
      (other : name ≠ protocol)
      (conflicts : ((registry.stored protocol pair).pointed protocol added).aliasConflict?
        protocol name = some error) :
      Registers registry protocol pair aliases false
        ((registry.stored protocol pair).pointed protocol added, some error)

theorem registers_register (registry : Registry) (protocol : String) (pair : Pair)
    (aliases : List String) (replace : Bool) :
    Registers registry protocol pair aliases replace
      (registry.register protocol pair aliases replace) := by
  unfold register
  cases serves : pair.protocol.isProtocol
  · exact .notAProtocol serves
  cases reads : pair.errors.readsErrors
  · exact .readsNoErrors reads
  have stores := addAliases_cases (registry.stored protocol pair) protocol replace aliases
  cases known : registry.hasProtocol protocol
  · rcases stores with all | ⟨rfl, added, name, rest, error, split, other, conflicts, some⟩
    · exact all ▸ .stored
    · exact some ▸ .conflict known split other conflicts
  · cases replace
    · exact .kept known
    · rcases stores with all | ⟨⟨⟩, -⟩
      exact all ▸ .stored

/-! ### Names that are served -/

theorem mem_sorted {names : List String} : name ∈ sorted names ↔ name ∈ names := by
  have distinct : name ∈ (Pairs.distinct (names.map fun name => (name, ()))).map (·.1) ↔
      name ∈ names := by
    rw [Pairs.distinct, Pairs.mem_names_merge]
    simp
  rw [sorted, List.mem_mergeSort, distinct]

theorem hasProtocol_iff : registry.hasProtocol name = true ↔ name ∈ registry.pairs.map (·.1) := by
  simp [hasProtocol]

theorem mem_allNames : name ∈ registry.allNames ↔
    name ∈ registry.pairs.map (·.1) ∨ name ∈ registry.aliases.map (·.1) := by
  rw [allNames, mem_sorted, List.mem_append]

theorem serves_iff : registry.serves name = true ↔ name ∈ registry.allNames := by
  rw [serves, Bool.or_eq_true, hasProtocol_iff, mem_allNames]
  simp

theorem mem_aliasesOf : name ∈ registry.aliasesOf protocol ↔ (name, protocol) ∈ registry.aliases := by
  rw [aliasesOf, mem_sorted]
  simp

theorem mem_protocols : protocol ∈ registry.protocols ↔ protocol ∈ registry.pairs.map (·.1) :=
  mem_sorted

/-! ### No alias is left dangling -/

/-- Each name is there once, and each alias points to a protocol that is there. -/
structure Sound (registry : Registry) : Prop where
  protocols : (registry.pairs.map (·.1)).Nodup
  aliases : (registry.aliases.map (·.1)).Nodup
  owners : ∀ line ∈ registry.aliases, line.2 ∈ registry.pairs.map (·.1)

namespace Sound

theorem stored (sound : registry.Sound) (protocol : String) (pair : Pair) :
    (registry.stored protocol pair).Sound where
  protocols := Pairs.nodup_insert sound.protocols protocol pair
  aliases := sound.aliases
  owners := fun line inside => Pairs.mem_names_insert.mpr (.inr (sound.owners line inside))

theorem pointed (sound : registry.Sound) (known : protocol ∈ registry.pairs.map (·.1))
    (names : List String) : (registry.pointed protocol names).Sound := by
  induction names generalizing registry with
  | nil => exact sound
  | cons name rest ih =>
    rw [pointed_cons]
    split
    · exact ih sound known
    · refine ih ⟨sound.protocols, Pairs.nodup_insert sound.aliases name protocol, ?_⟩ known
      intro line inside
      rcases Pairs.mem_of_mem_insert inside with rfl | inside
      · exact known
      · exact sound.owners line inside

theorem register (sound : registry.Sound) (protocol : String) (pair : Pair) (aliases : List String)
    (replace : Bool) : (registry.register protocol pair aliases replace).1.Sound := by
  have known : protocol ∈ (registry.stored protocol pair).pairs.map (·.1) :=
    Pairs.mem_names_insert.mpr (.inl rfl)
  have stored := sound.stored protocol pair
  have registers := registers_register registry protocol pair aliases replace
  generalize registry.register protocol pair aliases replace = after at registers
  cases registers with
  | notAProtocol | readsNoErrors | kept => exact sound
  | stored | conflict => exact stored.pointed known _

theorem unregister (sound : registry.Sound) (protocol : String) :
    (registry.unregister protocol).Sound where
  protocols := sound.protocols.sublist (List.filter_sublist.map _)
  aliases := sound.aliases.sublist (List.filter_sublist.map _)
  owners := by
    intro line inside
    obtain ⟨inside, other⟩ := List.mem_filter.mp inside
    obtain ⟨owner, there, same⟩ := List.mem_map.mp (sound.owners line inside)
    exact List.mem_map.mpr ⟨owner, List.mem_filter.mpr ⟨there, by rwa [same]⟩, same⟩

end Sound

/-- The registries that registrations, refused ones too, and removals lead to. -/
inductive Reachable : Registry → Prop where
  | empty : Reachable {}
  | builtin : Reachable builtin
  | register {registry : Registry} (reachable : Reachable registry) (protocol : String) (pair : Pair)
      (aliases : List String) (replace : Bool) :
      Reachable (registry.register protocol pair aliases replace).1
  | unregister {registry : Registry} (reachable : Reachable registry) (protocol : String) :
      Reachable (registry.unregister protocol)

theorem sound_of_reachable (reachable : registry.Reachable) : registry.Sound := by
  have empty : ({} : Registry).Sound := ⟨List.nodup_nil, List.nodup_nil, by simp⟩
  induction reachable with
  | empty => exact empty
  | builtin =>
    exact (((empty.register _ _ _ _).register _ _ _ _).register _ _ _ _).register _ _ _ _
  | register _ protocol pair aliases replace ih => exact ih.register protocol pair aliases replace
  | unregister _ protocol ih => exact ih.unregister protocol

/-- The names of a registry are those that it serves, and aliases are served by the pairs of their
protocols. -/
structure ServesNames (registry : Registry) : Prop where
  serves : ∀ name, registry.serves name = true ↔ name ∈ registry.allNames
  pair : ∀ name, name ∈ registry.allNames ↔ ∃ pair, registry.pair (.str name) = .ok pair
  unknown : ∀ name, name ∉ registry.allNames →
    registry.pair (.str name) = .error (.unknownProtocol (.str name) registry.allNames)
  owned : ∀ protocol, ∀ name ∈ registry.aliasesOf protocol, protocol ∈ registry.protocols ∧
    ∀ pair, (protocol, pair) ∈ registry.pairs → registry.pair (.str name) = .ok pair

theorem pair_of_pair? (found : registry.pair? name = some pair) :
    registry.pair (.str name) = .ok pair := by
  simp [Registry.pair, found]

theorem Sound.pair?_isSome_iff (sound : registry.Sound) :
    (registry.pair? name).isSome ↔ name ∈ registry.allNames := by
  have other := @Pairs.lookup_isSome_iff _ registry.aliases name
  rw [mem_allNames, pair?, Pairs.lookup_isSome_iff, ← other]
  cases found : registry.aliases.lookup name with
  | none => simp
  | some owner =>
    have known : owner ∈ registry.pairs.map (·.1) := sound.owners _ (Pairs.mem_of_lookup found)
    simpa using known

/-- Whatever is registered and removed, and in whichever order, a registry serves its names. -/
theorem servesNames_of_reachable (reachable : registry.Reachable) : registry.ServesNames := by
  have sound := sound_of_reachable reachable
  have unknown : ∀ name, name ∉ registry.allNames →
      registry.pair (.str name) = .error (.unknownProtocol (.str name) registry.allNames) := by
    intro name fresh
    have none : registry.pair? name = none := by
      rwa [← Option.not_isSome_iff_eq_none, sound.pair?_isSome_iff]
    simp [Registry.pair, none]
  constructor
  case serves => exact fun name => serves_iff
  case pair =>
    intro name
    constructor
    · intro inside
      obtain ⟨pair, found⟩ := Option.isSome_iff_exists.mp (sound.pair?_isSome_iff.mpr inside)
      exact ⟨pair, pair_of_pair? found⟩
    · rintro ⟨pair, found⟩
      by_contra fresh
      rw [unknown name fresh] at found
      cases found
  case unknown => exact unknown
  case owned =>
    intro protocol name inside
    rw [mem_aliasesOf] at inside
    refine ⟨mem_protocols.mpr (sound.owners _ inside), fun pair stored => ?_⟩
    have owner := Pairs.lookup_of_mem sound.aliases inside
    have found : registry.pair? name = some pair := by
      rw [pair?, owner]
      exact Pairs.lookup_of_mem sound.protocols stored
    exact pair_of_pair? found

/-- After a registration that is refused for its second alias, and a removal. -/
theorem servesNames_of_refused_of_unregister :
    let refused := builtin.register "acme" ⟨.family .query, .errors .xml⟩ ["soap", "json"] false
    let registry := refused.1.unregister "query"
    refused.2 = some (.aliasIsProtocol "json") ∧ registry.aliases = [("soap", "acme")] ∧
      registry.Reachable ∧ registry.ServesNames := by
  intro refused registry
  have reachable : registry.Reachable :=
    .unregister (.register .builtin "acme" _ ["soap", "json"] false) "query"
  exact ⟨by decide, by decide, reachable, servesNames_of_reachable reachable⟩

/-! ### Refused registrations -/

theorem aliasConflict?_alias {error : RegistrationError}
    (conflicts : registry.aliasConflict? protocol name = some error) :
    error = .aliasIsProtocol name ∨ ∃ owner, error = .aliasTaken name owner := by
  unfold aliasConflict? at conflicts
  grind

theorem hasProtocol_stored (registry : Registry) (protocol : String) (pair : Pair)
    (names : List String) :
    ((registry.stored protocol pair).pointed protocol names).hasProtocol protocol = true :=
  hasProtocol_iff.mpr (Pairs.mem_names_insert.mpr (.inl rfl))

/-- A registration that is refused for its pair leaves the registry as it was, one that is refused
for an alias never does. -/
theorem register_unchanged_iff {after : Registry} {error : RegistrationError}
    (refused : registry.register protocol pair aliases replace = (after, some error)) :
    after = registry ↔ error = .notAProtocol ∨ error = .readsNoErrors := by
  have registers := registers_register registry protocol pair aliases replace
  rw [refused] at registers
  cases registers with
  | notAProtocol => simp
  | readsNoErrors => simp
  | @conflict added _ _ _ unknown _ _ conflicts =>
    have changed : (registry.stored protocol pair).pointed protocol added ≠ registry := by
      intro same
      have known := hasProtocol_stored registry protocol pair added
      rw [same, unknown] at known
      cases known
    rcases aliasConflict?_alias conflicts with rfl | ⟨owner, rfl⟩ <;> simp [changed]

/-- A refused registration is not undone: the protocol is served although it was refused. -/
theorem register_refused_not_undone :
    ¬ ∀ (registry : Registry) protocol pair aliases replace after error, registry.Reachable →
      registry.register protocol pair aliases replace = (after, some error) → after = registry := by
  intro always
  let registry : Registry := (Registry.register {} "json" ⟨.family .json, .errors .json⟩ [] false).1
  have reachable : registry.Reachable := .register .empty _ _ _ _
  have undone := always registry "query" ⟨.family .query, .errors .xml⟩ ["json"] false _
    (.aliasIsProtocol "json") reachable rfl
  exact absurd undone (by decide)

/-- When a registration is refused for an alias, registering the protocol once more is no remedy: it
is left alone, whatever its pair and its aliases are then, unless it is to be replaced. -/
theorem register_again_of_refused {after : Registry} {error : RegistrationError}
    (refused : registry.register protocol pair aliases replace = (after, some error))
    (changed : after ≠ registry) (other : Pair) (protocolClass : other.protocol.isProtocol = true)
    (errorClass : other.errors.readsErrors = true) (names : List String) :
    after.register protocol other names false = (after, none) := by
  have registers := registers_register registry protocol pair aliases replace
  rw [refused] at registers
  cases registers with
  | notAProtocol => exact absurd rfl changed
  | readsNoErrors => exact absurd rfl changed
  | @conflict added =>
    have known := hasProtocol_stored registry protocol pair added
    simp [register, protocolClass, errorClass, known]

/-! ### Registrations that are taken -/

theorem lookup_pointed (names : List String) :
    (registry.pointed protocol names).aliases.lookup name =
      if name ∈ names ∧ name ≠ protocol then some protocol else registry.aliases.lookup name := by
  induction names generalizing registry with
  | nil => simp [pointed, Pairs.merge]
  | cons first rest ih =>
    rw [pointed_cons]
    by_cases own : first = protocol
    · rw [if_pos own, ih]
      by_cases this : name = first
      · simp [this, own]
      · simp [this]
    · rw [if_neg own, ih, Pairs.lookup_insert]
      by_cases this : name = first
      · simp [this, own]
      · simp [this]

/-- A registration that is neither refused nor left out stores the pair and points the aliases to
it. -/
theorem registered_of_taken {after : Registry}
    (taken : registry.hasProtocol protocol = false ∨ replace = true)
    (done : registry.register protocol pair aliases replace = (after, none)) :
    after = (registry.stored protocol pair).pointed protocol aliases := by
  have registers := registers_register registry protocol pair aliases replace
  rw [done] at registers
  cases registers with
  | stored => rfl
  | kept known =>
    rcases taken with unknown | replaced
    · rw [known] at unknown
      cases unknown
    · cases replaced

/-- A pair that is stored is found under the names that are pointed to its protocol, and under the
names that led there before; other names lead where they did. -/
theorem pair?_pointed_stored (names : List String) (name : String) :
    ((registry.stored protocol pair).pointed protocol names).pair? name =
      if name ∈ names ∧ name ≠ protocol ∨ (registry.aliases.lookup name).getD name = protocol
      then some pair else registry.pair? name := by
  have pairs : ((registry.stored protocol pair).pointed protocol names).pairs =
      Pairs.insert protocol pair registry.pairs := rfl
  rw [pair?, lookup_pointed, pairs, Pairs.lookup_insert, pair?]
  by_cases listed : name ∈ names ∧ name ≠ protocol
  · simp [listed]
  · rw [if_neg listed]
    by_cases led : (registry.aliases.lookup name).getD name = protocol
    · simp [stored, led]
    · simp [stored, led, listed]

/-- After a registration that is taken the pair is found under the aliases, and under the names that
led to the protocol before; other names lead where they did. -/
theorem pair?_of_taken {after : Registry}
    (taken : registry.hasProtocol protocol = false ∨ replace = true)
    (done : registry.register protocol pair aliases replace = (after, none)) (name : String) :
    after.pair? name =
      if name ∈ aliases ∧ name ≠ protocol ∨ (registry.aliases.lookup name).getD name = protocol
      then some pair else registry.pair? name := by
  obtain rfl := registered_of_taken taken done
  exact pair?_pointed_stored aliases name

theorem pointed_alias_ne_owner (apart : ∀ line ∈ registry.aliases, line.1 ≠ line.2)
    (names : List String) : ∀ line ∈ (registry.pointed protocol names).aliases, line.1 ≠ line.2 := by
  induction names generalizing registry with
  | nil => exact apart
  | cons name rest ih =>
    rw [pointed_cons]
    split
    case isTrue => exact ih apart
    case isFalse other =>
      refine ih fun line inside => ?_
      rcases Pairs.mem_of_mem_insert inside with rfl | inside
      · exact other
      · exact apart line inside

/-- No alias points to itself. -/
theorem alias_ne_owner_of_reachable (reachable : registry.Reachable) :
    ∀ line ∈ registry.aliases, line.1 ≠ line.2 := by
  induction reachable with
  | empty => simp
  | builtin => decide
  | @register registry _ protocol pair aliases replace ih =>
    have stored : ∀ line ∈ (registry.stored protocol pair).aliases, line.1 ≠ line.2 := ih
    have registers := registers_register registry protocol pair aliases replace
    generalize registry.register protocol pair aliases replace = after at registers
    cases registers with
    | notAProtocol | readsNoErrors | kept => exact ih
    | stored | conflict => exact pointed_alias_ne_owner stored _
  | unregister _ protocol ih =>
    intro line inside
    exact ih line (List.mem_filter.mp inside).1

/-- A registration that is taken takes effect on its aliases. On the protocol it does if and only if
the name of the protocol is no alias yet: an alias goes on leading to where it did. -/
theorem effect_of_taken {after : Registry} (reachable : registry.Reachable)
    (taken : registry.hasProtocol protocol = false ∨ replace = true)
    (done : registry.register protocol pair aliases replace = (after, none)) :
    (∀ name ∈ aliases, name ≠ protocol → after.pair (.str name) = .ok pair) ∧
      (protocol ∉ registry.aliases.map (·.1) → after.pair (.str protocol) = .ok pair) ∧
      (protocol ∈ registry.aliases.map (·.1) → after.pair? protocol = registry.pair? protocol) := by
  have found := pair?_of_taken taken done
  refine ⟨fun name listed other => pair_of_pair? ?_, fun noAlias => pair_of_pair? ?_, fun isAlias => ?_⟩
  · rw [found, if_pos (.inl ⟨listed, other⟩)]
  · have none : registry.aliases.lookup protocol = none := by
      rwa [← Option.not_isSome_iff_eq_none, Pairs.lookup_isSome_iff]
    rw [found, if_pos (.inr (by rw [none, Option.getD_none]))]
  · obtain ⟨owner, leads⟩ := Option.isSome_iff_exists.mp (Pairs.lookup_isSome_iff.mpr isAlias)
    have other : protocol ≠ owner :=
      alias_ne_owner_of_reachable reachable _ (Pairs.mem_of_lookup leads)
    rw [found, if_neg]
    simp [leads, other.symm]

/-- A registration can be taken without effect: the built-in alias of another protocol still leads
to that one. -/
theorem register_without_effect :
    ¬ ∀ (registry : Registry) protocol pair aliases replace after, registry.Reachable →
      registry.hasProtocol protocol = false ∨ replace = true →
      registry.register protocol pair aliases replace = (after, none) →
      after.pair (.str protocol) = .ok pair := by
  intro always
  have found := always builtin "ec2" ⟨.family .restXml, .errors .xml⟩ [] false _ .builtin
    (.inl (by decide)) rfl
  exact absurd found (by decide)

end Registry

end ServiceClient
