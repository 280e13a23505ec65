import ServiceClient.Proofs.Registration

/-!
Where names lead before and after a change of a registry. A registration that is not to replace
anything takes no name away from the pair that serves it, not even when it is refused for an alias and
left half done: what it adds are names that were not served. A removal changes nothing but the names
of the protocol that is removed.
-/

namespace ServiceClient

namespace Registry

variable {registry : Registry} {protocol name : String} {pair : Pair}

/-- A name that is served in one registry as it is in another, by the same pair, or in neither. -/
structure LeadsAlike (before after : Registry) (name : String) : Prop where
  serves : after.serves name = before.serves name
  pair : ∀ pair, after.pair (.str name) = .ok pair ↔ before.pair (.str name) = .ok pair

theorem pair_eq_ok_iff : registry.pair (.str name) = .ok pair ↔ registry.pair? name = some pair := by
  cases leads : registry.pair? name with
  | none => simp [Registry.pair, leads]
  | some other => rw [pair_of_pair? leads, Except.ok.injEq, Option.some_inj]

theorem leadsAlike_of_eq {before after : Registry}
    (serves : after.serves name = true ↔ before.serves name = true)
    (same : after.pair? name = before.pair? name) : LeadsAlike before after name where
  serves := Bool.eq_iff_iff.mpr serves
  pair := fun pair => by rw [pair_eq_ok_iff, pair_eq_ok_iff, same]

theorem serves_eq_true_iff : registry.serves name = true ↔
    registry.hasProtocol name = true ∨ (registry.aliases.lookup name).isSome := by
  rw [serves_iff, mem_allNames, hasProtocol_iff, Pairs.lookup_isSome_iff]

/-! ### Registrations -/

/-- An alias is added only if it is neither a protocol nor an alias of another one. -/
theorem aliasConflict?_eq_none_iff : registry.aliasConflict? protocol name = none ↔
    registry.hasProtocol name = false ∧
      ∀ owner, registry.aliases.lookup name = some owner → owner = protocol := by
  unfold aliasConflict?
  grind

/-- The names that become aliases without replacing anything were neither protocols nor aliases of
other protocols. -/
theorem addAliases_adds_free (registry : Registry) (protocol : String) (aliases : List String) :
    ∃ added, (registry.addAliases protocol false aliases).1 = registry.pointed protocol added ∧
      ∀ name ∈ added, name ∈ aliases ∧ registry.aliasConflict? protocol name = none := by
  -- an alias that was added just before does not conflict with its own protocol
  induction aliases generalizing registry with
  | nil => exact ⟨[], rfl, nofun⟩
  | cons first rest ih =>
    rw [addAliases]
    by_cases own : first = protocol
    · obtain ⟨added, same, free⟩ := ih registry
      rw [if_pos own, same]
      exact ⟨added, rfl, fun name inside =>
        ⟨List.mem_cons_of_mem _ (free name inside).1, (free name inside).2⟩⟩
    · rw [if_neg own]
      simp only [Bool.false_eq_true, if_false]
      cases conflict : registry.aliasConflict? protocol first with
      | some error => exact ⟨[], rfl, nofun⟩
      | none =>
        obtain ⟨added, same, free⟩ :=
          ih { registry with aliases := Pairs.insert first protocol registry.aliases }
        refine ⟨first :: added, ?_, ?_⟩
        · rw [pointed_cons, if_neg own]
          exact same
        · intro name inside
          rcases List.mem_cons.mp inside with rfl | inside
          · exact ⟨List.mem_cons_self, conflict⟩
          · obtain ⟨listed, unknown⟩ := free name inside
            refine ⟨List.mem_cons_of_mem _ listed, ?_⟩
            by_cases again : name = first
            · rwa [again]
            · rw [aliasConflict?_eq_none_iff] at unknown ⊢
              simpa [hasProtocol, Pairs.lookup_insert, again] using unknown

/-- A registration that replaces nothing leaves the registry alone, or it stores its pair under a
protocol and aliases that were free, whether it is refused afterwards or not. -/
theorem register_stores_free (registry : Registry) (protocol : String) (pair : Pair)
    (aliases : List String) :
    (registry.register protocol pair aliases false).1 = registry ∨
    registry.hasProtocol protocol = false ∧ ∃ added,
      (registry.register protocol pair aliases false).1 =
        (registry.stored protocol pair).pointed protocol added ∧
      ∀ name ∈ added, name ∈ aliases ∧
        (registry.stored protocol pair).aliasConflict? protocol name = none := by
  unfold register
  split_ifs with notProtocol noErrors known
  · exact .inl rfl
  · exact .inl rfl
  · exact .inl rfl
  · refine .inr ⟨by simpa using known, ?_⟩
    exact addAliases_adds_free (registry.stored protocol pair) protocol aliases

theorem lookup_alias_of_not_serves (fresh : registry.serves name = false) :
    registry.aliases.lookup name = none := by
  rw [← Option.not_isSome_iff_eq_none]
  intro isAlias
  rw [serves_eq_true_iff.mpr (.inr isAlias)] at fresh
  cases fresh

/-- A name that leads to a protocol which is not there is not served. -/
theorem Sound.not_leads_of_serves (sound : registry.Sound)
    (unknown : registry.hasProtocol protocol = false) (served : registry.serves name = true) :
    (registry.aliases.lookup name).getD name ≠ protocol := by
  rintro rfl
  cases found : registry.aliases.lookup name with
  | some owner =>
    rw [found, Option.getD_some] at unknown
    have known := hasProtocol_iff.mpr (sound.owners _ (Pairs.mem_of_lookup found))
    rw [unknown] at known
    cases known
  | none =>
    rw [found, Option.getD_none] at unknown
    rw [serves_eq_true_iff, unknown, found] at served
    simp at served

/-- A name that becomes an alias of a new protocol was not served. -/
theorem Sound.not_serves_of_free (sound : registry.Sound)
    (unknown : registry.hasProtocol protocol = false)
    (free : (registry.stored protocol pair).aliasConflict? protocol name = none) :
    name ≠ protocol ∧ registry.serves name = false := by
  obtain ⟨noProtocol, owned⟩ := aliasConflict?_eq_none_iff.mp free
  have other : name ∉ (Pairs.insert protocol pair registry.pairs).map (·.1) := fun inside => by
    rw [← Bool.not_eq_true, hasProtocol_iff] at noProtocol
    exact noProtocol inside
  rw [Pairs.mem_names_insert, not_or] at other
  refine ⟨other.1, Bool.eq_false_iff.mpr fun served => ?_⟩
  rcases serves_eq_true_iff.mp served with known | isAlias
  · exact other.2 (hasProtocol_iff.mp known)
  · obtain ⟨owner, leads⟩ := Option.isSome_iff_exists.mp isAlias
    refine sound.not_leads_of_serves unknown served ?_
    rw [leads, Option.getD_some]
    exact owned owner leads

theorem serves_pointed_stored {names : List String} :
    ((registry.stored protocol pair).pointed protocol names).serves name = true ↔
      registry.serves name = true ∨ name = protocol ∨ name ∈ names := by
  have known : ((registry.stored protocol pair).pointed protocol names).hasProtocol name = true ↔
      name = protocol ∨ registry.hasProtocol name = true := by
    rw [hasProtocol_iff, hasProtocol_iff]
    exact Pairs.mem_names_insert
  rw [serves_eq_true_iff, serves_eq_true_iff, known, lookup_pointed]
  by_cases own : name = protocol
  · simp [own]
  · by_cases listed : name ∈ names
    · simp [own, listed]
    · simp [own, listed, stored]

section Free

variable {added : List String} (sound : registry.Sound)
  (unknown : registry.hasProtocol protocol = false)
  (free : ∀ name ∈ added, (registry.stored protocol pair).aliasConflict? protocol name = none)

include sound unknown free

/-- Storing a new protocol under free names leaves the names that are served as they are. -/
theorem Sound.leadsAlike_pointed_stored (served : registry.serves name = true) :
    LeadsAlike registry ((registry.stored protocol pair).pointed protocol added) name := by
  have notAdded : name ∉ added := fun inside => by
    have notServed := (sound.not_serves_of_free unknown (free name inside)).2
    rw [served] at notServed
    cases notServed
  have elsewhere := sound.not_leads_of_serves unknown served
  refine leadsAlike_of_eq ?_ ?_
  · simp [serves_pointed_stored, served]
  · rw [pair?_pointed_stored, if_neg]
    simp [notAdded, elsewhere]

/-- The names that are served then and were not served before are the new ones, and they lead to the
new pair. -/
theorem Sound.pair_pointed_stored (fresh : registry.serves name = false)
    (served : ((registry.stored protocol pair).pointed protocol added).serves name = true) :
    (name = protocol ∨ name ∈ added) ∧
      ((registry.stored protocol pair).pointed protocol added).pair (.str name) = .ok pair := by
  have new : name = protocol ∨ name ∈ added := by
    rw [serves_pointed_stored, fresh] at served
    simpa using served
  refine ⟨new, pair_eq_ok_iff.mpr ?_⟩
  rw [pair?_pointed_stored, if_pos]
  rcases new with rfl | inside
  · exact .inr (by rw [lookup_alias_of_not_serves fresh, Option.getD_none])
  · exact .inl ⟨inside, (sound.not_serves_of_free unknown (free name inside)).1⟩

end Free

/-! ### Removals -/

/-- A removal is seen only under the protocol that is removed and under its aliases. -/
theorem leadsAlike_unregister (other : name ≠ protocol)
    (noAlias : name ∉ registry.aliasesOf protocol) :
    LeadsAlike registry (registry.unregister protocol) name := by
  have aliases : (registry.unregister protocol).aliases.lookup name = registry.aliases.lookup name := by
    refine Pairs.lookup_filter fun owner inside => bne_iff_ne.mpr ?_
    rintro rfl
    exact noAlias (mem_aliasesOf.mpr inside)
  have pairs {key : String} (kept : key ≠ protocol) :
      (registry.unregister protocol).pairs.lookup key = registry.pairs.lookup key :=
    Pairs.lookup_filter fun _ _ => bne_iff_ne.mpr kept
  have elsewhere : (registry.aliases.lookup name).getD name ≠ protocol := by
    cases leads : registry.aliases.lookup name with
    | none => exact other
    | some owner =>
      rintro rfl
      exact noAlias (mem_aliasesOf.mpr (Pairs.mem_of_lookup leads))
  refine leadsAlike_of_eq ?_ ?_
  · rw [serves_eq_true_iff, serves_eq_true_iff, hasProtocol_iff, hasProtocol_iff, aliases,
      ← Pairs.lookup_isSome_iff, ← Pairs.lookup_isSome_iff, pairs other]
  · rw [pair?, pair?, aliases, pairs elsewhere]

theorem not_mem_protocols_unregister (registry : Registry) (protocol : String) :
    protocol ∉ (registry.unregister protocol).protocols := by
  rw [mem_protocols]
  simp [unregister]

/-- Whatever a registration that replaces nothing comes to, names that were served lead where they
did, and any other name that is served then is the protocol or one of the aliases and leads to the
pair. A removal takes the protocol away and leaves all names alone that did not lead to it. -/
theorem leadsAlike_of_reachable (reachable : registry.Reachable) (protocol : String) (pair : Pair)
    (aliases : List String) :
    (∀ name, registry.serves name = true →
      LeadsAlike registry (registry.register protocol pair aliases false).1 name) ∧
    (∀ name, registry.serves name = false →
      (registry.register protocol pair aliases false).1.serves name = true →
      (name = protocol ∨ name ∈ aliases) ∧
        (registry.register protocol pair aliases false).1.pair (.str name) = .ok pair) ∧
    ∀ removed, removed ∉ (registry.unregister removed).protocols ∧
      ∀ name, name ≠ removed → name ∉ registry.aliasesOf removed →
        LeadsAlike registry (registry.unregister removed) name := by
  have sound := sound_of_reachable reachable
  refine ⟨?_, ?_, fun removed =>
    ⟨not_mem_protocols_unregister registry removed, fun name => leadsAlike_unregister⟩⟩
  · intro name served
    rcases register_stores_free registry protocol pair aliases with same | ⟨unknown, added, same, free⟩
    · rw [same]
      exact leadsAlike_of_eq .rfl rfl
    · rw [same]
      exact sound.leadsAlike_pointed_stored unknown (fun name inside => (free name inside).2) served
  · intro name fresh served
    rcases register_stores_free registry protocol pair aliases with same | ⟨unknown, added, same, free⟩
    · rw [same, fresh] at served
      cases served
    · rw [same] at served ⊢
      obtain ⟨new, leads⟩ := sound.pair_pointed_stored unknown
        (fun name inside => (free name inside).2) fresh served
      exact ⟨new.imp_right fun inside => (free name inside).1, leads⟩

/-- A registration of a protocol that is an alias of another one, refused for its second alias, and
the removal of the protocol that the alias leads to. -/
theorem leadsAlike_of_refused :
    let registry := (builtin.register "ec2" ⟨.family .restXml, .errors .xml⟩ [] false).1
    let refused := registry.register "acme" ⟨.family .json, .errors .json⟩ ["soap", "ec2"] false
    registry.Reachable ∧ refused.2 = some (.aliasIsProtocol "ec2") ∧
      LeadsAlike registry refused.1 "ec2" ∧
      refused.1.pair (.str "soap") = .ok ⟨.family .json, .errors .json⟩ ∧
      LeadsAlike registry (registry.unregister "query") "rest-xml" := by
  intro registry refused
  have reachable : registry.Reachable := .register .builtin "ec2" _ [] false
  obtain ⟨kept, added, removed⟩ := leadsAlike_of_reachable reachable "acme"
    ⟨.family .json, .errors .json⟩ ["soap", "ec2"]
  exact ⟨reachable, by decide, kept "ec2" (by decide), (added "soap" (by decide) (by decide)).2,
    (removed "query").2 "rest-xml" (by decide) (by rw [mem_aliasesOf]; decide)⟩

end Registry

end ServiceClient
