import Mathlib.Data.List.Forall2
import Mathlib.Data.List.Nodup
import ServiceClient.Pairs
import ServiceClient.Proofs.Outcome

/-!
Looking names up in lists of pairs, which hold each name once.
-/

namespace ServiceClient.Pairs

variable {β : Type}

theorem mem_of_lookup {pairs : List (String × β)} {name : String} {value : β}
    (found : pairs.lookup name = some value) : (name, value) ∈ pairs := by
  obtain ⟨before, after, rfl, -⟩ := List.lookup_eq_some_iff.mp found
  exact List.mem_append_right _ List.mem_cons_self

theorem lookup_isSome_iff {pairs : List (String × β)} {name : String} :
    (pairs.lookup name).isSome ↔ name ∈ pairs.map (·.1) := by
  rw [List.lookup_isSome_iff, List.mem_map]
  exact exists_congr fun pair => and_congr_right fun _ => by rw [beq_iff_eq, eq_comm]

theorem lookup_of_mem {pairs : List (String × β)} (distinct : (pairs.map (·.1)).Nodup)
    {name : String} {value : β} (inside : (name, value) ∈ pairs) :
    pairs.lookup name = some value := by
  induction pairs with
  | nil => cases inside
  | cons pair rest ih =>
    obtain ⟨key, first⟩ := pair
    obtain ⟨fresh, distinct⟩ := List.nodup_cons.mp distinct
    rcases List.mem_cons.mp inside with same | later
    · cases same
      exact List.lookup_cons_self
    · have different : name ≠ key := by
        rintro rfl
        exact fresh (List.mem_map.mpr ⟨_, later, rfl⟩)
      rw [List.lookup_cons, beq_false_of_ne different]
      exact ih distinct later

/-- A look-up does not see that pairs of other names are left out. -/
theorem lookup_filter {keep : String × β → Bool} {pairs : List (String × β)} {name : String}
    (kept : ∀ value, (name, value) ∈ pairs → keep (name, value) = true) :
    (pairs.filter keep).lookup name = pairs.lookup name := by
  induction pairs with
  | nil => rfl
  | cons pair rest ih =>
    obtain ⟨key, first⟩ := pair
    have later := ih fun value inside => kept value (List.mem_cons_of_mem _ inside)
    by_cases same : name = key
    · subst same
      rw [List.filter_cons_of_pos (kept first List.mem_cons_self), List.lookup_cons_self,
        List.lookup_cons_self]
    · rw [List.filter_cons]
      split <;> simp [List.lookup_cons, beq_false_of_ne same, later]

/-- With distinct names the order of pairs does not matter to a look-up. -/
theorem lookup_eq_of_perm {a b : List (String × β)} (distinct : (a.map (·.1)).Nodup)
    (same : a.Perm b) (name : String) : a.lookup name = b.lookup name := by
  induction same with
  | nil => rfl
  | cons pair _ ih =>
    obtain ⟨key, value⟩ := pair
    obtain ⟨_, distinct⟩ := List.nodup_cons.mp distinct
    simp only [List.lookup_cons, ih distinct]
  | swap x y rest =>
    obtain ⟨key, value⟩ := x
    obtain ⟨other, last⟩ := y
    have different : other ≠ key := by simp_all
    by_cases first : name = key
    · subst first
      simp [List.lookup_cons, beq_false_of_ne (Ne.symm different)]
    · simp [List.lookup_cons, beq_false_of_ne first]
  | trans first _ ihFirst ihSecond =>
    exact (ihFirst distinct).trans (ihSecond ((first.map _).nodup_iff.mp distinct))

theorem insert_of_fresh {pairs : List (String × β)} {name : String} (value : β)
    (fresh : name ∉ pairs.map (·.1)) : insert name value pairs = pairs ++ [(name, value)] := by
  induction pairs with
  | nil => rfl
  | cons pair rest ih =>
    obtain ⟨key, first⟩ := pair
    rw [List.map_cons, List.mem_cons, not_or] at fresh
    rw [insert, beq_false_of_ne (Ne.symm fresh.1), ih fresh.2]
    rfl

theorem names_insert (name : String) (value : β) (pairs : List (String × β)) :
    (insert name value pairs).map (·.1) =
      if name ∈ pairs.map (·.1) then pairs.map (·.1) else pairs.map (·.1) ++ [name] := by
  induction pairs with
  | nil => rfl
  | cons pair rest ih =>
    obtain ⟨key, first⟩ := pair
    by_cases same : key = name
    · simp [insert, same]
    · rw [insert, beq_false_of_ne same]
      simp only [Bool.false_eq_true, if_false, List.map_cons, ih, List.mem_cons, Ne.symm same,
        false_or]
      split <;> rfl

theorem mem_names_insert {key name : String} {value : β} {pairs : List (String × β)} :
    key ∈ (insert name value pairs).map (·.1) ↔ key = name ∨ key ∈ pairs.map (·.1) := by
  rw [names_insert]
  by_cases there : name ∈ pairs.map (·.1)
  · rw [if_pos there, or_iff_right_of_imp]
    rintro rfl
    exact there
  · rw [if_neg there, List.mem_append, List.mem_singleton, or_comm]

theorem nodup_insert {pairs : List (String × β)} (distinct : (pairs.map (·.1)).Nodup)
    (name : String) (value : β) : ((insert name value pairs).map (·.1)).Nodup := by
  rw [names_insert]
  by_cases there : name ∈ pairs.map (·.1)
  · rwa [if_pos there]
  · rw [if_neg there]
    refine List.nodup_append.mpr ⟨distinct, List.nodup_singleton name, ?_⟩
    rintro key inside other last rfl
    exact there (List.mem_singleton.mp last ▸ inside)

theorem mem_of_mem_insert {pair : String × β} {name : String} {value : β}
    {pairs : List (String × β)} (inside : pair ∈ insert name value pairs) :
    pair = (name, value) ∨ pair ∈ pairs := by
  induction pairs with
  | nil => exact .inl (List.mem_singleton.mp inside)
  | cons first rest ih =>
    rw [insert] at inside
    split at inside <;> grind

theorem mem_of_mem_merge {pair : String × β} {old new : List (String × β)}
    (inside : pair ∈ merge old new) : pair ∈ old ∨ pair ∈ new := by
  induction new generalizing old with
  | nil => exact .inl inside
  | cons first rest ih =>
    have step : merge old (first :: rest) = merge (insert first.1 first.2 old) rest := rfl
    rw [step] at inside
    rcases ih inside with there | later
    · rcases mem_of_mem_insert there with rfl | there
      · exact .inr List.mem_cons_self
      · exact .inl there
    · exact .inr (List.mem_cons_of_mem _ later)

theorem mem_of_mem_distinct {pair : String × β} {pairs : List (String × β)}
    (inside : pair ∈ distinct pairs) : pair ∈ pairs :=
  (mem_of_mem_merge inside).resolve_left nofun

theorem insert_insert {α β : Type} [BEq α] [LawfulBEq α] (name : α) (first second : β)
    (pairs : List (α × β)) :
    insert name second (insert name first pairs) = insert name second pairs := by
  induction pairs with
  | nil => simp [insert]
  | cons pair rest ih =>
    by_cases same : pair.1 = name
    · simp [insert, same]
    · simp [insert, same, ih]

theorem any_insert {α β : Type} [BEq α] {pairs : List (α × β)} {holds : α × β → Bool}
    (byName : ∀ name a b, holds (name, a) = holds (name, b)) (there : pairs.any holds) (name : α)
    (value : β) : (insert name value pairs).any holds := by
  induction pairs with
  | nil => simp at there
  | cons pair rest ih =>
    rw [List.any_cons, Bool.or_eq_true] at there
    rw [insert]
    split <;> rw [List.any_cons, Bool.or_eq_true]
    · exact there.imp_left fun first => (byName pair.1 value pair.2).trans first
    · exact there.imp_right ih

theorem mem_names_merge {key : String} {old new : List (String × β)} :
    key ∈ (merge old new).map (·.1) ↔ key ∈ old.map (·.1) ∨ key ∈ new.map (·.1) := by
  induction new generalizing old with
  | nil => simp [merge]
  | cons pair rest ih =>
    have first : merge old (pair :: rest) = merge (insert pair.1 pair.2 old) rest := rfl
    rw [first, ih, mem_names_insert, List.map_cons, List.mem_cons, or_assoc, or_left_comm]

theorem nodup_merge {old : List (String × β)} (distinct : (old.map (·.1)).Nodup)
    (new : List (String × β)) : ((merge old new).map (·.1)).Nodup := by
  induction new generalizing old with
  | nil => exact distinct
  | cons pair rest ih => exact ih (nodup_insert distinct pair.1 pair.2)

theorem nodup_distinct (pairs : List (String × β)) : ((distinct pairs).map (·.1)).Nodup := by
  have none : (([] : List (String × β)).map (·.1)).Nodup := List.nodup_nil
  exact nodup_merge none pairs

theorem merge_of_nodup {old new : List (String × β)}
    (distinct : ((old ++ new).map (·.1)).Nodup) : merge old new = old ++ new := by
  induction new generalizing old with
  | nil => exact (List.append_nil old).symm
  | cons pair rest ih =>
    obtain ⟨name, value⟩ := pair
    have fresh : name ∉ old.map (·.1) := by
      rw [List.map_append, List.nodup_append] at distinct
      exact fun inside => distinct.2.2 name inside name List.mem_cons_self rfl
    have first : merge old ((name, value) :: rest) = merge (insert name value old) rest := rfl
    rw [first, insert_of_fresh value fresh, ih (by simpa using distinct), List.append_assoc]
    rfl

/-- Pairs with distinct names stay as they are. -/
theorem distinct_of_nodup {pairs : List (String × β)} (nodup : (pairs.map (·.1)).Nodup) :
    distinct pairs = pairs := merge_of_nodup nodup

theorem lookup_rel_of_forall₂ {R : β → β → Prop} {a b : List (String × β)}
    (related : List.Forall₂ (fun x y => x.1 = y.1 ∧ R x.2 y.2) a b) (name : String) :
    Option.Rel R (a.lookup name) (b.lookup name) := by
  induction related with
  | nil => exact .none
  | @cons x y _ _ pair _ ih =>
    obtain ⟨key, value⟩ := x
    obtain ⟨other, last⟩ := y
    obtain ⟨names, values⟩ := pair
    simp only at names values
    simp only [List.lookup_cons, names]
    split
    · exact .some values
    · exact ih

section Rel

variable {γ : Type} {R : β → γ → Prop} {first : Option β} {second : Option γ}
  (related : Option.Rel R first second)

include related

theorem exists_right {x : β} (there : first = some x) : ∃ y, second = some y ∧ R x y := by
  subst there
  cases related with
  | some related => exact ⟨_, rfl, related⟩

theorem exists_left {y : γ} (there : second = some y) : ∃ x, first = some x ∧ R x y := by
  subst there
  cases related with
  | some related => exact ⟨_, rfl, related⟩

end Rel

/-- The same names with other values. -/
def mapValues {α : Type} (f : α → β) (pairs : List (String × α)) : List (String × β) :=
  pairs.map fun pair => (pair.1, f pair.2)

section MapValues

variable {α γ ε : Type} {f : α → β} {pairs : List (String × α)}

theorem lookup_mapValues (name : String) :
    (mapValues f pairs).lookup name = (pairs.lookup name).map f := by
  induction pairs with
  | nil => rfl
  | cons pair rest ih =>
    show ((pair.1, f pair.2) :: mapValues f rest).lookup name = _
    rw [List.lookup_cons, List.lookup_cons, ih]
    cases name == pair.1 <;> rfl

theorem length_mapValues : (mapValues f pairs).length = pairs.length := List.length_map _

theorem values_mapValues : (mapValues f pairs).map (·.2) = (pairs.map (·.2)).map f := by
  rw [mapValues, List.map_map, List.map_map]
  rfl

theorem map_mapValues {g : String × β → γ} {h : String × α → γ}
    (same : ∀ name value, g (name, f value) = h (name, value)) :
    (mapValues f pairs).map g = pairs.map h := by
  rw [mapValues, List.map_map]
  exact List.map_congr_left fun pair _ => same pair.1 pair.2

theorem filter_mapValues {p : String × β → Bool} {q : String × α → Bool}
    (same : ∀ name value, p (name, f value) = q (name, value)) :
    (mapValues f pairs).filter p = mapValues f (pairs.filter q) := by
  rw [mapValues, List.filter_map, mapValues]
  exact congrArg _ (List.filter_congr fun pair _ => same pair.1 pair.2)

theorem filterMap_mapValues {g : String × β → Option γ} {h : String × α → Option γ}
    (same : ∀ name value, g (name, f value) = h (name, value)) :
    (mapValues f pairs).filterMap g = pairs.filterMap h := by
  rw [mapValues, List.filterMap_map]
  exact List.filterMap_congr fun pair _ => same pair.1 pair.2

theorem mapM_mapValues {g : String × β → Except ε γ} {h : String × α → Except ε γ}
    (same : ∀ name value, g (name, f value) = h (name, value)) :
    (mapValues f pairs).mapM g = pairs.mapM h := by
  rw [mapValues, List.mapM_map]
  exact Except.mapM_congr fun pair _ => same pair.1 pair.2

end MapValues

end ServiceClient.Pairs
