import Mathlib.Data.List.Forall2

/-!
Computations that end in a value or an error. A sequence of steps gives a value when each of its
steps does, and fails with the error of its first step that fails.
-/

namespace Except

variable {ε α β : Type}

@[simp] theorem pure_eq_ok_iff {a b : α} : (pure a : Except ε α) = .ok b ↔ a = b := by
  show Except.ok a = .ok b ↔ a = b
  simp

@[simp] theorem ok_bind (a : α) (f : α → Except ε β) : (Except.ok a >>= f) = f a := rfl

@[simp] theorem error_bind (e : ε) (f : α → Except ε β) :
    ((Except.error e : Except ε α) >>= f) = .error e := rfl

@[simp] theorem bind_eq_ok_iff {x : Except ε α} {f : α → Except ε β} {b : β} :
    (x >>= f) = .ok b ↔ ∃ a, x = .ok a ∧ f a = .ok b := by
  cases x with
  | error e => simp
  | ok a => simp

@[simp] theorem map_eq_ok_iff {x : Except ε α} {f : α → β} {b : β} :
    x.map f = .ok b ↔ ∃ a, x = .ok a ∧ f a = b := by
  cases x with
  | error e => simp [Except.map]
  | ok a => simp [Except.map]

@[simp] theorem map_eq_error_iff {x : Except ε α} {f : α → β} {e : ε} :
    x.map f = .error e ↔ x = .error e := by
  cases x with
  | error e => simp [Except.map]
  | ok a => simp [Except.map]

theorem mapError_eq_ok_iff {δ : Type} {x : Except ε α} {f : ε → δ} {a : α} :
    x.mapError f = .ok a ↔ x = .ok a := by
  cases x with
  | error e => simp [Except.mapError]
  | ok b => simp [Except.mapError]

theorem map_succeeds_iff {x : Except ε α} {f : α → β} :
    (∃ b, x.map f = .ok b) ↔ ∃ a, x = .ok a := by
  cases x with
  | error e => simp [Except.map]
  | ok a => simp [Except.map]

/-- A result that is there comes from a step that was taken. -/
theorem guarded_eq_ok_some_iff {condition : Prop} [Decidable condition] {x : Except ε (Option α)}
    {a : α} : (if condition then x else .ok none) = .ok (some a) ↔ condition ∧ x = .ok (some a) := by
  by_cases holds : condition <;> simp [holds]

/-- A computation that gives no value fails. -/
theorem exists_error_iff {x : Except ε α} : (∃ e, x = .error e) ↔ ¬ ∃ a, x = .ok a := by
  cases x with
  | error e => simp
  | ok a => simp

theorem map_map {γ : Type} (x : Except ε α) (f : α → β) (g : β → γ) :
    (x.map f).map g = x.map fun a => g (f a) := by
  cases x <;> rfl

theorem map_bind {γ : Type} (x : Except ε α) (f : α → β) (g : β → Except ε γ) :
    (x.map f >>= g) = x >>= fun a => g (f a) := by
  cases x <;> rfl

theorem bind_map {γ : Type} (x : Except ε α) (f : α → Except ε β) (g : β → γ) :
    (x >>= f).map g = x >>= fun a => (f a).map g := by
  cases x <;> rfl

theorem mapM_congr {f g : α → Except ε β} {items : List α} (same : ∀ a ∈ items, f a = g a) :
    items.mapM f = items.mapM g := by
  induction items with
  | nil => rfl
  | cons a rest ih =>
    obtain ⟨first, others⟩ := List.forall_mem_cons.mp same
    rw [List.mapM_cons, List.mapM_cons, first, ih others]

/-- What is made of the results of a sequence can be made of each result at once. -/
theorem map_mapM {γ : Type} {items : List α} (f : α → Except ε β) (g : β → γ) :
    (items.mapM f).map (List.map g) = items.mapM fun a => (f a).map g := by
  induction items with
  | nil => rfl
  | cons a rest ih =>
    rw [List.mapM_cons, List.mapM_cons, ← ih, map_bind, bind_map]
    refine bind_congr fun b => ?_
    rw [map_bind, bind_map]
    rfl

theorem mapM_eq_ok_iff {f : α → Except ε β} {items : List α} {results : List β} :
    items.mapM f = .ok results ↔ List.Forall₂ (fun a b => f a = .ok b) items results := by
  induction items generalizing results with
  | nil =>
    simp only [List.mapM_nil, pure_eq_ok_iff, List.forall₂_nil_left_iff]
    exact eq_comm
  | cons a rest ih =>
    simp only [List.mapM_cons, bind_eq_ok_iff, pure_eq_ok_iff, ih]
    constructor
    · rintro ⟨b, first, bs, others, rfl⟩
      exact .cons first others
    · intro all
      cases all with
      | cons first others => exact ⟨_, first, _, others, rfl⟩

theorem mapM_append_cons_eq_error {f : α → Except ε β} {before after : List α} {a : α}
    {results : List β} {e : ε} (done : before.mapM f = .ok results) (failed : f a = .error e) :
    (before ++ a :: after).mapM f = .error e := by
  rw [List.mapM_append, done, List.mapM_cons, failed]
  rfl

/-- The results of a sequence of computations stand beside its items. -/
theorem exists_pairs_of_mapM_eq_ok {f : α → Except ε β} {items : List α} {results : List β}
    (done : items.mapM f = .ok results) :
    ∃ pairs : List (α × β), items = pairs.map (·.1) ∧ results = pairs.map (·.2) ∧
      ∀ pair ∈ pairs, f pair.1 = .ok pair.2 := by
  have all := mapM_eq_ok_iff.mp done
  clear done
  induction all with
  | nil => exact ⟨[], rfl, rfl, List.forall_mem_nil _⟩
  | @cons a b _ _ first _ ih =>
    obtain ⟨pairs, rfl, rfl, each⟩ := ih
    exact ⟨(a, b) :: pairs, rfl, rfl, List.forall_mem_cons.mpr ⟨first, each⟩⟩

/-- Every result of a sequence of computations is the result of one of them. -/
theorem mem_of_mapM_eq_ok {f : α → Except ε β} {items : List α} {results : List β}
    (done : items.mapM f = .ok results) {b : β} (member : b ∈ results) :
    ∃ a ∈ items, f a = .ok b := by
  have all := mapM_eq_ok_iff.mp done
  clear done
  induction all with
  | nil => cases member
  | cons first _ ih =>
    rcases List.mem_cons.mp member with rfl | member
    · exact ⟨_, List.mem_cons_self, first⟩
    · obtain ⟨a, inside, result⟩ := ih member
      exact ⟨a, List.mem_cons_of_mem _ inside, result⟩

/-- Each of a sequence of computations has its result among the results. -/
theorem result_mem_of_mapM_eq_ok {f : α → Except ε β} {items : List α} {results : List β}
    (done : items.mapM f = .ok results) {a : α} (member : a ∈ items) :
    ∃ b ∈ results, f a = .ok b := by
  have all := mapM_eq_ok_iff.mp done
  clear done
  induction all with
  | nil => cases member
  | cons first _ ih =>
    rcases List.mem_cons.mp member with rfl | member
    · exact ⟨_, List.mem_cons_self, first⟩
    · obtain ⟨b, inside, result⟩ := ih member
      exact ⟨b, List.mem_cons_of_mem _ inside, result⟩

/-- A sequence fails with the error of one of its computations. -/
theorem error_of_mapM_eq_error {f : α → Except ε β} {items : List α} {e : ε}
    (failed : items.mapM f = .error e) : ∃ a ∈ items, f a = .error e := by
  induction items with
  | nil => cases failed
  | cons a rest ih =>
    cases first : f a with
    | error other =>
      rw [List.mapM_cons, first, error_bind] at failed
      obtain rfl := Except.error.inj failed
      exact ⟨a, List.mem_cons_self, first⟩
    | ok b =>
      cases others : rest.mapM f with
      | ok bs => simp [List.mapM_cons, first, others] at failed
      | error other =>
        simp only [List.mapM_cons, first, others, ok_bind, error_bind] at failed
        obtain ⟨later, inside, result⟩ := ih (others.trans failed)
        exact ⟨later, List.mem_cons_of_mem _ inside, result⟩

/-- What a computation keeps of its item is kept along a sequence. -/
theorem map_eq_of_mapM_eq_ok {γ : Type} {f : α → Except ε β} {items : List α} {results : List β}
    {before : α → γ} {after : β → γ} (kept : ∀ a b, f a = .ok b → after b = before a)
    (done : items.mapM f = .ok results) : results.map after = items.map before := by
  have all := mapM_eq_ok_iff.mp done
  clear done
  induction all with
  | nil => rfl
  | cons first _ ih => rw [List.map_cons, List.map_cons, kept _ _ first, ih]

/-- The results of some of the items are some of the results. -/
theorem filter_of_mapM_eq_ok {p : α → Bool} {q : β → Bool} {f : α → Except ε β} {items : List α}
    {results : List β} (kept : ∀ a b, f a = .ok b → q b = p a)
    (done : items.mapM f = .ok results) : (items.filter p).mapM f = .ok (results.filter q) := by
  have all := mapM_eq_ok_iff.mp done
  clear done
  rw [mapM_eq_ok_iff]
  induction all with
  | nil => exact .nil
  | @cons a b _ _ first _ ih =>
    have same := kept a b first
    by_cases keeps : p a = true
    · rw [List.filter_cons_of_pos keeps, List.filter_cons_of_pos (same.trans keeps)]
      exact .cons first ih
    · rw [List.filter_cons_of_neg keeps, List.filter_cons_of_neg (by rwa [same])]
      exact ih

/-- What the result of a computation is to its item, the results of a sequence are to its items. -/
theorem forall₂_of_mapM_eq_ok {R : β → α → Prop} {f : α → Except ε β} {items : List α}
    {results : List β} (done : items.mapM f = .ok results)
    (each : ∀ a ∈ items, ∀ b, f a = .ok b → R b a) : List.Forall₂ R results items := by
  have all := mapM_eq_ok_iff.mp done
  clear done
  induction all with
  | nil => exact .nil
  | cons first _ ih =>
    exact .cons (each _ List.mem_cons_self _ first)
      (ih fun a inside => each a (List.mem_cons_of_mem _ inside))

/-- What holds between items holds between their results, if the computations carry it over. -/
theorem pairwise_of_mapM_eq_ok {R : α → α → Prop} {S : β → β → Prop} {f : α → Except ε β}
    {items : List α} {results : List β} (done : items.mapM f = .ok results)
    (apart : items.Pairwise R)
    (kept : ∀ a ∈ items, ∀ b ∈ items, R a b → ∀ c d, f a = .ok c → f b = .ok d → S c d) :
    results.Pairwise S := by
  induction items generalizing results with
  | nil =>
    cases done
    exact .nil
  | cons a rest ih =>
    simp only [List.mapM_cons, bind_eq_ok_iff, pure_eq_ok_iff] at done
    obtain ⟨c, first, others, done, rfl⟩ := done
    obtain ⟨ahead, apart⟩ := List.pairwise_cons.mp apart
    refine .cons (fun d inside => ?_) (ih done apart fun b within e later =>
      kept b (List.mem_cons_of_mem _ within) e (List.mem_cons_of_mem _ later))
    obtain ⟨b, within, result⟩ := mem_of_mapM_eq_ok done inside
    exact kept a List.mem_cons_self b (List.mem_cons_of_mem _ within) (ahead b within) c d first
      result

theorem mapM_succeeds_iff {f : α → Except ε β} {items : List α} :
    (∃ results, items.mapM f = .ok results) ↔ ∀ a ∈ items, ∃ b, f a = .ok b := by
  constructor
  · rintro ⟨results, done⟩ a member
    obtain ⟨b, _, result⟩ := result_mem_of_mapM_eq_ok done member
    exact ⟨b, result⟩
  · intro each
    induction items with
    | nil => exact ⟨[], rfl⟩
    | cons a rest ih =>
      obtain ⟨b, first⟩ := each a List.mem_cons_self
      obtain ⟨bs, others⟩ := ih fun a member => each a (List.mem_cons_of_mem _ member)
      exact ⟨b :: bs, by simp [List.mapM_cons, first, others]⟩

end Except
