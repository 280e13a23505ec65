/-!
Lists of pairs in the order in which their names first appeared, each name once.
-/

namespace ServiceClient.Pairs

variable {α β : Type} [BEq α]

/-- Puts a pair into a list: a name that is there keeps its place and gets the new value. -/
def insert (name : α) (value : β) : List (α × β) → List (α × β)
  | [] => [(name, value)]
  | (n, v) :: rest => if n == name then (n, value) :: rest else (n, v) :: insert name value rest

/-- Puts pairs over others one after the other. -/
def merge (old new : List (α × β)) : List (α × β) :=
  new.foldl (fun pairs (name, value) => insert name value pairs) old

/-- Pairs with repeated names as pairs with distinct names: the first place and the last value. -/
def distinct (pairs : List (α × β)) : List (α × β) := merge [] pairs

theorem lookup_insert [LawfulBEq α] (key name : α) (value : β) (pairs : List (α × β)) :
    (insert name value pairs).lookup key = if key == name then some value else pairs.lookup key := by
  induction pairs with
  | nil =>
    simp only [insert, List.lookup_cons, List.lookup_nil]
    split <;> simp_all
  | cons pair rest ih =>
    obtain ⟨n, v⟩ := pair
    by_cases h : n = name
    · subst h
      cases hk : key == n <;> simp [insert, List.lookup_cons, hk]
    · have hn : (n == name) = false := by simpa using h
      cases hk : key == n
      · simp [insert, List.lookup_cons, hn, hk, ih]
      · have : key = n := by simpa using hk
        subst this
        simp [insert, hn]

end ServiceClient.Pairs
