/-!
Cutting a sequence of characters at a separator. `splitOn` and `joinWith` undo each other.
-/

namespace ServiceClient.Text

/-- The pieces between the separators, at least one. -/
def splitOn (sep : Char) : List Char → List (List Char)
  | [] => [[]]
  | c :: rest =>
    if c = sep then [] :: splitOn sep rest
    else
      match splitOn sep rest with
      | [] => [[c]]
      | piece :: pieces => (c :: piece) :: pieces

/-- The pieces with a separator between each two. -/
def joinWith (sep : Char) : List (List Char) → List Char
  | [] => []
  | [piece] => piece
  | piece :: next :: pieces => piece ++ sep :: joinWith sep (next :: pieces)

theorem splitOn_ne_nil (sep : Char) (cs : List Char) : splitOn sep cs ≠ [] := by
  cases cs with
  | nil => simp [splitOn]
  | cons c rest => rw [splitOn]; split <;> (try split) <;> simp

theorem joinWith_splitOn (sep : Char) (cs : List Char) : joinWith sep (splitOn sep cs) = cs := by
  induction cs with
  | nil => rfl
  | cons c rest ih =>
    rw [splitOn]
    split
    · rename_i h
      match hs : splitOn sep rest with
      | [] => exact absurd hs (splitOn_ne_nil sep rest)
      | piece :: pieces => rw [hs] at ih; simp [joinWith, ih, h]
    · match hs : splitOn sep rest with
      | [] => exact absurd hs (splitOn_ne_nil sep rest)
      | [piece] => rw [hs] at ih; simp_all [joinWith]
      | piece :: next :: pieces => rw [hs] at ih; simp_all [joinWith]

theorem splitOn_of_not_mem {sep : Char} {cs : List Char} (absent : sep ∉ cs) :
    splitOn sep cs = [cs] := by
  induction cs with
  | nil => rfl
  | cons c rest ih =>
    have other : ¬ c = sep := fun same => absent (same ▸ List.mem_cons_self)
    have later := ih fun inside => absent (List.mem_cons_of_mem c inside)
    rw [splitOn, if_neg other, later]

theorem not_mem_of_mem_splitOn {sep : Char} {cs piece : List Char} (listed : piece ∈ splitOn sep cs) :
    sep ∉ piece := by
  induction cs generalizing piece with
  | nil =>
    rw [splitOn, List.mem_singleton] at listed
    simp [listed]
  | cons c rest ih =>
    rw [splitOn] at listed
    split at listed
    next =>
      rcases List.mem_cons.mp listed with rfl | later
      · simp
      · exact ih later
    next other =>
      cases pieces : splitOn sep rest with
      | nil => exact absurd pieces (splitOn_ne_nil sep rest)
      | cons first more =>
        rw [pieces] at listed
        rcases List.mem_cons.mp listed with rfl | later
        · have absent : sep ∉ first := ih (pieces ▸ List.mem_cons_self)
          simp [absent, Ne.symm other]
        · exact ih (pieces ▸ List.mem_cons_of_mem first later)

theorem splitOn_append {sep : Char} {piece : List Char} (absent : sep ∉ piece) (rest : List Char) :
    splitOn sep (piece ++ sep :: rest) = piece :: splitOn sep rest := by
  induction piece with
  | nil => rw [List.nil_append, splitOn, if_pos rfl]
  | cons c more ih =>
    have other : ¬ c = sep := fun same => absent (same ▸ List.mem_cons_self)
    have later := ih fun inside => absent (List.mem_cons_of_mem c inside)
    rw [List.cons_append, splitOn, if_neg other, later]

/-- What a text has before a separator and after it is split on its own. -/
theorem splitOn_append_sep (sep : Char) (before after : List Char) :
    splitOn sep (before ++ sep :: after) = splitOn sep before ++ splitOn sep after := by
  induction before with
  | nil => simp [splitOn]
  | cons c more ih =>
    rw [List.cons_append, splitOn, splitOn, ih]
    by_cases same : c = sep
    · rw [if_pos same, if_pos same, List.cons_append]
    · rw [if_neg same, if_neg same]
      cases pieces : splitOn sep more with
      | nil => exact absurd pieces (splitOn_ne_nil sep more)
      | cons piece others => rfl

/-- The last piece is what follows the last separator. -/
theorem getLast?_splitOn {sep : Char} {start last : List Char}
    (ends : start = [] ∨ start.getLast? = some sep) (absent : sep ∉ last) :
    (splitOn sep (start ++ last)).getLast? = some last := by
  rcases ends with rfl | ends
  · rw [List.nil_append, splitOn_of_not_mem absent]
    rfl
  · obtain ⟨before, rfl⟩ := List.getLast?_eq_some_iff.mp ends
    rw [List.append_assoc, List.singleton_append, splitOn_append_sep, splitOn_of_not_mem absent,
      List.getLast?_concat]

/-- Every text is what stands up to its last separator, and what follows it. -/
theorem exists_last_piece (sep : Char) (cs : List Char) :
    ∃ start last, cs = start ++ last ∧ (start = [] ∨ start.getLast? = some sep) ∧ sep ∉ last := by
  by_cases inside : sep ∈ cs
  · obtain ⟨after, before, shape, absent⟩ :=
      List.eq_append_cons_of_mem (List.mem_reverse.mpr inside)
    refine ⟨before.reverse ++ [sep], after.reverse, ?_, .inr (List.getLast?_concat ..), ?_⟩
    · rw [← List.reverse_reverse cs, shape]
      simp
    · rwa [List.mem_reverse]
  · exact ⟨[], cs, rfl, .inl rfl, inside⟩

/-- Every text is what stands before its first separator, and the rest from there on. -/
theorem exists_first_piece (sep : Char) (cs : List Char) :
    ∃ head rest, cs = head ++ rest ∧ sep ∉ head ∧ (rest = [] ∨ rest.head? = some sep) := by
  by_cases inside : sep ∈ cs
  · obtain ⟨before, after, shape, absent⟩ := List.eq_append_cons_of_mem inside
    exact ⟨before, sep :: after, shape, absent, .inr rfl⟩
  · exact ⟨cs, [], (List.append_nil cs).symm, inside, .inl rfl⟩

theorem splitOn_joinWith {sep : Char} {pieces : List (List Char)} (some : pieces ≠ [])
    (absent : ∀ piece ∈ pieces, sep ∉ piece) : splitOn sep (joinWith sep pieces) = pieces := by
  induction pieces with
  | nil => exact absurd rfl some
  | cons piece more ih =>
    have first := absent piece List.mem_cons_self
    cases more with
    | nil => exact splitOn_of_not_mem first
    | cons next others =>
      have later := ih (by simp) fun p inside => absent p (List.mem_cons_of_mem piece inside)
      rw [joinWith, splitOn_append first, later]

theorem mem_joinWith {sep c : Char} {pieces : List (List Char)} (inside : c ∈ joinWith sep pieces) :
    c = sep ∨ ∃ piece ∈ pieces, c ∈ piece := by
  fun_induction joinWith sep pieces with
  | case1 => cases inside
  | case2 piece => exact .inr ⟨piece, List.mem_cons_self, inside⟩
  | case3 piece next more ih =>
    rcases List.mem_append.mp inside with first | later
    · exact .inr ⟨piece, List.mem_cons_self, first⟩
    · rcases List.mem_cons.mp later with same | later
      · exact .inl same
      · rcases ih later with same | ⟨other, listed, within⟩
        · exact .inl same
        · exact .inr ⟨other, List.mem_cons_of_mem piece listed, within⟩

/-- What stands before the first separator, and what follows it if there is one. -/
def cut (sep : Char) : List Char → List Char × Option (List Char)
  | [] => ([], none)
  | c :: rest =>
    if c = sep then ([], some rest)
    else
      let (before, after) := cut sep rest
      (c :: before, after)

theorem cut_of_not_mem {sep : Char} {cs : List Char} (absent : sep ∉ cs) : cut sep cs = (cs, none) := by
  induction cs with
  | nil => rfl
  | cons c rest ih =>
    have other : ¬ c = sep := fun same => absent (same ▸ List.mem_cons_self)
    have later := ih fun inside => absent (List.mem_cons_of_mem c inside)
    rw [cut, if_neg other, later]

theorem cut_append {sep : Char} {before : List Char} (absent : sep ∉ before) (after : List Char) :
    cut sep (before ++ sep :: after) = (before, some after) := by
  induction before with
  | nil => rw [List.nil_append, cut, if_pos rfl]
  | cons c more ih =>
    have other : ¬ c = sep := fun same => absent (same ▸ List.mem_cons_self)
    have later := ih fun inside => absent (List.mem_cons_of_mem c inside)
    rw [List.cons_append, cut, if_neg other, later]

theorem cut_of_first {sep : Char} {head rest : List Char} (absent : sep ∉ head)
    (starts : rest = [] ∨ rest.head? = some sep) : (cut sep (head ++ rest)).1 = head := by
  rcases starts with rfl | starts
  · rw [List.append_nil, cut_of_not_mem absent]
  · obtain ⟨after, rfl⟩ := List.head?_eq_some_iff.mp starts
    rw [cut_append absent]

/-- A text cut at its first separator. -/
def cutString (sep : Char) (s : String) : String × Option String :=
  let (before, after) := cut sep s.toList
  (String.ofList before, after.map String.ofList)

theorem cutString_of_not_mem {sep : Char} {s : String} (absent : sep ∉ s.toList) :
    cutString sep s = (s, none) := by
  rw [cutString, cut_of_not_mem absent]
  simp

theorem cutString_append {sep : Char} {before : String} (absent : sep ∉ before.toList)
    (after : String) :
    cutString sep (before ++ String.singleton sep ++ after) = (before, some after) := by
  have characters : (before ++ String.singleton sep ++ after).toList =
      before.toList ++ sep :: after.toList := by simp
  rw [cutString, characters, cut_append absent]
  simp

/-- The rest of `cs` after `start`, if it starts so. -/
def dropStart? : List Char → List Char → Option (List Char)
  | [], cs => some cs
  | _ :: _, [] => none
  | p :: ps, c :: cs => if p = c then dropStart? ps cs else none

/-- Texts with a separating text between each two. -/
def intercalate (sep : String) (parts : List String) : String :=
  sep.intercalate parts

theorem toList_intercalate (sep : Char) (parts : List String) :
    (intercalate (String.singleton sep) parts).toList = joinWith sep (parts.map String.toList) := by
  rw [intercalate, String.toList_intercalate, String.toList_singleton]
  induction parts with
  | nil => rfl
  | cons part more ih =>
    cases more with
    | nil => simp [joinWith]
    | cons next others =>
      simp only [List.map_cons, List.intercalate_cons_cons, joinWith] at ih ⊢
      rw [ih, List.append_assoc, List.singleton_append]

end ServiceClient.Text
