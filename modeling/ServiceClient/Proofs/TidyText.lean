import Mathlib.Data.List.DropRight
import ServiceClient.Text.Tidy

/-!
The tidy form of a text as a normal form. A text is a row of blocks, each a line that is not blank
with the blank lines before it, and after them blank lines. Of a block the tidy form keeps the line
without the white space at its end and at most two empty lines; what comes after the blocks becomes
one line feed. A tidy text is laid out in tidy blocks, so it is its own tidy form.
-/

namespace ServiceClient.Text

/-- All characters are white space, if there are any. -/
def IsWhite (cs : List Char) : Prop := ∀ c ∈ cs, isBlank c = true

/-- The last character is there and is no white space. -/
def EndsInk (cs : List Char) : Prop := ∃ c, cs.getLast? = some c ∧ isBlank c = false

/-- A line that is not blank, with the blank lines before it. -/
structure Block where
  blanks : List (List Char)
  /-- The line without the white space at its end. -/
  line : List Char
  /-- The white space at the end of the line. -/
  trail : List Char
  blanks_white : ∀ blank ∈ blanks, IsWhite blank
  line_ends : EndsInk line
  trail_white : IsWhite trail

namespace Block

/-- The lines of a block as they stand in a text. -/
def lines (b : Block) : List (List Char) := b.blanks ++ [b.line ++ b.trail]

/-- What is kept of the lines of a block. -/
def kept (b : Block) : List (List Char) :=
  List.replicate (min b.blanks.length 2) [] ++ [b.line]

theorem line_ne_nil (b : Block) : b.line ≠ [] := by
  obtain ⟨c, last, -⟩ := b.line_ends
  rintro empty
  simp [empty] at last

/-- The block that is left of a block. -/
def tidy (b : Block) : Block where
  blanks := List.replicate (min b.blanks.length 2) []
  line := b.line
  trail := []
  blanks_white := by
    intro blank listed
    rw [List.eq_of_mem_replicate listed]
    simp [IsWhite]
  line_ends := b.line_ends
  trail_white := by simp [IsWhite]

theorem lines_tidy (b : Block) : b.tidy.lines = b.kept := by
  simp [lines, kept, tidy]

theorem kept_tidy (b : Block) : b.tidy.kept = b.kept := by
  simp [kept, tidy]

end Block

/-- The lines of a text as blocks and the blank lines after the last of them. -/
structure Layout (text : String) where
  blocks : List Block
  rest : List (List Char)
  rest_white : ∀ line ∈ rest, IsWhite line
  lines_eq : splitOn '\n' text.toList = blocks.flatMap Block.lines ++ rest

/-! ### Every text has a layout -/

theorem isWhite_or_endsInk (line : List Char) :
    IsWhite line ∨ ∃ ink trail, line = ink ++ trail ∧ EndsInk ink ∧ IsWhite trail := by
  by_cases white : IsWhite line
  · exact .inl white
  · have some : line.rdropWhile isBlank ≠ [] := fun none =>
      white (List.rdropWhile_eq_nil_iff.mp none)
    refine .inr ⟨line.rdropWhile isBlank, line.rtakeWhile isBlank,
      List.rdropWhile_append_rtakeWhile.symm, ⟨_, List.getLast?_eq_some_getLast some, ?_⟩, ?_⟩
    · simpa using List.rdropWhile_last_not isBlank line some
    · exact fun c inside => List.mem_rtakeWhile_imp inside

theorem exists_blocks (lines : List (List Char)) :
    ∃ (blocks : List Block) (rest : List (List Char)), (∀ line ∈ rest, IsWhite line) ∧
      lines = blocks.flatMap Block.lines ++ rest := by
  induction lines with
  | nil => exact ⟨[], [], by simp, rfl⟩
  | cons line later ih =>
    obtain ⟨blocks, rest, white, rfl⟩ := ih
    rcases isWhite_or_endsInk line with blank | ⟨ink, trail, rfl, ends, trailing⟩
    · -- a blank line goes to the block after it, if there is one
      cases blocks with
      | nil => exact ⟨[], line :: rest, List.forall_mem_cons.mpr ⟨blank, white⟩, rfl⟩
      | cons b more =>
        let wider : Block := { b with
          blanks := line :: b.blanks
          blanks_white := List.forall_mem_cons.mpr ⟨blank, b.blanks_white⟩ }
        exact ⟨wider :: more, rest, white, by simp [wider, Block.lines]⟩
    · let first : Block :=
        { blanks := [], line := ink, trail, blanks_white := by simp, line_ends := ends,
          trail_white := trailing }
      exact ⟨first :: blocks, rest, white, by simp [first, Block.lines]⟩

theorem exists_layout (text : String) : Nonempty (Layout text) := by
  obtain ⟨blocks, rest, white, lines⟩ := exists_blocks (splitOn '\n' text.toList)
  exact ⟨⟨blocks, rest, white, lines⟩⟩

/-! ### The tidy form of a layout -/

theorem getLast?_joinWith {sep : Char} {pieces : List (List Char)} {piece : List Char}
    (last : pieces.getLast? = some piece) (some : piece ≠ []) :
    (joinWith sep pieces).getLast? = piece.getLast? := by
  fun_induction joinWith sep pieces with
  | case1 => simp at last
  | case2 only =>
    obtain rfl : only = piece := by simpa using last
    rfl
  | case3 first next more ih =>
    have later := ih (by simpa using last)
    have filled : (joinWith sep (next :: more)).getLast? ≠ none := by
      rw [later]
      simpa using some
    rw [List.getLast?_append, List.getLast?_cons]
    cases ending : (joinWith sep (next :: more)).getLast? with
    | none => exact absurd ending filled
    | some c => simp [← later, ending]

/-- What is dropped from the end stops at an item that stays. -/
theorem rdropWhile_append_of_last {α : Type} {p : α → Bool} {front trail : List α} {last : α}
    (ends : front.getLast? = some last) (stays : p last = false)
    (dropped : ∀ a ∈ trail, p a = true) : (front ++ trail).rdropWhile p = front := by
  obtain ⟨before, rfl⟩ := List.getLast?_eq_some_iff.mp ends
  have all : ∀ a ∈ trail.reverse, p a = true := by simpa using dropped
  rw [List.rdropWhile, List.reverse_append, List.dropWhile_append_of_pos all]
  simp [stays]

theorem dropEnd_of_white {line : List Char} (white : IsWhite line) : dropEnd isBlank line = [] :=
  List.rdropWhile_eq_nil_iff.mpr white

theorem dropEnd_of_ends {ink trail : List Char} (ends : EndsInk ink) (white : IsWhite trail) :
    dropEnd isBlank (ink ++ trail) = ink := by
  obtain ⟨c, last, stays⟩ := ends
  exact rdropWhile_append_of_last last stays white

theorem map_dropEnd_of_white {lines : List (List Char)} (white : ∀ line ∈ lines, IsWhite line) :
    lines.map (dropEnd isBlank) = List.replicate lines.length [] :=
  List.map_eq_replicate_iff.mpr fun line listed => dropEnd_of_white (white line listed)

/-- Of empty lines as many are kept as the run before them leaves free. -/
theorem squeezeEmpty_empties (run n : Nat) (later : List (List Char)) :
    squeezeEmpty run (List.replicate n [] ++ later) =
      List.replicate (min n (2 - run)) [] ++ squeezeEmpty (run + n) later := by
  induction n generalizing run with
  | zero => simp
  | succ n ih =>
    rw [List.replicate_succ, List.cons_append, squeezeEmpty, List.isEmpty_nil, if_pos rfl, ih,
      Nat.add_right_comm]
    by_cases free : run < 2
    · have count : min (n + 1) (2 - run) = min n (2 - (run + 1)) + 1 := by omega
      rw [keptEmptyLines, if_pos free, count, List.replicate_succ, List.cons_append]
      rfl
    · have none : min (n + 1) (2 - run) = min n (2 - (run + 1)) := by omega
      rw [keptEmptyLines, if_neg free, none]
      rfl

theorem squeezeEmpty_line {run : Nat} {line : List Char} (some : line ≠ [])
    (later : List (List Char)) :
    squeezeEmpty run (line :: later) = line :: squeezeEmpty 0 later := by
  simp [squeezeEmpty, some]

theorem squeezeEmpty_blocks (blocks : List Block) (n : Nat) :
    squeezeEmpty 0 ((blocks.flatMap Block.lines).map (dropEnd isBlank) ++ List.replicate n []) =
      blocks.flatMap Block.kept ++ List.replicate (min n 2) [] := by
  induction blocks with
  | nil =>
    have ends := squeezeEmpty_empties 0 n []
    rwa [List.append_nil, squeezeEmpty, List.append_nil] at ends
  | cons b more ih =>
    rw [List.flatMap_cons, List.flatMap_cons, List.map_append, Block.lines, List.map_append,
      map_dropEnd_of_white b.blanks_white, List.map_singleton,
      dropEnd_of_ends b.line_ends b.trail_white, List.append_assoc, List.append_assoc,
      squeezeEmpty_empties, List.singleton_append, squeezeEmpty_line b.line_ne_nil, ih, Block.kept]
    simp

theorem dropEmptyEnd_blocks (blocks : List Block) (n : Nat) :
    dropEmptyEnd (blocks.flatMap Block.kept ++ List.replicate n []) =
      blocks.flatMap Block.kept := by
  have empty : ∀ line ∈ List.replicate n ([] : List Char), line.isEmpty = true := by
    intro line listed
    rw [List.eq_of_mem_replicate listed, List.isEmpty_nil]
  rcases List.eq_nil_or_concat' blocks with rfl | ⟨before, b, rfl⟩
  · exact List.rdropWhile_eq_nil_iff.mpr empty
  · have last : ((before ++ [b]).flatMap Block.kept).getLast? = some b.line := by
      simp [Block.kept]
    exact rdropWhile_append_of_last last (by simp [b.line_ne_nil]) empty

namespace Layout

variable {text : String} (layout : Layout text)

theorem tidyLines_eq :
    tidyLines (splitOn '\n' text.toList) = layout.blocks.flatMap Block.kept := by
  rw [tidyLines, layout.lines_eq, List.map_append, map_dropEnd_of_white layout.rest_white,
    squeezeEmpty_blocks, dropEmptyEnd_blocks]

theorem toList_tidy :
    (Text.tidy text).toList = joinWith '\n' (layout.blocks.flatMap Block.kept) ++ ['\n'] := by
  rw [Text.tidy, layout.tidyLines_eq, String.toList_ofList]

/-- No line holds a line feed. -/
theorem not_mem_kept {line : List Char} (listed : line ∈ layout.blocks.flatMap Block.kept) :
    '\n' ∉ line := by
  obtain ⟨b, block, inside⟩ := List.mem_flatMap.mp listed
  rcases List.mem_append.mp inside with empty | last
  · rw [List.eq_of_mem_replicate empty]
    simp
  · obtain rfl := List.mem_singleton.mp last
    have whole : b.line ++ b.trail ∈ splitOn '\n' text.toList := by
      rw [layout.lines_eq]
      exact List.mem_append_left _ (List.mem_flatMap.mpr ⟨b, block, by simp [Block.lines]⟩)
    exact fun feed => not_mem_of_mem_splitOn whole (List.mem_append_left _ feed)

/-- A tidy text is laid out in the tidy blocks, with an empty line after them, or two if there are no
blocks. -/
theorem lines_of_tidy : ∃ n, splitOn '\n' (Text.tidy text).toList =
    (layout.blocks.map Block.tidy).flatMap Block.lines ++ List.replicate n [] := by
  have lines : (layout.blocks.map Block.tidy).flatMap Block.lines =
      layout.blocks.flatMap Block.kept := by
    rw [List.flatMap_map]
    exact List.flatMap_congr fun b _ => b.lines_tidy
  rw [lines, layout.toList_tidy, splitOn_append_sep]
  by_cases none : layout.blocks.flatMap Block.kept = []
  · exact ⟨2, by rw [none]; rfl⟩
  · exact ⟨1, by rw [splitOn_joinWith none fun line listed => layout.not_mem_kept listed]; rfl⟩

include layout in
/-- A tidy text is its own tidy form. -/
theorem tidy_tidy : Text.tidy (Text.tidy text) = Text.tidy text := by
  obtain ⟨n, lines⟩ := layout.lines_of_tidy
  let again : Layout (Text.tidy text) := {
    blocks := layout.blocks.map Block.tidy
    rest := List.replicate n []
    rest_white := by
      intro line listed
      rw [List.eq_of_mem_replicate listed]
      simp [IsWhite]
    lines_eq := lines }
  have same : again.blocks.flatMap Block.kept = layout.blocks.flatMap Block.kept := by
    show (layout.blocks.map Block.tidy).flatMap Block.kept = _
    rw [List.flatMap_map]
    exact List.flatMap_congr fun b _ => b.kept_tidy
  apply String.toList_injective
  rw [again.toList_tidy, layout.toList_tidy, same]

/-- What stands before the last line feed does not end in another one. -/
theorem getLast?_joinWith_kept :
    (joinWith '\n' (layout.blocks.flatMap Block.kept)).getLast? ≠ some '\n' := by
  rcases List.eq_nil_or_concat' layout.blocks with none | ⟨before, b, shape⟩
  · rw [none]
    simp [joinWith]
  · have last : (layout.blocks.flatMap Block.kept).getLast? = some b.line := by
      rw [shape]
      simp [Block.kept]
    obtain ⟨c, ends, ink⟩ := b.line_ends
    rw [getLast?_joinWith last b.line_ne_nil, ends]
    rintro ⟨⟩
    cases ink

end Layout

/-- The tidy form of a text is a normal form. It keeps the lines that are not blank, in their order
and without the white space at their ends, and before each of them as many empty lines as there were
blank ones, but at most two; it drops the blank lines at the end and ends in one line feed. -/
theorem tidy_isNormalForm (text : String) :
    Nonempty (Layout text) ∧
    (∀ layout : Layout text, ∃ body, (tidy text).toList = body ++ ['\n'] ∧
      body = joinWith '\n' (layout.blocks.flatMap Block.kept) ∧ body.getLast? ≠ some '\n') ∧
    tidy (tidy text) = tidy text := by
  obtain ⟨layout⟩ := exists_layout text
  refine ⟨⟨layout⟩, ?_, layout.tidy_tidy⟩
  intro layout
  exact ⟨_, layout.toList_tidy, rfl, layout.getLast?_joinWith_kept⟩

example : tidy "a  \n\n \n\nb\n\n" = "a\n\n\nb\n" := by decide

end ServiceClient.Text
