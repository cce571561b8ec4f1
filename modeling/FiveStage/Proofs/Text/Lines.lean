import Mathlib.Data.List.Basic
import FiveStage.Text.Blank

/-!
# The lines of a text

Cutting a text into pieces is the splitting of a list at the elements with a property. A text that
is put together from lines has these lines again, up to the carriage returns at their ends and to an
empty last line, so whatever does not look at either sees the same lines.

## Main results

* `words_dropReturn`: a carriage return at the end of a line belongs to no word
* `filterMap_lines`: what can be said about the lines of a joined text
-/

namespace FiveStage.Text

theorem pieces_eq_splitOnP (cut : Char → Bool) (text : List Char) :
    pieces cut text = text.splitOnP cut := by
  induction text with
  | nil => rfl
  | cons c rest ih =>
    rw [pieces, List.splitOnP_cons_eq_if_modifyHead, ih]
    cases split : rest.splitOnP cut with
    | nil => exact absurd split (List.splitOnP_ne_nil _ _)
    | cons piece more => rfl

/-! ### Carriage returns -/

/-- A line is what is left without its carriage return, or that and a carriage return. -/
theorem eq_dropReturn_or (line : List Char) :
    dropReturn line = line ∨ dropReturn line ++ ['\r'] = line := by
  unfold dropReturn
  split
  · next ends => exact .inr (List.dropLast_append_getLast? '\r' ends)
  · exact .inl rfl

theorem words_append_blank {c : Char} (blank : isBlank c = true) (text : List Char) :
    words (text ++ [c]) = words text := by
  simp only [words, pieces_eq_splitOnP, List.splitOnP_append_cons text [] blank,
    List.splitOnP_nil, List.filter_append]
  simp

@[simp] theorem words_dropReturn (line : List Char) : words (dropReturn line) = words line := by
  rcases eq_dropReturn_or line with same | longer
  · rw [same]
  · conv_rhs => rw [← longer]
    exact (words_append_blank rfl _).symm

/-! ### Joined lines -/

/-- The pieces between the line feeds of joined lines are the lines. -/
theorem pieces_intercalate {parts : List String} (some : parts ≠ [])
    (whole : ∀ part ∈ parts, '\n' ∉ part.toList) :
    pieces (· == '\n') ("\n".intercalate parts).toList = parts.map String.toList := by
  rw [pieces_eq_splitOnP, ← List.splitOn_eq_splitOnP, String.toList_intercalate]
  refine List.splitOn_intercalate '\n' ?_ (by simpa using some)
  intro line member
  obtain ⟨part, found, rfl⟩ := List.mem_map.mp member
  exact whole part found

/-- What is collected from the lines of a text is what is collected from the pieces between its line
feeds, provided that nothing comes from an empty line and nothing depends on carriage returns. -/
theorem filterMap_lines_eq_pieces {β : Type} {f : List Char → Option β}
    (blind : ∀ line, f (dropReturn line) = f line) (empty : f [] = none) (text : String) :
    (lines text).filterMap f = (pieces (· == '\n') text.toList).filterMap f := by
  have same : f ∘ dropReturn = f := funext blind
  have nonempty : pieces (· == '\n') text.toList ≠ [] := by
    rw [pieces_eq_splitOnP]
    exact List.splitOnP_ne_nil _ _
  conv_rhs => rw [← List.dropLast_concat_getLast nonempty]
  simp only [lines, List.filterMap_append, List.filterMap_map, same,
    List.getLastD_eq_getLast?, List.getLast?_eq_some_getLast nonempty, Option.getD_some]
  split
  · next last => simp [List.isEmpty_iff.mp last, empty]
  · rfl

theorem filterMap_lines {β : Type} {f : List Char → Option β}
    (blind : ∀ line, f (dropReturn line) = f line) (empty : f [] = none) {parts : List String}
    (whole : ∀ part ∈ parts, '\n' ∉ part.toList) :
    (lines ("\n".intercalate parts)).filterMap f = parts.filterMap (f ∘ String.toList) := by
  rw [filterMap_lines_eq_pieces blind empty]
  by_cases none : parts = []
  · simp [none, pieces, empty]
  · rw [pieces_intercalate none whole, List.filterMap_map]

end FiveStage.Text
