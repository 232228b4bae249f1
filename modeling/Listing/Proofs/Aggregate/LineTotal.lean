import Listing.Proofs.Aggregate.Joining
import Listing.Proofs.Aggregate.Textual
import Mathlib.Algebra.Order.BigOperators.Group.List
import Mathlib.Algebra.Order.Ring.Nat

/-!
How far the lines that an aggregation counts are those of its text. A source is counted with all its
lines, but it is trimmed before it is joined, and each line feed in the whitespace around it is one
line that the text does not get. So the count is exact if no source has blank lines at its ends,
which is always so where blank lines go.
-/

namespace Listing

namespace Text

/-- The line feeds in the whitespace at the two ends of a text. -/
def outerFeeds (t : Text) : Nat :=
  (t.takeWhile isSpace).count '\n' + (t.reverse.takeWhile isSpace).count '\n'

theorem takeWhile_reverse_trimStart (t : Text) (solid : t.isBlank = false) :
    (trimStart t).reverse.takeWhile isSpace = t.reverse.takeWhile isSpace := by
  have split : t.reverse = (trimStart t).reverse ++ (t.takeWhile isSpace).reverse := by
    rw [← List.reverse_append, trimStart, List.takeWhile_append_dropWhile]
  have inner : ¬((trimStart t).reverse.takeWhile isSpace).length =
      (trimStart t).reverse.length := by
    intro whole
    have all := (List.takeWhile_prefix isSpace).eq_of_length whole
    rw [List.takeWhile_eq_self_iff, ← List.all_eq_true, List.all_reverse] at all
    change isBlank (trimStart t) = true at all
    rw [isBlank_trimStart, solid] at all
    cases all
  rw [split, List.takeWhile_append, if_neg inner]

theorem count_trim (c : Char) (t : Text) (solid : t.isBlank = false) :
    t.count c = (trim t).count c +
      ((t.takeWhile isSpace).count c + (t.reverse.takeWhile isSpace).count c) := by
  have start : t.count c = (t.takeWhile isSpace).count c + (trimStart t).count c := by
    rw [← List.count_append, trimStart, List.takeWhile_append_dropWhile]
  have stop : (trimStart t).count c =
      ((trimStart t).reverse.takeWhile isSpace).count c + (trim t).count c := by
    rw [trim, trimEnd, List.count_reverse, ← List.count_append, List.takeWhile_append_dropWhile,
      List.count_reverse]
  rw [takeWhile_reverse_trimStart t solid] at stop
  omega

theorem length_lines_trim (t : Text) (solid : t.isBlank = false) :
    t.lines.length = t.trim.lines.length + t.outerFeeds := by
  rw [length_lines, length_lines, count_trim '\n' t solid, outerFeeds]
  omega

theorem length_flatMap_lines (ts : List Text) (solid : ∀ t ∈ ts, t.isBlank = false) :
    (ts.flatMap lines).length = ((ts.map trim).flatMap lines).length + (ts.map outerFeeds).sum := by
  induction ts with
  | nil => rfl
  | cons t rest ih =>
    obtain ⟨first, others⟩ := List.forall_mem_cons.1 solid
    have head := length_lines_trim t first
    have tail := ih others
    rw [List.map_cons, List.map_cons, List.flatMap_cons, List.flatMap_cons, List.sum_cons,
      List.length_append, List.length_append]
    omega

end Text

namespace Aggregate

variable (switches : Switches)

theorem totalLines_summary (compact : switches.dropBlankLines = true) (sources : List Source) :
    (summary switches sources).totalLines = (summary switches sources).content.rows.length := by
  rw [rows_summary switches compact sources]
  simp only [summary, List.length_flatMap, List.length_modifyHead]

variable (sources : List Source)

/-- The lines that are counted are those of the joined text and those that trimming takes. -/
theorem totalLines_eq_rows_add : (summary switches sources).totalLines =
    (summary switches sources).content.rows.length +
      ((pieces switches sources).map Text.outerFeeds).sum := by
  have rows : (summary switches sources).content.rows =
      ((pieces switches sources).map Text.trim).flatMap Text.lines :=
    Text.rows_unlines _ (trim_piece_ne_nil switches sources)
  rw [rows]
  exact Text.length_flatMap_lines _ (piece_not_blank switches sources)

/-- Sources that are texts are always joined. The lines that are counted are those of the joined
text, and one more for each line feed in the whitespace around a text that is added; so the count is
exact if and only if there is none, as where blank lines go. -/
theorem ofSources_totalLines (textual : ∀ s ∈ sources, s.Textual) :
    ∃ a, ofSources switches sources = .ok a ∧
      a.totalLines = a.content.rows.length +
        ((pieces switches sources).map Text.outerFeeds).sum ∧
      (a.totalLines = a.content.rows.length ↔
        ∀ t ∈ pieces switches sources, t.outerFeeds = 0) ∧
      (switches.dropBlankLines = true → a.totalLines = a.content.rows.length) := by
  have total := totalLines_eq_rows_add switches sources
  refine ⟨_, ofSources_textual sources textual switches, total, ?_, fun compact =>
    totalLines_summary switches compact sources⟩
  rw [total]
  calc _ ↔ ((pieces switches sources).map Text.outerFeeds).sum = 0 := by omega
    _ ↔ ∀ t ∈ pieces switches sources, t.outerFeeds = 0 := by
      rw [List.sum_eq_zero_iff, List.forall_mem_map]

/-- Where blank lines stay, a text that ends in a line feed is counted with a line too many. -/
theorem totalLines_differs :
    ∃ a, ofSources ⟨true, false⟩
        [⟨.text "a.py".toList, .text "python-style".toList, .text "a = 1\n".toList⟩] = .ok a ∧
      a.content = "a = 1".toList ∧ a.content.rows.length = 1 ∧ a.totalLines = 2 := by
  refine ⟨_, ofSources_textual _ ?textual _, by decide +kernel, by decide +kernel,
    by decide +kernel⟩
  rw [List.forall_mem_singleton]
  exact ⟨⟨_, rfl⟩, _, rfl⟩

/-- A comment above the code leaves a blank line at the start of a text, and another text has a
blank line at its end; with blank lines gone the count is exact. -/
theorem ofSources_totalLines_comment_above :
    let sources : List Source :=
      [⟨.text "a.py".toList, .text "python-style".toList, .text "# a\nx = 1".toList⟩,
        ⟨.text "b".toList, .text "none".toList, .text "b\n\nc\n \n".toList⟩]
    (∀ s ∈ sources, s.Textual) ∧
      (∃ a, ofSources ⟨true, false⟩ sources = .ok a ∧ a.totalLines = a.content.rows.length + 3) ∧
      ∃ a, ofSources ⟨true, true⟩ sources = .ok a ∧ a.totalLines = a.content.rows.length := by
  intro sources
  have textual : ∀ s ∈ sources, s.Textual := by
    rw [List.forall_mem_cons, List.forall_mem_singleton]
    exact ⟨⟨⟨_, rfl⟩, _, rfl⟩, ⟨_, rfl⟩, _, rfl⟩
  obtain ⟨kept, joined, total, _⟩ := ofSources_totalLines ⟨true, false⟩ sources textual
  obtain ⟨gone, without, _, _, same⟩ := ofSources_totalLines ⟨true, true⟩ sources textual
  have feeds : ((pieces ⟨true, false⟩ sources).map Text.outerFeeds).sum = 3 := by decide +kernel
  rw [feeds] at total
  exact ⟨textual, ⟨kept, joined, total⟩, gone, without, same rfl⟩

end Aggregate

end Listing
