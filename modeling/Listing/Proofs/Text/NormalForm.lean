import Listing.Proofs.Text.Content

/-!
The normal form of a text without blank lines. Its rows are the content lines of the text it comes
from, none of them blank or with whitespace at its end. The texts of that form are those that
dropping blank lines leaves as they are, and texts one below the other come to their normal forms
one below the other.
-/

namespace Listing.Text

/-- No row of a text is blank, and none ends in whitespace. -/
def IsCompact (t : Text) : Prop :=
  ∀ line ∈ t.rows, line.isBlank = false ∧ ∀ c, line.getLast? = some c → isSpace c = false

theorem unlines_rows (t : Text) : unlines t.rows = t := by
  unfold rows
  split_ifs with empty
  · exact empty.symm
  · exact List.intercalate_splitOn '\n'

theorem rows_dropBlankLines (t : Text) : (dropBlankLines t).rows = contentLines t := by
  by_cases empty : contentLines t = []
  · rw [dropBlankLines_eq_unlines, empty]
    rfl
  · have some : dropBlankLines t ≠ [] := by
      rw [dropBlankLines_eq_unlines, ne_eq, unlines_eq_nil_iff _ (contentLines_not_blank t)]
      exact empty
    rw [rows, if_neg some, lines_dropBlankLines t empty]

theorem isCompact_dropBlankLines (t : Text) : (dropBlankLines t).IsCompact := by
  intro line inside
  rw [rows_dropBlankLines] at inside
  have solid := solid_contentLines t line inside
  exact ⟨solid.not_blank, (trimEnd_eq_self_iff line).1 solid.trimmed⟩

theorem IsCompact.contentLines_eq {t : Text} (compact : t.IsCompact) : contentLines t = t.rows := by
  by_cases empty : t = []
  · rw [empty]
    rfl
  · have every : t.rows = t.lines := if_neg empty
    unfold IsCompact at compact
    rw [every] at compact ⊢
    have kept : (t.lines.filter fun line => !line.isBlank) = t.lines := by
      rw [List.filter_eq_self]
      intro line inside
      rw [(compact line inside).1]
      rfl
    calc contentLines t = t.lines.map trimEnd := by rw [contentLines, kept]
      _ = t.lines.map id := List.map_congr_left fun line inside =>
          (trimEnd_eq_self_iff line).2 (compact line inside).2
      _ = t.lines := List.map_id _

theorem dropBlankLines_eq_self_iff (t : Text) : dropBlankLines t = t ↔ t.IsCompact := by
  constructor
  · intro same
    rw [← same]
    exact isCompact_dropBlankLines t
  · intro compact
    rw [dropBlankLines_eq_unlines, compact.contentLines_eq, unlines_rows]

theorem stack_eq_unlines (upper lower : Text) :
    stack upper lower = unlines ([upper, lower].filter fun part => !part.isEmpty) := by
  cases upper with
  | nil =>
    cases lower with
    | nil => rfl
    | cons d lower => exact (unlines_singleton (d :: lower)).symm
  | cons c upper =>
    cases lower with
    | nil => exact (unlines_singleton (c :: upper)).symm
    | cons d lower =>
      change (c :: upper) ++ '\n' :: (d :: lower) = unlines [c :: upper, d :: lower]
      rw [unlines_cons_cons, unlines_singleton]

theorem dropBlankLines_append_newline (t u : Text) :
    dropBlankLines (t ++ '\n' :: u) = stack (dropBlankLines t) (dropBlankLines u) := by
  rw [dropBlankLines_eq_unlines, dropBlankLines_eq_unlines, dropBlankLines_eq_unlines,
    contentLines_append_newline]
  exact unlines_append _ _ (contentLines_not_blank t) (contentLines_not_blank u)

/-- Dropping blank lines keeps the other lines in their order, without the whitespace at their ends.
The cap on line feeds has nothing left to do, the result is in normal form, and texts one below the
other give the results that are not empty, one below the other. -/
theorem dropBlankLines_keeps (t : Text) :
    ((∃ line ∈ t.lines, line.isBlank = false) → (dropBlankLines t).lines =
        (t.lines.filter fun line => !line.isBlank).map trimEnd) ∧
      ((∀ line ∈ t.lines, line.isBlank = true) → dropBlankLines t = []) ∧
      capNewlines 0 (unlines (contentLines t)) = unlines (contentLines t) ∧
      (dropBlankLines t).IsCompact ∧
      dropBlankLines (dropBlankLines t) = dropBlankLines t ∧
      ∀ u, dropBlankLines (t ++ '\n' :: u) =
        unlines ([dropBlankLines t, dropBlankLines u].filter fun part => !part.isEmpty) := by
  have compact := isCompact_dropBlankLines t
  refine ⟨?kept, ?gone, capNewlines_unlines 0 _ (solid_contentLines t), compact,
    (dropBlankLines_eq_self_iff _).2 compact, ?joined⟩
  case kept =>
    rintro ⟨line, inside, solid⟩
    apply lines_dropBlankLines t
    intro empty
    rw [(contentLines_eq_nil_iff_lines t).1 empty line inside] at solid
    cases solid
  case gone =>
    intro blank
    rw [dropBlankLines_eq_unlines, (contentLines_eq_nil_iff_lines t).2 blank]
    rfl
  case joined =>
    intro u
    rw [dropBlankLines_append_newline, stack_eq_unlines]

/-- Blank lines of other whitespace, a line with a carriage return at its end, and a text of blank
lines only. -/
theorem dropBlankLines_keeps_returns :
    (∃ line ∈ Text.lines "\n a \r\n\u2003\n\n\nb\n".toList, line.isBlank = false) ∧
      (dropBlankLines "\n a \r\n\u2003\n\n\nb\n".toList).lines = [" a".toList, "b".toList] ∧
      (∀ line ∈ Text.lines "\u0085\n\t".toList, line.isBlank = true) ∧
      dropBlankLines "\u0085\n\t".toList = [] := by
  have solid : ∃ line ∈ Text.lines "\n a \r\n\u2003\n\n\nb\n".toList, line.isBlank = false :=
    ⟨"b".toList, by decide, by decide⟩
  have blank : ∀ line ∈ Text.lines "\u0085\n\t".toList, line.isBlank = true := by decide
  have kept := (dropBlankLines_keeps "\n a \r\n\u2003\n\n\nb\n".toList).1 solid
  exact ⟨solid, kept.trans (by decide), blank, (dropBlankLines_keeps _).2.1 blank⟩

end Listing.Text
