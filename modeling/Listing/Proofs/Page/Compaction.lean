import Listing.Proofs.Page.Agreement
import Listing.Proofs.Text.Content

/-!
Blank lines and the whitespace at the end of lines have no part in a layout. A text without them is
cut into the same pages, the same sections are selected of it, and they are laid out with the same
units, the ends of their lines aside. So whoever lays a text out may drop its blank lines first.
-/

namespace Listing

def compactLines (lines : List Text) : List Text := (contentOf lines).map Text.trimEnd

theorem contentOf_compactLines (lines : List Text) :
    contentOf (compactLines lines) = compactLines lines := by
  rw [contentOf, List.filter_eq_self]
  intro line inside
  obtain ⟨source, kept, rfl⟩ := List.mem_map.1 inside
  rw [Text.isBlank_trimEnd]
  exact (List.mem_filter.1 kept).2

theorem contentOf_lines_eq_nil_iff (t : Text) : contentOf t.lines = [] ↔ t.isBlank = true := by
  rw [← Text.contentLines_eq_nil_iff]
  exact List.map_eq_nil_iff.symm

theorem total_lines_eq_zero_iff (t : Text) (size : Nat) (pos : 0 < size) :
    (distribute t.lines size).total = 0 ↔ t.isBlank = true := by
  rw [total_distribute_eq_zero_iff _ _ pos, contentOf_lines_eq_nil_iff]

theorem lines_dropBlankLines_compact (t : Text) (solid : t.isBlank = false) :
    t.dropBlankLines.lines = compactLines t.lines := by
  apply Text.lines_dropBlankLines t
  rw [ne_eq, Text.contentLines_eq_nil_iff, solid]
  exact Bool.false_ne_true

def Section.compact (s : Section) : Section := { s with lines := compactLines s.lines }

def SectionLayout.trimLines (l : SectionLayout) : SectionLayout :=
  { l with units := l.units.map (LayoutUnit.map Text.trimEnd) }

def Document.trimLines (d : Document) : Document :=
  { d with sections := d.sections.map SectionLayout.trimLines }

theorem unitsFrom_map_trimEnd (size filled : Nat) (lines : List Text) :
    unitsFrom size filled (lines.map Text.trimEnd) =
      (unitsFrom size filled lines).map (LayoutUnit.map Text.trimEnd) := by
  induction lines generalizing filled with
  | nil => rfl
  | cons line rest ih =>
    rw [List.map_cons, unitsFrom, unitsFrom, Text.isBlank_trimEnd]
    split_ifs with blank full
    · exact ih filled
    · rw [ih, List.map_cons, List.map_cons]
      rfl
    · rw [ih, List.map_cons]
      rfl

theorem Section.layout_compact (s : Section) (size : Nat) :
    s.compact.layout size = (s.layout size).trimLines := by
  have units : unitsFrom size 0 (compactLines s.lines) =
      (unitsFrom size 0 s.lines).map (LayoutUnit.map Text.trimEnd) := by
    rw [compactLines, unitsFrom_map_trimEnd, unitsFrom_contentOf]
  have count : (contentOf (compactLines s.lines)).length = (contentOf s.lines).length := by
    rw [contentOf_compactLines, compactLines, List.length_map]
  rw [Section.layout_eq, Section.layout_eq, SectionLayout.trimLines, Section.compact, count, units,
    renderedPages_map]

namespace Distribution

variable (lines : List Text) (size : Nat) (pos : 0 < size)

include pos in
theorem map_lines_compact :
    (distribute (compactLines lines) size).pages.map Page.lines =
      ((distribute lines size).pages.map Page.lines).map (List.map Text.trimEnd) := by
  rw [map_lines_distribute _ size pos, map_lines_distribute _ size pos, contentOf_compactLines,
    compactLines, chunks_map]

include pos in
theorem total_compact :
    (distribute (compactLines lines) size).total = (distribute lines size).total := by
  rw [total_distribute _ size pos, total_distribute _ size pos, contentOf_compactLines,
    compactLines, List.length_map]

include pos in
theorem joined_compact (run : Int × Int) :
    (distribute (compactLines lines) size).joined run =
      ((distribute lines size).joined run).compact := by
  have runs : ((distribute (compactLines lines) size).run run.1 run.2).map Page.lines =
      (((distribute lines size).run run.1 run.2).map Page.lines).map (List.map Text.trimEnd) := by
    simp only [Distribution.run, List.map_take, List.map_drop, map_lines_compact lines size pos]
  have held : ((distribute (compactLines lines) size).run run.1 run.2).flatMap Page.lines =
      compactLines (((distribute lines size).run run.1 run.2).flatMap Page.lines) := by
    rw [List.flatMap_def, runs, compactLines, contentOf_flatMap_run lines size pos,
      List.flatMap_def, List.map_flatten]
  rw [joined, joined, Section.compact, held]

include pos in
theorem select_compact (mode : PageMode) (range : Value) :
    (distribute (compactLines lines) size).select mode range (some (compactLines lines)) =
      ((distribute lines size).select mode range (some lines)).map (List.map Section.compact) := by
  have total := total_compact lines size pos
  have joins := joined_compact lines size pos
  have whole : (distribute (compactLines lines) size).wholeSection (some (compactLines lines)) =
      ((distribute lines size).wholeSection (some lines)).map (List.map Section.compact) := by
    rw [wholeSection, wholeSection, total]
    rfl
  cases mode with
  | all => exact whole
  | partialEdges =>
    rw [select, select, total]
    split_ifs with long
    · rw [edgeSections_eq_ok _ long, edgeSections_eq_ok _ (by rw [total]; exact long), joins, joins,
        total]
      rfl
    · exact whole
  | custom =>
    rw [select, select, rangeSections_eq, rangeSections_eq, total]
    cases rangeRuns (distribute lines size).total range with
    | error e => rfl
    | ok runs => simp [Except.map, joins]

end Distribution

/-- A text may lose its blank lines before it is laid out: the document is the same but for the
whitespace at the end of its lines, and so is the failure if there is none. -/
theorem paginate_dropBlankLines (content : Text) (request : Request) :
    paginate content.dropBlankLines request =
      (paginate content request).map Document.trimLines := by
  have pos := request.pageSize_pos
  rw [paginate_eq, paginate_eq]
  cases solid : content.isBlank with
  | true =>
    have none := (total_lines_eq_zero_iff content _ pos).2 solid
    have compact := (total_lines_eq_zero_iff content.dropBlankLines _ pos).2
      ((Text.isBlank_dropBlankLines content).trans solid)
    rw [if_pos compact, if_pos none]
    rfl
  | false =>
    have filled : ¬(distribute content.lines request.pageSize).total = 0 := by
      rw [total_lines_eq_zero_iff content _ pos, solid]
      exact Bool.false_ne_true
    rw [lines_dropBlankLines_compact content solid, Distribution.total_compact _ _ pos,
      if_neg filled, if_neg filled, Distribution.select_compact _ _ pos]
    cases (distribute content.lines request.pageSize).select request.mode request.range
        (some content.lines) with
    | error e => rfl
    | ok sections =>
      simp [Except.map, Except.mapError, Document.trimLines, Section.layout_compact]

end Listing
