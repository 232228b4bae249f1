import Listing.Proofs.Page.Layout

/-!
Page breaks and the pages between them. A break stands between two pages that follow each other and
nowhere else, so splitting units at their breaks and joining the pages again gives the units back.
Joined pages split into the same pages as well, except one page alone without any line, which
leaves no unit. The layout of a section is its chunks of lines, joined.
-/

namespace Listing

variable {τ : Type}

def joinPages (pages : List (List τ)) : List (LayoutUnit τ) :=
  List.intercalate [.pageBreak] (pages.map (List.map .line))

theorem joinPages_nil : joinPages ([] : List (List τ)) = [] := rfl

theorem joinPages_singleton (page : List τ) : joinPages [page] = page.map .line :=
  List.intercalate_singleton

theorem joinPages_cons_cons (page next : List τ) (rest : List (List τ)) :
    joinPages (page :: next :: rest) =
      page.map .line ++ .pageBreak :: joinPages (next :: rest) := by
  rw [joinPages, List.map_cons, List.map_cons, List.intercalate_cons_cons, List.append_assoc]
  rfl

theorem joinPages_nil_cons (next : List τ) (rest : List (List τ)) :
    joinPages ([] :: next :: rest) = .pageBreak :: joinPages (next :: rest) :=
  joinPages_cons_cons [] next rest

theorem joinPages_line (content : τ) (page : List τ) (rest : List (List τ)) :
    joinPages ((content :: page) :: rest) = .line content :: joinPages (page :: rest) := by
  cases rest with
  | nil => rw [joinPages_singleton, joinPages_singleton, List.map_cons]
  | cons next rest =>
    rw [joinPages_cons_cons, joinPages_cons_cons, List.map_cons, List.cons_append]

theorem joinPages_splitPages (units : List (LayoutUnit τ)) :
    joinPages (splitPages units) = units := by
  induction units with
  | nil => rfl
  | cons unit rest ih =>
    cases split : splitPages rest with
    | nil =>
      rw [split, joinPages_nil] at ih
      subst ih
      cases unit <;> rfl
    | cons page pages =>
      rw [split] at ih
      cases unit with
      | pageBreak => rw [splitPages, split, joinPages_nil_cons, ih]
      | line content => rw [splitPages, split, joinPages_line, ih]

theorem splitPages_lines_break (page : List τ) (units : List (LayoutUnit τ)) :
    splitPages (page.map .line ++ .pageBreak :: units) =
      page :: if splitPages units = [] then [[]] else splitPages units := by
  induction page with
  | nil =>
    rw [List.map_nil, List.nil_append, splitPages]
    cases splitPages units <;> rfl
  | cons content page ih => rw [List.map_cons, List.cons_append, splitPages, ih]

theorem splitPages_lines (page : List τ) (filled : page ≠ []) :
    splitPages (page.map LayoutUnit.line) = [page] := by
  induction page with
  | nil => exact absurd rfl filled
  | cons content page ih =>
    by_cases last : page = []
    · subst last
      rfl
    · rw [List.map_cons, splitPages, ih last]

/-- Joined pages split into the same pages, if they leave a unit or are none. -/
theorem splitPages_joinPages (pages : List (List τ)) (visible : pages ≠ [[]]) :
    splitPages (joinPages pages) = pages := by
  induction pages with
  | nil => rfl
  | cons page rest ih =>
    cases rest with
    | nil =>
      rw [joinPages_singleton]
      exact splitPages_lines page fun empty => visible (congrArg (fun p => [p]) empty)
    | cons next rest =>
      rw [joinPages_cons_cons, splitPages_lines_break]
      by_cases hidden : next :: rest = [[]]
      · rw [hidden]
        rfl
      · rw [ih hidden, if_neg (List.cons_ne_nil next rest)]

theorem length_splitPages (units : List (LayoutUnit Text)) :
    (splitPages units).length = if units = [] then 0 else units.count .pageBreak + 1 :=
  (renderedPages_eq_length units).symm

/-- Breaks and pages tell the same. Units split at their breaks, and joined by breaks again, are the
same units, so they have one page more than breaks, or none of either; and pages joined by breaks
split into the same pages, where only an empty page alone is lost. The units of a section split into
its lines with content in chunks of the page size: each chunk but the last is full, the last is no
longer, and none is empty. The layout counts the chunks. -/
theorem breaks_separate_pages (units : List (LayoutUnit Text)) (pages : List (List Text))
    (s : Section) (size : Nat) (pos : 0 < size) :
    let cut := splitPages (s.layout size).units
    (joinPages (splitPages units) = units ∧
        (splitPages units).length = if units = [] then 0 else units.count .pageBreak + 1) ∧
      (splitPages (joinPages pages) = if pages = [[]] then [] else pages) ∧
      cut = chunks size (contentOf s.lines) ∧
      cut.flatten = contentOf s.lines ∧
      (∀ page ∈ cut.dropLast, page.length = size) ∧
      (∀ page ∈ cut, 1 ≤ page.length ∧ page.length ≤ size) ∧
      (s.layout size).rendered = cut.length := by
  intro cut
  have chunked : cut = chunks size (contentOf s.lines) := splitPages_unitsFrom size pos s.lines
  refine ⟨⟨joinPages_splitPages units, length_splitPages units⟩, ?_, chunked, ?_⟩
  · split_ifs with hidden
    · rw [hidden]
      rfl
    · exact splitPages_joinPages pages hidden
  · rw [chunked]
    refine ⟨flatten_chunks size _, length_of_mem_dropLast_chunks size pos _,
      length_of_mem_chunks size pos _, ?_⟩
    rw [← chunked]
    exact renderedPages_eq_length _

/-- Units that begin and end with breaks and have two in a row; and four lines with a blank one
between them, which fill two pages of two lines, with no break behind the last. -/
theorem breaks_separate_pages_full :
    splitPages [.pageBreak, .line "a".toList, .pageBreak, .pageBreak] =
        [[], ["a".toList], [], []] ∧
      joinPages [[], ["a".toList], [], []] =
        [.pageBreak, .line "a".toList, .pageBreak, .pageBreak] ∧
      0 < 2 ∧
      ((Section.mk 1 2 ["a".toList, " ".toList, "b".toList, "c".toList, "d".toList]).layout
        2).units = [.line "a".toList, .line "b".toList, .pageBreak, .line "c".toList,
          .line "d".toList] ∧
      ((Section.mk 1 2 ["a".toList, " ".toList, "b".toList, "c".toList, "d".toList]).layout
        2).rendered = 2 := by
  obtain ⟨⟨joined, -⟩, -, -, -, -, -, rendered⟩ := breaks_separate_pages
    [.pageBreak, .line "a".toList, .pageBreak, .pageBreak] []
    (Section.mk 1 2 ["a".toList, " ".toList, "b".toList, "c".toList, "d".toList]) 2 Nat.two_pos
  exact ⟨rfl, joined, Nat.two_pos, rfl, rendered⟩

end Listing
