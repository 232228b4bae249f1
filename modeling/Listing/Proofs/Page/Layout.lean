import Listing.Page.Layout
import Listing.Proofs.Page.Distribution

/-!
Units and the pages they split into. Blank lines leave no unit, the units of lines split into the
chunks of the lines with content, and the breaks among units count the pages that they split into.
-/

namespace Listing

theorem unitsFrom_contentOf (size filled : Nat) (lines : List Text) :
    unitsFrom size filled (contentOf lines) = unitsFrom size filled lines := by
  induction lines generalizing filled with
  | nil => rfl
  | cons line rest ih =>
    cases blank : line.isBlank with
    | true =>
      rw [contentOf_cons_blank line rest blank, unitsFrom, if_pos blank]
      exact ih filled
    | false =>
      rw [contentOf_cons_solid line rest blank]
      simp only [unitsFrom, ih]

theorem unitsFrom_open (size filled : Nat) (line : Text) (rest : List Text)
    (solid : line.isBlank = false) (room : filled < size) :
    unitsFrom size filled (line :: rest) = .line line :: unitsFrom size (filled + 1) rest := by
  rw [unitsFrom, if_neg (by simp [solid]), if_neg (by omega)]

theorem unitsFrom_full (size : Nat) (pos : 0 < size) (line : Text) (rest : List Text)
    (solid : line.isBlank = false) :
    unitsFrom size size (line :: rest) = .pageBreak :: unitsFrom size 0 (line :: rest) := by
  rw [unitsFrom_open size 0 line rest solid pos, unitsFrom, if_neg (by simp [solid]),
    if_pos (Nat.le_refl size)]

theorem splitPages_unitsFrom_open (size filled : Nat) (line : Text) (rest : List Text)
    (solid : line.isBlank = false) (room : filled < size)
    (later : rest ≠ [] → splitPages (unitsFrom size (filled + 1) rest) =
      rest.take (size - (filled + 1)) :: chunks size (rest.drop (size - (filled + 1)))) :
    splitPages (unitsFrom size filled (line :: rest)) =
      (line :: rest).take (size - filled) :: chunks size ((line :: rest).drop (size - filled)) := by
  have one : size - filled = size - (filled + 1) + 1 := by omega
  rw [unitsFrom_open size filled line rest solid room, one, List.take_succ_cons,
    List.drop_succ_cons, splitPages]
  by_cases filled : rest = []
  · simp [filled, unitsFrom, splitPages, chunks_nil]
  · rw [later filled]

theorem splitPages_unitsFrom_solid (size filled : Nat) (lines : List Text) (pos : 0 < size)
    (solid : ∀ line ∈ lines, line.isBlank = false) (some : lines ≠ []) (open_le : filled ≤ size) :
    splitPages (unitsFrom size filled lines) =
      lines.take (size - filled) :: chunks size (lines.drop (size - filled)) := by
  induction lines generalizing filled with
  | nil => exact absurd rfl some
  | cons line rest ih =>
    obtain ⟨first, others⟩ := List.forall_mem_cons.1 solid
    have step : ∀ filled < size, splitPages (unitsFrom size filled (line :: rest)) =
        (line :: rest).take (size - filled) :: chunks size ((line :: rest).drop (size - filled)) :=
      fun filled room => splitPages_unitsFrom_open size filled line rest first room fun more =>
        ih (filled + 1) others more room
    rcases Nat.lt_or_eq_of_le open_le with room | rfl
    · exact step filled room
    · have fresh := step 0 pos
      rw [unitsFrom_full filled pos line rest first, splitPages, fresh, Nat.sub_zero, Nat.sub_self,
        List.take_zero, List.drop_zero, chunks_of_ne_nil filled pos (line :: rest) some]

theorem splitPages_unitsFrom (size : Nat) (pos : 0 < size) (lines : List Text) :
    splitPages (unitsFrom size 0 lines) = chunks size (contentOf lines) := by
  rw [← unitsFrom_contentOf]
  by_cases some : contentOf lines = []
  · rw [some, unitsFrom, splitPages, chunks_nil]
  · have solid : ∀ line ∈ contentOf lines, line.isBlank = false := by
      intro line inside
      simpa using (List.mem_filter.1 inside).2
    rw [splitPages_unitsFrom_solid size 0 _ pos solid some (Nat.zero_le size), Nat.sub_zero,
      ← chunks_of_ne_nil size pos _ some]

theorem splitPages_ne_nil (units : List (LayoutUnit Text)) (some : units ≠ []) :
    splitPages units ≠ [] := by
  cases units with
  | nil => exact absurd rfl some
  | cons unit rest =>
    cases unit <;> rw [splitPages] <;> cases splitPages rest <;> simp

theorem renderedPages_eq_length (units : List (LayoutUnit Text)) :
    renderedPages units = (splitPages units).length := by
  induction units with
  | nil => rfl
  | cons unit rest ih =>
    rw [renderedPages, if_neg (List.cons_ne_nil unit rest)]
    by_cases empty : rest = []
    · subst empty
      cases unit <;> rfl
    · rw [renderedPages, if_neg empty] at ih
      obtain ⟨page, pages, split⟩ := List.exists_cons_of_ne_nil (splitPages_ne_nil rest empty)
      rw [split, List.length_cons] at ih
      cases unit with
      | pageBreak => simp [splitPages, split, ih]
      | line content => simp [splitPages, split, ih]

theorem renderedPages_map (f : Text → Text) (units : List (LayoutUnit Text)) :
    renderedPages (units.map (LayoutUnit.map f)) = renderedPages units := by
  rw [renderedPages_eq_length, renderedPages_eq_length, splitPages_map, List.length_map]

theorem contentCount_unitsFrom (size filled : Nat) (lines : List Text) :
    contentCount (unitsFrom size filled lines) = (contentOf lines).length := by
  induction lines generalizing filled with
  | nil => rfl
  | cons line rest ih =>
    cases blank : line.isBlank with
    | true => rw [contentOf_cons_blank line rest blank, unitsFrom, if_pos blank, ih]
    | false =>
      rw [contentOf_cons_solid line rest blank, unitsFrom, if_neg (by simp [blank])]
      split_ifs
      · simpa [contentCount] using ih 1
      · simpa [contentCount] using ih (filled + 1)

theorem Section.layout_eq (s : Section) (size : Nat) :
    s.layout size = ⟨s.first, s.last, unitsFrom size 0 s.lines,
      dividedPages (contentOf s.lines).length size, renderedPages (unitsFrom size 0 s.lines)⟩ := by
  rw [Section.layout, Section.laidOut, contentCount_unitsFrom]

theorem renderedPages_unitsFrom (size : Nat) (pos : 0 < size) (lines : List Text) :
    renderedPages (unitsFrom size 0 lines) = (contentOf lines).length ⌈/⌉ size := by
  rw [renderedPages_eq_length, splitPages_unitsFrom size pos, length_chunks size pos]

end Listing
