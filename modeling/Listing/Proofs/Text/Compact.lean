import Listing.Proofs.Text.Lines
import Listing.Text.Compact

/-!
Text without blank lines is the joined text of its content lines. No content line is empty, so two
line feeds are never neighbours and the cap on their runs changes nothing; the lines of the result
are the content lines again. Trimming such a text only takes the blanks before its first line.
-/

namespace Listing.Text

/-- A line that is not empty, holds no line feed and does not end in whitespace. -/
structure Solid (line : Text) : Prop where
  plain : '\n' ∉ line
  trimmed : trimEnd line = line
  filled : line ≠ []

theorem Solid.not_blank {line : Text} (solid : line.Solid) : line.isBlank = false := by
  by_contra other
  have blank : line.isBlank = true := by simpa using other
  rw [← trimEnd_eq_nil_iff, solid.trimmed] at blank
  exact solid.filled blank

theorem solid_contentLines (t : Text) : ∀ line ∈ contentLines t, line.Solid := by
  intro line inside
  obtain ⟨source, kept, rfl⟩ := List.mem_map.1 inside
  have original := (List.mem_filter.1 kept).1
  refine ⟨?_, ?_, contentLines_not_blank t _ inside⟩
  · intro feed
    have part : trimEnd source <+: source := List.rdropWhile_prefix isSpace _
    exact newline_notMem_lines t source original (part.subset feed)
  · exact List.rdropWhile_idempotent isSpace source

theorem capNewlines_append (run : Nat) (line tail : Text) (plain : '\n' ∉ line)
    (filled : line ≠ []) : capNewlines run (line ++ tail) = line ++ capNewlines 0 tail := by
  induction line generalizing run with
  | nil => exact absurd rfl filled
  | cons c rest ih =>
    have other : c ≠ '\n' := by
      rintro rfl
      exact plain List.mem_cons_self
    rw [List.cons_append, capNewlines, if_neg other, List.cons_append]
    cases rest with
    | nil => rfl
    | cons d rest =>
      rw [ih 0 (fun feed => plain (List.mem_cons_of_mem c feed)) (List.cons_ne_nil d rest)]

theorem capNewlines_unlines (run : Nat) (ls : List Text) (solid : ∀ line ∈ ls, line.Solid) :
    capNewlines run (unlines ls) = unlines ls := by
  induction ls generalizing run with
  | nil => rfl
  | cons line rest ih =>
    obtain ⟨first, others⟩ := List.forall_mem_cons.1 solid
    cases rest with
    | nil =>
      have alone := capNewlines_append run line [] first.plain first.filled
      simpa [unlines_singleton, capNewlines] using alone
    | cons next rest =>
      rw [unlines_cons_cons, capNewlines_append run line _ first.plain first.filled, capNewlines,
        if_pos rfl, if_pos (by decide), ih 1 others]

theorem dropBlankLines_eq_unlines (t : Text) : dropBlankLines t = unlines (contentLines t) :=
  capNewlines_unlines 0 (contentLines t) (solid_contentLines t)

theorem lines_dropBlankLines (t : Text) (filled : contentLines t ≠ []) :
    (dropBlankLines t).lines = contentLines t := by
  rw [dropBlankLines_eq_unlines]
  exact lines_unlines _ (fun line inside => (solid_contentLines t line inside).plain) filled

theorem unlines_not_blank (line : Text) (rest : List Text) (first : line.Solid) :
    (unlines (line :: rest)).isBlank = false := by
  cases rest with
  | nil =>
    rw [unlines_singleton]
    exact first.not_blank
  | cons next rest =>
    rw [unlines_cons_cons, isBlank, List.all_append, Bool.and_eq_false_iff]
    exact Or.inl first.not_blank

theorem trimEnd_unlines (ls : List Text) (solid : ∀ line ∈ ls, line.Solid) :
    trimEnd (unlines ls) = unlines ls := by
  induction ls with
  | nil => rfl
  | cons line rest ih =>
    obtain ⟨first, others⟩ := List.forall_mem_cons.1 solid
    cases rest with
    | nil =>
      rw [unlines_singleton]
      exact first.trimmed
    | cons next rest =>
      have below := unlines_not_blank next rest (others next List.mem_cons_self)
      have split : line ++ '\n' :: unlines (next :: rest) =
          (line ++ ['\n']) ++ unlines (next :: rest) := by simp
      rw [unlines_cons_cons, split, trimEnd_append _ _ below, ih others]

theorem Solid.trimStart {line : Text} (solid : line.Solid) : (trimStart line).Solid := by
  have inner : (Text.trimStart line).isBlank = false := by
    rw [isBlank_trimStart]
    exact solid.not_blank
  have stays : trimEnd (Text.trimStart line) = Text.trimStart line := by
    have same := solid.trimmed
    rw [← List.takeWhile_append_dropWhile (p := isSpace) (l := line)] at same
    change trimEnd (_ ++ Text.trimStart line) = _ ++ Text.trimStart line at same
    rw [trimEnd_append _ _ inner] at same
    exact List.append_cancel_left same
  refine ⟨fun feed => solid.plain ((List.dropWhile_suffix isSpace).subset feed), stays, ?_⟩
  rw [ne_eq, trimStart_eq_nil_iff, solid.not_blank]
  exact Bool.false_ne_true

theorem solid_trimStart_cons (line : Text) (rest : List Text)
    (solid : ∀ next ∈ line :: rest, next.Solid) :
    ∀ next ∈ trimStart line :: rest, next.Solid := by
  obtain ⟨first, others⟩ := List.forall_mem_cons.1 solid
  exact List.forall_mem_cons.2 ⟨first.trimStart, others⟩

theorem trim_unlines (line : Text) (rest : List Text) (solid : ∀ next ∈ line :: rest, next.Solid) :
    trim (unlines (line :: rest)) = unlines (trimStart line :: rest) := by
  have first := (solid line List.mem_cons_self).not_blank
  have start : trimStart (unlines (line :: rest)) = unlines (trimStart line :: rest) := by
    cases rest with
    | nil => simp [unlines_singleton]
    | cons next rest => rw [unlines_cons_cons, unlines_cons_cons, trimStart_append _ _ first]
  rw [trim, start, trimEnd_unlines _ (solid_trimStart_cons line rest solid)]

theorem lines_trim_dropBlankLines (t : Text) (solid : (dropBlankLines t).isBlank = false) :
    (dropBlankLines t).trim.lines = (dropBlankLines t).lines.modifyHead trimStart := by
  have filled : contentLines t ≠ [] := by
    intro empty
    rw [dropBlankLines_eq_unlines, empty] at solid
    cases solid
  have every := solid_contentLines t
  rw [lines_dropBlankLines t filled, dropBlankLines_eq_unlines]
  obtain ⟨line, rest, same⟩ := List.exists_cons_of_ne_nil filled
  rw [same] at every ⊢
  have later := solid_trimStart_cons line rest every
  rw [trim_unlines line rest every, lines_unlines _ (fun next inside => (later next inside).plain)
    (List.cons_ne_nil _ _), List.modifyHead_cons]

end Listing.Text
