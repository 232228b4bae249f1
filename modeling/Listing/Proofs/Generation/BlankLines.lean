import Listing.Proofs.Generation.Document
import Listing.Proofs.Page.Compaction

/-!
Two runs that differ in the switch for blank lines. One drops blank lines source by source, the
other carries them through joining and cutting; the texts that are laid out have the same lines
with content, so the layouts differ at most in the ends of their lines.
-/

namespace Listing

variable {ε : Type}

theorem paginate_removeBlankLines (content : Text) (r : Request) (other : Value) :
    paginate content { r with removeBlankLines := other } = paginate content r := rfl

theorem map_trimLines_paginate (upper lower : Text) (r : Request)
    (same : upper.contentLines = lower.contentLines) :
    (paginate upper r).map Document.trimLines = (paginate lower r).map Document.trimLines := by
  have compact : upper.dropBlankLines = lower.dropBlankLines := by
    rw [Text.dropBlankLines_eq_unlines, Text.dropBlankLines_eq_unlines, same]
  rw [← paginate_dropBlankLines, ← paginate_dropBlankLines, compact]

/-- The switch for blank lines has no part in a layout. Two requests that differ in it alone stop
for the same reason, or lay out documents that differ at most in the whitespace at the end of their
lines: with the same total of pages, the same sections, units and page counts. -/
theorem document_ignores_blank_lines (r : Request) (other : Value) (sources : List Source)
    (textual : ∀ s ∈ sources, s.Textual) :
    (Request.document { r with removeBlankLines := other } sources : Except (Stop ε) Document).map
        Document.trimLines =
      (r.document sources).map Document.trimLines := by
  have joined (value : Value) : (Aggregate.summary
        (Request.switches { r with removeBlankLines := value }) sources).content.contentLines =
      (Aggregate.summary ⟨r.stripComments.isSet, false⟩ sources).content.contentLines :=
    Aggregate.contentLines_summary_drop sources textual _ _
  have same := (joined other).trans (joined r.removeBlankLines).symm
  have blank : (Aggregate.summary (Request.switches { r with removeBlankLines := other })
        sources).content.isBlank = (Aggregate.summary r.switches sources).content.isBlank := by
    rw [Bool.eq_iff_iff, ← Text.contentLines_eq_nil_iff, same, Text.contentLines_eq_nil_iff]
  rw [Request.document_textual _ _ textual, Request.document_textual _ _ textual, blank]
  split_ifs
  · rfl
  · rfl
  · rw [map_mapError, map_mapError, paginate_removeBlankLines, map_trimLines_paginate _ _ r same]

theorem document_ignores_blank_lines_between :
    let request : Request :=
      { pageSize := 1, header := .text [], mode := .all, range := .null
        stripComments := .bool true, removeBlankLines := .bool true, pageSize_pos := Nat.one_pos }
    let sources : List Source := [⟨.int 1, .text [], .text "\n\t\n  a \n\n\u00a0b\t\n".toList⟩]
    (∀ s ∈ sources, s.Textual) ∧
      (Request.document { request with removeBlankLines := .bool false } sources :
        Except (Stop Empty) Document).map Document.trimLines =
          (request.document sources).map Document.trimLines ∧
      ((request.document sources : Except (Stop Empty) Document).map fun d =>
        d.sections.map SectionLayout.units) =
          .ok [[.line "a".toList, .pageBreak, .line "\u00a0b".toList]] ∧
      ((Request.document { request with removeBlankLines := .bool false } sources :
        Except (Stop Empty) Document).map fun d => d.sections.map SectionLayout.units) =
          .ok [[.line "a ".toList, .pageBreak, .line "\u00a0b".toList]] := by
  intro request sources
  have textual : ∀ s ∈ sources, s.Textual := by
    rw [List.forall_mem_singleton]
    exact ⟨⟨_, rfl⟩, _, rfl⟩
  refine ⟨textual, document_ignores_blank_lines request _ sources textual, rfl, rfl⟩

end Listing
