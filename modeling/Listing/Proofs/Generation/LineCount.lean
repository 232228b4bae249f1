import Listing.Proofs.Aggregate.LineTotal
import Listing.Proofs.Generation.Document
import Listing.Proofs.Page.Agreement

/-!
One count of lines. Where blank lines go, the lines that an aggregation counts source by source,
before their texts are trimmed and joined, are the lines of the joined text; each of them has
content, so each is a unit of the layout, and they fill the pages there are.
-/

namespace Listing

variable {ε : Type} (switches : Switches)

namespace Aggregate

theorem solid_rows_summary (compact : switches.dropBlankLines = true) (sources : List Source) :
    ∀ line ∈ (summary switches sources).content.rows, line.Solid := by
  rw [rows_summary switches compact sources]
  intro line inside
  obtain ⟨t, piece, row⟩ := List.mem_flatMap.1 inside
  obtain ⟨u, rfl⟩ := pieces_compact switches compact sources t piece
  have filled : u.contentLines ≠ [] := by
    intro empty
    have solid := piece_not_blank switches sources _ piece
    rw [Text.dropBlankLines_eq_unlines, empty] at solid
    cases solid
  rw [Text.lines_dropBlankLines u filled] at row
  have every := Text.solid_contentLines u
  obtain ⟨first, rest, same⟩ := List.exists_cons_of_ne_nil filled
  rw [same] at every row
  exact Text.solid_trimStart_cons first rest every line row

end Aggregate

theorem contentOf_eq_self (lines : List Text) (solid : ∀ line ∈ lines, line.isBlank = false) :
    contentOf lines = lines :=
  List.filter_eq_self.2 fun line inside => by simp [solid line inside]

/-- Without blank lines, the lines that are counted while sources are joined are the lines of the
joined text and the units of a document that shows all pages, and the document has as many pages as
they fill. -/
theorem totalLines_counts_everywhere (r : Request) (sources : List Source) (joined : Aggregate)
    (document : Document) (compact : r.removeBlankLines.isSet = true)
    (aggregated : (aggregateFor r sources : _ × Except (Stop ε) Aggregate).2 = .ok joined)
    (paginated : paginate joined.content r = .ok document) :
    (∀ line ∈ joined.content.lines, line.isBlank = false) ∧
      joined.totalLines = joined.content.lines.length ∧
      (∃ whole, paginate joined.content { r with mode := .all } = .ok whole ∧
        (whole.sections.map fun s => contentCount s.units).sum = joined.totalLines) ∧
      document.totalPages = (joined.totalLines ⌈/⌉ r.pageSize : Nat) := by
  obtain ⟨_, run, visible⟩ := (aggregateFor_eq_ok_iff r sources joined).1 aggregated
  obtain ⟨_, rfl⟩ := (Aggregate.ofSources_eq_ok_iff r.switches sources joined).1 run
  have filled : (Aggregate.summary r.switches sources).content ≠ [] := by
    intro empty
    rw [empty] at visible
    cases visible
  have rows : (Aggregate.summary r.switches sources).content.rows =
      (Aggregate.summary r.switches sources).content.lines := if_neg filled
  have solid := Aggregate.solid_rows_summary r.switches compact sources
  have count := Aggregate.totalLines_summary r.switches compact sources
  rw [rows] at solid count
  have every : ∀ line ∈ (Aggregate.summary r.switches sources).content.lines,
      line.isBlank = false := fun line inside => (solid line inside).not_blank
  obtain ⟨some, sections, _, rfl⟩ := (paginate_eq_ok_iff ..).1 paginated
  have whole := (paginate_eq_ok_iff (Aggregate.summary r.switches sources).content
    { r with mode := .all } _).2 ⟨some, _, rfl, rfl⟩
  refine ⟨every, count, ⟨_, whole, ?_⟩, ?_⟩
  · rw [List.map_singleton, List.map_singleton, List.sum_singleton, count]
    change contentCount (unitsFrom r.pageSize 0 _) = _
    rw [contentCount_unitsFrom, contentOf_eq_self _ every]
  · rw [count, total_distribute _ _ r.pageSize_pos, contentOf_eq_self _ every]

theorem totalLines_counts_everywhere_indented :
    let request : Request :=
      { pageSize := 2, header := .text [], mode := .partialEdges, range := .null
        stripComments := .bool true, removeBlankLines := .bool true, pageSize_pos := Nat.two_pos }
    let sources : List Source :=
      [⟨.int 1, .text "none".toList, .text "\n\u2003a \n\n  b\n".toList⟩, ⟨.int 2, .null, .null⟩,
        ⟨.int 3, .null, .text "\tc".toList⟩]
    ∃ joined document, request.removeBlankLines.isSet = true ∧
      (aggregateFor request sources : _ × Except (Stop Empty) Aggregate).2 = .ok joined ∧
      paginate joined.content request = .ok document ∧
      joined.content = "a\n  b\nc".toList ∧ joined.totalLines = joined.content.lines.length ∧
      document.totalPages = 2 := by
  intro request sources
  have aggregated : (aggregateFor request sources : _ × Except (Stop Empty) Aggregate).2 =
      .ok (Aggregate.summary request.switches sources) := rfl
  have paginated : paginate (Aggregate.summary request.switches sources).content request =
      .ok _ := rfl
  have counts := totalLines_counts_everywhere request sources _ _ rfl aggregated paginated
  have pages : (3 ⌈/⌉ 2 : Nat) = 2 := Nat.ceilDiv_eq_add_pred_div 3 2
  exact ⟨_, _, rfl, aggregated, paginated, rfl, counts.2.1,
    counts.2.2.2.trans (congrArg Nat.cast pages)⟩

end Listing
