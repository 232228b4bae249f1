import Listing.Proofs.Aggregate.Summary
import Listing.Proofs.Text.Content

/-!
Sources whose tags and texts are texts. No work refuses one, so none is left out and none is an
obstacle. Keeping blank lines or dropping them gives different texts for one source, but with the
same lines with content, and so the joined texts have the same lines with content too.
-/

namespace Listing

/-- A source whose tag and text are texts. -/
def Source.Textual (s : Source) : Prop := (∃ tag, s.tag = .text tag) ∧ ∃ t, s.text = .text t

namespace Source.Textual

variable {s : Source} (textual : s.Textual)

include textual in
theorem stripped (switches : Switches) : ∃ t, s.stripped switches = .ok (.text t) := by
  obtain ⟨⟨tag, tagged⟩, t, text⟩ := textual
  rw [Source.stripped, tagged, text]
  split_ifs with strip
  · have named : ∃ style, CommentStyle.ofTag (.text tag) = .ok style := by
      unfold CommentStyle.ofTag
      split_ifs
      · exact ⟨_, rfl⟩
      · exact ⟨_, rfl⟩
    obtain ⟨style, named⟩ := named
    exact ⟨style.strip t, by rw [stripComments, named]; rfl⟩
  · exact ⟨t, rfl⟩

include textual in
theorem processed (strip : Bool) :
    ∃ t : Text, ∀ drop, s.processed ⟨strip, drop⟩ =
      .ok (.text (if drop then t.dropBlankLines else t)) := by
  obtain ⟨t, work⟩ := textual.stripped ⟨strip, false⟩
  refine ⟨t, fun drop => ?_⟩
  have same : s.stripped ⟨strip, drop⟩ = .ok (.text t) := work
  rw [Source.processed_eq, same]
  cases drop <;> rfl

include textual in
theorem obstacle?_eq_none (switches : Switches) : s.obstacle? switches = none := by
  obtain ⟨t, work⟩ := textual.processed switches.stripComments
  have here : s.processed switches = _ := work switches.dropBlankLines
  rw [Source.obstacle?, here]
  rfl

include textual in
theorem piece?_drop (strip : Bool) :
    s.piece? ⟨strip, true⟩ = (s.piece? ⟨strip, false⟩).map Text.dropBlankLines := by
  obtain ⟨t, work⟩ := textual.processed strip
  have blank := Text.isBlank_dropBlankLines t
  rw [Source.piece?, Source.piece?, work true, work false]
  cases solid : t.isBlank <;> simp [blank, solid]

end Source.Textual

namespace Aggregate

variable (sources : List Source) (textual : ∀ s ∈ sources, s.Textual)

include textual in
theorem ofSources_textual (switches : Switches) :
    ofSources switches sources = .ok (summary switches sources) :=
  ofSources_eq_summary switches sources fun s inside =>
    (textual s inside).obstacle?_eq_none switches

include textual in
theorem pieces_drop (strip : Bool) :
    pieces ⟨strip, true⟩ sources = (pieces ⟨strip, false⟩ sources).map Text.dropBlankLines := by
  rw [pieces, pieces, List.map_filterMap]
  exact List.filterMap_congr fun s inside => (textual s inside).piece?_drop strip

theorem contentLines_summary (switches : Switches) :
    (summary switches sources).content.contentLines =
      (pieces switches sources).flatMap fun t => t.contentLines.modifyHead Text.trimStart := by
  rw [summary, Text.contentLines_unlines, List.flatMap_map]
  exact List.flatMap_congr fun t _ => Text.contentLines_trim t

include textual in
theorem contentLines_summary_drop (strip drop : Bool) :
    (summary ⟨strip, drop⟩ sources).content.contentLines =
      (summary ⟨strip, false⟩ sources).content.contentLines := by
  cases drop with
  | false => rfl
  | true =>
    rw [contentLines_summary, contentLines_summary, pieces_drop sources textual, List.flatMap_map]
    simp only [Text.contentLines_dropBlankLines]

theorem isBlank_content_iff (switches : Switches) :
    (summary switches sources).content.isBlank = true ↔ pieces switches sources = [] := by
  have solid : ∀ t ∈ pieces switches sources, t.trim.isBlank = false := by
    intro t inside
    rw [Text.trim, Text.isBlank_trimEnd, Text.isBlank_trimStart]
    exact piece_not_blank switches sources t inside
  rw [summary, Text.isBlank_unlines, List.all_map, List.all_eq_true]
  constructor
  · intro blank
    by_contra filled
    obtain ⟨t, inside⟩ := List.exists_mem_of_ne_nil _ filled
    have both := blank t inside
    rw [Function.comp_apply, solid t inside] at both
    exact Bool.false_ne_true both
  · intro empty
    simp [empty]

include textual in
theorem pieces_eq_nil_iff (switches : Switches) :
    pieces switches sources = [] ↔
      ∀ s ∈ sources, ∃ t, s.processed switches = .ok (.text t) ∧ t.isBlank = true := by
  rw [pieces, List.filterMap_eq_nil_iff]
  apply forall₂_congr
  intro s inside
  obtain ⟨t, work⟩ := (textual s inside).processed switches.stripComments
  have here : s.processed switches = _ := work switches.dropBlankLines
  rw [Source.piece?, here]
  simp

end Aggregate

end Listing
