import Listing.Proofs.Aggregate.Summary
import Listing.Proofs.Text.Compact

/-!
The closed form of an aggregation. Its text is the joined text of the trimmed pieces, it has no
whitespace at its ends, and so the trimming of the text joined so far takes nothing away. Without
blank lines the rows of the text are the lines of the pieces. Sources given in two parts come to the
same as each part by itself, one below the other.
-/

namespace Listing.Aggregate

variable (switches : Switches)

theorem trimEnd_content_of_foldlM (before : List Source) (given : Nat) (b : Aggregate)
    (clear : ∀ s ∈ before, s.obstacle? switches = none)
    (reached : before.foldlM (add switches) { given } = .ok b) : b.content.trimEnd = b.content := by
  rw [foldlM_add switches before _ Text.trimmed_nil clear, Except.ok.injEq] at reached
  subst reached
  exact (Text.trimmed_nil.stack (trimmed_summary switches before)).trimEnd_eq

theorem pieces_compact (compact : switches.dropBlankLines = true) (sources : List Source) :
    ∀ t ∈ pieces switches sources, ∃ u : Text, t = u.dropBlankLines := by
  intro t inside
  obtain ⟨s, _, added⟩ := List.mem_filterMap.1 inside
  rw [Source.piece?, Source.processed_eq, compact] at added
  cases work : s.stripped switches with
  | error fault => simp [work] at added
  | ok value =>
    cases value with
    | text u =>
      simp only [work, Value.textFor, if_true, Except.map] at added
      split_ifs at added
      exact ⟨u, (Option.some.inj added).symm⟩
    | _ => simp [work, Value.textFor, Except.map] at added

theorem rows_summary (compact : switches.dropBlankLines = true) (sources : List Source) :
    (summary switches sources).content.rows =
      (pieces switches sources).flatMap fun t => t.lines.modifyHead Text.trimStart := by
  rw [summary, Text.rows_unlines _ (trim_piece_ne_nil switches sources), List.flatMap_map]
  apply List.flatMap_congr
  intro t inside
  obtain ⟨u, rfl⟩ := pieces_compact switches compact sources t inside
  exact Text.lines_trim_dropBlankLines u (piece_not_blank switches sources _ inside)

/-- Sources given in two parts come to both parts, one below the other; what ends the first part
ends the whole, and what ends the second keeps the omissions of the first. -/
theorem ofSources_append (us vs : List Source) :
    ofSources switches (us ++ vs) = do
      let a ← ofSources switches us
      let b ← (ofSources switches vs).mapError fun e => ⟨a.omissions ++ e.omissions, e.fault⟩
      return a.combine b := by
  rcases clear_or_first_obstacle switches us with
    clear | ⟨before, s, after, fault, rfl, clear, blocked⟩
  · rw [ofSources_eq_summary switches us clear]
    rcases clear_or_first_obstacle switches vs with
      others | ⟨before, s, after, fault, rfl, others, blocked⟩
    · have both : ∀ s ∈ us ++ vs, s.obstacle? switches = none := by
        intro s inside
        exact (List.mem_append.1 inside).elim (clear s) (others s)
      rw [ofSources_eq_summary switches vs others, ofSources_eq_summary switches _ both,
        summary_append]
      rfl
    · have both : ∀ s ∈ us ++ before, s.obstacle? switches = none := by
        intro s inside
        exact (List.mem_append.1 inside).elim (clear s) (others s)
      rw [ofSources_eq_error switches before after s fault others blocked, ← List.append_assoc,
        ofSources_eq_error switches (us ++ before) after s fault both blocked,
        List.filterMap_append]
      rfl
  · rw [ofSources_eq_error switches before after s fault clear blocked, List.append_assoc,
      List.cons_append, ofSources_eq_error switches before (after ++ vs) s fault clear blocked]
    rfl

/-- The closed form of an aggregation, and that it respects the joining of lists of sources. -/
theorem ofSources_closed_form :
    (∀ sources a, ofSources switches sources = .ok a →
      a.processed + a.omissions.length = a.given ∧ a.given = sources.length ∧
      a.content = Text.unlines ((pieces switches sources).map Text.trim) ∧
      a.content.Trimmed ∧
      (∀ before after b, sources = before ++ after →
        before.foldlM (add switches) { given := sources.length } = .ok b →
        b.content.trimEnd = b.content) ∧
      (switches.dropBlankLines = true → a.content.rows =
        (pieces switches sources).flatMap fun t => t.lines.modifyHead Text.trimStart)) ∧
    ∀ us vs, ofSources switches (us ++ vs) = do
      let a ← ofSources switches us
      let b ← (ofSources switches vs).mapError fun e => ⟨a.omissions ++ e.omissions, e.fault⟩
      return a.combine b := by
  refine ⟨?_, ofSources_append switches⟩
  intro sources a joined
  obtain ⟨clear, rfl⟩ := (ofSources_eq_ok_iff switches sources a).1 joined
  refine ⟨processed_add_omissions switches sources, rfl, rfl, trimmed_summary switches sources,
    ?_, ?_⟩
  · rintro before after b rfl reached
    have early : ∀ s ∈ before, s.obstacle? switches = none := fun s inside =>
      clear s (List.mem_append_left after inside)
    exact trimEnd_content_of_foldlM switches before _ b early reached
  · intro compact
    exact rows_summary switches compact sources

theorem ofSources_closed_form_indented :
    let sources : List Source := [⟨.int 1, .null, .text [' ', 'a', '\n', '\n', ' ', 'b', ' ']⟩,
      ⟨.int 2, .null, .null⟩, ⟨.int 3, .null, .text ['\n', '\t', 'c', '\n']⟩]
    let a : Aggregate :=
      { content := ['a', '\n', ' ', 'b', '\n', 'c'], totalLines := 3, processed := 2, given := 3
        omissions := [⟨.int 2, (TypeFault.lacksOperation "NoneType" "split").message⟩] }
    ofSources {} sources = .ok a ∧
      a.content = Text.unlines ((pieces {} sources).map Text.trim) ∧
      a.content.rows =
        (pieces {} sources).flatMap fun t => t.lines.modifyHead Text.trimStart := by
  intro sources a
  have joined : ofSources {} sources = .ok a := rfl
  obtain ⟨_, _, content, _, _, rows⟩ := (ofSources_closed_form {}).1 sources a joined
  exact ⟨joined, content, rows rfl⟩

end Listing.Aggregate
