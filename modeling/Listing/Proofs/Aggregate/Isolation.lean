import Listing.Proofs.Aggregate.Summary

/-!
How far one broken source reaches. A source whose work fails is recorded once, in its place, and
everything else is as if it had not been given. A value that is no text is refused by every work
there is; only where no work is asked for does it slip through to the joining, and there it ends
the aggregation.
-/

namespace Listing

/-- A source that is no text and that no work looks at: blank lines stay, and so do comments, by
the switch or by the tag. -/
def Source.Escapes (switches : Switches) (s : Source) : Prop :=
  (∀ t, s.text ≠ .text t) ∧ switches.dropBlankLines = false ∧
    (switches.stripComments = true → CommentStyle.ofTag s.tag = .ok .none)

theorem stripComments_eq_ok_iff (value tag : Value) (other : ∀ t, value ≠ .text t) (left : Value) :
    stripComments value tag = .ok left ↔ CommentStyle.ofTag tag = .ok .none ∧ left = value := by
  unfold stripComments
  cases named : CommentStyle.ofTag tag with
  | error fault => simp [bind, Except.bind]
  | ok style =>
    cases value with
    | text t => exact absurd rfl (other t)
    | _ => cases style <;> simp [CommentStyle.complaint, bind, Except.bind, eq_comm]

theorem stripComments_text (t : Text) (tag left : Value)
    (done : stripComments (.text t) tag = .ok left) : ∃ u, left = .text u := by
  unfold stripComments at done
  cases named : CommentStyle.ofTag tag with
  | error fault => simp [named, bind, Except.bind] at done
  | ok style =>
    simp only [named, bind, Except.bind, Except.ok.injEq] at done
    exact ⟨style.strip t, done.symm⟩

theorem Source.stripped_eq_ok_iff (switches : Switches) (s : Source) (other : ∀ t, s.text ≠ .text t)
    (left : Value) :
    s.stripped switches = .ok left ↔
      (switches.stripComments = true → CommentStyle.ofTag s.tag = .ok .none) ∧ left = s.text := by
  unfold Source.stripped
  cases switches.stripComments with
  | false => simp [eq_comm]
  | true => simpa using stripComments_eq_ok_iff s.text s.tag other left

theorem Source.stripped_text (switches : Switches) (s : Source) (t : Text) (text : s.text = .text t)
    (left : Value) (done : s.stripped switches = .ok left) : ∃ u, left = .text u := by
  rw [Source.stripped, text] at done
  split_ifs at done with strip
  · exact stripComments_text t s.tag left done
  · rw [Except.ok.injEq] at done
    exact ⟨t, done.symm⟩

theorem textFor_eq_error (operation : String) (value : Value) (other : ∀ t, value ≠ .text t) :
    value.textFor operation = .error (.lacksOperation value.typeName operation) := by
  cases value with
  | text t => exact absurd rfl (other t)
  | _ => rfl

/-- The obstacles are the sources that escape all work. -/
theorem Source.obstacle_eq_some_iff (switches : Switches) (s : Source) (fault : TypeFault) :
    s.obstacle? switches = some fault ↔
      s.Escapes switches ∧ fault = .lacksOperation s.text.typeName "strip" := by
  rw [Source.obstacle?, Source.processed_eq, Source.Escapes]
  cases compact : switches.dropBlankLines with
  | true =>
    -- Dropping blank lines leaves a text or refuses the value.
    cases work : s.stripped switches with
    | error other => simp
    | ok value => cases value <;> simp [Value.textFor, Except.map]
  | false =>
    by_cases isText : ∃ t, s.text = .text t
    · obtain ⟨t, text⟩ := isText
      cases work : s.stripped switches with
      | error other => simp [text]
      | ok value =>
        obtain ⟨u, rfl⟩ := s.stripped_text switches t text value work
        simp [Value.textFor, text]
    · have other : ∀ t, s.text ≠ .text t := fun t text => isText ⟨t, text⟩
      have iff := s.stripped_eq_ok_iff switches other
      cases work : s.stripped switches with
      | error refused =>
        have asked := iff s.text
        rw [work] at asked
        simpa using fun _ unasked => absurd (asked.2 ⟨unasked, rfl⟩) (by simp)
      | ok value =>
        obtain ⟨unasked, rfl⟩ := (iff value).1 work
        simp only [Bool.false_eq_true, if_false, textFor_eq_error "strip" s.text other,
          Option.some.injEq]
        constructor
        · rintro rfl
          exact ⟨⟨other, trivial, unasked⟩, rfl⟩
        · rintro ⟨_, rfl⟩
          rfl

namespace Aggregate

variable (switches : Switches)

theorem clear_iff_not_escapes (sources : List Source) :
    (∀ s ∈ sources, s.obstacle? switches = none) ↔ ∀ s ∈ sources, ¬s.Escapes switches := by
  apply forall₂_congr
  intro s _
  rw [Option.eq_none_iff_forall_ne_some]
  constructor
  · intro clear escapes
    exact clear _ ((s.obstacle_eq_some_iff switches _).2 ⟨escapes, rfl⟩)
  · intro works fault blocked
    exact works ((s.obstacle_eq_some_iff switches fault).1 blocked).1

theorem summary_filter (sources : List Source) :
    summary switches (sources.filter fun s => (s.processed switches).isOk) =
      { summary switches sources with
        given := (summary switches sources).processed, omissions := [] } := by
  induction sources with
  | nil => rfl
  | cons s rest ih =>
    rw [summary_cons]
    cases work : s.processed switches with
    | error fault =>
      rw [List.filter_cons_of_neg (by simp [work, Except.isOk, Except.toBool]), ih]
      simp [summary, combine, pieces, Source.piece?, work, Text.unlines, Text.nil_stack,
        Except.isOk, Except.toBool]
    | ok value =>
      rw [List.filter_cons_of_pos (by simp [work, Except.isOk, Except.toBool]), summary_cons, ih]
      simp [summary, combine, Source.omission?, work, Except.isOk, Except.toBool]

/-- An aggregation comes out unless a source escapes all work. Then each broken source is recorded
once, in order, and the rest is the aggregation of the others. The first source that escapes ends
it. -/
theorem ofSources_isolates_failures (sources : List Source) :
    ((∃ a, ofSources switches sources = .ok a) ↔ ∀ s ∈ sources, ¬s.Escapes switches) ∧
    (∀ a, ofSources switches sources = .ok a →
      a.omissions = sources.filterMap (Source.omission? switches) ∧
      a.given = sources.length ∧ a.processed + a.omissions.length = a.given ∧
      ∃ b, ofSources switches (sources.filter fun s => (s.processed switches).isOk) = .ok b ∧
        b.omissions = [] ∧ b.content = a.content ∧ b.totalLines = a.totalLines ∧
        b.processed = a.processed) ∧
    ∀ before s after, sources = before ++ s :: after →
      (∀ other ∈ before, ¬other.Escapes switches) → s.Escapes switches →
      ofSources switches sources = .error ⟨before.filterMap (Source.omission? switches),
        .lacksOperation s.text.typeName "strip"⟩ := by
  refine ⟨?_, ?_, ?_⟩
  · rw [← clear_iff_not_escapes]
    constructor
    · rintro ⟨a, joined⟩
      exact ((ofSources_eq_ok_iff switches sources a).1 joined).1
    · intro clear
      exact ⟨_, ofSources_eq_summary switches sources clear⟩
  · intro a joined
    obtain ⟨clear, rfl⟩ := (ofSources_eq_ok_iff switches sources a).1 joined
    have others : ∀ s ∈ sources.filter fun s => (s.processed switches).isOk,
        s.obstacle? switches = none := fun s inside => clear s (List.mem_of_mem_filter inside)
    refine ⟨rfl, rfl, processed_add_omissions switches sources, _,
      ofSources_eq_summary switches _ others, ?_⟩
    rw [summary_filter]
    exact ⟨rfl, rfl, rfl, rfl⟩
  · rintro before s after rfl works escapes
    have clear := (clear_iff_not_escapes switches before).2 works
    apply ofSources_eq_error switches before after s _ clear
    exact (s.obstacle_eq_some_iff switches _).2 ⟨escapes, rfl⟩

/-- With both switches off, one source without a text ends the aggregation of all. -/
theorem ofSources_ends_at_null :
    ofSources ⟨false, false⟩ [⟨.int 1, .null, .text ['a']⟩, ⟨.int 2, .null, .null⟩,
      ⟨.int 3, .null, .text ['b']⟩] = .error ⟨[], .lacksOperation "NoneType" "strip"⟩ := by
  rfl

theorem ofSources_isolates_null :
    let sources : List Source := [⟨.int 1, .null, .text ['a']⟩, ⟨.int 2, .null, .null⟩,
      ⟨.int 3, .null, .text ['b']⟩]
    let a : Aggregate :=
      { content := ['a', '\n', 'b'], totalLines := 2, processed := 2, given := 3
        omissions := [⟨.int 2, (TypeFault.lacksOperation "NoneType" "split").message⟩] }
    ofSources ⟨false, true⟩ sources = .ok a ∧
      ∃ b, ofSources ⟨false, true⟩ (sources.filter fun s => (s.processed ⟨false, true⟩).isOk) =
        .ok b ∧ b.omissions = [] ∧ b.content = a.content := by
  intro sources a
  have joined : ofSources ⟨false, true⟩ sources = .ok a := rfl
  obtain ⟨_, _, _, b, others, none, content, _⟩ :=
    (ofSources_isolates_failures ⟨false, true⟩ sources).2.1 a joined
  exact ⟨joined, b, others, none, content⟩

end Aggregate

end Listing
