import Listing.Aggregate
import Listing.Proofs.Text.Lines

/-!
What an aggregation comes to, read off the sources at once. Every source is left out, or adds its
text, or adds nothing, or is an obstacle: a value that no work refuses and that is still no text.
Without obstacles the run of the sources gives their summary; the first obstacle ends it. The text
joined so far is trimmed at every step, which is why a summary is the sum of the summaries of its
parts.
-/

namespace Listing

def Source.stripped (switches : Switches) (s : Source) : Except TypeFault Value :=
  if switches.stripComments then Listing.stripComments s.text s.tag else .ok s.text

theorem Source.processed_eq (switches : Switches) (s : Source) :
    s.processed switches =
      match s.stripped switches with
      | .error fault => .error fault
      | .ok value =>
        if switches.dropBlankLines then
          (value.textFor "split").map fun t => .text t.dropBlankLines
        else .ok value := by
  unfold Source.processed Source.stripped
  cases switches.stripComments with
  | false => rfl
  | true => cases Listing.stripComments s.text s.tag <;> rfl

/-- The text that a source adds, if there is one and it is not blank. -/
def Source.piece? (switches : Switches) (s : Source) : Option Text :=
  match s.processed switches with
  | .ok (.text t) => if t.isBlank then none else some t
  | _ => none

def Source.omission? (switches : Switches) (s : Source) : Option Omission :=
  match s.processed switches with
  | .error fault => some ⟨s.path, fault.message⟩
  | .ok _ => none

def Source.obstacle? (switches : Switches) (s : Source) : Option TypeFault :=
  match s.processed switches with
  | .ok value =>
    match value.textFor "strip" with
    | .ok _ => none
    | .error fault => some fault
  | .error _ => none

def pieces (switches : Switches) (sources : List Source) : List Text :=
  sources.filterMap (Source.piece? switches)

namespace Aggregate

/-- Two aggregates, the text of the second below that of the first. -/
def combine (a b : Aggregate) : Aggregate where
  content := Text.stack a.content b.content
  totalLines := a.totalLines + b.totalLines
  processed := a.processed + b.processed
  given := a.given + b.given
  omissions := a.omissions ++ b.omissions

def summary (switches : Switches) (sources : List Source) : Aggregate where
  content := Text.unlines ((pieces switches sources).map Text.trim)
  totalLines := ((pieces switches sources).flatMap Text.lines).length
  processed := sources.countP fun s => (s.processed switches).isOk
  given := sources.length
  omissions := sources.filterMap (Source.omission? switches)

variable (switches : Switches)

theorem pieces_append (xs ys : List Source) :
    pieces switches (xs ++ ys) = pieces switches xs ++ pieces switches ys :=
  List.filterMap_append

theorem piece_not_blank (sources : List Source) :
    ∀ t ∈ pieces switches sources, t.isBlank = false := by
  intro t inside
  obtain ⟨s, _, added⟩ := List.mem_filterMap.1 inside
  unfold Source.piece? at added
  split at added
  · split_ifs at added with blank
    simp only [Option.some.injEq] at added
    subst added
    simpa using blank
  · cases added

theorem trim_piece_ne_nil (sources : List Source) :
    ∀ t ∈ (pieces switches sources).map Text.trim, t ≠ [] := by
  intro t inside
  obtain ⟨piece, member, rfl⟩ := List.mem_map.1 inside
  rw [ne_eq, Text.trim_eq_nil_iff, piece_not_blank switches sources piece member]
  exact Bool.false_ne_true

theorem summary_append (xs ys : List Source) :
    summary switches (xs ++ ys) = (summary switches xs).combine (summary switches ys) := by
  simp only [summary, combine, pieces_append, List.map_append, List.flatMap_append,
    List.countP_append, List.length_append, List.filterMap_append]
  rw [Text.unlines_append _ _ (trim_piece_ne_nil switches xs) (trim_piece_ne_nil switches ys)]

theorem summary_cons (s : Source) (rest : List Source) :
    summary switches (s :: rest) = (summary switches [s]).combine (summary switches rest) :=
  summary_append switches [s] rest

theorem trimmed_summary (sources : List Source) : (summary switches sources).content.Trimmed := by
  induction sources with
  | nil => exact Text.trimmed_nil
  | cons s rest ih =>
    rw [summary_cons]
    apply Text.Trimmed.stack _ ih
    cases added : s.piece? switches with
    | none => simpa [summary, pieces, added, Text.unlines] using Text.trimmed_nil
    | some t =>
      simpa [summary, pieces, added, Text.unlines_singleton] using Text.trimmed_trim t

theorem processed_add_omissions (sources : List Source) :
    (summary switches sources).processed + (summary switches sources).omissions.length =
      sources.length := by
  induction sources with
  | nil => rfl
  | cons s rest ih =>
    have single :
        (summary switches [s]).processed + (summary switches [s]).omissions.length = 1 := by
      cases work : s.processed switches <;>
        simp [summary, Source.omission?, work, Except.isOk, Except.toBool]
    rw [summary_cons]
    simp only [combine, List.length_append, List.length_cons]
    omega

theorem add_eq_combine (a : Aggregate) (s : Source) (trimmed : a.content.Trimmed)
    (clear : s.obstacle? switches = none) :
    a.add switches s = .ok { a.combine (summary switches [s]) with given := a.given } := by
  unfold add
  unfold Source.obstacle? at clear
  cases work : s.processed switches with
  | error fault =>
    simp [summary, combine, pieces, Source.piece?, Source.omission?, work, leaveOut, Text.unlines,
      Text.stack_nil, Except.isOk, Except.toBool]
  | ok value =>
    rw [work] at clear
    cases value with
    | text t =>
      cases blank : t.isBlank with
      | true =>
        simp [summary, combine, pieces, Source.piece?, Source.omission?, work, Value.textFor,
          append, blank, Text.unlines, Text.stack_nil, Except.isOk, Except.toBool]
      | false =>
        have filled : t.trim ≠ [] := by simp [Text.trim_eq_nil_iff, blank]
        have joined : joinContent a.content t = Text.stack a.content t.trim := by
          rw [joinContent, Text.stack, trimmed.trimEnd_eq, if_neg filled]
        simp [summary, combine, pieces, Source.piece?, Source.omission?, work, Value.textFor,
          append, blank, joined, Text.unlines_singleton, Except.isOk, Except.toBool]
    | _ => simp [Value.textFor] at clear

theorem foldlM_add (sources : List Source) (a : Aggregate) (trimmed : a.content.Trimmed)
    (clear : ∀ s ∈ sources, s.obstacle? switches = none) :
    sources.foldlM (add switches) a =
      .ok { a.combine (summary switches sources) with given := a.given } := by
  induction sources generalizing a with
  | nil => simp [summary, combine, pieces, Text.unlines, Text.stack_nil, pure, Except.pure]
  | cons s rest ih =>
    have first := add_eq_combine switches a s trimmed (clear s List.mem_cons_self)
    have next : (a.combine (summary switches [s])).content.Trimmed :=
      trimmed.stack (trimmed_summary switches [s])
    rw [List.foldlM_cons, first, summary_cons switches s rest]
    change rest.foldlM (add switches) _ = _
    rw [ih { a.combine (summary switches [s]) with given := a.given } next
      fun other inside => clear other (List.mem_cons_of_mem s inside)]
    simp only [combine, Text.stack_assoc, Nat.add_assoc, List.append_assoc]

theorem ofSources_eq_summary (sources : List Source)
    (clear : ∀ s ∈ sources, s.obstacle? switches = none) :
    ofSources switches sources = .ok (summary switches sources) := by
  rw [ofSources, foldlM_add switches sources _ Text.trimmed_nil clear]
  simp [combine, summary, Text.nil_stack]

/-- The first obstacle ends a run; the omissions before it are kept. -/
theorem ofSources_eq_error (before after : List Source) (s : Source) (fault : TypeFault)
    (clear : ∀ other ∈ before, other.obstacle? switches = none)
    (blocked : s.obstacle? switches = some fault) :
    ofSources switches (before ++ s :: after) =
      .error ⟨before.filterMap (Source.omission? switches), fault⟩ := by
  rw [ofSources, List.foldlM_append, foldlM_add switches before _ Text.trimmed_nil clear]
  change (s :: after).foldlM (add switches) _ = _
  rw [List.foldlM_cons]
  unfold Source.obstacle? at blocked
  cases work : s.processed switches with
  | error other => simp [work] at blocked
  | ok value =>
    cases value with
    | text t => simp [work, Value.textFor] at blocked
    | _ =>
      simp only [work, Value.textFor, Option.some.injEq] at blocked
      simp [add, work, Value.textFor, blocked, combine, summary, bind, Except.bind]

theorem clear_or_first_obstacle (sources : List Source) :
    (∀ s ∈ sources, s.obstacle? switches = none) ∨
      ∃ before s after fault, sources = before ++ s :: after ∧
        (∀ other ∈ before, other.obstacle? switches = none) ∧
        s.obstacle? switches = some fault := by
  induction sources with
  | nil => exact Or.inl (by simp)
  | cons s rest ih =>
    cases here : s.obstacle? switches with
    | some fault => exact Or.inr ⟨[], s, rest, fault, rfl, by simp, here⟩
    | none =>
      rcases ih with clear | ⟨before, other, after, fault, rfl, clear, blocked⟩
      · exact Or.inl (by simpa [here] using clear)
      · exact Or.inr ⟨s :: before, other, after, fault, rfl, by simpa [here] using clear, blocked⟩

theorem ofSources_eq_ok_iff (sources : List Source) (a : Aggregate) :
    ofSources switches sources = .ok a ↔
      (∀ s ∈ sources, s.obstacle? switches = none) ∧ a = summary switches sources := by
  constructor
  · intro joined
    rcases clear_or_first_obstacle switches sources with
      clear | ⟨before, s, after, fault, rfl, clear, blocked⟩
    · rw [ofSources_eq_summary switches sources clear, Except.ok.injEq] at joined
      exact ⟨clear, joined.symm⟩
    · rw [ofSources_eq_error switches before after s fault clear blocked] at joined
      cases joined
  · rintro ⟨clear, rfl⟩
    exact ofSources_eq_summary switches sources clear

end Aggregate

end Listing
