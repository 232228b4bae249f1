import Listing.Proofs.Page.Selection
import Listing.Proofs.Text.Lines

/-!
What the page modes resolve to. All pages, and the edges of a stream short enough to be shown whole,
are one run over every page; the edges of a longer one are two runs with a gap between; a written
range is cut into runs of its pages, each as long as it can be. No page is looked up that is not
there.
-/

namespace Listing

def numbersOf (sections : List Section) : List Int :=
  sections.flatMap fun s => integersBetween s.first s.last

/-- Sections that run over pages: none is empty, and each begins across a gap. -/
structure RunOver (sections : List Section) (pages : List Int) : Prop where
  numbers : numbersOf sections = pages
  ordered : ∀ s ∈ sections, s.first ≤ s.last
  apart : sections.Pairwise fun s next => s.last + 2 ≤ next.first

theorem tokenPages_blank (total : Value) (raw : Text) (blank : raw.isBlank = true) :
    tokenPages total raw = .error (.token raw .emptyToken) :=
  if_pos ((Text.trim_eq_nil_iff raw).2 blank)

theorem solid_of_pagesOfRange (t : Text) (total : Value) (pages : List Int)
    (read : pagesOfRange t total = .ok pages) : t.isBlank = false := by
  by_contra other
  have blank : t.isBlank = true := by simpa using other
  have comma : ',' ∉ t := by
    intro inside
    have space := List.all_eq_true.1 blank ',' inside
    exact absurd space (by decide)
  obtain ⟨runs, tokens, _⟩ := (bind_eq_ok_iff _ _ _).1 read
  rw [List.splitOn_eq_singleton comma] at tokens
  obtain ⟨run, found⟩ := exists_of_mapM_eq_ok _ _ _ tokens t (List.mem_singleton_self t)
  rw [tokenPages_blank total t blank] at found
  cases found

theorem rangeText_text (t : Text) (solid : t.isBlank = false) : rangeText (.text t) = .ok t := by
  have some : (Value.text t).isSet = true := by
    cases t with
    | nil => cases solid
    | cons c rest => rfl
  rw [rangeText, some]
  simp [Value.textFor, solid]

theorem rangeText_ne_page (range : Value) (e : NoSuchPage) :
    rangeText range ≠ .error (.page e) := by
  intro failed
  unfold rangeText at failed
  split_ifs at failed
  · cases failed
  · split at failed
    · cases failed
    · split_ifs at failed
      cases failed

namespace Distribution

variable (d : Distribution)

theorem runOver_joined (pages : List Int) (increasing : pages.Pairwise (· < ·)) :
    RunOver ((contiguousRuns pages).map d.joined) pages := by
  constructor
  · rw [numbersOf, List.flatMap_map]
    exact flatMap_contiguousRuns pages
  · rw [List.forall_mem_map]
    exact contiguousRuns_ordered pages
  · rw [List.pairwise_map]
    exact contiguousRuns_apart pages increasing

theorem wholeSection_resolves (stream : Option (List Text)) :
    ∃ sections, d.wholeSection stream = .ok sections ∧
      numbersOf sections = integersBetween 1 d.total := by
  cases stream with
  | some lines => exact ⟨_, rfl, List.flatMap_singleton _ _⟩
  | none =>
    have whole := d.section?_eq_ok 1 d.total (Int.le_refl 1) (by omega) (Int.le_refl _)
    rw [wholeSection, whole]
    exact ⟨_, rfl, List.flatMap_singleton _ _⟩

theorem edgeSections_resolves (long : 60 < d.total) :
    ∃ sections, d.edgeSections = .ok sections ∧
      RunOver sections (integersBetween 1 30 ++ integersBetween (d.total - 29) d.total) := by
  have tail : (d.total : Int) - edgePages + 1 = d.total - 29 := by
    unfold edgePages
    omega
  refine ⟨_, edgeSections_eq_ok d long, ?_⟩
  rw [tail]
  constructor
  · rw [numbersOf, List.flatMap_cons, List.flatMap_singleton]
    rfl
  · rw [List.forall_mem_cons, List.forall_mem_singleton]
    constructor
    · simp [joined, edgePages]
    · simp only [joined]
      omega
  · rw [List.pairwise_pair]
    simp only [joined, edgePages]
    omega

theorem rangeRuns_ne_page (range : Value) (total : Nat) (e : NoSuchPage) :
    rangeRuns total range ≠ .error (.page e) := by
  intro failed
  cases read : rangeText range with
  | error other =>
    rw [rangeRuns, read] at failed
    cases failed
    exact rangeText_ne_page range e read
  | ok t =>
    rw [rangeRuns, read] at failed
    have refused := (map_eq_error_iff ..).1 failed
    cases chosen : pagesOfRange t (.int total) <;> rw [chosen] at refused <;> cases refused

theorem select_ne_page (mode : PageMode) (range : Value) (stream : Option (List Text))
    (e : NoSuchPage) : d.select mode range stream ≠ .error (.page e) := by
  intro failed
  obtain ⟨sections, whole, _⟩ := d.wholeSection_resolves stream
  cases mode with
  | all =>
    rw [select, whole] at failed
    cases failed
  | partialEdges =>
    rw [select] at failed
    split_ifs at failed with long
    · rw [edgeSections_eq_ok d long] at failed
      cases failed
    · rw [whole] at failed
      cases failed
  | custom =>
    rw [select, rangeSections_eq, map_eq_error_iff] at failed
    exact rangeRuns_ne_page range d.total e failed

/-- The sections that a mode selects run over exactly the pages that it asks for: every page, the
thirty pages at each end of a stream of more than sixty, or the pages of a written range, in runs as
long as they can be. A range is selected if it can be read, no page is looked up in vain, and
cutting numbers into runs loses none of them, in whatever order they are. -/
theorem select_resolves (stream : Option (List Text)) :
    (∀ range, ∃ sections, d.select .all range stream = .ok sections ∧
        numbersOf sections = integersBetween 1 d.total) ∧
      (∀ range, d.total ≤ 60 → ∃ sections, d.select .partialEdges range stream = .ok sections ∧
        numbersOf sections = integersBetween 1 d.total) ∧
      (∀ range, 60 < d.total → ∃ sections, d.select .partialEdges range stream = .ok sections ∧
        RunOver sections (integersBetween 1 30 ++ integersBetween (d.total - 29) d.total)) ∧
      (∀ t pages, pagesOfRange t (.int d.total) = .ok pages → pages.Pairwise (· < ·) ∧
        ∃ sections, d.select .custom (.text t) stream = .ok sections ∧ RunOver sections pages) ∧
      (∀ t sections, d.select .custom (.text t) stream = .ok sections →
        ∃ pages, pagesOfRange t (.int d.total) = .ok pages) ∧
      (∀ mode range e, d.select mode range stream ≠ .error (.page e)) ∧
      ∀ pages, (contiguousRuns pages).flatMap (fun run => integersBetween run.1 run.2) = pages := by
  refine ⟨fun range => d.wholeSection_resolves stream, ?short, ?long, ?accepted, ?selected,
    fun mode range e => d.select_ne_page mode range stream e, flatMap_contiguousRuns⟩
  case short =>
    intro range short
    rw [select, if_neg (by unfold edgePages; omega)]
    exact d.wholeSection_resolves stream
  case long =>
    intro range long
    rw [select, if_pos (by unfold edgePages; omega)]
    exact d.edgeSections_resolves long
  case accepted =>
    intro t pages read
    have increasing := (pagesOfRange_spec t d.total pages read).1
    have text := rangeText_text t (solid_of_pagesOfRange t _ pages read)
    exact ⟨increasing, _, d.rangeSections_of_pages (.text t) t pages text read,
      d.runOver_joined pages increasing⟩
  case selected =>
    intro t sections selected
    obtain ⟨pages, read, _⟩ := d.rangeSections_eq_ok (.text t) sections selected
    exact ⟨pages, read⟩

/-- Of sixty-one pages the edges leave out one, and a range is cut at the page it leaves out. -/
theorem select_resolves_gap :
    (distribute ["a".toList] 1).total ≤ 60 ∧ 60 < (distribute (.replicate 61 "a".toList) 1).total ∧
      pagesOfRange "1,3-4".toList (.int (distribute (.replicate 61 "a".toList) 1).total) =
        .ok [1, 3, 4] ∧
      (∃ sections, (distribute ["a".toList] 1).select .partialEdges .null none = .ok sections ∧
        numbersOf sections = [1]) ∧
      (∃ sections, (distribute (.replicate 61 "a".toList) 1).select .partialEdges .null none =
          .ok sections ∧
        RunOver sections (integersBetween 1 30 ++ integersBetween 32 61)) ∧
      ∃ sections,
        (distribute (.replicate 61 "a".toList) 1).select .custom (.ofString "1,3-4") none =
          .ok sections ∧
        RunOver sections [1, 3, 4] := by
  have one : (distribute ["a".toList] 1).total ≤ 60 := by decide
  have total : (distribute (.replicate 61 "a".toList) 1).total = 61 := by decide +kernel
  have long : 60 < (distribute (.replicate 61 "a".toList) 1).total := by omega
  have read : pagesOfRange "1,3-4".toList (.int (distribute (.replicate 61 "a".toList) 1).total) =
      .ok [1, 3, 4] := by
    rw [total]
    exact congrArg Except.ok (sortedPages_eq_self [1, 3, 4] (by decide))
  obtain ⟨_, _, edges, accepted, _⟩ :=
    select_resolves (distribute (.replicate 61 "a".toList) 1) none
  have shown := edges .null long
  rw [total] at shown
  exact ⟨one, long, read, (select_resolves (distribute ["a".toList] 1) none).2.1 .null one, shown,
    (accepted _ _ read).2⟩

end Distribution

end Listing
