import Listing.Page.Selection
import Listing.Proofs.Page.Distribution
import Listing.Proofs.Page.Range
import Mathlib.Data.List.Sort

/-!
What a selection of pages shows. Pages are in the order of their numbers, so a selection is known
by the numbers of its pages: the sections of a mode, read page by page, are the pages that the mode
shows and no others, in their order. Every section holds the lines of its pages.
-/

namespace Listing

/-- Whether a mode shows a page of a document of `total` pages. -/
def PageMode.shows (range : Value) (total page : Nat) : PageMode → Bool
  | .all => true
  | .partialEdges => page ≤ edgePages || total < page + edgePages
  | .custom => (range.asText.splitOn ',').any (tokenSelects total page)

theorem PageMode.shows_partialEdges (range : Value) (total page : Nat) :
    partialEdges.shows range total page = true ↔ page ≤ edgePages ∨ total < page + edgePages := by
  simp [shows]

theorem rangeText_eq_ok (range : Value) (t : Text) (read : rangeText range = .ok t) :
    range.asText = t := by
  unfold rangeText at read
  split_ifs at read
  cases range with
  | text content =>
    simp only [Value.textFor] at read
    split_ifs at read
    cases read
    rfl
  | _ => cases read

theorem pairwise_integersBetween (first last : Int) :
    (integersBetween first last).Pairwise (· < ·) := by
  rw [integersBetween, List.pairwise_map]
  exact List.pairwise_lt_range.imp fun less => by omega

namespace Distribution

theorem number_run (lines : List Text) (size : Nat) (first last : Int) (low : 1 ≤ first)
    (high : last ≤ (distribute lines size).total) :
    ((distribute lines size).run first last).map (fun page => (page.number : Int)) =
      integersBetween first last := by
  have numbers : ((distribute lines size).run first last).map Page.number =
      List.range' first.toNat (last + 1 - first).toNat := by
    have start : 1 + (first - 1).toNat * 1 = first.toNat := by omega
    rw [run, List.map_take, List.map_drop, map_number_distribute, List.drop_range',
      List.take_range'_of_length_ge (by omega), start]
  calc ((distribute lines size).run first last).map (fun page => (page.number : Int))
      = (((distribute lines size).run first last).map Page.number).map (fun n : Nat => (n : Int)) :=
        (List.map_map ..).symm
    _ = integersBetween first last := by
        rw [numbers, List.range'_eq_map_range, List.map_map, integersBetween]
        apply List.map_congr_left
        intro k _
        rw [Function.comp_apply]
        omega

theorem pairwise_number (lines : List Text) (size : Nat) :
    (distribute lines size).pages.Pairwise (fun page next => page.number < next.number) := by
  rw [← List.pairwise_map, map_number_distribute]
  exact List.pairwise_lt_range'

theorem eq_filter_number (lines : List Text) (size : Nat) (chosen : List Page) (shown : Nat → Bool)
    (inside : ∀ page ∈ chosen, page ∈ (distribute lines size).pages)
    (ordered : chosen.Pairwise fun page next => page.number < next.number)
    (numbers : ∀ page ∈ (distribute lines size).pages,
      page.number ∈ chosen.map Page.number ↔ shown page.number = true) :
    chosen = (distribute lines size).pages.filter fun page => shown page.number := by
  let before : Page → Page → Prop := fun page next => page.number < next.number
  have irreflexive : Std.Irrefl before := ⟨fun page => Nat.lt_irrefl page.number⟩
  have antisymmetric : Std.Antisymm before :=
    ⟨fun page next one other => absurd other (Nat.lt_asymm one)⟩
  have nodup : ((distribute lines size).pages.map Page.number).Nodup := by
    rw [map_number_distribute]
    exact List.nodup_range'
  refine List.Pairwise.eq_of_mem_iff (r := before) ordered
    ((pairwise_number lines size).filter _) fun page => ?_
  rw [List.mem_filter]
  constructor
  · intro member
    exact ⟨inside page member,
      (numbers page (inside page member)).1 (List.mem_map_of_mem member)⟩
  · rintro ⟨member, shows⟩
    obtain ⟨other, chosenOther, same⟩ := List.mem_map.1 ((numbers page member).2 shows)
    rw [← List.inj_on_of_nodup_map nodup (inside other chosenOther) member same]
    exact chosenOther

theorem mem_of_mem_run (d : Distribution) (first last : Int) (page : Page)
    (member : page ∈ d.run first last) : page ∈ d.pages :=
  List.mem_of_mem_drop (List.mem_of_mem_take member)

theorem contentOf_flatMap_run (lines : List Text) (size : Nat) (pos : 0 < size) (first last : Int) :
    contentOf (((distribute lines size).run first last).flatMap Page.lines) =
      ((distribute lines size).run first last).flatMap Page.lines := by
  rw [contentOf, List.filter_eq_self]
  intro line held
  obtain ⟨page, member, inside⟩ := List.mem_flatMap.1 held
  have all : line ∈ contentOf lines := by
    rw [← flatMap_lines_distribute lines size pos]
    exact List.mem_flatMap.2 ⟨page, mem_of_mem_run _ first last page member, inside⟩
  exact (List.mem_filter.1 all).2

end Distribution

/-- A section holds the lines of its pages, be they joined again or the lines of the stream. -/
structure Section.Covers (s : Section) (d : Distribution) : Prop where
  low : 1 ≤ s.first
  ordered : s.first ≤ s.last
  high : s.last ≤ d.total
  lines : contentOf s.lines = (d.run s.first s.last).flatMap Page.lines

namespace Distribution

def joined (d : Distribution) (run : Int × Int) : Section :=
  ⟨run.1, run.2, (d.run run.1 run.2).flatMap Page.lines⟩

theorem section?_eq_ok (d : Distribution) (first last : Int) (low : 1 ≤ first)
    (ordered : first ≤ last + 1) (high : last ≤ d.total) :
    d.section? first last = .ok (d.joined (first, last)) := by
  rw [section?, linesFor, linesOf_eq_ok d first _ low (by omega)]
  rfl

theorem joined_covers (lines : List Text) (size : Nat) (pos : 0 < size) (run : Int × Int)
    (low : 1 ≤ run.1) (ordered : run.1 ≤ run.2) (high : run.2 ≤ (distribute lines size).total) :
    ((distribute lines size).joined run).Covers (distribute lines size) :=
  ⟨low, ordered, high, contentOf_flatMap_run lines size pos run.1 run.2⟩

theorem stream_covers (lines : List Text) (size : Nat) (pos : 0 < size)
    (filled : 0 < (distribute lines size).total) :
    (Section.mk 1 (distribute lines size).total lines).Covers (distribute lines size) := by
  refine ⟨Int.le_refl 1, by simp only; omega, Int.le_refl _, ?_⟩
  rw [run_total, flatMap_lines_distribute lines size pos]

theorem contiguousRuns_bounds (range : Text) (total : Int) (pages : List Int)
    (read : pagesOfRange range (.int total) = .ok pages) :
    ∀ run ∈ contiguousRuns pages, 1 ≤ run.1 ∧ run.1 ≤ run.2 ∧ run.2 ≤ total := by
  intro run member
  have ordered := contiguousRuns_ordered pages run member
  have within := mem_of_mem_contiguousRuns pages run member
  have first := pagesOfRange_bounds range total pages read run.1 (within _ (Int.le_refl _) ordered)
  have last := pagesOfRange_bounds range total pages read run.2 (within _ ordered (Int.le_refl _))
  exact ⟨first.1, ordered, last.2⟩

theorem rangeSections_of_pages (d : Distribution) (range : Value) (t : Text) (pages : List Int)
    (read : rangeText range = .ok t) (chosen : pagesOfRange t (.int d.total) = .ok pages) :
    d.rangeSections range = .ok ((contiguousRuns pages).map d.joined) := by
  have joins : (contiguousRuns pages).mapM (fun run => d.section? run.1 run.2) =
      .ok ((contiguousRuns pages).map d.joined) := by
    rw [mapM_eq_ok_iff, List.forall₂_map_right_iff, List.forall₂_same]
    intro run member
    have bounds := contiguousRuns_bounds t d.total pages chosen run member
    exact d.section?_eq_ok run.1 run.2 bounds.1 (by omega) bounds.2.2
  rw [rangeSections, read, bind_eq_ok_iff]
  exact ⟨t, rfl, (bind_eq_ok_iff _ _ _).2 ⟨pages, (mapError_eq_ok_iff _ _ _).2 chosen, joins⟩⟩

def rangeRuns (total : Nat) (range : Value) : Except SelectionError (List (Int × Int)) := do
  let text ← rangeText range
  ((pagesOfRange text (.int total)).mapError .range).map contiguousRuns

theorem rangeSections_eq (d : Distribution) (range : Value) :
    d.rangeSections range = (rangeRuns d.total range).map (List.map d.joined) := by
  cases read : rangeText range with
  | error e =>
    rw [rangeSections, rangeRuns, read]
    rfl
  | ok t =>
    have runs : rangeRuns d.total range =
        ((pagesOfRange t (.int d.total)).mapError .range).map contiguousRuns := by
      rw [rangeRuns, read]
      rfl
    cases chosen : pagesOfRange t (.int d.total) with
    | error e =>
      rw [rangeSections, read, runs, chosen]
      change ((pagesOfRange t (.int d.total)).mapError SelectionError.range >>= _) = _
      rw [chosen]
      rfl
    | ok pages =>
      rw [rangeSections_of_pages d range t pages read chosen, runs, chosen]
      rfl

theorem rangeSections_eq_ok (d : Distribution) (range : Value) (sections : List Section)
    (selected : d.rangeSections range = .ok sections) :
    ∃ pages, pagesOfRange range.asText (.int d.total) = .ok pages ∧
      sections = (contiguousRuns pages).map d.joined := by
  obtain ⟨t, read, more⟩ := (bind_eq_ok_iff _ _ _).1 selected
  obtain ⟨pages, chosen, _⟩ := (bind_eq_ok_iff _ _ _).1 more
  rw [mapError_eq_ok_iff] at chosen
  rw [rangeSections_of_pages d range t pages read chosen] at selected
  cases selected
  exact ⟨pages, by rw [rangeText_eq_ok range t read]; exact chosen, rfl⟩

theorem edgeSections_eq_ok (d : Distribution) (long : 2 * edgePages < d.total) :
    d.edgeSections =
      .ok [d.joined (1, edgePages), d.joined (d.total - edgePages + 1, d.total)] := by
  unfold edgePages at long
  have head := d.section?_eq_ok 1 edgePages (Int.le_refl 1) (by decide)
    (by unfold edgePages; omega)
  have tail := d.section?_eq_ok (d.total - edgePages + 1) d.total (by unfold edgePages; omega)
    (by unfold edgePages; omega) (Int.le_refl _)
  rw [edgeSections, head, tail]
  rfl

theorem exists_select (d : Distribution) (mode : PageMode) (range : Value) (lines : List Text)
    (other : mode ≠ .custom) : ∃ sections, d.select mode range (some lines) = .ok sections := by
  cases mode with
  | all => exact ⟨_, rfl⟩
  | partialEdges =>
    rw [select]
    split_ifs with long
    · exact ⟨_, edgeSections_eq_ok d long⟩
    · exact ⟨_, rfl⟩
  | custom => exact absurd rfl other

theorem select_custom (d : Distribution) (range : Value) (lines : List Text)
    (text : rangeText range = .ok range.asText) :
    d.select .custom range (some lines) =
      ((pagesOfRange range.asText (.int d.total)).mapError .range).map fun pages =>
        (contiguousRuns pages).map d.joined := by
  rw [select, rangeSections_eq, rangeRuns, text]
  change Except.map _
    (((pagesOfRange range.asText (.int d.total)).mapError _).map contiguousRuns) = _
  cases pagesOfRange range.asText (.int d.total) <;> rfl

theorem select_cases (d : Distribution) (mode : PageMode) (range : Value) (lines : List Text)
    (sections : List Section) (selected : d.select mode range (some lines) = .ok sections) :
    ((mode = .all ∨ mode = .partialEdges ∧ d.total ≤ 2 * edgePages) ∧
        sections = [⟨1, d.total, lines⟩]) ∨
      (mode = .partialEdges ∧ 2 * edgePages < d.total ∧
        sections = [d.joined (1, edgePages), d.joined (d.total - edgePages + 1, d.total)]) ∨
      (mode = .custom ∧ ∃ pages, pagesOfRange range.asText (.int d.total) = .ok pages ∧
        sections = (contiguousRuns pages).map d.joined) := by
  cases mode with
  | all =>
    cases selected
    exact .inl ⟨.inl rfl, rfl⟩
  | partialEdges =>
    rw [select] at selected
    split_ifs at selected with long
    · rw [edgeSections_eq_ok d long] at selected
      cases selected
      exact .inr (.inl ⟨rfl, long, rfl⟩)
    · cases selected
      exact .inl ⟨.inr ⟨rfl, by omega⟩, rfl⟩
  | custom => exact .inr (.inr ⟨rfl, rangeSections_eq_ok d range sections selected⟩)

theorem select_covers (lines : List Text) (size : Nat) (pos : 0 < size) (mode : PageMode)
    (range : Value) (sections : List Section) (filled : 0 < (distribute lines size).total)
    (selected : (distribute lines size).select mode range (some lines) = .ok sections) :
    ∀ s ∈ sections, s.Covers (distribute lines size) := by
  rcases select_cases _ mode range lines sections selected with
    ⟨_, rfl⟩ | ⟨_, long, rfl⟩ | ⟨_, pages, read, rfl⟩
  · rw [List.forall_mem_singleton]
    exact stream_covers lines size pos filled
  · unfold edgePages at long ⊢
    rw [List.forall_mem_cons, List.forall_mem_singleton]
    constructor
    · exact joined_covers lines size pos _ (Int.le_refl 1) (by decide) (by simp only; omega)
    · exact joined_covers lines size pos _ (by simp only; omega) (by simp only; omega)
        (Int.le_refl _)
  · rw [List.forall_mem_map]
    intro run member
    have bounds := contiguousRuns_bounds _ _ pages read run member
    exact joined_covers lines size pos run bounds.1 bounds.2.1 bounds.2.2

theorem select_numbers (d : Distribution) (mode : PageMode) (range : Value) (lines : List Text)
    (sections : List Section) (selected : d.select mode range (some lines) = .ok sections) :
    (sections.flatMap fun s => integersBetween s.first s.last).Pairwise (· < ·) ∧
      ∀ page : Nat, 1 ≤ page → page ≤ d.total →
        ((page : Int) ∈ sections.flatMap (fun s => integersBetween s.first s.last) ↔
          mode.shows range d.total page = true) := by
  rcases select_cases d mode range lines sections selected with
    ⟨short, rfl⟩ | ⟨rfl, long, rfl⟩ | ⟨rfl, pages, read, rfl⟩
  · rw [List.flatMap_singleton]
    refine ⟨pairwise_integersBetween 1 d.total, fun page low high => ?_⟩
    have shown : mode.shows range d.total page = true := by
      rcases short with rfl | ⟨rfl, short⟩
      · rfl
      · rw [PageMode.shows_partialEdges]
        unfold edgePages at *
        omega
    rw [mem_integersBetween]
    exact ⟨fun _ => shown, fun _ => ⟨Int.ofNat_le.2 low, Int.ofNat_le.2 high⟩⟩
  · rw [List.flatMap_cons, List.flatMap_singleton]
    unfold edgePages at long
    refine ⟨List.pairwise_append.2 ⟨pairwise_integersBetween _ _, pairwise_integersBetween _ _, ?_⟩,
      fun page low high => ?_⟩
    · intro page head next tail
      simp only [joined, mem_integersBetween, edgePages] at head tail
      omega
    · rw [List.mem_append, PageMode.shows_partialEdges]
      simp only [joined, mem_integersBetween, edgePages]
      omega
  · have runs : ((contiguousRuns pages).map d.joined).flatMap
        (fun s => integersBetween s.first s.last) = pages := by
      rw [List.flatMap_map]
      exact flatMap_contiguousRuns pages
    have spec := pagesOfRange_spec _ _ pages read
    rw [runs]
    exact ⟨spec.1, fun page _ _ => spec.2 page⟩

/-- The sections of a selection, read page by page, are the pages that the mode shows. -/
theorem select_runs (lines : List Text) (size : Nat) (pos : 0 < size) (mode : PageMode)
    (range : Value) (sections : List Section) (filled : 0 < (distribute lines size).total)
    (selected : (distribute lines size).select mode range (some lines) = .ok sections) :
    (sections.flatMap fun s => (distribute lines size).run s.first s.last) =
      (distribute lines size).pages.filter fun page =>
        mode.shows range (distribute lines size).total page.number := by
  have covers := select_covers lines size pos mode range sections filled selected
  obtain ⟨increasing, members⟩ := select_numbers _ mode range lines sections selected
  have numbers : (sections.flatMap fun s => (distribute lines size).run s.first s.last).map
      (fun page => (page.number : Int)) =
        sections.flatMap fun s => integersBetween s.first s.last := by
    rw [List.map_flatMap]
    exact List.flatMap_congr fun s member =>
      number_run lines size s.first s.last (covers s member).low (covers s member).high
  refine eq_filter_number lines size _
    (fun page => mode.shows range (distribute lines size).total page) ?_ ?_ ?_
  · intro page chosen
    obtain ⟨s, _, member⟩ := List.mem_flatMap.1 chosen
    exact mem_of_mem_run _ s.first s.last page member
  · rw [← numbers, List.pairwise_map] at increasing
    exact increasing.imp fun less => Int.ofNat_lt.1 less
  · intro page inside
    have number : page.number ∈ List.range' 1 (distribute lines size).total := by
      rw [← map_number_distribute]
      exact List.mem_map_of_mem inside
    have bounds := List.mem_range'_1.1 number
    rw [← members page.number bounds.1 (by omega), ← numbers, List.mem_map, List.mem_map]
    simp only [Int.ofNat_inj]

theorem select_ne_nil (d : Distribution) (mode : PageMode) (range : Value) (lines : List Text)
    (sections : List Section) (selected : d.select mode range (some lines) = .ok sections) :
    sections ≠ [] := by
  rcases select_cases d mode range lines sections selected with
    ⟨_, rfl⟩ | ⟨_, _, rfl⟩ | ⟨_, pages, read, rfl⟩
  · simp
  · simp
  · intro empty
    have lossless := flatMap_contiguousRuns pages
    rw [List.map_eq_nil_iff.1 empty, List.flatMap_nil] at lossless
    exact pagesOfRange_ne_nil _ _ pages read lossless.symm

theorem select_shows (lines : List Text) (size : Nat) (pos : 0 < size) (mode : PageMode)
    (range : Value) (sections : List Section) (filled : 0 < (distribute lines size).total)
    (selected : (distribute lines size).select mode range (some lines) = .ok sections) :
    ((distribute lines size).pages.filter fun page =>
      mode.shows range (distribute lines size).total page.number) ≠ [] := by
  obtain ⟨s, others, rfl⟩ := List.exists_cons_of_ne_nil (select_ne_nil _ _ _ _ _ selected)
  have covers := select_covers lines size pos mode range _ filled selected s List.mem_cons_self
  have count := length_run _ s.first s.last covers.low covers.ordered covers.high
  have ordered := covers.ordered
  rw [← select_runs lines size pos mode range _ filled selected, List.flatMap_cons]
  intro empty
  rw [(List.append_eq_nil_iff.1 empty).1, List.length_nil] at count
  omega

end Distribution

end Listing
