import Listing.Page.Document
import Listing.Proofs.Page.Layout
import Listing.Proofs.Page.Selection

/-!
Pages are cut in three places: the stream of lines is distributed, the lines of every section are
laid out with breaks anew, and the drawing splits the units at those breaks. The three agree, so the
number that a page is drawn with names the page of the distribution that holds its lines.
-/

namespace Listing

theorem splitPages_layout (lines : List Text) (size : Nat) (pos : 0 < size) (s : Section)
    (covers : s.Covers (distribute lines size)) :
    splitPages (s.layout size).units =
      ((distribute lines size).run s.first s.last).map Page.lines := by
  have run : ((distribute lines size).run s.first s.last).map Page.lines =
      ((chunks size (contentOf lines)).drop (s.first - 1).toNat).take
        (s.last + 1 - s.first).toNat := by
    rw [Distribution.run, List.map_take, List.map_drop, map_lines_distribute lines size pos]
  change splitPages (unitsFrom size 0 s.lines) = _
  rw [splitPages_unitsFrom size pos, covers.lines, List.flatMap_def, run]
  exact chunks_flatten_run size pos _ _ _

theorem layout_contentOf (first last : Int) (lines : List Text) (size : Nat) :
    (Section.mk first last (contentOf lines)).layout size =
      (Section.mk first last lines).layout size := by
  simp only [Section.layout, unitsFrom_contentOf]
  rfl

theorem joined_all (lines : List Text) (size : Nat) (pos : 0 < size) :
    (distribute lines size).joined (1, (distribute lines size).total) =
      ⟨1, (distribute lines size).total, contentOf lines⟩ := by
  rw [Distribution.joined, Distribution.run_total, flatMap_lines_distribute lines size pos]

theorem layout_select_all (lines : List Text) (size : Nat) (pos : 0 < size) (range : Value) :
    ((distribute lines size).select .all range none).map (List.map fun s => s.layout size) =
      ((distribute lines size).select .all range (some lines)).map
        (List.map fun s => s.layout size) := by
  have joins : (distribute lines size).select .all range none =
      .ok [⟨1, (distribute lines size).total, contentOf lines⟩] := by
    rw [Distribution.select, Distribution.wholeSection,
      Distribution.section?_eq_ok _ 1 _ (Int.le_refl 1) (by omega) (Int.le_refl _),
      joined_all lines size pos]
    rfl
  rw [joins]
  exact congrArg (fun l => Except.ok [l]) (layout_contentOf 1 _ lines size)

theorem paginate_eq (content : Text) (request : Request) :
    paginate content request =
      if (distribute content.lines request.pageSize).total = 0 then .error .noContent
      else
        (((distribute content.lines request.pageSize).select request.mode request.range
          (some content.lines)).mapError .selection).map fun sections =>
            ⟨request.header, (distribute content.lines request.pageSize).total,
              sections.map fun s => s.layout request.pageSize⟩ := rfl

theorem paginate_eq_ok_iff (content : Text) (request : Request) (document : Document) :
    paginate content request = .ok document ↔
      0 < (distribute content.lines request.pageSize).total ∧
        ∃ sections, (distribute content.lines request.pageSize).select request.mode request.range
            (some content.lines) = .ok sections ∧
          document = ⟨request.header, (distribute content.lines request.pageSize).total,
            sections.map fun s => s.layout request.pageSize⟩ := by
  unfold paginate
  dsimp only
  split_ifs with empty
  · simp [empty]
  · rw [bind_eq_ok_iff]
    simp only [mapError_eq_ok_iff, Nat.pos_of_ne_zero empty, true_and, Except.ok.injEq,
      @eq_comm _ document]

/-- The three ways to cut pages agree. A document counts the pages of the distribution; a section
is drawn on as many pages as it runs over and counts as many; and the page that is drawn at an
offset in a section holds the lines of the page with the number that it is drawn with. All pages
are laid out alike with the stream at hand and without. -/
theorem paginate_agrees (content : Text) (request : Request) :
    (∀ document, paginate content request = .ok document →
      document.totalPages = (distribute content.lines request.pageSize).total ∧
        ∀ s ∈ document.sections,
          ((splitPages s.units).length : Int) = s.last - s.first + 1 ∧
          (s.rendered : Int) = s.last - s.first + 1 ∧
          ∀ (offset : Nat) (lines : List Text), (splitPages s.units)[offset]? = some lines →
            ∃ page, (distribute content.lines request.pageSize).page (s.first + offset) = .ok page ∧
              page.number = s.first + offset ∧ page.lines = lines) ∧
      ((distribute content.lines request.pageSize).select .all request.range none).map
          (List.map fun s => s.layout request.pageSize) =
        ((distribute content.lines request.pageSize).select .all request.range
          (some content.lines)).map (List.map fun s => s.layout request.pageSize) := by
  refine ⟨?_, layout_select_all _ _ request.pageSize_pos _⟩
  intro document paginated
  obtain ⟨filled, sections, selected, rfl⟩ := (paginate_eq_ok_iff ..).1 paginated
  refine ⟨rfl, List.forall_mem_map.2 fun s member => ?_⟩
  have covers := Distribution.select_covers content.lines request.pageSize request.pageSize_pos
    request.mode request.range sections filled selected s member
  have split := splitPages_layout content.lines request.pageSize request.pageSize_pos s covers
  have count : ((splitPages (s.layout request.pageSize).units).length : Int) =
      s.last - s.first + 1 := by
    rw [split, List.length_map]
    exact Distribution.length_run _ _ _ covers.low covers.ordered covers.high
  refine ⟨count, ?_, fun offset lines drawn => ?_⟩
  · exact (congrArg Int.ofNat (renderedPages_eq_length _)).trans count
  · rw [split, List.getElem?_map, Option.map_eq_some_iff] at drawn
    obtain ⟨page, found, rfl⟩ := drawn
    have looked := Distribution.getElem?_run _ s.first s.last covers.low offset page found
    exact ⟨page, looked, Distribution.number_of_page _ _ _ _ looked, rfl⟩

/-- Of the pages `a b`, `c d` and `e`, the last two: the section begins in the middle of the stream
and ends with a page that is not full. -/
theorem paginate_agrees_middle :
    ∃ document, paginate "a\nb\n\nc\nd\ne".toList
        { pageSize := 2, header := .text [], mode := .custom, range := .ofString "2-3"
          stripComments := .bool true, removeBlankLines := .bool true
          pageSize_pos := Nat.two_pos } = .ok document ∧
      document.totalPages = 3 ∧
      ∃ s ∈ document.sections, s.first = 2 ∧ s.rendered = 2 ∧
        splitPages s.units = [["c".toList, "d".toList], ["e".toList]] ∧
        ∃ page, (distribute (Text.lines "a\nb\n\nc\nd\ne".toList) 2).page 3 = .ok page ∧
          page.lines = ["e".toList] := by
  have pages : pagesOfRange "2-3".toList (.int 3) = .ok [2, 3] :=
    congrArg Except.ok (sortedPages_eq_self [2, 3] (by decide))
  have selected := Distribution.rangeSections_of_pages
    (distribute (Text.lines "a\nb\n\nc\nd\ne".toList) 2) (.ofString "2-3") _ _ rfl pages
  have paginated := (paginate_eq_ok_iff "a\nb\n\nc\nd\ne".toList
    { pageSize := 2, header := .text [], mode := .custom, range := .ofString "2-3"
      stripComments := .bool true, removeBlankLines := .bool true
      pageSize_pos := Nat.two_pos } _).2 ⟨by decide, _, selected, rfl⟩
  have agrees := (paginate_agrees _ _).1 _ paginated
  obtain ⟨_, _, shown⟩ := agrees.2 _ List.mem_cons_self
  obtain ⟨page, found, _, held⟩ := shown 1 ["e".toList] rfl
  exact ⟨_, paginated, agrees.1, _, List.mem_cons_self, rfl, rfl, rfl, page, found, held⟩

end Listing
