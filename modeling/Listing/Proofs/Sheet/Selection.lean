import Listing.Proofs.Sheet.Drawing
import Listing.Sheet.Press

/-!
Selecting pages is printing all of them and putting aside the sheets that are not shown. If all
pages can be written, so can a selection: the header decides alone what can be drawn, and the end
of a document depends on its header and its path only.
-/

namespace Listing

theorem contentsLeaveLatin_texts (texts : List Text) :
    contentsLeaveLatin (texts.map .text) = .ok (texts.any Text.leavesLatin) := by
  induction texts with
  | nil => rfl
  | cons t rest ih =>
    rw [List.map_cons, contentsLeaveLatin, Value.items, ih]
    change ((anyLeavesLatin (t.map fun c => .text [c])).bind fun leaves =>
      if leaves = true then .ok true else .ok (rest.any Text.leavesLatin)) = _
    rw [anyLeavesLatin_text]
    cases leaves : t.leavesLatin <;> simp [Except.bind, leaves]

theorem lines_draft (document : Document) :
    ∃ texts : List Text, document.draft.lines = texts.map .text := by
  refine ⟨document.sections.flatMap fun s => s.units.filterMap fun
    | .line content => some content
    | .pageBreak => none, ?_⟩
  rw [Draft.lines, Document.draft, List.map_flatMap, List.flatMap_map]
  apply List.flatMap_congr
  intro s _
  rw [List.filterMap_map, List.map_filterMap]
  apply List.filterMap_congr
  intro unit _
  cases unit <;> rfl

theorem leavesLatin_of_header (first second : Document) (same : first.header = second.header)
    (needed : Bool) (looked : first.draft.leavesLatin = .ok needed) :
    ∃ needed, second.draft.leavesLatin = .ok needed := by
  obtain ⟨texts, lines⟩ := lines_draft second
  have header : second.draft.header = first.draft.header := same.symm
  unfold Draft.leavesLatin at looked ⊢
  rw [contentsLeaveLatin, bind_eq_ok_iff] at looked
  obtain ⟨items, itemized, more⟩ := looked
  obtain ⟨leaves, found, _⟩ := (bind_eq_ok_iff _ _ _).1 more
  rw [lines, header, contentsLeaveLatin, itemized]
  change ∃ needed, ((anyLeavesLatin items).bind fun leaves =>
    if leaves = true then .ok true else contentsLeaveLatin (texts.map .text)) = .ok needed
  rw [found, contentsLeaveLatin_texts]
  cases leaves
  · exact ⟨_, rfl⟩
  · exact ⟨_, rfl⟩

theorem paginate_all (content : Text) (request : Request) (selected : Document)
    (paginated : paginate content request = .ok selected) :
    ∃ whole, paginate content { request with mode := .all } = .ok whole ∧
      whole.header = request.header ∧ selected.header = request.header := by
  obtain ⟨filled, _, _, rfl⟩ := (paginate_eq_ok_iff ..).1 paginated
  exact ⟨_, (paginate_eq_ok_iff ..).2 ⟨filled, _, rfl, rfl⟩, rfl, rfl⟩

theorem pagesShown_all (content : Text) (request : Request) :
    Request.pagesShown { request with mode := .all } content =
      (distribute content.lines request.pageSize).pages :=
  List.filter_eq_self.2 fun _ _ => rfl

theorem FileTree.locate_dot (t : FileTree) : t.locate ⟨0, []⟩ = .ok (0, t.workingFolder) := by
  have allowed : Path.refusal ⟨0, []⟩ = none := rfl
  rw [FileTree.locate, allowed]
  exact FileTree.follow.eq_1 ..

theorem FileTree.ensureFolders_dot (t : FileTree) (there : t.node? t.workingFolder = some .folder) :
    t.ensureFolders ⟨0, []⟩ = .ok t := by
  have present : t.makeFolder ⟨0, []⟩ = .error .alreadyExists := rfl
  rw [FileTree.ensureFolders, present]
  simp only [FileTree.keepFolder, FileTree.entry, FileTree.locate_dot, there, bind, Except.bind]

theorem FileTree.saveFault?_new (t : FileTree) (name : Text) (own : Path.ofText name = ⟨0, [name]⟩)
    (taken : Path.refusal ⟨0, [name]⟩ = none) (clean : Char.ofNat 0 ∉ name)
    (short : name.byteCount ≤ nameLimit) (above : name ≠ ['.', '.'])
    (there : t.node? t.workingFolder = some .folder)
    (searched : t.workingFolder ∉ t.unsearchable) (takes : t.workingFolder ∉ t.unwritable)
    (new : t.node? (t.workingFolder ++ [name]) = none) : t.saveFault? name = none := by
  have part : name ∈ (Path.ofText name).parts := by
    rw [own]
    exact List.mem_singleton_self name
  obtain ⟨split, kept⟩ := List.mem_filter.1 part
  have filled : name ≠ [] := by
    rintro rfl
    cases kept
  have whole : (name.takeWhile fun c => c ≠ Char.ofNat 0) = name := by
    rw [List.takeWhile_eq_self_iff]
    intro c inside
    exact decide_eq_true fun null => clean (null ▸ inside)
  have folder : (Path.mk 0 [name]).parent = ⟨0, []⟩ := rfl
  have absent : t.remove ⟨0, [name]⟩ = .error .notFound := by
    unfold FileTree.remove
    rw [taken, folder, t.locate_dot]
    simp [there, searched, above, Nat.not_lt.2 short, new]
  have plain : name.getLast? ≠ some '/' := fun last =>
    Text.notMem_splitOn '/' name name split (List.mem_of_getLast? last)
  unfold FileTree.saveFault?
  dsimp only
  rw [whole, if_neg filled, own, absent]
  unfold FileTree.openFault?
  rw [own, folder, t.locate_dot]
  simp [takes, plain]

section Writing

variable [Renderer]

theorem FileTree.refusal?_eq_none_of_subset (t : FileTree)
    (steps more : List (Step Number)) (within : steps ⊆ more) (accepted : t.refusal? more = none) :
    t.refusal? steps = none := by
  unfold FileTree.refusal? at accepted ⊢
  rw [List.findSome?_eq_none_iff] at accepted ⊢
  exact fun step member => accepted step (within member)

/-- The steps that write pages of a text: a block for each page, then the header or else the name of
the output as the title, and saving. -/
def Request.stepsOf (r : Request) (content : Text) (g : Geometry Number) (fonts : Fonts)
    (output : Path) (pages : List Page) : List (Step Number) :=
  pages.flatMap
      (Page.steps g fonts r.header.headline? (distribute content.lines r.pageSize).total) ++
    [.metadata (r.header.headline?.getD output.stem) "codedoc".toList, .save output.toText]

theorem Request.countP_isPage_stepsOf (r : Request) (content : Text) (g : Geometry Number)
    (fonts : Fonts) (output : Path) (pages : List Page) :
    (r.stepsOf content g fonts output pages).countP Step.isPage = pages.length := by
  rw [Request.stepsOf, List.countP_append, countP_isPage_flatMap_steps]
  rfl

theorem Request.contents_stepsOf (r : Request) (content : Text) (g : Geometry Number)
    (fonts : Fonts) (output : Path) (pages : List Page) :
    (r.stepsOf content g fonts output pages).filterMap Step.content? =
      pages.flatMap fun p => r.header.headline?.toList ++ p.lines.map Text.filled ++
        [(toString p.number ++ "/" ++
          toString (distribute content.lines r.pageSize).total).toList] := by
  rw [Request.stepsOf, List.filterMap_append, List.filterMap_flatMap]
  simp only [Page.contents_steps]
  exact List.append_nil _

theorem Draft.title_eq (g : Geometry Number) (fonts : Fonts) (d : Draft) (output : Path)
    (drawable : (g.headerDrawing fonts d.header).stopped = none) :
    d.title output = d.header.headline?.getD output.stem := by
  unfold Draft.title
  obtain ⟨set, t, header, headline⟩ | ⟨unset, none⟩ :=
    headline?_of_drawable g fonts d.header drawable
  · rw [if_pos set, headline, header]
    rfl
  · rw [if_neg (ne_true_of_eq_false unset), none]
    rfl

namespace Press

omit [Renderer] in
theorem warnings_of_header (p : Press) (first second : Document)
    (same : first.header = second.header) (notices : List Notice)
    (warned : p.warnings first.draft = .ok notices) :
    ∃ notices, p.warnings second.draft = .ok notices := by
  unfold warnings at warned ⊢
  cases file : p.fontFile with
  | some file => exact ⟨[], rfl⟩
  | none =>
    rw [file] at warned
    dsimp only at warned ⊢
    cases looked : first.draft.leavesLatin with
    | error fault =>
      rw [looked] at warned
      cases warned
    | ok needed =>
      obtain ⟨needed, other⟩ := leavesLatin_of_header first second same needed looked
      rw [other]
      exact ⟨_, rfl⟩

theorem deliver_complete (t : FileTree) (p : Press) (d : Draft) (output : Path)
    (g : Geometry Number) (notices : List Notice)
    (measured : Geometry.drawn p.paper p.pageSize = .ok g) (warned : p.warnings d = .ok notices)
    (complete : (d.drawing g p.fonts).stopped = none)
    (accepted : t.refusal? (d.drawing g p.fonts).steps = none) (filled : d.sheets ≠ []) :
    (p.deliver t d output).steps = (d.drawing g p.fonts).steps ++ (finish t d output).steps ∧
      (p.deliver t d output).result = (finish t d output).result := by
  have sheets : ¬d.sheets.isEmpty = true := by simpa using filled
  simp only [deliver, measured, warned, complete, accepted, if_neg sheets, and_self]

theorem complete_of_deliver (t : FileTree) (p : Press) (d : Draft) (output : Path) (path : Text)
    (written : (p.deliver t d output).result = .ok path) :
    ∃ g notices, Geometry.drawn p.paper p.pageSize = .ok g ∧ p.warnings d = .ok notices ∧
      (d.drawing g p.fonts).stopped = none ∧ t.refusal? (d.drawing g p.fonts).steps = none ∧
      d.sheets ≠ [] := by
  unfold deliver at written
  split at written
  · cases written
  · next g measured =>
    split at written
    · cases written
    · next notices warned =>
      dsimp only at written
      split at written
      · cases written
      · cases written
      · next accepted complete =>
        split_ifs at written with empty
        exact ⟨g, notices, measured, warned, complete, accepted, by simpa using empty⟩

theorem finish_eq_ok (t : FileTree) (d : Draft) (output : Path) (path : Text)
    (written : (finish t d output).result = .ok path) :
    path = output.toText ∧
      (finish t d output).steps = [.metadata (d.title output) creator, .save output.toText] := by
  unfold finish at written ⊢
  dsimp only at written ⊢
  split at written
  · cases written
  · split at written
    · cases written
    · split at written
      · cases written
      · cases written
        exact ⟨rfl, rfl⟩

theorem finish_written (t ready : FileTree) (d : Draft) (output : Path)
    (titled : t.refusal? [.metadata (d.title output) creator] = none)
    (made : t.ensureFolders output.parent = .ok ready)
    (free : Renderer.refusal ready (.save output.toText) = none) :
    (finish t d output).result = .ok output.toText := by
  simp only [finish, titled, made, free]

/-- How a document ends is told by its header and its path. -/
theorem finish_of_header (t : FileTree) (first second : Draft) (output : Path)
    (same : first.header = second.header) :
    (finish t first output).result = (finish t second output).result := by
  have title : first.title output = second.title output := by
    rw [Draft.title, Draft.title, same]
  unfold finish
  dsimp only
  rw [title]
  split
  · rfl
  · split
    · rfl
    · split <;> rfl

/-- The drawing of a document that is laid out has a block for each page that is shown. -/
theorem drawing_document (p : Press) (content : Text) (request : Request) (document : Document)
    (paginated : paginate content request = .ok document) (g : Geometry Number)
    (drawable : (g.headerDrawing p.fonts request.header).stopped = none) :
    document.draft.drawing g p.fonts = .ofSteps ((request.pagesShown content).flatMap
      (Page.steps g p.fonts request.header.headline?
        (distribute content.lines request.pageSize).total)) := by
  obtain ⟨_, _, _, laid⟩ := (paginate_eq_ok_iff ..).1 paginated
  have header : document.draft.header = request.header := by rw [laid, Document.draft]
  have total : document.draft.totalPages =
      .int (distribute content.lines request.pageSize).total := by rw [laid, Document.draft]
  have sheets := sheets_draft content request document paginated
  rw [← header] at drawable ⊢
  exact drawing_sheets g p.fonts document.draft _ total _ sheets drawable

theorem deliver_written (t : FileTree) (p : Press) (content : Text) (request : Request)
    (output : Path) (document : Document) (paginated : paginate content request = .ok document)
    (g : Geometry Number) (notices : List Notice)
    (measured : Geometry.drawn p.paper p.pageSize = .ok g)
    (warned : p.warnings document.draft = .ok notices)
    (drawable : (g.headerDrawing p.fonts request.header).stopped = none)
    (accepted : t.refusal? (document.draft.drawing g p.fonts).steps = none) (path : Text)
    (written : (finish t document.draft output).result = .ok path) :
    (p.deliver t document.draft output).steps =
        request.stepsOf content g p.fonts output (request.pagesShown content) ∧
      (p.deliver t document.draft output).result = .ok path := by
  obtain ⟨_, _, _, laid⟩ := (paginate_eq_ok_iff ..).1 paginated
  have header : document.draft.header = request.header := by rw [laid, Document.draft]
  have drawn := drawing_document p content request document paginated g drawable
  have filled := sheets_ne_nil content request document paginated
  have delivered := deliver_complete t p document.draft output g notices measured warned
    (by rw [drawn]; rfl) accepted filled
  have title := document.draft.title_eq g p.fonts output (by rw [header]; exact drawable)
  rw [drawn, (finish_eq_ok t document.draft output path written).2, written, title, header]
    at delivered
  exact delivered

/-- The blocks of a selection are among those of all pages, so no other step is tried. -/
theorem refusal?_of_selection (t : FileTree) (p : Press) (content : Text) (request : Request)
    (whole selected : Document)
    (all : paginate content { request with mode := .all } = .ok whole)
    (paginated : paginate content request = .ok selected) (g : Geometry Number)
    (drawable : (g.headerDrawing p.fonts request.header).stopped = none)
    (accepted : t.refusal? (whole.draft.drawing g p.fonts).steps = none) :
    t.refusal? (selected.draft.drawing g p.fonts).steps = none := by
  apply t.refusal?_eq_none_of_subset _ _ _ accepted
  rw [drawing_document p content request selected paginated g drawable,
    drawing_document p content _ whole all g drawable, pagesShown_all]
  intro step inside
  obtain ⟨page, shown, drawn⟩ := List.mem_flatMap.1 inside
  exact List.mem_flatMap.2 ⟨page, List.mem_of_mem_filter shown, drawn⟩

/-- Selecting pages is printing all of them and taking the blocks of the other pages away. If the
document of all pages is written, so is the selection, with the same end and with the blocks of the
pages shown: one new page each, none of them twice, numbered as in the whole text. -/
theorem deliver_selection (t : FileTree) (p : Press) (content : Text) (request : Request)
    (output : Path) (fits : p.pageSize = .whole request.pageSize) (selected : Document)
    (paginated : paginate content request = .ok selected) :
    ∃ whole, paginate content { request with mode := .all } = .ok whole ∧
      ∀ path, (p.deliver t whole.draft output).result = .ok path →
        ∃ g, Geometry.drawn p.paper (.whole request.pageSize) = .ok g ∧
          request.header.isSet = request.header.headline?.isSome ∧
          (p.deliver t whole.draft output).steps =
            request.stepsOf content g p.fonts output
              (distribute content.lines request.pageSize).pages ∧
          (p.deliver t selected.draft output).steps =
            request.stepsOf content g p.fonts output (request.pagesShown content) ∧
          (p.deliver t selected.draft output).result = .ok path ∧ path = output.toText ∧
          (p.deliver t selected.draft output).steps.countP Step.isPage =
            (request.pagesShown content).length ∧
          ((request.pagesShown content).map Page.number).Nodup := by
  obtain ⟨whole, all, ofWhole, ofSelected⟩ := paginate_all content request selected paginated
  refine ⟨whole, all, fun path written => ?_⟩
  obtain ⟨g, notices, measured, warned, complete, accepted, filled⟩ :=
    complete_of_deliver t p whole.draft output path written
  have sheets := sheets_draft content _ whole all
  have shown := pagesShown_ne_nil content _ whole all
  have drawable : (g.headerDrawing p.fonts request.header).stopped = none := by
    rw [← ofWhole]
    exact drawable_of_drawing g p.fonts whole.draft _ sheets shown complete
  obtain ⟨others, warnedToo⟩ :=
    p.warnings_of_header whole selected (ofWhole.trans ofSelected.symm) notices warned
  have acceptedToo :=
    refusal?_of_selection t p content request whole selected all paginated g drawable accepted
  have ended : (finish t whole.draft output).result = .ok path := by
    rw [← (deliver_complete t p whole.draft output g notices measured warned complete accepted
      filled).2]
    exact written
  have endedToo : (finish t selected.draft output).result = .ok path := by
    rw [← finish_of_header t whole.draft selected.draft output (ofWhole.trans ofSelected.symm)]
    exact ended
  have first := deliver_written t p content _ output whole all g notices measured warned drawable
    accepted path ended
  have second := deliver_written t p content request output selected paginated g others measured
    warnedToo drawable acceptedToo path endedToo
  rw [pagesShown_all] at first
  refine ⟨g, by rw [← fits]; exact measured, isSet_of_drawable g p.fonts request.header drawable,
    first.1, second.1, second.2, (finish_eq_ok t _ output path endedToo).1, ?_,
    nodup_pagesShown content request⟩
  rw [second.1]
  exact request.countP_isPage_stepsOf content g p.fonts output _

end Press

end Writing

theorem refusal?_of_builtIn (t : FileTree) (g : Geometry Number) (body : Text)
    (header : Option Text) (total : Nat) (pages : List Page) :
    t.refusal? (pages.flatMap (Page.steps g (.builtIn body none) header total)) = none := by
  unfold FileTree.refusal?
  rw [List.findSome?_eq_none_iff]
  intro step inside
  obtain ⟨page, -, drawn⟩ := List.mem_flatMap.1 inside
  obtain rfl | ⟨x, y, content, size, font, own, rfl⟩ :=
    page.of_mem_steps g _ header total step drawn
  · rfl
  · have plain : font.file = none := by
      simp only [Fonts.builtIn, List.mem_cons, List.not_mem_nil, or_false] at own
      obtain rfl | rfl | rfl := own <;> rfl
    change (t.fontFault? font).map _ = none
    unfold FileTree.fontFault?
    rw [plain]
    rfl

theorem refusal_save_of_free (t : FileTree) (path : Text) (free : t.saveFault? path = none) :
    Renderer.refusal t (.save path) = none := by
  change (t.saveFault? path).map _ = none
  rw [free]
  rfl

namespace Press

/-- With the fonts that every reader has, a document is written where its output is free. -/
theorem deliver_of_builtIn (t ready : FileTree) (p : Press) (plain : p.fontFile = none)
    (content : Text) (request : Request) (output : Path) (document : Document)
    (paginated : paginate content request = .ok document) (g : Geometry Number)
    (notices : List Notice) (measured : Geometry.drawn p.paper p.pageSize = .ok g)
    (warned : p.warnings document.draft = .ok notices)
    (drawable : (g.headerDrawing p.fonts request.header).stopped = none)
    (made : t.ensureFolders output.parent = .ok ready)
    (free : ready.saveFault? output.toText = none) :
    (p.deliver t document.draft output).result = .ok output.toText := by
  have fonts : p.fonts = .builtIn p.font none := by rw [Press.fonts, plain]
  have accepted : t.refusal? (document.draft.drawing g p.fonts).steps = none := by
    rw [drawing_document p content request document paginated g drawable, fonts]
    exact refusal?_of_builtIn t g _ _ _ _
  have finished := finish_written t ready document.draft output rfl made
    (refusal_save_of_free ready _ free)
  exact (deliver_written t p content request output document paginated g notices measured warned
    drawable accepted _ finished).2

/-- Of three pages, the first and the last, written into a folder where there is nothing. -/
theorem deliver_selection_ends :
    ∃ request : Request, request.mode = .custom ∧ request.range = .ofString "1,3" ∧
      ∃ whole selected, paginate "a\tb\nb\nc".toList { request with mode := .all } = .ok whole ∧
        paginate "a\tb\nb\nc".toList request = .ok selected ∧
        (deliver {} { pageSize := .whole 1 } whole.draft (.ofText "out.pdf".toList)).result =
          .ok "out.pdf".toList ∧
        (deliver {} { pageSize := .whole 1 } selected.draft (.ofText "out.pdf".toList)).result =
          .ok "out.pdf".toList ∧
        (deliver {} { pageSize := .whole 1 } selected.draft
          (.ofText "out.pdf".toList)).steps.countP Step.isPage = 2 ∧
        (deliver {} { pageSize := .whole 1 } selected.draft
            (.ofText "out.pdf".toList)).steps.filterMap Step.content? =
          ["a   b".toList, "1/3".toList, "c".toList, "3/3".toList] := by
  let request : Request :=
    { pageSize := 1, header := .text [], mode := .custom, range := .ofString "1,3"
      stripComments := .bool true, removeBlankLines := .bool true, pageSize_pos := Nat.one_pos }
  let press : Press := { pageSize := .whole 1 }
  have pages : pagesOfRange "1,3".toList (.int 3) = .ok [1, 3] :=
    congrArg Except.ok (sortedPages_eq_self [1, 3] (by decide))
  have sections := Distribution.rangeSections_of_pages
    (distribute (Text.lines "a\tb\nb\nc".toList) 1) (.ofString "1,3") _ _ rfl pages
  have paginated := (paginate_eq_ok_iff "a\tb\nb\nc".toList request _).2
    ⟨by decide, _, sections, rfl⟩
  have all := (paginate_eq_ok_iff "a\tb\nb\nc".toList { request with mode := .all } _).2
    ⟨by decide, _, rfl, rfl⟩
  obtain ⟨g, measured⟩ := exists_of_isOk
    (Geometry.drawn (.ofString "a4") (.whole 1)) (by decide +kernel)
  have free : ({} : FileTree).saveFault? "out.pdf".toList = none :=
    FileTree.saveFault?_new {} _ (by decide) rfl (by decide) (by decide) (by decide) rfl
      List.not_mem_nil List.not_mem_nil rfl
  have printed := deliver_of_builtIn {} {} press rfl _ _ (.ofText "out.pdf".toList) _ all g []
    measured rfl rfl (FileTree.ensureFolders_dot {} rfl) free
  obtain ⟨whole, again, selects⟩ := deliver_selection {} press _ request
    (.ofText "out.pdf".toList) rfl _ paginated
  cases again.symm.trans all
  obtain ⟨g, -, -, -, steps, done, -, count, -⟩ := selects _ printed
  refine ⟨request, rfl, rfl, _, _, all, paginated, printed, done, count.trans (by decide), ?_⟩
  rw [steps, request.contents_stepsOf]
  decide

end Press

end Listing
