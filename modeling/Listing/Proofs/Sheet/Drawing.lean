import Mathlib.Algebra.Order.Ring.Rat
import Mathlib.Tactic.NormNum
import Listing.Proofs.Page.Agreement
import Listing.Proofs.Sheet.Tabs
import Listing.Sheet.Drawing

/-!
The sheets of a document are the pages of the distribution that its request shows, and the steps of
a sheet depend on its page alone. So the steps of a document are blocks, one for each page shown.
-/

namespace Listing

def Request.pagesShown (r : Request) (content : Text) : List Page :=
  (distribute content.lines r.pageSize).pages.filter fun page =>
    r.mode.shows r.range (distribute content.lines r.pageSize).total page.number

def Page.sheet (p : Page) : Sheet := ⟨.ok (.int p.number), p.lines.map .text⟩

theorem sheets_layout (lines : List Text) (size : Nat) (pos : 0 < size) (s : Section)
    (covers : s.Covers (distribute lines size)) :
    (DraftSection.mk (.int s.first) ((s.layout size).units.map (LayoutUnit.map .text))).sheets =
      ((distribute lines size).run s.first s.last).map Page.sheet := by
  rw [DraftSection.sheets, splitPages_map, splitPages_layout lines size pos s covers]
  apply List.ext_getElem (by simp)
  intro offset _ inside
  rw [List.length_map] at inside
  have found := List.getElem?_eq_getElem inside
  have looked := Distribution.getElem?_run _ s.first s.last covers.low offset _ found
  have number := Distribution.number_of_page _ _ _ _ looked
  simp only [List.getElem_mapIdx, List.getElem_map, Page.sheet, Value.plus, number]

theorem sheets_draft (content : Text) (request : Request) (document : Document)
    (paginated : paginate content request = .ok document) :
    document.draft.sheets = (request.pagesShown content).map Page.sheet := by
  obtain ⟨filled, sections, selected, rfl⟩ := (paginate_eq_ok_iff ..).1 paginated
  have covers := Distribution.select_covers content.lines request.pageSize request.pageSize_pos
    request.mode request.range sections filled selected
  rw [Request.pagesShown, ← Distribution.select_runs content.lines request.pageSize
    request.pageSize_pos request.mode request.range sections filled selected, List.map_flatMap]
  simp only [Draft.sheets, Document.draft, List.flatMap_map]
  exact List.flatMap_congr fun s member =>
    sheets_layout content.lines request.pageSize request.pageSize_pos s (covers s member)

theorem pagesShown_ne_nil (content : Text) (request : Request) (document : Document)
    (paginated : paginate content request = .ok document) : request.pagesShown content ≠ [] := by
  obtain ⟨filled, sections, selected, _⟩ := (paginate_eq_ok_iff ..).1 paginated
  exact Distribution.select_shows content.lines request.pageSize request.pageSize_pos request.mode
    request.range sections filled selected

theorem sheets_ne_nil (content : Text) (request : Request) (document : Document)
    (paginated : paginate content request = .ok document) : document.draft.sheets ≠ [] := by
  rw [sheets_draft content request document paginated]
  exact fun empty =>
    pagesShown_ne_nil content request document paginated (List.map_eq_nil_iff.1 empty)

theorem nodup_pagesShown (content : Text) (request : Request) :
    ((request.pagesShown content).map Page.number).Nodup := by
  have ordered := (Distribution.pairwise_number content.lines request.pageSize).filter fun page =>
    request.mode.shows request.range (distribute content.lines request.pageSize).total page.number
  exact List.pairwise_map.2 (ordered.imp fun less => Nat.ne_of_lt less)

variable {α : Type}

theorem Drawing.stopped_append (a b : Drawing α) :
    (a.append b).stopped = a.stopped.or b.stopped := by
  unfold Drawing.append
  cases stopped : a.stopped <;> simp [stopped]

theorem filterMap_mapIdx {β γ δ : Type} (f : Nat → β → γ) (pick : γ → Option δ)
    (given : Nat → β → δ) (picked : ∀ index item, pick (f index item) = some (given index item))
    (items : List β) : (items.mapIdx f).filterMap pick = items.mapIdx given := by
  induction items generalizing f given with
  | nil => rfl
  | cons item rest ih =>
    rw [List.mapIdx_cons, List.mapIdx_cons, List.filterMap_cons_some (picked 0 item),
      ih (fun index => f (index + 1)) (fun index => given (index + 1))
        fun index => picked (index + 1)]

theorem larger_eq_max (a b : Rat) : larger a b = max a b := by
  rw [max_def_lt]
  simp only [larger, Scalar.less, decide_eq_true_eq]

def Value.headline? : Value → Option Text
  | .text (c :: t) => some (c :: t)
  | _ => none

variable [Scalar α] [Renderer] (g : Geometry α) (fonts : Fonts)

/-- A text that stands in the middle of the paper, or on the margin if it is too wide for that. -/
def Geometry.middle (y : Rat) (content : Text) (font : Font) (size : Rat) : Step α :=
  .text (max ((Renderer.sheetWidth g.paper - Renderer.textWidth font content size) / 2) 54)
    (Scalar.ofRat y) content font (Scalar.ofRat size)

/-- The steps of a page of a text of `total` pages: the new page, the header if there is one, the
lines with their tabs filled, one pitch below the other, and the number of the page before that of
all pages. -/
def Page.steps (header : Option Text) (total : Nat) (p : Page) : List (Step α) :=
  .page g.paper ::
    (header.toList.map (fun t => g.middle 36 t fonts.header 14) ++
      p.lines.mapIdx (fun index line =>
        .text 54 (Scalar.ofRat 54 + g.lineHeight * Scalar.ofRat index + g.fontSize) line.filled
          fonts.body g.fontSize) ++
      [g.middle (g.paper.height - 27) (toString p.number ++ "/" ++ toString total).toList
        fonts.footer 10])

theorem centred_eq_middle (y : Rat) (content : Text) (font : Font) (size : Rat) :
    g.centred y content font size = g.middle y content font size := by
  unfold Geometry.centred Geometry.middle
  dsimp only
  rw [larger_eq_max, margin]

omit [Renderer] in
theorem lineStep_eq :
    g.lineStep fonts = fun index line =>
      .text 54 (Scalar.ofRat 54 + g.lineHeight * Scalar.ofRat index + g.fontSize) line.filled
        fonts.body g.fontSize := by
  funext index line
  rw [Geometry.lineStep, expandTabs_eq_filled]
  rfl

theorem footerStep_eq (number total : Nat) :
    g.footerStep fonts (footerText (.int number) (.int total)) =
      g.middle (g.paper.height - 27) (toString number ++ "/" ++ toString total).toList
        fonts.footer 10 := by
  have below : g.footerBaseline = g.paper.height - 27 := by
    unfold Geometry.footerBaseline margin
    norm_num
  have content : footerText (.int number) (.int total) =
      (toString number ++ "/" ++ toString total).toList := by
    rw [String.toList_append, String.toList_append, List.append_assoc]
    rfl
  unfold Geometry.footerStep
  rw [centred_eq_middle, below, content]
  rfl

theorem headline?_of_drawable (header : Value)
    (drawable : (g.headerDrawing fonts header).stopped = none) :
    (header.isSet = true ∧ ∃ t, header = .text t ∧ header.headline? = some t) ∨
      (header.isSet = false ∧ header.headline? = none) := by
  unfold Geometry.headerDrawing at drawable
  split_ifs at drawable with set
  · split at drawable
    · next t =>
      cases t with
      | nil => cases set
      | cons c t => exact .inl ⟨rfl, _, rfl, rfl⟩
    · cases drawable
  · refine .inr ⟨eq_false_of_ne_true set, ?_⟩
    unfold Value.headline?
    split
    · exact absurd rfl set
    · rfl

theorem isSet_of_drawable (header : Value)
    (drawable : (g.headerDrawing fonts header).stopped = none) :
    header.isSet = header.headline?.isSome := by
  obtain ⟨set, t, -, headline⟩ | ⟨unset, none⟩ := headline?_of_drawable g fonts header drawable
  · rw [set, headline]
    rfl
  · rw [unset, none]
    rfl

theorem headerStep_eq (t : Text) : g.headerStep fonts t = g.middle 36 t fonts.header 14 := by
  have above : headerBaseline = 36 := by
    unfold headerBaseline margin
    norm_num
  rw [Geometry.headerStep, centred_eq_middle, above]
  rfl

theorem headerDrawing_eq (header : Value)
    (drawable : (g.headerDrawing fonts header).stopped = none) :
    g.headerDrawing fonts header =
      .ofSteps (header.headline?.toList.map fun t => g.middle 36 t fonts.header 14) := by
  unfold Geometry.headerDrawing
  obtain ⟨set, t, rfl, headline⟩ | ⟨unset, none⟩ := headline?_of_drawable g fonts header drawable
  · rw [if_pos set, headline]
    exact congrArg (fun step => Drawing.ofSteps [step]) (headerStep_eq g fonts t)
  · rw [if_neg (ne_true_of_eq_false unset), none]
    rfl

theorem drawing_sheet (header : Value) (total : Nat) (p : Page)
    (drawable : (g.headerDrawing fonts header).stopped = none) :
    p.sheet.drawing g fonts header (.int total) =
      .ofSteps (p.steps g fonts header.headline? total) := by
  simp only [Sheet.drawing, Page.sheet, bodyDrawing_texts, Page.steps]
  rw [headerDrawing_eq g fonts header drawable, footerStep_eq]
  simp only [Drawing.concat, List.foldr_cons, List.foldr_nil, Drawing.append_ofSteps, lineStep_eq]
  simp [Drawing.ofSteps]

theorem drawing_sheets (d : Draft) (total : Nat) (counted : d.totalPages = .int total)
    (pages : List Page) (sheets : d.sheets = pages.map Page.sheet)
    (drawable : (g.headerDrawing fonts d.header).stopped = none) :
    d.drawing g fonts = .ofSteps (pages.flatMap (Page.steps g fonts d.header.headline? total)) := by
  rw [Draft.drawing, sheets, counted, List.map_map, ← Drawing.concat_map_ofSteps]
  congr 1
  exact List.map_congr_left fun page _ => drawing_sheet g fonts d.header total page drawable

theorem drawable_of_drawing (d : Draft) (pages : List Page)
    (sheets : d.sheets = pages.map Page.sheet) (filled : pages ≠ [])
    (complete : (d.drawing g fonts).stopped = none) :
    (g.headerDrawing fonts d.header).stopped = none := by
  obtain ⟨page, rest, rfl⟩ := List.exists_cons_of_ne_nil filled
  rw [Draft.drawing, sheets, List.map_cons, List.map_cons, Drawing.concat, List.foldr_cons,
    Drawing.stopped_append, Option.or_eq_none_iff] at complete
  have first := complete.1
  simp only [Sheet.drawing, Page.sheet, Drawing.concat, List.foldr_cons, Drawing.stopped_append,
    Option.or_eq_none_iff] at first
  exact first.2.1

theorem countP_isPage_steps (header : Option Text) (total : Nat) (p : Page) :
    (p.steps g fonts header total).countP Step.isPage = 1 := by
  have body : (p.lines.mapIdx fun index line => Step.text 54
      (Scalar.ofRat 54 + g.lineHeight * Scalar.ofRat index + g.fontSize) line.filled
        fonts.body g.fontSize).countP Step.isPage = 0 := by
    rw [List.countP_eq_zero]
    intro step inside
    obtain ⟨index, _, rfl⟩ := List.mem_mapIdx.1 inside
    exact Bool.false_ne_true
  have top : (header.toList.map fun t => g.middle 36 t fonts.header 14).countP Step.isPage = 0 := by
    cases header <;> rfl
  rw [Page.steps, List.countP_cons, List.countP_append, List.countP_append, top, body]
  rfl

theorem countP_isPage_flatMap_steps (header : Option Text) (total : Nat) (pages : List Page) :
    (pages.flatMap (Page.steps g fonts header total)).countP Step.isPage = pages.length := by
  induction pages with
  | nil => rfl
  | cons page rest ih =>
    rw [List.flatMap_cons, List.countP_append, countP_isPage_steps, ih, List.length_cons,
      Nat.add_comm]

theorem Page.of_mem_steps (header : Option Text) (total : Nat) (p : Page) (step : Step α)
    (member : step ∈ p.steps g fonts header total) :
    step = .page g.paper ∨ ∃ x y content size, ∃ font ∈ [fonts.header, fonts.body, fonts.footer],
      step = .text x y content font size := by
  obtain rfl | inside := List.mem_cons.1 member
  · exact .inl rfl
  refine .inr ?_
  rw [List.mem_append, List.mem_append] at inside
  obtain (top | body) | bottom := inside
  · obtain ⟨t, -, rfl⟩ := List.mem_map.1 top
    exact ⟨_, _, _, _, fonts.header, by simp, rfl⟩
  · obtain ⟨index, _, rfl⟩ := List.mem_mapIdx.1 body
    exact ⟨_, _, _, _, fonts.body, by simp, rfl⟩
  · obtain rfl := List.mem_singleton.1 bottom
    exact ⟨_, _, _, _, fonts.footer, by simp, rfl⟩

def Step.content? : Step α → Option Text
  | .text _ _ content _ _ => some content
  | _ => none

/-- The texts of a page from the top to the bottom. -/
theorem Page.contents_steps (header : Option Text) (total : Nat) (p : Page) :
    (p.steps g fonts header total).filterMap Step.content? =
      header.toList ++ p.lines.map Text.filled ++
        [(toString p.number ++ "/" ++ toString total).toList] := by
  have top : (header.toList.map fun t => g.middle 36 t fonts.header 14).filterMap Step.content? =
      header.toList := by
    cases header <;> rfl
  have body : (p.lines.mapIdx fun _ line => line.filled) = p.lines.map Text.filled :=
    List.ext_getElem (by simp) (by simp)
  rw [Page.steps, List.filterMap_cons_none rfl, List.filterMap_append, List.filterMap_append, top,
    filterMap_mapIdx _ Step.content? (fun _ line => line.filled) fun _ _ => rfl, body]
  rfl

end Listing
