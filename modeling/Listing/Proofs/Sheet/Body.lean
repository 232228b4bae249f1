import Listing.Proofs.Sheet.Delivery
import Mathlib.Algebra.Order.Field.Rat
import Mathlib.Data.List.Range
import Mathlib.Tactic.Linarith
import Mathlib.Tactic.Ring

/-!
Where the lines of a sheet stand, measured exactly. The pitch of the lines shares the height of the
body area evenly, and the font is no larger than the pitch. So the lines that a sheet has room for
stay in the body area, the last one as well, which ends where the area does if the font is as large
as the pitch.
-/

namespace Listing

theorem smaller_eq_min (a b : Rat) : smaller a b = min a b := by
  rw [min_comm, min_def_lt]
  simp only [smaller, Scalar.less, decide_eq_true_eq]

namespace Geometry

section Measures

variable (paper : Paper) (size : Nat)

theorem fontSize_of : (of paper (size : Rat)).fontSize =
    min (min (max ((of paper (size : Rat)).lineHeight * (4 / 5)) 4) 11)
      (of paper (size : Rat)).lineHeight := by
  rw [← larger_eq_max, ← smaller_eq_min, ← smaller_eq_min]
  rfl

theorem fontSize_le_largest : (of paper (size : Rat)).fontSize ≤ 11 := by
  rw [fontSize_of]
  exact (min_le_left _ _).trans (min_le_right _ _)

theorem lineHeight_mul_size (pos : 0 < size) :
    (of paper (size : Rat)).lineHeight * size = paper.height - 108 := by
  have some : (size : Rat) ≠ 0 := by exact_mod_cast pos.ne'
  change ((paper.height : Rat) - 2 * margin) / size * size = _
  rw [div_mul_cancel₀ _ some, margin]
  norm_num

variable (pos : 0 < size) (high : 108 < paper.height)

include pos high

theorem lineHeight_pos : 0 < (of paper (size : Rat)).lineHeight := by
  have area : (0 : Rat) < paper.height - 108 := by
    rw [sub_pos]
    exact_mod_cast high
  rw [← lineHeight_mul_size paper size pos] at area
  exact pos_of_mul_pos_left area (Nat.cast_nonneg size)

theorem fontSize_pos : 0 < (of paper (size : Rat)).fontSize := by
  rw [fontSize_of]
  refine lt_min (lt_min ?_ (by norm_num)) (lineHeight_pos paper size pos high)
  exact lt_max_of_lt_right (by norm_num)

theorem le_baseline (index : Nat) :
    54 + (of paper (size : Rat)).fontSize ≤ (of paper (size : Rat)).baseline index := by
  have above : 0 ≤ (of paper (size : Rat)).lineHeight * index :=
    mul_nonneg (lineHeight_pos paper size pos high).le (Nat.cast_nonneg index)
  change _ ≤ margin + (of paper (size : Rat)).lineHeight * index + _
  rw [margin]
  linarith

/-- The pitch below a line stays in the body area, and the font is no larger than the pitch. -/
theorem baseline_le (index : Nat) (room : index < size) :
    (of paper (size : Rat)).baseline index ≤ paper.height - 54 := by
  have pitch := lineHeight_pos paper size pos high
  have next : ((index + 1 : Nat) : Rat) ≤ size := by exact_mod_cast room
  calc (of paper (size : Rat)).baseline index
      = 54 + (of paper (size : Rat)).lineHeight * index + (of paper (size : Rat)).fontSize := rfl
    _ ≤ 54 + (of paper (size : Rat)).lineHeight * index + (of paper (size : Rat)).lineHeight :=
      add_le_add_right (fontSize_le_lineHeight paper size) _
    _ = 54 + (of paper (size : Rat)).lineHeight * (index + 1 : Nat) := by
      push_cast
      ring
    _ ≤ 54 + (of paper (size : Rat)).lineHeight * size :=
      add_le_add_right (mul_le_mul_of_nonneg_left next pitch.le) _
    _ = paper.height - 54 := by
      rw [lineHeight_mul_size paper size pos]
      ring

omit pos high in
theorem baseline_succ (index : Nat) :
    (of paper (size : Rat)).baseline (index + 1) =
      (of paper (size : Rat)).baseline index + (of paper (size : Rat)).lineHeight := by
  change margin + (of paper (size : Rat)).lineHeight * ((index + 1 : Nat) : Rat) + _ =
    margin + (of paper (size : Rat)).lineHeight * (index : Rat) + _ + _
  push_cast
  ring

end Measures

end Geometry

def Step.setting? {α : Type} : Step α → Option (α × α)
  | .text _ y _ _ size => some (y, size)
  | _ => none

section Settings

variable [Renderer] (g : Geometry Rat) (fonts : Fonts)

def Geometry.baselines (count : Nat) : List Rat := (List.range count).map g.baseline

omit [Renderer] in
theorem settings_body (lines : List Text) :
    (lines.mapIdx fun index line => Step.text 54
        (Scalar.ofRat 54 + g.lineHeight * Scalar.ofRat index + g.fontSize) line.filled fonts.body
        g.fontSize).filterMap Step.setting? =
      (g.baselines lines.length).map fun y => (y, g.fontSize) := by
  rw [Geometry.baselines, List.map_map,
    filterMap_mapIdx _ Step.setting? (fun index _ => (g.baseline index, g.fontSize)) fun _ _ => rfl]
  exact List.ext_getElem (by simp) (by simp)

theorem settings_steps (header : Option Text) (total : Nat) (p : Page) :
    (p.steps g fonts header total).filterMap Step.setting? =
      header.toList.map (fun _ => (36, 14)) ++
        (g.baselines p.lines.length).map (fun y => (y, g.fontSize)) ++
          [((g.paper.height : Rat) - 27, 10)] := by
  have top : (header.toList.map fun t => g.middle 36 t fonts.header 14).filterMap Step.setting? =
      header.toList.map fun _ => (36, 14) := by
    cases header <;> rfl
  rw [Page.steps, List.filterMap_cons_none rfl, List.filterMap_append, List.filterMap_append, top,
    settings_body]
  rfl

/-- A header that cannot be drawn ends a sheet before any text is set. -/
theorem drawing_undrawable (header total : Value) (p : Page)
    (undrawable : (g.headerDrawing fonts header).stopped ≠ none) :
    p.sheet.drawing g fonts header total = ⟨[.page g.paper], some .notDrawable⟩ := by
  have fault : g.headerDrawing fonts header = .ofFault .notDrawable := by
    unfold Geometry.headerDrawing at undrawable ⊢
    split_ifs at undrawable ⊢
    · split at undrawable
      · exact absurd rfl undrawable
      · rfl
    · exact absurd rfl undrawable
  simp only [Sheet.drawing, Page.sheet, fault]
  rfl

theorem settings_drawing (header : Value) (total : Nat) (p : Page) :
    (p.sheet.drawing g fonts header (.int total)).steps.filterMap Step.setting? =
      if (p.sheet.drawing g fonts header (.int total)).stopped = none then
        (if header.isSet then [(36, 14)] else []) ++
          (g.baselines p.lines.length).map (fun y => (y, g.fontSize)) ++
            [((g.paper.height : Rat) - 27, 10)]
      else [] := by
  by_cases drawable : (g.headerDrawing fonts header).stopped = none
  · rw [drawing_sheet g fonts header total p drawable]
    refine Eq.trans ?_ (if_pos rfl).symm
    change (p.steps g fonts header.headline? total).filterMap Step.setting? = _
    rw [settings_steps]
    obtain ⟨set, t, -, headline⟩ | ⟨unset, none⟩ :=
      headline?_of_drawable g fonts header drawable
    · rw [headline, if_pos set]
      rfl
    · rw [none, if_neg (ne_true_of_eq_false unset)]
      rfl
  · rw [drawing_undrawable g fonts header _ p drawable]
    rfl

end Settings

theorem length_lines_of_mem_pagesShown (content : Text) (request : Request) (p : Page)
    (shown : p ∈ request.pagesShown content) : p.lines.length ≤ request.pageSize := by
  have held := List.mem_map_of_mem (f := Page.lines) (List.mem_of_mem_filter shown)
  rw [map_lines_distribute content.lines request.pageSize request.pageSize_pos] at held
  exact (length_of_mem_chunks request.pageSize request.pageSize_pos _ _ held).2

/-- Measured exactly, the lines of a body do not run into each other and stay between the margins.
The font is no larger than the pitch, which is what lies between two baselines that follow each
other. A line as high as the font lies below the margin at the top, so below the header, and above
the margin at the bottom, so above the footer. -/
theorem body_stays_between_margins [Renderer] (paper : Paper) (high : 108 < paper.height)
    (fonts : Fonts) (content : Text) (request : Request) (document : Document)
    (paginated : paginate content request = .ok document) :
    let g : Geometry Rat := .of paper request.pageSize
    let drawn := fun sheet : Sheet =>
      sheet.drawing g fonts document.header (.int document.totalPages)
    (0 < g.fontSize ∧ g.fontSize ≤ 11 ∧ g.fontSize ≤ g.lineHeight) ∧
      document.draft.drawing g fonts = .concat (document.draft.sheets.map drawn) ∧
      ∀ sheet ∈ document.draft.sheets, ∃ body : List Rat, body.length = sheet.lines.length ∧
        ((drawn sheet).steps.filterMap Step.setting? =
          if (drawn sheet).stopped = none then
            (if document.header.isSet then [(36, 14)] else []) ++
              body.map (fun y => (y, g.fontSize)) ++ [((paper.height : Rat) - 27, 10)]
          else []) ∧
        body.IsChain (fun y next => next - y = g.lineHeight) ∧
        ∀ y ∈ body, 54 + g.fontSize ≤ y ∧ y ≤ paper.height - 54 ∧
          36 < y - g.fontSize ∧ y < paper.height - 27 := by
  intro g drawn
  have pos := request.pageSize_pos
  refine ⟨⟨Geometry.fontSize_pos paper _ pos high, Geometry.fontSize_le_largest paper _,
    Geometry.fontSize_le_lineHeight paper _⟩, rfl, fun sheet member => ?_⟩
  obtain ⟨_, _, _, laid⟩ := (paginate_eq_ok_iff ..).1 paginated
  have total : document.totalPages = (distribute content.lines request.pageSize).total := by
    rw [laid]
  rw [sheets_draft content request document paginated] at member
  obtain ⟨page, shown, rfl⟩ := List.mem_map.1 member
  have few := length_lines_of_mem_pagesShown content request page shown
  refine ⟨g.baselines page.lines.length, ?_, ?_, ?_, ?_⟩
  · simp [Geometry.baselines, Page.sheet]
  · have set := settings_drawing g fonts document.header
      (distribute content.lines request.pageSize).total page
    rw [← total] at set
    exact set
  · rw [Geometry.baselines, List.isChain_map, List.isChain_range]
    intro index _
    rw [Nat.succ_eq_add_one, Geometry.baseline_succ, add_sub_cancel_left]
  · intro y inside
    obtain ⟨index, place, rfl⟩ := List.mem_map.1 inside
    have room : index < request.pageSize := (List.mem_range.1 place).trans_le few
    have below := Geometry.le_baseline paper _ pos high index
    have above := Geometry.baseline_le paper _ pos high index room
    refine ⟨below, above, ?_, ?_⟩
    · linarith
    · linarith

/-- Two of three lines on the first of two sheets of upright A4 paper. -/
theorem body_stays_between_margins_a4 :
    let request : Request :=
      { pageSize := 2, header := .text [], mode := .all, range := .null
        stripComments := .bool true, removeBlankLines := .bool true, pageSize_pos := Nat.two_pos }
    108 < (Paper.named "a4".toList).height ∧
      ∃ document, paginate "a\nb\n\nc".toList request = .ok document ∧
        document.draft.sheets.map (fun sheet => sheet.lines.length) = [2, 1] ∧
        ∀ sheet ∈ document.draft.sheets, ∃ body : List Rat, body.length = sheet.lines.length ∧
          body.IsChain (fun y next => next - y = 367) ∧ ∀ y ∈ body, 65 ≤ y ∧ y ≤ 788 := by
  intro request
  have high : 108 < (Paper.named "a4".toList).height := by decide
  have paginated : paginate "a\nb\n\nc".toList request = .ok _ := rfl
  refine ⟨high, _, paginated, rfl, fun sheet member => ?_⟩
  obtain ⟨-, -, placed⟩ := body_stays_between_margins (Paper.named "a4".toList) high
    (.builtIn "cour".toList none) _ request _ paginated
  obtain ⟨body, count, -, pitch, inside⟩ := placed sheet member
  have measures : Geometry.of (Paper.named "a4".toList) ((2 : Nat) : Rat) =
      ⟨⟨595, 842⟩, 367, 11⟩ := by decide +kernel
  change body.IsChain (fun y next => next - y =
    (Geometry.of (Paper.named "a4".toList) ((2 : Nat) : Rat)).lineHeight) at pitch
  rw [measures] at pitch
  refine ⟨body, count, pitch, fun y line => ?_⟩
  obtain ⟨top, bottom, -⟩ := inside y line
  change 54 + (Geometry.of (Paper.named "a4".toList) ((2 : Nat) : Rat)).fontSize ≤ y at top
  change y ≤ ((842 : Nat) : Rat) - 54 at bottom
  rw [measures] at top
  norm_num at top bottom
  exact ⟨top, bottom⟩

end Listing
