import Listing.Page.Document
import Listing.Sheet.Setting

/-!
Drawing a document sheet by sheet. Every page of every section is one sheet, numbered from the
first page of its section on. A sheet is drawn by steps: the new page, the header if there is one,
the lines of the body from the top, and the footer. So the steps of a document are the steps of its
sheets one after another, and no sheet depends on another. A document may be handed in with values
of any kind in the place of its texts and numbers; then the drawing stops at the first one that
cannot be drawn, and keeps the steps before it.
-/

namespace Listing

structure DraftSection where
  first : Value
  units : List (LayoutUnit Value)
  deriving Repr

structure Draft where
  header : Value
  totalPages : Value
  sections : List DraftSection
  deriving Repr

def Document.draft (d : Document) : Draft where
  header := d.header
  totalPages := .int d.totalPages
  sections := d.sections.map fun s => ⟨.int s.first, s.units.map (LayoutUnit.map .text)⟩

/-- One page to draw: its number, unless the first page of its section has none to count from, and
the lines of its body. -/
structure Sheet where
  number : Except TypeFault Value
  lines : List Value

def DraftSection.sheets (s : DraftSection) : List Sheet :=
  (splitPages s.units).mapIdx fun offset lines => ⟨s.first.plus offset, lines⟩

def Draft.sheets (d : Draft) : List Sheet := d.sections.flatMap DraftSection.sheets

structure Drawing (α : Type) where
  steps : List (Step α) := []
  stopped : Option TypeFault := none

namespace Drawing

variable {α : Type}

def ofSteps (steps : List (Step α)) : Drawing α := { steps }

def ofFault (fault : TypeFault) : Drawing α := { stopped := some fault }

/-- One drawing after another; nothing is drawn after one that was stopped. -/
def append (a b : Drawing α) : Drawing α :=
  if a.stopped.isSome then a else ⟨a.steps ++ b.steps, b.stopped⟩

def concat (parts : List (Drawing α)) : Drawing α := parts.foldr append {}

theorem append_ofSteps (steps : List (Step α)) (b : Drawing α) :
    (ofSteps steps).append b = ⟨steps ++ b.steps, b.stopped⟩ := rfl

theorem concat_map_ofSteps {β : Type} (f : β → List (Step α)) (items : List β) :
    concat (items.map fun item => ofSteps (f item)) = ofSteps (items.flatMap f) := by
  induction items with
  | nil => rfl
  | cons item rest ih =>
    change (ofSteps (f item)).append (concat (rest.map fun item => ofSteps (f item))) = _
    rw [ih, append_ofSteps, List.flatMap_cons]
    rfl

end Drawing

def footerText (number total : Value) : Text := number.asText ++ '/' :: total.asText

namespace Geometry

variable {α : Type} [Scalar α] [Renderer]

/-- What stands above every page: nothing, if the header is not set. Only a text has a width. -/
def headerDrawing (g : Geometry α) (fonts : Fonts) (header : Value) : Drawing α :=
  if header.isSet then
    match header with
    | .text t => .ofSteps [g.headerStep fonts t]
    | _ => .ofFault .notDrawable
  else {}

def bodyDrawing (g : Geometry α) (fonts : Fonts) (lines : List Value) : Drawing α :=
  .concat (lines.mapIdx fun index line =>
    match line.textFor "expandtabs" with
    | .ok t => .ofSteps [g.lineStep fonts index t]
    | .error fault => .ofFault fault)

end Geometry

variable {α : Type} [Scalar α]

theorem bodyDrawing_texts (g : Geometry α) (fonts : Fonts) (lines : List Text) :
    g.bodyDrawing fonts (lines.map .text) = .ofSteps (lines.mapIdx (g.lineStep fonts)) := by
  have steps : ∀ (lines : List Text) (part : Nat → Value → Drawing α) (f : Nat → Text → Step α),
      (∀ index line, part index (.text line) = .ofSteps [f index line]) →
        Drawing.concat ((lines.map Value.text).mapIdx part) = .ofSteps (lines.mapIdx f) := by
    intro lines
    induction lines with
    | nil => intros; rfl
    | cons line rest ih =>
      intro part f single
      rw [List.map_cons, List.mapIdx_cons, List.mapIdx_cons]
      change (part 0 (.text line)).append (Drawing.concat _) = _
      rw [ih (fun index => part (index + 1)) (fun index => f (index + 1))
        fun index line => single (index + 1) line, single, Drawing.append_ofSteps]
      rfl
  exact steps lines _ _ fun _ _ => rfl

variable [Renderer]

def Sheet.drawing (g : Geometry α) (fonts : Fonts) (header total : Value) (s : Sheet) :
    Drawing α :=
  match s.number with
  | .error fault => .ofFault fault
  | .ok number =>
    .concat [.ofSteps [.page g.paper], g.headerDrawing fonts header,
      g.bodyDrawing fonts s.lines, .ofSteps [g.footerStep fonts (footerText number total)]]

def Draft.drawing (g : Geometry α) (fonts : Fonts) (d : Draft) : Drawing α :=
  .concat (d.sheets.map fun sheet => sheet.drawing g fonts d.header d.totalPages)

end Listing
