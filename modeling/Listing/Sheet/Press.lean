import Listing.FileTree.Folder
import Listing.Generation
import Listing.Sheet.Drawing

/-!
Writing a document: the sheets are drawn, the document gets its title, the folder of the output is
made with its parents, and the document is saved. A document without sheets is refused. The title is
the header, or the name of the output without its suffix if there is no header. The renderer may
refuse any step, and the first refusal ends the writing. A document without sheets, a folder that
cannot be made and a refusal of a reported kind are failures of the request; whatever else goes
wrong ends the run.
-/

namespace Listing

/-- What a document is written with. A font file that is empty is as good as none. -/
structure Press where
  pageSize : PageSize
  paper : Value := .ofString "a4"
  font : Text := "cour".toList
  fontFile : Option Text := none
  deriving Repr

inductive PressError where
  | geometry (fault : OperandFault)
  | content (fault : TypeFault)
  | noPages
  | folder (error : PathError)
  | refused (refusal : Refusal)
  deriving DecidableEq, Repr

namespace PressError

/-- A document that is not saved is one that the renderer refuses to save. -/
@[match_pattern]
abbrev save (refusal : Refusal) : PressError := .refused refusal

def message : PressError → String
  | .geometry fault => fault.message
  | .content fault => fault.message
  | .noPages => "Document has no pages to render"
  | .folder error => error.message
  | .refused refusal => refusal.message

def reported : PressError → Option String
  | .geometry _ | .content _ => none
  | .refused refusal => if refusal.reported then some refusal.message else none
  | e => some e.message

end PressError

def Text.leavesLatin (t : Text) : Bool := t.any fun c => 0xFF < c.toNat

/-- Whether one of the items is a character outside Latin-1. The items are looked at one by one, up
to the first such character. -/
def anyLeavesLatin : List Value → Except TypeFault Bool
  | [] => .ok false
  | item :: rest => do
    let c ← item.character
    if 0xFF < c.toNat then .ok true else anyLeavesLatin rest

theorem anyLeavesLatin_text (t : Text) :
    anyLeavesLatin (t.map fun c => .text [c]) = .ok t.leavesLatin := by
  induction t with
  | nil => rfl
  | cons c rest ih =>
    simp only [List.map_cons, anyLeavesLatin, ih, Value.character, Text.leavesLatin, List.any_cons]
    by_cases beyond : 0xFF < c.toNat <;> simp [beyond, bind, Except.bind]

def contentsLeaveLatin : List Value → Except TypeFault Bool
  | [] => .ok false
  | content :: rest => do
    if ← anyLeavesLatin (← content.items) then .ok true else contentsLeaveLatin rest

def Draft.lines (d : Draft) : List Value :=
  d.sections.flatMap fun s => s.units.filterMap fun
    | .line content => some content
    | .pageBreak => none

def Draft.leavesLatin (d : Draft) : Except TypeFault Bool :=
  contentsLeaveLatin (d.header :: d.lines)

def Draft.title (d : Draft) (output : Path) : Text :=
  if d.header.isSet then d.header.asText else output.stem

def creator : Text := "codedoc".toList

section Steps

variable [Renderer] (t : FileTree)

def FileTree.refusal? (steps : List (Step Number)) : Option Refusal :=
  steps.findSome? (Renderer.refusal t)

def FileTree.stepsTried (steps : List (Step Number)) : List (Step Number) :=
  steps.take ((steps.takeWhile fun step => (Renderer.refusal t step).isNone).length + 1)

end Steps

namespace Press

def fonts (p : Press) : Fonts :=
  match p.fontFile with
  | some (c :: file) => .ofFile (c :: file)
  | _ => .builtIn p.font p.fontFile

/-- The notice that the built-in fonts lack characters of a document. With a font file nobody
looks. -/
def warnings (p : Press) (d : Draft) : Except TypeFault (List Notice) :=
  match p.fontFile with
  | some _ => .ok []
  | none =>
    d.leavesLatin.map fun needed => if needed then [.fontNeeded p.fonts.body.name] else []

variable [Renderer]

def finish (t : FileTree) (d : Draft) (output : Path) : Delivery (Step Number) PressError :=
  let titled := [.metadata (d.title output) creator]
  match t.refusal? titled with
  | some refusal => ⟨titled, [], .error (.refused refusal)⟩
  | none =>
    match t.ensureFolders output.parent with
    | .error error => ⟨titled, [], .error (.folder error)⟩
    | .ok ready =>
      let saved := titled ++ [.save output.toText]
      match Renderer.refusal ready (.save output.toText) with
      | some refusal => ⟨saved, [], .error (.save refusal)⟩
      | none => ⟨saved, [.written d.sheets.length output.toText], .ok output.toText⟩

/-- Writes a document with every number rounded as it is drawn. -/
def deliver (t : FileTree) (p : Press) (d : Draft) (output : Path) :
    Delivery (Step Number) PressError :=
  match Geometry.drawn p.paper p.pageSize with
  | .error fault => ⟨[], [], .error (.geometry fault)⟩
  | .ok g =>
    match p.warnings d with
    | .error fault => ⟨[], [], .error (.content fault)⟩
    | .ok warnings =>
      let drawing := d.drawing g p.fonts
      match t.refusal? drawing.steps, drawing.stopped with
      | some refusal, _ => ⟨t.stepsTried drawing.steps, warnings, .error (.refused refusal)⟩
      | none, some fault => ⟨drawing.steps, warnings, .error (.content fault)⟩
      | none, none =>
        if d.sheets.isEmpty then ⟨[], warnings, .error .noPages⟩
        else
          let ending := finish t d output
          ⟨drawing.steps ++ ending.steps, warnings ++ ending.notices, ending.result⟩

def assembler (t : FileTree) (p : Press) : Assembler (Step Number) PressError where
  assemble d output := p.deliver t d.draft output
  reported := PressError.reported

end Press

end Listing
