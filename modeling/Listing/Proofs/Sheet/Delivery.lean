import Listing.Proofs.Path
import Listing.Proofs.Sheet.Selection

/-!
How the writing of a document ends. A laid out document with a header that is a text is drawn to
its end, once its paper is named and its page size can be measured. Then the renderer makes the
steps up to the first that it refuses, the folder of the output may be refused, and the document is
saved; before that nothing is.
-/

namespace Listing

/-- A header that can be drawn: a text, or nothing. -/
def Value.IsHeader (header : Value) : Prop := (∃ t, header = .text t) ∨ header = .list []

section Drawable

variable {α : Type} [Scalar α] [Renderer] (g : Geometry α) (fonts : Fonts)

end Drawable

namespace Press

variable [Renderer] (t : FileTree) (p : Press) (d : Draft) (output : Path)

def stepsBefore (g : Geometry Number) : List (Step Number) :=
  (d.drawing g p.fonts).steps ++ [.metadata (d.title output) creator]

/-- What refuses a document and is no failure of the request. The paper has no name, or the page
size is beyond the numbers that measure, or the renderer refuses a step, and not in a way that is
reported. -/
inductive Refuses : Prop where
  | paper {fault : TypeFault} (unnamed : Renderer.paper p.paper = .error fault)
  | measure {size : Nat} (whole : p.pageSize = .whole size)
      (beyond : overflows64 (size : Int) = true)
  | draw {g : Geometry Number} {refusal : Refusal}
      (measured : Geometry.drawn p.paper p.pageSize = .ok g)
      (refused : t.refusal? (p.stepsBefore d output g) = some refusal)
      (unreported : refusal.reported = false)
  | save {g : Geometry Number} {ready : FileTree} {refusal : Refusal}
      (measured : Geometry.drawn p.paper p.pageSize = .ok g)
      (quiet : t.refusal? (p.stepsBefore d output g) = none)
      (made : t.ensureFolders output.parent = .ok ready)
      (refused : Renderer.refusal ready (.save output.toText) = some refusal)
      (unreported : refusal.reported = false)

section Laid

variable (content : Text) (request : Request) (document : Document)
  (paginated : paginate content request = .ok document) (drawable : request.header.IsHeader)
  (g : Geometry Number) (measured : Geometry.drawn p.paper p.pageSize = .ok g)

include paginated drawable

include measured

end Laid

end Press

end Listing
