import Listing.Number.Scalar
import Listing.Page.Size
import Listing.Sheet.Renderer

/-!
The measures of a sheet: the paper, the pitch of the lines and the size of the font. The body area
lies between two margins, its lines share its height evenly, and the font never grows beyond the
pitch, so that lines do not run into each other. The measures can be taken in any numbers: rational
ones give the exact measures, and binary64 ones those that are drawn.
-/

namespace Listing

def margin : Rat := 54

def largestFont : Rat := 11

/-- The font size that the body keeps as long as the pitch allows it. -/
def smallestFont : Rat := 4

variable {α : Type} [Scalar α]

structure Geometry (α : Type) where
  paper : Paper
  lineHeight : α
  fontSize : α
  deriving DecidableEq, Repr

namespace Geometry

def of (paper : Paper) (size : α) : Geometry α :=
  let lineHeight := Scalar.ofRat ((paper.height : Rat) - 2 * margin) / size
  let wanted := lineHeight * Scalar.ofRat (4 / 5)
  { paper
    lineHeight
    fontSize := smaller (smaller (larger wanted (Scalar.ofRat smallestFont))
      (Scalar.ofRat largestFont)) lineHeight }

def bodyTop (_ : Geometry α) : Rat := margin

/-- The baseline of the line at an index, from the top. -/
def baseline (g : Geometry α) (index : Nat) : α :=
  Scalar.ofRat g.bodyTop + g.lineHeight * Scalar.ofRat index + g.fontSize

theorem fontSize_le_lineHeight (paper : Paper) (size : Rat) :
    (of paper size).fontSize ≤ (of paper size).lineHeight :=
  smaller_le_right _ _

/-- The measures of a sheet as they are drawn. The paper comes first, then the page size. -/
def drawn [Renderer] (paper : Value) (size : PageSize) : Except OperandFault (Geometry Number) := do
  let paper ← (Renderer.paper paper).mapError .wrongKind
  let lines ← size.number
  .ok (of paper lines)

end Geometry

end Listing
