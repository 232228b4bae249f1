import Listing.Page.Distribution
import Listing.Page.Mode
import Listing.Page.Range

/-!
Resolving a page mode into sections. A section is a run of consecutive pages that keeps its own
page numbers; one section follows another only across a gap. With `all`, and with `partial` when
the stream is short enough to be shown whole, the one section takes the lines of the stream as
they are, if they are at hand.
-/

namespace Listing

/-- A run of pages with the lines to lay out. -/
structure Section where
  first : Int
  last : Int
  lines : List Text
  deriving DecidableEq, Repr

def Section.pageCount (s : Section) : Nat := (s.last - s.first + 1).toNat

def pageCountBetween (first last : Value) : Except OperandFault Value := do
  let count ← ((← last.minus first).plus 1).mapError .wrongKind
  .ok (if count.isBelow 0 then .int 0 else count)

inductive SelectionError where
  | range (error : RangeError)
  | rangeNotText (fault : TypeFault)
  | page (error : NoSuchPage)
  deriving Repr

def edgePages : Nat := 30

/-- The text of a page range. One that is not set or blank is refused, and one that is no text. -/
def rangeText (range : Value) : Except SelectionError Text :=
  if !range.isSet then .error (.range (.token [] .rangeRequired))
  else
    match range.textFor "strip" with
    | .error fault => .error (.rangeNotText fault)
    | .ok t => if t.isBlank then .error (.range (.token t .rangeRequired)) else .ok t

namespace Distribution

def section? (d : Distribution) (first last : Int) : Except SelectionError Section :=
  match d.linesFor first last with
  | .ok lines => .ok ⟨first, last, lines⟩
  | .error e => .error (.page e)

def wholeSection (d : Distribution) (stream : Option (List Text)) :
    Except SelectionError (List Section) :=
  match stream with
  | some lines => .ok [⟨1, d.total, lines⟩]
  | none => (d.section? 1 d.total).map fun s => [s]

def rangeSections (d : Distribution) (range : Value) : Except SelectionError (List Section) := do
  let text ← rangeText range
  let pages ← (pagesOfRange text (.int d.total)).mapError .range
  (contiguousRuns pages).mapM fun run => d.section? run.1 run.2

def edgeSections (d : Distribution) : Except SelectionError (List Section) := do
  let head ← d.section? 1 edgePages
  let tail ← d.section? (d.total - edgePages + 1) d.total
  .ok [head, tail]

/-- The sections that a mode shows. The edges are shown alone only when they leave pages out. -/
def select (d : Distribution) (mode : PageMode) (range : Value)
    (stream : Option (List Text)) : Except SelectionError (List Section) :=
  match mode with
  | .custom => d.rangeSections range
  | .partialEdges => if 2 * edgePages < d.total then d.edgeSections else d.wholeSection stream
  | .all => d.wholeSection stream

end Distribution

end Listing
