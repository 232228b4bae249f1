import Listing.Notice
import Listing.Page.Layout
import Listing.Request.Basic

/-!
A text laid out for one request: its lines cut into pages, the pages selected, and each section
laid out on its own. Pages keep the numbers they have in the whole text.
-/

namespace Listing

structure Document where
  header : Value
  totalPages : Int
  sections : List SectionLayout

inductive DocumentError where
  | noContent
  | selection (error : SelectionError)
  deriving Repr

def Document.outputPages (d : Document) : Nat :=
  d.sections.foldr (fun s pages => s.divided + pages) 0

/-- A notice for every section whose two page counts differ. -/
def Document.notices (d : Document) : List Notice :=
  (d.sections.filter fun s => !s.isConsistent).map fun s =>
    .countMismatch s.first s.last s.divided s.rendered

def paginate (content : Text) (request : Request) : Except DocumentError Document := do
  let lines := content.lines
  let pages := distribute lines request.pageSize
  if pages.total = 0 then .error .noContent
  else
    let sections ← (pages.select request.mode request.range (some lines)).mapError .selection
    .ok
      { header := request.header
        totalPages := pages.total
        sections := sections.map fun s => s.layout request.pageSize }

end Listing
