import Listing.Comment.Removal
import Listing.Notice
import Listing.Source.Basic
import Listing.Text.Compact

/-!
Joining sources into one text. Each source is stripped of comments and of blank lines, as the
switches say, then trimmed and put behind the text so far with one line feed between. A source
whose work fails is left out and the others go on. A value that is no text passes the work when
both switches leave it alone, and then ends the whole aggregation, because it cannot be joined.
-/

namespace Listing

/-- The text joined so far, with its bookkeeping. Lines are counted in each text before it is
trimmed. -/
structure Aggregate where
  content : Text := []
  totalLines : Nat := 0
  processed : Nat := 0
  given : Nat := 0
  omissions : List Omission := []
  deriving Repr

structure Interruption where
  omissions : List Omission
  fault : TypeFault
  deriving Repr

structure Switches where
  stripComments : Bool := true
  dropBlankLines : Bool := true
  deriving DecidableEq, Repr

def Source.processed (s : Source) (switches : Switches) : Except TypeFault Value := do
  let stripped ← if switches.stripComments then Listing.stripComments s.text s.tag else .ok s.text
  if switches.dropBlankLines then
    (stripped.textFor "split").map fun t => .text t.dropBlankLines
  else .ok stripped

namespace Aggregate

/-- Two trimmed texts with a line feed between, or the one of them that is not empty. -/
def joinContent (content added : Text) : Text :=
  if content = [] then added.trim else content.trimEnd ++ '\n' :: added.trim

/-- The aggregate with one more processed text. A blank text adds nothing but its count. -/
def append (a : Aggregate) (t : Text) : Aggregate :=
  if t.isBlank then { a with processed := a.processed + 1 }
  else
    { a with
      content := joinContent a.content t
      totalLines := a.totalLines + t.lines.length
      processed := a.processed + 1 }

def leaveOut (a : Aggregate) (o : Omission) : Aggregate :=
  { a with omissions := a.omissions ++ [o] }

def add (switches : Switches) (a : Aggregate) (s : Source) : Except Interruption Aggregate :=
  match s.processed switches with
  | .error fault => .ok (a.leaveOut ⟨s.path, fault.message⟩)
  | .ok value =>
    match value.textFor "strip" with
    | .ok t => .ok (a.append t)
    | .error fault => .error ⟨a.omissions, fault⟩

def ofSources (switches : Switches) (sources : List Source) : Except Interruption Aggregate :=
  sources.foldlM (add switches) { given := sources.length }

def record (a : Aggregate) : Value :=
  .record [("total_lines", .int a.totalLines), ("processed_files", .int a.processed),
    ("original_files", .int a.given), ("failures", .list (a.omissions.map Omission.record))]

end Aggregate

def omissionNotices (omissions : List Omission) : List Notice :=
  omissions.map fun o => .sourceSkipped o.path.asText o.reason

end Listing
