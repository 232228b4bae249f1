import Listing.Comment.Style
import Listing.Comment.Delimited
import Listing.Comment.Literal

/-!
Removing the comments of a text, by the family of its language. Where a family has both line and
block comments, the line comments go first, so a block delimiter behind a line marker never
counts. Only the Python family knows string literals.
-/

namespace Listing

def CommentStyle.strip : CommentStyle → Text → Text
  | .cStyle, t => Block.starred.drop (dropLineComments ['/', '/'] t)
  | .pythonStyle, t => dropHashComments t
  | .markup, t => Block.markup.drop t
  | .cssStyle, t => Block.starred.drop t
  | .shellStyle, t => dropMarkedLines '#' t
  | .sqlStyle, t => Block.starred.drop (dropLineComments ['-', '-'] t)
  | .none, t => t

/-- The complaint of a family about a value that is no text; the family without comments takes
any value. -/
def CommentStyle.complaint (style : CommentStyle) (value : Value) : Option TypeFault :=
  match style with
  | .none => Option.none
  | .pythonStyle => some (.lacksOperation value.typeName "split")
  | _ => some (.notSearchable value.typeName)

/-- A value of any kind without the comments that its tag, of any kind, names. The tag is looked
at first. -/
def stripComments (value tag : Value) : Except TypeFault Value := do
  let style ← CommentStyle.ofTag tag
  match value with
  | .text t => .ok (.text (style.strip t))
  | other =>
    match style.complaint other with
    | some fault => .error fault
    | none => .ok other

end Listing
