import Listing.Text.Fold
import Listing.Value.Basic

/-!
The families of comment syntax and the tags that name them. A tag is read without regard to case
or blanks around it. A tag that names no family, or is not set at all, means that comments stay;
a tag that is set but no text is a fault.
-/

namespace Listing

inductive CommentStyle where
  | cStyle
  | pythonStyle
  | markup
  | cssStyle
  | shellStyle
  | sqlStyle
  | none
  deriving DecidableEq, Repr, Inhabited

namespace CommentStyle

def all : List CommentStyle :=
  [.cStyle, .pythonStyle, .markup, .cssStyle, .shellStyle, .sqlStyle, .none]

def tag : CommentStyle → String
  | .cStyle => "c-style"
  | .pythonStyle => "python-style"
  | .markup => "markup"
  | .cssStyle => "css-style"
  | .shellStyle => "shell-style"
  | .sqlStyle => "sql-style"
  | .none => "none"

def ofText (t : Text) : CommentStyle :=
  (all.find? fun style => style.tag.toList == t.trim.fold).getD .none

def ofTag (value : Value) : Except TypeFault CommentStyle :=
  if value.isSet then (value.textFor "strip").map ofText else .ok .none

theorem ofText_tag (style : CommentStyle) : ofText style.tag.toList = style := by
  cases style <;> decide +kernel

end CommentStyle

end Listing
