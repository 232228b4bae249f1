import Listing.Number.Basic

/-!
The steps of drawing: a new page, a text on a page, the title of the document, and saving it.
-/

namespace Listing

structure Paper where
  width : Nat
  height : Nat
  deriving DecidableEq, Repr

/-- A font by its name; one from a file keeps the name of the file. -/
structure Font where
  name : Text
  file : Option Text := none
  deriving DecidableEq, Repr

/-- One step of drawing. A text starts at `x` from the left and stands on the baseline at `y` from
the top. -/
inductive Step (α : Type) where
  | page (paper : Paper)
  | text (x : Rat) (y : α) (content : Text) (font : Font) (size : α)
  | metadata (title creator : Text)
  | save (path : Text)
  deriving DecidableEq, Repr

def Step.isPage {α : Type} : Step α → Bool
  | .page _ => true
  | _ => false

end Listing
