import Listing.FileTree.Removal
import Listing.Sheet.Font
import Listing.Sheet.Paper

/-!
What draws. The sizes of papers, the widths of sheets and of texts, and which steps can be made are
not up to a listing: a renderer tells them. Any renderer will do, and what is said of listings holds
with each of them. The one that is described here has the fonts that every reader has, opens a font
file before it sets a text in it, and takes away what stands at the place where it saves.
-/

namespace Listing

/-- Why a renderer does not make a step. A refusal of one of the reported kinds is a failure of the
request. -/
structure Refusal where
  message : String
  reported : Bool
  deriving DecidableEq, Repr

/-- What draws the steps of a document and saves it. Whether it makes a step is told by the tree of
files and by the step, whatever was drawn before. -/
class Renderer where
  /-- The paper that a value names. -/
  paper : Value → Except TypeFault Paper
  sheetWidth : Paper → Rat
  /-- The width of a text in a font, by the size of the font. -/
  textWidth : Font → Text → Rat → Rat
  /-- Why a step cannot be made in a tree of files, if it cannot. A text that is centred is set once
  its font has been opened and its width taken. -/
  refusal : FileTree → Step Number → Option Refusal

structure SaveFault where
  attempt : String
  path : Text
  error : SystemError
  deriving DecidableEq, Repr

namespace SaveFault

def code : Nat := 2

def messageLimit : Nat := 255

def message (e : SaveFault) : String :=
  let text := "cannot " ++ e.attempt ++ " file '" ++ String.ofList e.path ++ "': " ++ e.error.text
  "code=" ++ toString code ++ ": " ++ String.ofList (Text.firstBytes messageLimit text.toList)

end SaveFault

namespace FileTree

def openFault? (t : FileTree) (path : Text) : Option SaveFault :=
  match t.locate (Path.ofText path).parent with
  | .error error => some ⟨"open", path, error⟩
  | .ok (_, folder) =>
    if t.unwritable.contains folder then some ⟨"open", path, .denied⟩
    else if path.getLast? = some '/' then some ⟨"open", path, .isFolder⟩
    else none

/-- Why a file cannot be saved at a path. What the path names is taken away first. A null byte ends
the text of a path, so that nothing may be left of it, or only a folder. -/
def saveFault? (t : FileTree) (output : Text) : Option SaveFault :=
  let path := output.takeWhile fun c => c ≠ Char.ofNat 0
  if path = [] then some ⟨"open", path, .notFound⟩
  else
    match t.remove (Path.ofText path) with
    | .ok _ | .error .notFound => t.openFault? path
    | .error error => some ⟨"remove", path, error⟩

def fontFault? (t : FileTree) (font : Font) : Option SaveFault :=
  match font.file with
  | some (c :: file) =>
    match t.read (Path.ofText (c :: file)) with
    | .ok _ => none
    | .error error => some ⟨"open", c :: file, error⟩
  | _ => none

end FileTree

namespace Renderer

/-- The renderer that is described here. None of its refusals is of a reported kind. -/
instance described : Renderer where
  paper := Paper.ofValue
  sheetWidth paper := paper.sheetWidth
  textWidth font content size := size * font.textAdvance content / 1000
  refusal t := fun
    | .text _ _ _ font _ => (t.fontFault? font).map fun fault => ⟨fault.message, false⟩
    | .save path => (t.saveFault? path).map fun fault => ⟨fault.message, false⟩
    | _ => none

end Renderer

end Listing
