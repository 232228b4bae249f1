import Listing.FileTree.Resolve

/-!
Making folders. One folder is made where its parent is a folder that takes it and nothing has its
name yet; a link counts as something, wherever it leads. Making a folder with its parents accepts a
folder that is already there, and reports any other hindrance about the path it met it at.
-/

namespace Listing

namespace FileTree

def makeFolder (t : FileTree) (p : Path) : Except SystemError FileTree :=
  match p.refusal, p.parts.getLast? with
  | some e, _ => .error e
  | none, none => .error .alreadyExists
  | none, some name =>
    match t.locate p.parent with
    | .error e => .error e
    | .ok (_, location) =>
      if t.node? location ≠ some .folder then .error .notFolder
      else if t.unsearchable.contains location then .error .denied
      else if nameLimit < name.byteCount then .error .nameTooLong
      else if name = ['.', '.'] ∨ (t.node? (location ++ [name])).isSome then .error .alreadyExists
      else if t.unwritable.contains location then .error .denied
      else .ok (t.add (location ++ [name]) .folder)

/-- The tree as it is if a folder is at the path already, and otherwise the error `e` that a new
one met. A path that cannot be asked about is an error of its own. -/
def keepFolder (t : FileTree) (p : Path) (e : SystemError) : Except PathError FileTree :=
  match t.entry p with
  | .ok .folder => .ok t
  | .ok _ => .error ⟨e, p⟩
  | .error asking => .error ⟨if asking.isAbsence then e else asking, p⟩

def ensureFolder (t : FileTree) (p : Path) : Except PathError FileTree :=
  match t.makeFolder p with
  | .ok made => .ok made
  | .error .notFound => .error ⟨.notFound, p⟩
  | .error e => t.keepFolder p e

def ensureFolders (t : FileTree) (p : Path) : Except PathError FileTree :=
  match t.makeFolder p with
  | .ok made => .ok made
  | .error .notFound =>
    if _more : p.parts = [] then .error ⟨.notFound, p⟩
    else
      match t.ensureFolders p.parent with
      | .ok ready => ready.ensureFolder p
      | .error e => .error e
  | .error e => t.keepFolder p e
termination_by p.parts.length
decreasing_by exact p.parent_shorter _more

end FileTree

end Listing
