import Listing.FileTree.Resolve

/-!
Taking entries away, to make room for a new file. A link is taken away itself, wherever it leads,
and a folder only if nothing is in it. The root, the working folder by one dot and a folder by two
dots cannot be taken away.
-/

namespace Listing

namespace FileTree

def without (t : FileTree) (location : Location) : FileTree :=
  { t with nodes := t.nodes.filter fun entry => entry.1 ≠ location }

def remove (t : FileTree) (p : Path) : Except SystemError FileTree :=
  match p.refusal, p.parts.getLast? with
  | some e, _ => .error e
  | none, none => .error (if p.rootSlashes = 0 then .invalid else .busy)
  | none, some name =>
    match t.locate p.parent with
    | .error e => .error e
    | .ok (_, folder) =>
      if t.node? folder ≠ some .folder then .error .notFolder
      else if t.unsearchable.contains folder then .error .denied
      else if name = ['.', '.'] then .error .notEmpty
      else if nameLimit < name.byteCount then .error .nameTooLong
      else
        match t.node? (folder ++ [name]) with
        | none => .error .notFound
        | some node =>
          if t.unwritable.contains folder then .error .denied
          else if node = .folder ∧ t.entries (folder ++ [name]) ≠ [] then .error .notEmpty
          else .ok (t.without (folder ++ [name]))

end FileTree

end Listing
