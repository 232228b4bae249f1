import Listing.Path
import Listing.Text.Quoted

/-!
A tree of files as a program sees it: regular files, folders, symbolic links and entries of other
kinds, each under the list of names that leads to it from the root. Some files may refuse to be
read and some folders to be listed; the refusal goes by the text of the path that asks. A folder may
also refuse to be searched, and then its names lead nowhere by any path, though they may be listed;
and it may refuse new entries.
-/

namespace Listing

/-- The names that lead from the root of a tree to an entry. -/
abbrev Location := List Text

inductive Node where
  | file (bytes : List UInt8)
  | folder
  | link (target : Text)
  | special
  deriving DecidableEq, Repr

/-- A finite tree with a working folder. The root is a folder whether it is entered or not. -/
structure FileTree where
  nodes : List (Location × Node) := []
  workingFolder : Location := []
  unreadable : List Text := []
  unlistable : List Text := []
  unsearchable : List Location := []
  unwritable : List Location := []

inductive SystemError where
  | notFound
  | denied
  | busy
  | alreadyExists
  | notFolder
  | isFolder
  | invalid
  | nameTooLong
  | notEmpty
  | linkLoop
  | nullByte
  deriving DecidableEq, Repr

namespace SystemError

def number : SystemError → Option Nat
  | .notFound => some 2
  | .denied => some 13
  | .busy => some 16
  | .alreadyExists => some 17
  | .notFolder => some 20
  | .isFolder => some 21
  | .invalid => some 22
  | .nameTooLong => some 36
  | .notEmpty => some 39
  | .linkLoop => some 40
  | .nullByte => none

def text : SystemError → String
  | .notFound => "No such file or directory"
  | .denied => "Permission denied"
  | .busy => "Device or resource busy"
  | .alreadyExists => "File exists"
  | .notFolder => "Not a directory"
  | .isFolder => "Is a directory"
  | .invalid => "Invalid argument"
  | .nameTooLong => "File name too long"
  | .notEmpty => "Directory not empty"
  | .linkLoop => "Too many levels of symbolic links"
  | .nullByte => "embedded null byte"

/-- The errors about a path that are taken for nothing being there. -/
def isAbsence : SystemError → Bool
  | .notFound | .notFolder | .linkLoop | .nullByte => true
  | _ => false

def message (e : SystemError) (p : Path) : String :=
  match e.number with
  | some number =>
    "[Errno " ++ toString number ++ "] " ++ e.text ++ ": " ++ String.ofList p.toText.quoted
  | none => e.text

end SystemError

structure PathError where
  error : SystemError
  path : Path
  deriving DecidableEq, Repr

def PathError.message (e : PathError) : String := e.error.message e.path

def nameLimit : Nat := 255

def pathLimit : Nat := 4095

def Path.refusal (p : Path) : Option SystemError :=
  if p.toText.contains (Char.ofNat 0) then some .nullByte
  else if pathLimit < p.toText.byteCount then some .nameTooLong
  else none

namespace FileTree

def node? (t : FileTree) (location : Location) : Option Node :=
  if location = [] then some .folder else t.nodes.lookup location

def add (t : FileTree) (location : Location) (node : Node) : FileTree :=
  { t with nodes := t.nodes ++ [(location, node)] }

/-- The tree with an entry and the folders that lead to it; what is there already stays. -/
def place (t : FileTree) (location : Location) (node : Node) : FileTree :=
  let ancestors := (List.range location.length).map location.take
  let ready := ancestors.foldl
    (fun t folder => if (t.node? folder).isSome then t else t.add folder .folder) t
  if (ready.node? location).isSome then ready else ready.add location node

def entries (t : FileTree) (folder : Location) : List Text :=
  (t.nodes.filterMap fun entry =>
    if entry.1 ≠ [] ∧ entry.1.dropLast = folder then entry.1.getLast? else none).mergeSort
      Text.notAfter

def depth (t : FileTree) : Nat := (t.nodes.map fun entry => entry.1.length).foldr max 0

theorem length_le_depth (t : FileTree) (location : Location) (node : Node)
    (found : t.node? location = some node) : location.length ≤ t.depth := by
  have bound : ∀ nodes : List (Location × Node), nodes.lookup location = some node →
      location.length ≤ (nodes.map fun entry => entry.1.length).foldr max 0 := by
    intro nodes
    induction nodes with
    | nil => simp
    | cons entry rest ih =>
      intro hit
      simp only [List.map_cons, List.foldr_cons]
      rw [List.lookup_cons] at hit
      split at hit
      · next same =>
        have equal : location = entry.1 := by simpa using same
        rw [equal]
        exact Nat.le_max_left _ _
      · exact Nat.le_trans (ih hit) (Nat.le_max_right _ _)
  unfold node? at found
  split at found
  · next root => simp [root]
  · exact bound _ found

end FileTree

end Listing
