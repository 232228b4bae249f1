import Listing.Notice
import Listing.Source.Reading

/-!
Collecting sources from files and folders. A folder is walked depth first, the entries of each
folder in the order of their names; skipped names are not entered, and a folder that cannot be
listed is left out with a notice. A file that is reached in several ways is read once, under the
path that reached it first, and in the end the sources come in the order of their paths. A path
that cannot be asked about, because it is too long or leads through a folder that cannot be
searched, ends the whole search.
-/

namespace Listing

/-- A file to read: the path that reached it and where it is. -/
structure Candidate where
  path : Path
  location : Location
  deriving DecidableEq, Repr

inductive Obstacle where
  | missing (p : Path)
  | closed (p : Path)
  | unread (p : Path) (error : ReadError)

namespace Obstacle

def omission : Obstacle → Omission
  | .missing p => ⟨.text p.toText, "Path does not exist"⟩
  | .closed p => ⟨.text p.toText, "Failed to read directory: " ++ SystemError.denied.message p⟩
  | .unread p error => ⟨.text p.toText, error.message p⟩

def notice : Obstacle → Notice
  | .missing p => .pathMissing p.toText
  | .closed p => .folderUnreadable p.toText (SystemError.denied.message p)
  | .unread p error => .sourceUnreadable p.toText (error.message p)

end Obstacle

/-- What a search found: files to read, what stood in the way, and the error that ended it early. -/
structure Findings where
  files : List Candidate := []
  obstacles : List Obstacle := []
  stopped : Option PathError := none

namespace Findings

def file (c : Candidate) : Findings := { files := [c] }

def obstacle (o : Obstacle) : Findings := { obstacles := [o] }

/-- What an error about a path means for the search: that nothing is there, or the end. -/
def ofError (error : SystemError) (p : Path) (otherwise : Findings) : Findings :=
  if error.isAbsence then otherwise else { stopped := some ⟨error, p⟩ }

def append (a b : Findings) : Findings :=
  if a.stopped.isSome then a
  else ⟨a.files ++ b.files, a.obstacles ++ b.obstacles, b.stopped⟩

def concat (parts : List Findings) : Findings := parts.foldr append {}

theorem append_stopped (a b : Findings) (ended : a.stopped.isSome = true) : a.append b = a := by
  simp [append, ended]

end Findings

namespace FileTree

/-- Walks the folder at `location`, which `path` reaches through `links` links. An entry is
followed from where the folder is, because a path is followed from left to right. -/
def walk (t : FileTree) (links : Nat) (location : Location) (path : Path) : Findings :=
  if t.unlistable.contains path.toText then .obstacle (.closed path)
  else
    Findings.concat ((t.entries location).map fun name =>
      if _skipped : isSkipped name = true then {}
      else
        match _reached : t.followChild links location path name with
        | .error error => .ofError error (path.child name) {}
        | .ok (through, inner) =>
          match t.node? inner with
          | some .folder => t.walk through inner (path.child name)
          | some (.file _) =>
            if (path.child name).isSource then .file ⟨path.child name, inner⟩ else {}
          | _ => {})
termination_by (linkLimit - links, t.depth - location.length)
decreasing_by
  have plain : name.head? ≠ some '.' := by
    intro dotted
    simp [isSkipped, dotted] at _skipped
  have followed := t.follow_of_followChild _ _ _ _ _ _reached
  rcases t.follow_name links location name through inner plain followed with fewer | ⟨same, deeper⟩
  · exact Prod.Lex.left _ _ fewer
  · rw [same]
    exact Prod.Lex.right _ deeper

def select (t : FileTree) (p : Path) : Findings :=
  match t.locate p with
  | .error error => .ofError error p (.obstacle (.missing p))
  | .ok (links, location) =>
    match t.node? location with
    | none => .obstacle (.missing p)
    | some (.file _) => if p.isSource then .file ⟨p, location⟩ else {}
    | some .folder => t.walk links location p
    | some _ => {}

end FileTree

def distinctFiles (seen : List Location) : List Candidate → List Candidate
  | [] => []
  | c :: rest =>
    if seen.contains c.location then distinctFiles seen rest
    else c :: distinctFiles (c.location :: seen) rest

structure Collection where
  sources : List Source
  obstacles : List Obstacle

structure BrokenSearch where
  obstacles : List Obstacle
  error : PathError

namespace Collection

def omissions (c : Collection) : List Omission := c.obstacles.map Obstacle.omission

def notices (c : Collection) : List Notice := c.obstacles.map Obstacle.notice

end Collection

def BrokenSearch.notices (s : BrokenSearch) : List Notice := s.obstacles.map Obstacle.notice

def candidates (files : List Candidate) : List Candidate :=
  (distinctFiles [] files).mergeSort fun a b => a.path.toText.notAfter b.path.toText

def readAll [Codecs] (t : FileTree) (detect : Detector) : List Candidate → Collection
  | [] => ⟨[], []⟩
  | c :: rest =>
    let others := readAll t detect rest
    match readSource t detect c.path with
    | .ok source => { others with sources := source :: others.sources }
    | .error error => { others with obstacles := .unread c.path error :: others.obstacles }

/-- The sources that paths select, in the order of their paths. Nothing is read before the whole
search is done. -/
def collect [Codecs] (t : FileTree) (detect : Detector) (paths : List Path) :
    Except BrokenSearch Collection :=
  let found := Findings.concat (paths.map t.select)
  match found.stopped with
  | some error => .error ⟨found.obstacles, error⟩
  | none =>
    let read := readAll t detect (candidates found.files)
    .ok ⟨read.sources, found.obstacles ++ read.obstacles⟩

end Listing
