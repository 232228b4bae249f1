import Listing.CommandLine.Run

/-!
The command. It takes a picture of the files that the arguments name, runs on the picture, prints
what the run printed, and saves the document. Saved are the steps of drawing, one on a line.
-/

namespace Listing

def Location.text (l : Location) : String := "/" ++ String.ofList (Text.join ['/'] l)

/-- Where a path leads from a working folder, links aside. -/
def Path.locationFrom (workingFolder : Location) (p : Path) : Location :=
  p.parts.foldl (fun l name => if name = ['.', '.'] then l.dropLast else l ++ [name])
    (if p.rootSlashes = 0 then workingFolder else [])

structure Picture where
  tree : FileTree
  shown : List Location := []

/-- The picture with the entry at a location, which is reached by `path`, and all below it. -/
partial def Picture.show (s : Picture) (path : Path) (location : Location) : IO Picture := do
  if s.shown.contains location then return s
  let s := { s with shown := location :: s.shown }
  let place := IO.FS.DirEntry.mk "" (Location.text location)
  try
    let real ← IO.FS.realPath place.path
    let target := (Path.ofText real.toString.toList).parts
    if target ≠ location then
      let tree := s.tree.place location (.link real.toString.toList)
      Picture.show { s with tree } path target
    else
      match (← real.metadata).type with
      | .file =>
        try
          let bytes ← IO.FS.readBinFile real
          return { s with tree := s.tree.place location (.file bytes.toList) }
        catch _ =>
          let tree := s.tree.place location (.file [])
          return { s with tree := { tree with unreadable := path.toText :: tree.unreadable } }
      | .dir =>
        let tree := s.tree.place location .folder
        try
          let mut picture : Picture := { s with tree }
          for entry in ← real.readDir do
            let name := entry.fileName.toList
            picture ← picture.show (path.child name) (location ++ [name])
          return picture
        catch _ =>
          return { s with tree := { tree with unlistable := path.toText :: tree.unlistable } }
      | _ => return { s with tree := s.tree.place location .special }
  catch _ =>
    -- What is refused without a link being followed lies in a folder that cannot be searched.
    try
      let _ ← place.path.symlinkMetadata
      return s
    catch
      | .permissionDenied .. =>
        let tree := s.tree.place location .special
        return { s with
          tree := { tree with unsearchable := location.dropLast :: tree.unsearchable } }
      | _ => return s

def detectUtf8 : Detector := fun bytes =>
  if (Utf8.decode bytes).isOk then some "utf_8".toList else none

def Step.line : Step Number → String
  | .page paper => textOf ["page", toString paper.width, toString paper.height]
  | .text x y content font size =>
    textOf ["text", decimal (.finite x), decimal y, String.ofList font.name, decimal size,
      quoted content]
  | .metadata title creator => textOf ["metadata", quoted title, quoted creator]
  | .save path => textOf ["save", quoted path]
where
  textOf (words : List String) : String := " ".intercalate words
  decimal (x : Number) : String := String.ofList (x.fixedText 3)
  quoted (t : Text) : String := String.ofList (jsonString t)

/-- The paths that a picture has to show: those of the sources, and the output that is replaced. -/
def picturedPaths (texts : List Text) : List Path :=
  match Arguments.ofTexts texts with
  | .error _ => []
  | .ok a => a.paths.map Path.ofText ++ (Path.ofValue a.output).toOption.toList

def readEnvironment : IO Environment := do
  let names := [Environment.sizeVariable, Environment.modeVariable, Environment.headerVariable,
    Environment.rangeVariable]
  let values ← names.mapM fun name => do
    let value ← IO.getEnv name
    return value.map fun text => (name, .ofString text)
  return values.filterMap id

def saveSteps (steps : List (Step Number)) : IO Unit := do
  match steps.getLast? with
  | some (.save path) =>
    IO.FS.createDirAll (String.ofList (Path.ofText path).parent.toText)
    IO.FS.writeFile (String.ofList path) ("\n".intercalate (steps.map Step.line) ++ "\n")
  | _ => return

def command (arguments : List String) : IO UInt32 := do
  let texts := arguments.map String.toList
  let workingFolder := (Path.ofText (← IO.currentDir).toString.toList).parts
  let start : FileTree := { workingFolder }
  let mut picture : Picture := { tree := start.place workingFolder .folder }
  for path in picturedPaths texts do
    picture ← picture.show path (path.locationFrom workingFolder)
  let run := runCommand ⟨picture.tree, detectUtf8, ← readEnvironment⟩ texts
  for notice in run.notices do
    IO.eprintln (notice.weight.label ++ " " ++ notice.message)
  if run.ending matches .exit 0 then
    saveSteps run.steps
  IO.print (String.ofList run.printed)
  match run.ending with
  | .exit code => return UInt32.ofNat code
  | .usage .help =>
    IO.println (" ".intercalate ("usage: codedoc" :: OptionName.spellings.map Prod.fst))
    return 0
  | .usage (.refused e) =>
    IO.eprintln ("codedoc: error: " ++ e.message)
    return 2
  | .fault e =>
    IO.eprintln e.message
    return 1

end Listing

def main (arguments : List String) : IO UInt32 := Listing.command arguments
