import Listing.CommandLine.Arguments
import Listing.Request.Environment
import Listing.Sheet.Press
import Listing.Source.Collection
import Listing.Value.Json

/-!
Running the command. The settings come from the arguments and the environment, the sources from
the tree of files, and the document goes to the press. What the run came to is printed as one JSON
record: the report, or the failure of the request together with what could not be read. Settings
that make no request are reported before anything is read. A search that was ended, an output that
is no path and a failure outside the request leave nothing to print.
-/

namespace Listing

structure Surroundings where
  tree : FileTree
  detect : Detector
  environment : Environment

inductive CommandFault where
  | search (error : PathError)
  | output (fault : TypeFault)
  | generation (stop : Stop PressError)

def CommandFault.message : CommandFault → String
  | .search error => error.message
  | .output fault => fault.message
  | .generation stop => stop.message PressError.message

/-- How a run ends: with a report and an exit code, before the run begins, or without a report. -/
inductive Ending where
  | exit (code : Nat)
  | usage (stop : UsageStop)
  | fault (fault : CommandFault)

structure CommandRun where
  ending : Ending
  printed : Text := []
  notices : List Notice := []
  steps : List (Step Number) := []

def printedRecord (entries : List (String × Value)) : Text :=
  (Value.record entries).json 0 ++ ['\n']

namespace Arguments

def overrides (a : Arguments) : Overrides where
  pageSize := a.lines
  header := a.header
  mode := a.mode
  range := a.pages
  stripComments := .bool !a.keepComments
  removeBlankLines := .bool !a.keepBlankLines

def press (a : Arguments) (pageSize : Nat) : Press where
  pageSize := .whole pageSize
  fontFile := if a.fontFile.isGiven then some a.fontFile.asText else none

def entries (a : Arguments) (r : Request) : List (String × Value) :=
  [("paths", .list (a.paths.map .text)), ("request", r.record)]

end Arguments

def refusedSettings (e : RequestError) : CommandRun where
  ending := .exit 2
  printed := printedRecord
    [("error", .record [("stage", .ofString "config"), ("message", .ofString e.message)])]
  notices := [.configurationInvalid e.message]

def concluded (a : Arguments) (r : Request) (found : Collection)
    (run : Generation (Step Number) PressError) : CommandRun :=
  let notices := found.notices ++ run.notices
  match run.result with
  | .ok report =>
    { ending := .exit 0
      printed := printedRecord (a.entries r ++
        Report.entries { report with omissions := found.omissions ++ report.omissions })
      notices
      steps := run.steps }
  | .error (.failed e) =>
    { ending := .exit 1
      printed := printedRecord (a.entries r ++ [("error", e.record),
        ("failures", .list (found.omissions.map Omission.record))])
      notices := notices ++ [.generationFailed e.description]
      steps := run.steps }
  | .error stop => { ending := .fault (.generation stop), notices, steps := run.steps }

variable [Codecs] [Renderer]

/-- Runs the command for a request. The output is looked at once the sources are read. -/
def runRequest (s : Surroundings) (a : Arguments) (r : Request) : CommandRun :=
  match collect s.tree s.detect (a.paths.map Path.ofText) with
  | .error broken => { ending := .fault (.search broken.error), notices := broken.notices }
  | .ok found =>
    match Path.ofValue a.output with
    | .error fault => { ending := .fault (.output fault), notices := found.notices }
    | .ok output =>
      concluded a r found
        (generate ((a.press r.pageSize).assembler s.tree) found.sources r output)

def runCommand (s : Surroundings) (texts : List Text) : CommandRun :=
  match Arguments.ofTexts texts with
  | .error stop => { ending := .usage stop }
  | .ok a =>
    match Request.ofEnvironment s.environment a.overrides with
    | .error e => refusedSettings e
    | .ok r => runRequest s a r

end Listing
