import Listing.Aggregate
import Listing.Page.Document
import Listing.Path

/-!
Generating a listing: the sources are joined, the text is laid out, and an assembler writes the
document. Failures that belong to the request carry the stage they arose in. Of an assembler's
failures, those that it reports become a failure of the `render` stage; any other ends the run as
it is.
-/

namespace Listing

/-- A failure of a request, with the stage it arose in. What it is told about may be values of any
kind: its record keeps them, and its texts show them. -/
inductive GenerationError where
  | emptyInput (message : Value)
  | pageRange (token reason : Value)
  | other (stage message : Value)
  deriving Repr

namespace GenerationError

def noSources : GenerationError := .emptyInput (.ofString "No source files to process")

def allEmpty : GenerationError :=
  .emptyInput (.ofString "All source files are empty after comment and blank line removal")

def noContent : GenerationError := .emptyInput (.ofString "No content lines left to paginate")

def rendering (reason : String) : GenerationError :=
  .other (.ofString "render") (.ofString ("Document assembly failed: " ++ reason))

def stage : GenerationError → Value
  | .emptyInput _ => .ofString "aggregate"
  | .pageRange .. => .ofString "select"
  | .other stage _ => stage

def message : GenerationError → Value
  | .emptyInput message => message
  | .pageRange token reason =>
    .text ("Invalid page range token ".toList ++ token.shown ++ ": ".toList ++ reason.asText)
  | .other _ message => message

def description (e : GenerationError) : String :=
  String.ofList e.message.asText ++ " (stage=" ++ String.ofList e.stage.asText ++ ")"

def record (e : GenerationError) : Value :=
  let base := [("stage", e.stage), ("message", e.message)]
  match e with
  | .pageRange token _ => .record (base ++ [("token", token)])
  | _ => .record base

end GenerationError

/-- Why no listing comes out: the request failed, or something outside its failures ended the
run. -/
inductive Stop (ε : Type) where
  | failed (error : GenerationError)
  | interrupted (fault : TypeFault)
  | numberTooLong (fault : IntegerFault)
  | pageMissing (error : NoSuchPage)
  | assembler (error : ε)

variable {δ ε : Type}

def Stop.message (assembler : ε → String) : Stop ε → String
  | .failed e => e.description
  | .interrupted fault => fault.message
  | .numberTooLong fault => fault.message
  | .pageMissing e => e.message
  | .assembler e => assembler e

def SelectionError.stop : SelectionError → Stop ε
  | .range (.token token fault) => .failed (.pageRange (.text token) (.ofString fault.reason))
  | .range (.number fault) => .numberTooLong fault
  | .range (.total fault) | .rangeNotText fault => .interrupted fault
  | .page error => .pageMissing error

def DocumentError.stop : DocumentError → Stop ε
  | .noContent => .failed .noContent
  | .selection error => error.stop

def Request.switches (r : Request) : Switches :=
  ⟨r.stripComments.isSet, r.removeBlankLines.isSet⟩

def aggregateFor (r : Request) (sources : List Source) :
    List Notice × Except (Stop ε) Aggregate :=
  if sources = [] then ([], .error (.failed .noSources))
  else
    match Aggregate.ofSources r.switches sources with
    | .error stopped => (omissionNotices stopped.omissions, .error (.interrupted stopped.fault))
    | .ok joined =>
      (omissionNotices joined.omissions,
        if joined.content.isBlank then .error (.failed .allEmpty) else .ok joined)

/-- What an assembler did: its drawing steps `δ`, its notices, and the path it wrote. -/
structure Delivery (δ ε : Type) where
  steps : List δ
  notices : List Notice
  result : Except ε Text

structure Assembler (δ ε : Type) where
  assemble : Document → Path → Delivery δ ε
  /-- The text of a failure that belongs to the request. -/
  reported : ε → Option String

structure Report where
  outputPath : Text
  totalPages : Int
  outputPages : Nat
  sections : List (Int × Int)
  processed : Nat
  given : Nat
  totalLines : Nat
  omissions : List Omission
  deriving Repr

def Report.entries (r : Report) : List (String × Value) :=
  [("output_path", .text r.outputPath), ("total_pages", .int r.totalPages),
    ("output_pages", .int r.outputPages),
    ("sections", .list (r.sections.map fun s =>
      .record [("start_page", .int s.1), ("end_page", .int s.2)])),
    ("processed_files", .int r.processed), ("original_files", .int r.given),
    ("total_lines", .int r.totalLines), ("failures", .list (r.omissions.map Omission.record))]

structure Generation (δ ε : Type) where
  notices : List Notice := []
  document : Option Document := none
  steps : List δ := []
  result : Except (Stop ε) Report

def reportOf (joined : Aggregate) (document : Document) (path : Text) : Report where
  outputPath := path
  totalPages := document.totalPages
  outputPages := document.outputPages
  sections := document.sections.map fun s => (s.first, s.last)
  processed := joined.processed
  given := joined.given
  totalLines := joined.totalLines
  omissions := joined.omissions

def listAggregate (assembler : Assembler δ ε) (request : Request) (output : Path)
    (joined : Aggregate) : Generation δ ε :=
  let aggregated := .aggregated joined.processed joined.given joined.totalLines
  match paginate joined.content request with
  | .error error => { notices := [aggregated], result := .error error.stop }
  | .ok document =>
    let paginated := .paginated document.totalPages.toNat document.outputPages
      document.sections.length
    let delivery := assembler.assemble document output
    { notices := aggregated :: (document.notices ++ paginated :: delivery.notices)
      document := some document
      steps := delivery.steps
      result :=
        match delivery.result with
        | .ok path => .ok (reportOf joined document path)
        | .error error =>
          match assembler.reported error with
          | some reason => .error (.failed (.rendering reason))
          | none => .error (.assembler error) }

def generate (assembler : Assembler δ ε) (sources : List Source) (request : Request)
    (output : Path) : Generation δ ε :=
  match aggregateFor request sources with
  | (notices, .error stop) => { notices, result := .error stop }
  | (notices, .ok joined) =>
    let listed := listAggregate assembler request output joined
    { listed with notices := notices ++ listed.notices }

end Listing
