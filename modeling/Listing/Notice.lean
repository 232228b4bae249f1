import Listing.Text.Basic

/-!
What a run reports while it works. A notice says what happened; its weight and its wording follow
from that.
-/

namespace Listing

inductive Weight where
  | info
  | warning
  | error
  deriving DecidableEq, Repr

def Weight.label : Weight → String
  | .info => "INFO"
  | .warning => "WARNING"
  | .error => "ERROR"

inductive Notice where
  | pathMissing (path : Text)
  | folderUnreadable (path : Text) (reason : String)
  | sourceUnreadable (path : Text) (reason : String)
  | sourceSkipped (path : Text) (reason : String)
  | aggregated (processed given lines : Nat)
  /-- The two page counts of a section differ. -/
  | countMismatch (first last : Int) (divided broken : Nat)
  | paginated (total selected sections : Nat)
  | fontNeeded (font : Text)
  | written (pages : Nat) (path : Text)
  | configurationInvalid (reason : String)
  | generationFailed (reason : String)
  deriving DecidableEq, Repr

namespace Notice

def weight : Notice → Weight
  | .aggregated .. | .paginated .. | .written .. => .info
  | .configurationInvalid _ | .generationFailed _ => .error
  | _ => .warning

def message : Notice → String
  | .pathMissing path => "Skipping missing path: " ++ String.ofList path
  | .folderUnreadable path reason =>
    "Skipping unreadable directory " ++ String.ofList path ++ ": " ++ reason
  | .sourceUnreadable path reason =>
    "Skipping unreadable source " ++ String.ofList path ++ ": " ++ reason
  | .sourceSkipped path reason => "Skipping source " ++ String.ofList path ++ ": " ++ reason
  | .aggregated processed given lines =>
    "Aggregated " ++ toString processed ++ "/" ++ toString given ++ " sources into " ++
      toString lines ++ " lines"
  | .countMismatch first last divided broken =>
    "Page count mismatch for section " ++ toString first ++ "-" ++ toString last ++ ": " ++
      toString divided ++ " by division, " ++ toString broken ++ " by page breaks"
  | .paginated total selected sections =>
    "Paginated " ++ toString total ++ " pages, " ++ toString selected ++ " selected in " ++
      toString sections ++ " section(s)"
  | .fontNeeded font =>
    "Text outside Latin-1 will not render with base-14 font " ++ String.ofList font ++
      "; pass a font file"
  | .written pages path => "Wrote " ++ toString pages ++ " pages to " ++ String.ofList path
  | .configurationInvalid reason => "Invalid configuration: " ++ reason
  | .generationFailed reason => "Generation failed: " ++ reason

end Notice

end Listing
