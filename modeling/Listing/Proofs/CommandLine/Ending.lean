import Listing.Proofs.CommandLine.Header
import Listing.Proofs.Generation.Verdict
import Listing.Proofs.Source.Files

/-!
How a command ends. With settings that make no request it ends with 2, before anything is read. A
request that fails ends with 1 and one that is written with 0; each prints one record, and the
record tells an error exactly if the code is not 0. What escapes are the failures that nobody
turns into one of the request: a path that is too long or leads through a folder that cannot be
searched, an output that is no path, a page number with too many digits, a page size beyond the
numbers that measure, and a step that the renderer refuses without a report. Nothing else does.
-/

namespace Listing

section Sources

variable [Codecs]

end Sources

section Ends

variable [Renderer]

variable (t : FileTree)

section Concluded

variable (a : Arguments) (r : Request) (found : Collection)
  (run : Generation (Step Number) PressError)

end Concluded

variable [Codecs]

/-- What escapes the failures of a request. -/
inductive Escapes (s : Surroundings) (a : Arguments) (r : Request) : Prop where
  | path {p : Text} {q : Path} (given : p ∈ a.paths) (asked : s.tree.Asks (.ofText p) q)
      (barred : s.tree.Barred q)
  | output (noText : ∀ t, a.output ≠ .text t)
  | number {found : Collection}
      (collected : collect s.tree s.detect (a.paths.map .ofText) = .ok found)
      (chokes : r.Chokes found.sources)
  | document {found : Collection} {document : Document} {output : Text}
      (collected : collect s.tree s.detect (a.paths.map .ofText) = .ok found)
      (laid : (r.document found.sources : Except (Stop PressError) Document) = .ok document)
      (named : a.output = .text output)
      (refuses : (a.press r.pageSize).Refuses s.tree document.draft (.ofText output))

section Request

variable (s : Surroundings) (a : Arguments) (r : Request)

end Request

section Command

variable (s : Surroundings) (texts : List Text) (a : Arguments)
  (accepted : Arguments.ofTexts texts = .ok a)

include accepted

end Command

end Ends

end Listing
