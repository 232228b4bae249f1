import Listing.Proofs.Path
import Listing.Proofs.Source.Search

/-!
The files that a run reads. The search passes over a file that it has come to before, so a file is
read once, in whatever ways it is reached; which files are read is decided by each given path
alone. After the search each file gives its source or its failure, in the order of the paths.
-/

namespace Listing

section Reading

variable [Codecs] (t : FileTree) (detect : Detector)

def sourceOf (c : Candidate) : Option Source :=
  match readSource t detect c.path with
  | .ok source => some source
  | .error _ => none

end Reading

namespace FileTree

variable (t : FileTree)

end FileTree

end Listing
