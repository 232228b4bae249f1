import Listing.Proofs.Source.Files

/-!
A file that cannot be read affects nothing but itself. The search asks only where paths lead, so
two trees that differ in what their files hold are searched alike: the same files are read in the
same order, and each of them gives its own source or its own failure. What ends a run is a path
that cannot be asked about, because it is too long or leads through a folder that cannot be
searched, and it ends both runs alike. Which bytes are text in which encoding has no part in it.
-/

namespace Listing

section Runs

variable [Codecs]

variable (t t' : FileTree) (detect detect' : Detector)

end Runs

end Listing
