import Listing.Value.Basic

/-!
One source on its way into the listing, and the record of one that was left out. The path, the tag
and the text of a source may be values of any kind; only the work on them shows whether they serve.
-/

namespace Listing

structure Source where
  path : Value
  tag : Value
  text : Value
  deriving Repr

structure Omission where
  path : Value
  reason : String
  deriving Repr

def Omission.record (o : Omission) : Value :=
  .record [("source_path", o.path), ("error", .ofString o.reason)]

end Listing
