import Listing.Proofs.Generation.Outcome

/-!
What becomes of sources for a request. They come to a document if something is left of them and
every token of a range that is asked for fits their pages. Otherwise a failure of the request is
reported, but for one case: where the first token that does not fit writes a number with too many
digits to be read.
-/

namespace Listing

namespace Request

def pageTotal (r : Request) (sources : List Source) : Nat :=
  (distribute (Aggregate.summary r.switches sources).content.lines r.pageSize).total

/-- Whether the range that is asked for cannot be read, because the first token that does not fit
writes a number with too many digits. -/
def Chokes (r : Request) (sources : List Source) : Prop :=
  ¬r.FindsNothing sources ∧ r.mode = .custom ∧
    Unreadable (r.pageTotal sources) r.range.asText

variable (r : Request) (sources : List Source)

end Request

end Listing
