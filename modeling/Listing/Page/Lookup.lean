import Listing.Page.Distribution

/-!
Looking up pages by numbers that may be values of any kind. A page number is first compared with
the pages that there are, so a number outside is missing whatever kind it is, and only one inside
has to be whole. The ends of a run of pages have to be whole from the start.
-/

namespace Listing

inductive LookupFault where
  | missing (number : Value) (total : Nat)
  | wrongKind (fault : TypeFault)
  deriving Repr

def LookupFault.message : LookupFault → String
  | .missing number total => outsideMessage number.asText total
  | .wrongKind fault => fault.message

def NoSuchPage.lookupFault (e : NoSuchPage) : LookupFault := .missing (.int e.number) e.total

namespace Distribution

def pageNumbered (d : Distribution) (number : Value) : Except LookupFault Page := do
  let place ← (number.comparedBy "<").mapError .wrongKind
  if place.less (.finite 1) || (Number.finite (d.total : Rat)).less place then
    .error (.missing number d.total)
  else
    match number.integer? with
    | some n => (d.page n).mapError NoSuchPage.lookupFault
    | none => .error (.wrongKind (.notPosition number.typeName))

def linesBetween (d : Distribution) (first last : Value) : Except LookupFault (List Text) := do
  let next ← (last.plus 1).mapError .wrongKind
  let start ← first.index.mapError .wrongKind
  let stop ← next.index.mapError .wrongKind
  (d.linesFor start (stop - 1)).mapError NoSuchPage.lookupFault

end Distribution

end Listing
