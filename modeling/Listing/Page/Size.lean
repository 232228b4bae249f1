import Listing.Value.Arithmetic

/-!
The size of a page, in lines. It is positive; mostly it is a whole number of lines, but any
binary64 number measures a page as well. A page is full when the count of its lines equals the
size, and it is broken before another line when the count has reached the size, so a size between
two whole numbers never fills a page and breaks it at the larger one. What is no number is not
refused, because no comparison holds of it; no page reaches such a size.
-/

namespace Listing

inductive PageSize where
  | whole (lines : Nat)
  | measured (lines : Number)
  deriving DecidableEq, Repr

inductive PageSizeFault where
  | notPositive
  | notNumeric (fault : TypeFault)
  deriving DecidableEq, Repr

def PageSizeFault.message : PageSizeFault → String
  | .notPositive => "page_size must be positive"
  | .notNumeric fault => fault.message

namespace PageSize

def ofValue (value : Value) : Except PageSizeFault PageSize := do
  let count ← (value.comparedBy "<=").mapError .notNumeric
  if count.less (.finite 0) || count.equals (.finite 0) then .error .notPositive
  else
    match value.integer? with
    | some n => .ok (.whole n.toNat)
    | none => .ok (.measured count)

/-- The size as an exact number, if lines can reach it. -/
def reach? : PageSize → Option Rat
  | .whole n => some n
  | .measured x => x.value?

/-- The count of lines that fills a page. -/
def filling? (size : PageSize) : Option Nat :=
  (size.reach?.filter fun q => q.den == 1).map fun q => q.num.toNat

/-- The count of lines that a page is broken at. -/
def breaking? (size : PageSize) : Option Nat := size.reach?.map fun q => q.ceil.toNat

def number : PageSize → Except OperandFault Number
  | .whole n => Number.ofInt n
  | .measured x => .ok x

theorem filling?_whole (n : Nat) : (whole n).filling? = some n := by
  simp [filling?, reach?, Option.filter]

theorem breaking?_whole (n : Nat) : (whole n).breaking? = some n := by
  have whole : (n : Rat).ceil = n := Rat.ceil_intCast n
  simp [breaking?, reach?, whole]

end PageSize

end Listing
