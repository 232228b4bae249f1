import Listing.Number.Decimal

/-!
Binary64 numbers: the finite ones by their value, a zero that is negative, the two infinities, and
the mark of what is no number. Each is written with the fewest digits that read back, or with a
fixed number of places.
-/

namespace Listing

/-- A binary64 number: finite, the negative zero, an infinity, or the mark of what is no number. -/
inductive Number where
  | finite (q : Rat)
  | minusZero
  | infinite (negative : Bool)
  | notANumber
  deriving DecidableEq, Repr

namespace Number

/-- The binary64 number nearest to `q`; a zero keeps the sign it is written with. -/
def ofRat (negative : Bool) (q : Rat) : Number :=
  if overflows64 q then .infinite negative
  else if nearest64 q = 0 && negative then .minusZero
  else .finite (nearest64 q)

def unusual : Number → Option Text
  | .infinite negative => some (if negative then "-inf" else "inf").toList
  | .notANumber => some "nan".toList
  | _ => none

def text : Number → Text
  | .finite q =>
    if q = 0 then ['0', '.', '0']
    else if q < 0 then '-' :: shortestText (-q)
    else shortestText q
  | .minusZero => ['-', '0', '.', '0']
  | x => x.unusual.getD []

def fixedText (places : Nat) : Number → Text
  | .finite q => fixedPlaces places q
  | .minusZero => '-' :: fixedPlaces places 0
  | x => x.unusual.getD []

def isZero : Number → Bool
  | .finite q => q == 0
  | .minusZero => true
  | .infinite _ | .notANumber => false

def value? : Number → Option Rat
  | .finite q => some q
  | .minusZero => some 0
  | .infinite _ | .notANumber => none

def isNegative : Number → Bool
  | .finite q => decide (q < 0)
  | .minusZero => true
  | .infinite negative => negative
  | .notANumber => false

def equals : Number → Number → Bool
  | .infinite m, .infinite n => m == n
  | x, y =>
    match x.value?, y.value? with
    | some p, some q => p == q
    | _, _ => false

/-- Sameness is equality by value, but what is no number is the same as itself. -/
def same (x y : Number) : Bool := x == .notANumber && y == .notANumber || x.equals y

def less : Number → Number → Bool
  | .infinite m, .infinite n => m && !n
  | .infinite negative, y => negative && y != .notANumber
  | x, .infinite negative => !negative && x != .notANumber
  | x, y =>
    match x.value?, y.value? with
    | some p, some q => decide (p < q)
    | _, _ => false

theorem less_int (m n : Int) : (finite m).less (finite n) = decide (m < n) :=
  decide_eq_decide.2 Rat.intCast_lt_intCast

end Number

end Listing
