import Listing.Number.Rounding
import Listing.Text.Basic

/-!
Decimal text of rational numbers. `fixedPlaces` writes a number of decimal places, the last one
rounded with ties to even. `shortest` finds the fewest significant digits that a binary64 number
reads back from, and among those the digits nearest to it.
-/

namespace Listing

def decimalDigits (n : Nat) : Text := Nat.toDigits 10 n

def zeroPadded (width n : Nat) : Text :=
  List.replicate (width - (decimalDigits n).length) '0' ++ decimalDigits n

/-- A number with `places` digits after the point. A negative number keeps its sign even where
only zeros are left of it. -/
def fixedPlaces (places : Nat) (q : Rat) : Text :=
  let units := (roundHalfEven (q.abs * 10 ^ places)).toNat
  let digits := zeroPadded (places + 1) units
  let whole := digits.length - places
  (if q < 0 then ['-'] else []) ++ digits.take whole ++ '.' :: digits.drop whole

namespace Shortest

def magnitude (q : Rat) : Int :=
  if 1 ≤ q then (decimalDigits q.floor.toNat).length - 1
  else -(decimalDigits ((1 / q).ceil - 1).toNat).length

/-- Whether `x` reads back as the positive binary64 number `q`: it lies no further from `q` than
half the gap to the next number, and on the boundary the even number wins. -/
def readsBack (q x : Rat) : Bool :=
  let unit : Rat := 2 ^ lastBit q
  let below := if q = 2 ^ floorLog2 q ∧ -1074 < lastBit q then unit / 4 else unit / 2
  let above := unit / 2
  let even := (q / unit).floor % 2 = 0
  decide (q - below < x ∧ x < q + above) ||
    (decide even && (x == q - below || x == q + above))

/-- Of the two multiples of `10 ^ scale` around `q`, the one to write, if any reads back. -/
def atScale (q : Rat) (scale : Int) : Option (Nat × Int) :=
  let unit : Rat := 10 ^ scale
  let low := (q / unit).floor.toNat
  let high := low + 1
  let error (n : Nat) : Rat := ((n : Rat) * unit - q).abs
  let lowFits := readsBack q (low * unit)
  let highFits := readsBack q (high * unit)
  if lowFits && (!highFits || error low < error high ||
      (error low == error high && low % 2 == 0)) then some (low, scale)
  else if highFits then some (high, scale)
  else none

/-- Digits and scale with the fewest digits that read back as `q`; seventeen always do. -/
def digits (q : Rat) : Nat × Int :=
  let top := magnitude q
  ((List.range 17).findSome? fun (k : Nat) => atScale q (top - (k : Int))).getD
    ((q / 10 ^ (top - 16)).floor.toNat, top - 16)

end Shortest

structure PointRange where
  least : Int
  greatest : Int

def positional : PointRange := ⟨-3, 16⟩

def shortestText (q : Rat) : Text :=
  let (n, scale) := Shortest.digits q
  let written := decimalDigits n
  let point : Int := written.length + scale
  let digits := (written.reverse.dropWhile (· == '0')).reverse
  if positional.least ≤ point ∧ point ≤ positional.greatest then
    if point ≤ 0 then ['0', '.'] ++ List.replicate (-point).toNat '0' ++ digits
    else if digits.length ≤ point then
      digits ++ List.replicate (point - digits.length).toNat '0' ++ ['.', '0']
    else digits.take point.toNat ++ '.' :: digits.drop point.toNat
  else
    let exponent := point - 1
    let fraction := if digits.length ≤ 1 then [] else '.' :: digits.drop 1
    digits.take 1 ++ fraction ++ 'e' :: (if exponent < 0 then '-' else '+') ::
      zeroPadded 2 exponent.natAbs

end Listing
