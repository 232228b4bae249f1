/-!
Rounding a rational number: to an integer, and to the 53 significant bits of a binary64 number.
Both go to the nearest candidate, and a tie goes to the even one. Arithmetic on binary64 numbers
is exact arithmetic followed by `nearest64`, so one function describes every operation.
-/

namespace Listing

def roundHalfEven (q : Rat) : Int :=
  let below := q.floor
  let rest := q - below
  if 1 < 2 * rest ∨ (2 * rest = 1 ∧ below % 2 = 1) then below + 1 else below

theorem roundHalfEven_bounds (q : Rat) :
    q.floor ≤ roundHalfEven q ∧ roundHalfEven q ≤ q.floor + 1 := by
  unfold roundHalfEven
  simp only
  split <;> omega

/-- The binary order of magnitude: `2 ^ floorLog2 q ≤ q < 2 ^ (floorLog2 q + 1)` for a positive
`q`. The lengths of numerator and denominator leave two candidates, which one comparison
decides. -/
def floorLog2 (q : Rat) : Int :=
  let estimate : Int := (q.num.natAbs.log2 : Int) - (q.den.log2 : Int)
  if q < 2 ^ estimate then estimate - 1 else estimate

def lastBit (q : Rat) : Int := max (floorLog2 q.abs - 52) (-1074)

/-- The binary64 number nearest to `q`, for any size of exponent above the subnormal ones. -/
def nearest64 (q : Rat) : Rat :=
  (roundHalfEven (q / 2 ^ lastBit q) : Rat) * 2 ^ lastBit q

def range64 : Rat := 2 ^ (1024 : Int)

def overflows64 (q : Rat) : Bool := !decide ((nearest64 q).abs < range64)

end Listing
