import Listing.Number.Arithmetic

/-!
Numbers to measure with. The same measures can be taken exactly, in rational numbers, and as they
are drawn, in binary64 numbers that round each step and keep infinities apart.
-/

namespace Listing

class Scalar (α : Type) extends Add α, Mul α, Div α where
  /-- The number for a rational one. -/
  ofRat : Rat → α
  less : α → α → Bool

instance : Scalar Rat where
  add p q := p + q
  mul p q := p * q
  div p q := p / q
  ofRat q := q
  less p q := decide (p < q)

instance : Scalar Number where
  add := Number.add
  mul := Number.multiply
  div := Number.divide
  ofRat q := .ofRat (decide (q < 0)) q
  less := Number.less

variable {α : Type} [Scalar α]

/-- The smaller of two numbers; the first, if neither is. -/
def smaller (a b : α) : α := if Scalar.less b a then b else a

def larger (a b : α) : α := if Scalar.less a b then b else a

theorem smaller_le_right (a b : Rat) : smaller a b ≤ b := by
  unfold smaller
  simp only [Scalar.less, decide_eq_true_eq]
  split <;> grind

end Listing
