import Listing.Number.Basic

/-!
Arithmetic on binary64 numbers. Every operation gives the number nearest to the exact result. A
product or quotient has the sign that the signs of its operands make, down to a zero; a sum that
vanishes is negative only if both operands are negative zeros. What has no result, such as the
difference of two infinities, is no number.
-/

namespace Listing.Number

def zero (negative : Bool) : Number := if negative then .minusZero else .finite 0

def negate : Number → Number
  | .finite q => if q = 0 then .minusZero else .finite (-q)
  | .minusZero => .finite 0
  | .infinite negative => .infinite !negative
  | .notANumber => .notANumber

def add : Number → Number → Number
  | .notANumber, _ | _, .notANumber => .notANumber
  | .infinite m, .infinite n => if m = n then .infinite m else .notANumber
  | .infinite m, _ => .infinite m
  | _, .infinite n => .infinite n
  | .minusZero, .minusZero => .minusZero
  | .finite p, .finite q => ofRat (decide (p + q < 0)) (p + q)
  | .finite p, .minusZero => .finite p
  | .minusZero, .finite q => .finite q

def subtract (x y : Number) : Number := x.add y.negate

def multiply (x y : Number) : Number :=
  let negative := x.isNegative != y.isNegative
  match x.value?, y.value? with
  | some p, some q => if p * q = 0 then zero negative else ofRat negative (p * q)
  | _, _ =>
    if x = .notANumber ∨ y = .notANumber ∨ x.isZero ∨ y.isZero then .notANumber
    else .infinite negative

def divide (x y : Number) : Number :=
  let negative := x.isNegative != y.isNegative
  match x.value?, y.value? with
  | some p, some q =>
    if q = 0 then if p = 0 then .notANumber else .infinite negative
    else if p = 0 then zero negative
    else ofRat negative (p / q)
  | some _, none => if y = .notANumber then .notANumber else zero negative
  | none, some _ => if x = .notANumber then .notANumber else .infinite negative
  | none, none => .notANumber

end Listing.Number
