import Listing.Charset.Basic

/-!
Text in UTF-16, in either byte order. A character outside the basic plane takes two units, a high
surrogate and a low one; a surrogate that is not part of such a pair is refused.
-/

namespace Listing.Utf16

inductive ByteOrder where
  | little
  | big
  deriving DecidableEq, Repr

namespace ByteOrder

def encoding : ByteOrder → String
  | .little => "utf-16-le"
  | .big => "utf-16-be"

def unit (order : ByteOrder) (first second : UInt8) : Nat :=
  match order with
  | .little => first.toNat + 256 * second.toNat
  | .big => 256 * first.toNat + second.toNat

end ByteOrder

def isHigh (unit : Nat) : Bool := 0xD800 ≤ unit && unit < 0xDC00

def isLow (unit : Nat) : Bool := 0xDC00 ≤ unit && unit < 0xE000

def pair (high low : Nat) : Char :=
  Char.ofNat (0x10000 + 0x400 * (high - 0xD800) + (low - 0xDC00))

def decodeFrom (order : ByteOrder) (position : Nat) : List UInt8 → Except Malformed Text
  | [] => .ok []
  | [byte] => .error ⟨order.encoding, position, [byte], .truncated⟩
  | a :: b :: rest =>
    let unit := order.unit a b
    if isHigh unit then
      match rest with
      | c :: d :: tail =>
        if isLow (order.unit c d) then
          (decodeFrom order (position + 4) tail).map (pair unit (order.unit c d) :: ·)
        else .error ⟨order.encoding, position, [a, b], .unpairedSurrogate⟩
      | short => .error ⟨order.encoding, position, a :: b :: short, .unexpectedEnd⟩
    else if isLow unit then .error ⟨order.encoding, position, [a, b], .surrogateFirst⟩
    else (decodeFrom order (position + 2) rest).map (Char.ofNat unit :: ·)

/-- The text of bytes whose order a mark at the start tells; without a mark the order is little,
and the mark is no part of the text. -/
def decode : List UInt8 → Except Malformed Text
  | 0xFF :: 0xFE :: rest => decodeFrom .little 2 rest
  | 0xFE :: 0xFF :: rest => decodeFrom .big 2 rest
  | bytes => decodeFrom .little 0 bytes

end Listing.Utf16
