import Listing.Charset.Basic

/-!
Text in UTF-8. A character of several bytes announces their number in its first byte, which also
narrows the second one so that no character has two forms and none is a surrogate. Bytes are
refused at the first one that no character continues with; what has been taken of the character
before it is the part at fault. A byte order mark at the start is dropped.
-/

namespace Listing.Utf8

/-- A character that lacks bytes: the bits so far, how many bytes are owed, the bounds of the next
one, and where the character began with which bytes. -/
structure Pending where
  bits : Nat
  owed : Nat
  low : Nat
  high : Nat
  start : Nat
  taken : List UInt8

def opening (position : Nat) (byte : UInt8) : Option Pending :=
  let b := byte.toNat
  if b < 0xC2 then none
  else if b < 0xE0 then some ⟨b - 0xC0, 1, 0x80, 0xBF, position, [byte]⟩
  else if b < 0xF0 then
    some ⟨b - 0xE0, 2, if b = 0xE0 then 0xA0 else 0x80, if b = 0xED then 0x9F else 0xBF, position,
      [byte]⟩
  else if b < 0xF5 then
    some ⟨b - 0xF0, 3, if b = 0xF0 then 0x90 else 0x80, if b = 0xF4 then 0x8F else 0xBF, position,
      [byte]⟩
  else none

def refuse (position : Nat) (bytes : List UInt8) (reason : MalformedReason) :
    Except Malformed Text :=
  .error ⟨"utf-8", position, bytes, reason⟩

def decodeFrom (position : Nat) : Option Pending → List UInt8 → Except Malformed Text
  | none, [] => .ok []
  | some p, [] => refuse p.start p.taken .unexpectedEnd
  | none, byte :: rest =>
    if byte.toNat < 0x80 then
      (decodeFrom (position + 1) none rest).map (Char.ofNat byte.toNat :: ·)
    else
      match opening position byte with
      | none => refuse position [byte] .invalidStart
      | some p => decodeFrom (position + 1) (some p) rest
  | some p, byte :: rest =>
    if p.low ≤ byte.toNat ∧ byte.toNat ≤ p.high then
      let bits := 64 * p.bits + (byte.toNat - 0x80)
      if p.owed ≤ 1 then (decodeFrom (position + 1) none rest).map (Char.ofNat bits :: ·)
      else
        decodeFrom (position + 1) (some ⟨bits, p.owed - 1, 0x80, 0xBF, p.start, p.taken ++ [byte]⟩)
          rest
    else refuse p.start p.taken .invalidContinuation

def withoutMark : List UInt8 → List UInt8
  | 0xEF :: 0xBB :: 0xBF :: rest => rest
  | bytes => bytes

def decode (bytes : List UInt8) : Except Malformed Text := decodeFrom 0 none (withoutMark bytes)

end Listing.Utf8
