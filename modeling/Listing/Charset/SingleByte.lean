import Listing.Charset.Basic

/-!
Encodings in which every byte is a character: ASCII, Latin-1 and the Windows code page for
Cyrillic. ASCII refuses the upper half of the bytes, the Cyrillic page one byte of it.
-/

namespace Listing.SingleByte

/-- The code points of the bytes 0x80 to 0xBF in the Cyrillic page; zero stands for none. -/
def cyrillicSigns : List Nat :=
  [0x0402, 0x0403, 0x201A, 0x0453, 0x201E, 0x2026, 0x2020, 0x2021, 0x20AC, 0x2030, 0x0409,
    0x2039, 0x040A, 0x040C, 0x040B, 0x040F, 0x0452, 0x2018, 0x2019, 0x201C, 0x201D, 0x2022,
    0x2013, 0x2014, 0x0000, 0x2122, 0x0459, 0x203A, 0x045A, 0x045C, 0x045B, 0x045F, 0x00A0,
    0x040E, 0x045E, 0x0408, 0x00A4, 0x0490, 0x00A6, 0x00A7, 0x0401, 0x00A9, 0x0404, 0x00AB,
    0x00AC, 0x00AD, 0x00AE, 0x0407, 0x00B0, 0x00B1, 0x0406, 0x0456, 0x0491, 0x00B5, 0x00B6,
    0x00B7, 0x0451, 0x2116, 0x0454, 0x00BB, 0x0458, 0x0405, 0x0455, 0x0457]

def cyrillic? (byte : UInt8) : Option Nat :=
  let b := byte.toNat
  if b < 0x80 then some b
  else if 0xC0 ≤ b then some (b - 0xC0 + 0x410)
  else
    match cyrillicSigns[b - 0x80]? with
    | some 0 | none => none
    | some point => some point

def ascii? (byte : UInt8) : Option Nat := if byte.toNat < 0x80 then some byte.toNat else none

def decodeFrom (encoding : String) (reason : MalformedReason) (point : UInt8 → Option Nat)
    (position : Nat) : List UInt8 → Except Malformed Text
  | [] => .ok []
  | byte :: rest =>
    match point byte with
    | some n => (decodeFrom encoding reason point (position + 1) rest).map (Char.ofNat n :: ·)
    | none => .error ⟨encoding, position, [byte], reason⟩

def decodeAscii (bytes : List UInt8) : Except Malformed Text :=
  decodeFrom "ascii" .notAscii ascii? 0 bytes

def decodeCyrillic (bytes : List UInt8) : Except Malformed Text :=
  decodeFrom "charmap" .undefined cyrillic? 0 bytes

def decodeLatin (bytes : List UInt8) : Text := bytes.map fun byte => Char.ofNat byte.toNat

theorem cyrillic?_eq_none : ∀ b < 256, cyrillic? (UInt8.ofNat b) = none ↔ b = 0x98 := by
  decide +kernel

end Listing.SingleByte
