import Listing.Text.Quoted

/-!
Bytes that write no text: the encoding that finds them at fault, where they are, and why.
-/

namespace Listing

inductive MalformedReason where
  | invalidStart
  | invalidContinuation
  | unexpectedEnd
  | truncated
  | unpairedSurrogate
  | surrogateFirst
  | notAscii
  | undefined
  deriving DecidableEq, Repr

def MalformedReason.text : MalformedReason → String
  | .invalidStart => "invalid start byte"
  | .invalidContinuation => "invalid continuation byte"
  | .unexpectedEnd => "unexpected end of data"
  | .truncated => "truncated data"
  | .unpairedSurrogate => "illegal UTF-16 surrogate"
  | .surrogateFirst => "illegal encoding"
  | .notAscii => "ordinal not in range(128)"
  | .undefined => "character maps to <undefined>"

/-- The first bytes that an encoding refuses, and the place of the first of them. -/
structure Malformed where
  encoding : String
  position : Nat
  bytes : List UInt8
  reason : MalformedReason
  deriving DecidableEq, Repr

def Malformed.message (m : Malformed) : String :=
  let place := match m.bytes with
    | [byte] =>
      "byte 0x" ++ String.ofList (hexDigits 2 byte.toNat) ++ " in position " ++ toString m.position
    | bytes =>
      "bytes in position " ++ toString m.position ++ "-" ++
        toString (m.position + bytes.length - 1)
  "'" ++ m.encoding ++ "' codec can't decode " ++ place ++ ": " ++ m.reason.text

end Listing
