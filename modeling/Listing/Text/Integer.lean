import Listing.Text.Digit
import Listing.Text.Quoted

/-!
Reading an integer: an optional sign and decimal digits of any script, with single underscores
between digits and blanks around the whole. A numeral of more than 4300 digits is refused by its
length, leading zeros counted and underscores not; the length is judged before what follows the
digits, but after the placing of the underscores.
-/

namespace Listing

def digitLimit : Nat := 4300

inductive IntegerFault where
  | malformed (text : Text)
  | tooLong (digits : Nat)
  deriving DecidableEq, Repr

/-- A malformed text is shown in quotes, cut after 200 characters. -/
def IntegerFault.message : IntegerFault → String
  | .malformed text =>
    "invalid literal for int() with base 10: " ++ String.ofList (text.quoted.take 200)
  | .tooLong digits =>
    "Exceeds the limit (" ++ toString digitLimit ++
      " digits) for integer string conversion: value has " ++ toString digits ++
      " digits; use sys.set_int_max_str_digits() to increase the limit"

/-- The blanks that may stand around a numeral: the whitespace other than the four separator
controls of ASCII. -/
def isNumeralSpace (c : Char) : Bool :=
  isSpace c && !(28 ≤ c.toNat && c.toNat ≤ 31)

def isNumeralChar (c : Char) : Bool := c == '_' || isDigit c

def underscoresSeparate : Text → Bool
  | [] => true
  | ['_'] => false
  | '_' :: '_' :: _ => false
  | _ :: rest => underscoresSeparate rest

namespace Text

def readDigits (whole t : Text) : Except IntegerFault Nat :=
  let run := t.takeWhile isNumeralChar
  let digits := run.filter isDigit
  if run.head? = some '_' || !underscoresSeparate run then .error (.malformed whole)
  else if digitLimit < digits.length then .error (.tooLong digits.length)
  else if digits.isEmpty || !(t.dropWhile isNumeralChar).all isNumeralSpace then
    .error (.malformed whole)
  else .ok (digitsValue digits)

def readInteger (t : Text) : Except IntegerFault Int :=
  match t.dropWhile isNumeralSpace with
  | '-' :: rest => (readDigits t rest).map fun n => -(n : Int)
  | '+' :: rest => (readDigits t rest).map fun n => (n : Int)
  | rest => (readDigits t rest).map fun n => (n : Int)

end Text

end Listing
