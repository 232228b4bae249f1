import Listing.Text.Basic
import Listing.Text.Printable

/-!
Texts in quotes, as messages show them. The quote is a single one, unless the text holds a single
quote and no double one. The quote in use and the backslash are escaped, line feed, carriage
return and tab have their short escapes, and any other unprintable character is written by its
code point in two, four or eight hexadecimal digits.
-/

namespace Listing

def hexDigits : (width n : Nat) → Text
  | 0, _ => []
  | width + 1, n => hexDigits width (n / 16) ++ [Nat.digitChar (n % 16)]

def escapeChar (quote c : Char) : Text :=
  if c = quote || c = '\\' then ['\\', c]
  else if c = '\n' then ['\\', 'n']
  else if c = '\r' then ['\\', 'r']
  else if c = '\t' then ['\\', 't']
  else if isPrintable c then [c]
  else if c.toNat < 0x100 then '\\' :: 'x' :: hexDigits 2 c.toNat
  else if c.toNat < 0x10000 then '\\' :: 'u' :: hexDigits 4 c.toNat
  else '\\' :: 'U' :: hexDigits 8 c.toNat

namespace Text

def quoteMark (t : Text) : Char :=
  if t.contains '\'' && !t.contains '"' then '"' else '\''

def quoted (t : Text) : Text :=
  quoteMark t :: (t.flatMap (escapeChar (quoteMark t)) ++ [quoteMark t])

end Text

end Listing
