import Listing.Text.Basic

/-!
Lower case as far as ASCII names can tell. Two code points outside ASCII have a lower-case form
with ASCII in it: the Kelvin sign becomes `k`, and the dotted capital I becomes two characters,
which no ASCII name equals. So a folded text equals an ASCII name exactly when the full lower-case
form of the text does.
-/

namespace Listing

def foldChar (c : Char) : Char :=
  if c = Char.ofNat 0x212A then 'k' else c.toLower

namespace Text

def fold (t : Text) : Text := t.map foldChar

end Text

end Listing
