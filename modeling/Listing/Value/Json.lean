import Listing.Value.Basic

/-!
Values written as JSON over several lines: two spaces more for each level, one item on a line,
empty lists and records on the line of their key. The text is ASCII: other characters are escaped
by their UTF-16 units, those above the basic plane as a surrogate pair.
-/

namespace Listing

def unitEscape (unit : Nat) : Text := '\\' :: 'u' :: hexDigits 4 unit

def jsonChar (c : Char) : Text :=
  if c = '"' || c = '\\' then ['\\', c]
  else if c = '\n' then ['\\', 'n']
  else if c = '\r' then ['\\', 'r']
  else if c = '\t' then ['\\', 't']
  else if c = Char.ofNat 8 then ['\\', 'b']
  else if c = Char.ofNat 12 then ['\\', 'f']
  else if 32 ≤ c.toNat && c.toNat < 127 then [c]
  else if c.toNat < 0x10000 then unitEscape c.toNat
  else
    let above := c.toNat - 0x10000
    unitEscape (0xD800 + above / 0x400) ++ unitEscape (0xDC00 + above % 0x400)

def jsonString (t : Text) : Text := '"' :: (t.flatMap jsonChar ++ ['"'])

def jsonNumber : Number → Text
  | .infinite negative => (if negative then "-Infinity" else "Infinity").toList
  | .notANumber => "NaN".toList
  | x => x.text

def newLine (level : Nat) : Text := '\n' :: List.replicate (2 * level) ' '

namespace Value

mutual

def json (level : Nat) : Value → Text
  | .null => "null".toList
  | .bool b => (if b then "true" else "false").toList
  | .int n => (toString n).toList
  | .float x => jsonNumber x
  | .text t => jsonString t
  | .list [] => ['[', ']']
  | .list (item :: rest) =>
    '[' :: (newLine (level + 1) ++ json (level + 1) item ++ jsonItems (level + 1) rest ++
      newLine level ++ [']'])
  | .object [] => ['{', '}']
  | .object ((key, value) :: rest) =>
    '{' :: (newLine (level + 1) ++ jsonString key ++ ':' :: ' ' :: json (level + 1) value ++
      jsonEntries (level + 1) rest ++ newLine level ++ ['}'])

def jsonItems (level : Nat) : List Value → Text
  | [] => []
  | item :: rest => ',' :: (newLine level ++ json level item ++ jsonItems level rest)

def jsonEntries (level : Nat) : List (Text × Value) → Text
  | [] => []
  | (key, value) :: rest =>
    ',' :: (newLine level ++ jsonString key ++ ':' :: ' ' :: json level value ++
      jsonEntries level rest)

end

end Value

end Listing
