import Listing.Number.Basic
import Listing.Text.Integer

/-!
Values of settings and reports. A settings record may hold any value under any key, so reading one
starts from here: what a value is called, whether it counts as set, which integer it stands for,
and when two values are the same. Numbers are compared by value, whatever they are written as, and
the two truth values count as one and zero. An operation that needs a value of one kind complains
about every other by the name of its type.
-/

namespace Listing

inductive Value where
  | null
  | bool (b : Bool)
  | int (n : Int)
  | float (x : Number)
  | text (t : Text)
  | list (items : List Value)
  | object (entries : List (Text × Value))
  deriving Repr, Inhabited

inductive TypeFault where
  | lacksOperation (type operation : String)
  | notSearchable (type : String)
  | notIterable (type : String)
  | notCharacter (type : String)
  | notOneCharacter (length : Nat)
  | notPath (type : String)
  | notKey (type : String)
  | notComparable (relation type other : String)
  | notOperands (operator type other : String)
  | notJoinable (type other : String)
  | notInteger (type : String)
  | notPosition (type : String)
  | notDrawable
  deriving DecidableEq, Repr

def TypeFault.message : TypeFault → String
  | .lacksOperation type operation =>
    "'" ++ type ++ "' object has no attribute '" ++ operation ++ "'"
  | .notSearchable type => "expected string or bytes-like object, got '" ++ type ++ "'"
  | .notIterable type => "'" ++ type ++ "' object is not iterable"
  | .notCharacter type => "ord() expected string of length 1, but " ++ type ++ " found"
  | .notOneCharacter length =>
    "ord() expected a character, but string of length " ++ toString length ++ " found"
  | .notPath type => "expected str, bytes or os.PathLike object, not " ++ type
  | .notKey type => "unhashable type: '" ++ type ++ "'"
  | .notComparable relation type other =>
    "'" ++ relation ++ "' not supported between instances of '" ++ type ++ "' and '" ++ other ++ "'"
  | .notOperands operator type other =>
    "unsupported operand type(s) for " ++ operator ++ ": '" ++ type ++ "' and '" ++ other ++ "'"
  | .notJoinable type other =>
    "can only concatenate " ++ type ++ " (not \"" ++ other ++ "\") to " ++ type
  | .notInteger type => "'" ++ type ++ "' object cannot be interpreted as an integer"
  | .notPosition type => "tuple indices must be integers or slices, not " ++ type
  | .notDrawable => "bad type: 'text'"

inductive ConversionFault where
  | unreadable (fault : IntegerFault)
  | notNumeric (type : String)
  | infinite
  | notANumber
  deriving DecidableEq, Repr

def ConversionFault.message : ConversionFault → String
  | .unreadable fault => fault.message
  | .notNumeric type =>
    "int() argument must be a string, a bytes-like object or a real number, not '" ++ type ++ "'"
  | .infinite => "cannot convert float infinity to integer"
  | .notANumber => "cannot convert float NaN to integer"

def truncate (q : Rat) : Int := if q < 0 then q.ceil else q.floor

namespace Value

def ofString (s : String) : Value := .text s.toList

def record (entries : List (String × Value)) : Value :=
  .object (entries.map fun (key, value) => (key.toList, value))

def get? : Value → String → Option Value
  | .object entries, key => entries.lookup key.toList
  | _, _ => none

def typeName : Value → String
  | .null => "NoneType"
  | .bool _ => "bool"
  | .int _ => "int"
  | .float _ => "float"
  | .text _ => "str"
  | .list _ => "list"
  | .object _ => "dict"

/-- Whether a value counts as set: neither null, nor false, nor zero, nor empty. -/
def isSet : Value → Bool
  | .null => false
  | .bool b => b
  | .int n => n != 0
  | .float x => !x.isZero
  | .text t => !t.isEmpty
  | .list items => !items.isEmpty
  | .object entries => !entries.isEmpty

def textFor (operation : String) : Value → Except TypeFault Text
  | .text t => .ok t
  | value => .error (.lacksOperation value.typeName operation)

def searched : Value → Except TypeFault Text
  | .text t => .ok t
  | value => .error (.notSearchable value.typeName)

/-- The items of a value, one after another: those of a list, the characters of a text, the keys of
a record. -/
def items : Value → Except TypeFault (List Value)
  | .list items => .ok items
  | .text t => .ok (t.map fun c => .text [c])
  | .object entries => .ok (entries.map fun entry => .text entry.1)
  | value => .error (.notIterable value.typeName)

def textsFor (operation : String) (value : Value) : Except TypeFault (List Text) := do
  (← value.items).mapM (textFor operation)

def character : Value → Except TypeFault Char
  | .text [c] => .ok c
  | .text t => .error (.notOneCharacter t.length)
  | value => .error (.notCharacter value.typeName)

mutual

def shown : Value → Text
  | .null => "None".toList
  | .bool b => (if b then "True" else "False").toList
  | .int n => (toString n).toList
  | .float x => x.text
  | .text t => t.quoted
  | .list items => '[' :: (shownItems items ++ [']'])
  | .object entries => '{' :: (shownEntries entries ++ ['}'])

def shownItems : List Value → Text
  | [] => []
  | [item] => shown item
  | item :: rest => shown item ++ ',' :: ' ' :: shownItems rest

def shownEntries : List (Text × Value) → Text
  | [] => []
  | [(key, value)] => key.quoted ++ ':' :: ' ' :: shown value
  | (key, value) :: rest =>
    key.quoted ++ ':' :: ' ' :: (shown value ++ ',' :: ' ' :: shownEntries rest)

end

/-- The text of a value by itself: a text stands for itself, without quotes. -/
def asText : Value → Text
  | .text t => t
  | value => value.shown

def toInteger : Value → Except ConversionFault Int
  | .bool b => .ok (if b then 1 else 0)
  | .int n => .ok n
  | .float (.finite q) => .ok (truncate q)
  | .float .minusZero => .ok 0
  | .float (.infinite _) => .error .infinite
  | .float .notANumber => .error .notANumber
  | .text t => (t.readInteger).mapError .unreadable
  | value => .error (.notNumeric value.typeName)

def number? : Value → Option Number
  | .bool b => some (.finite (if b then 1 else 0))
  | .int n => some (.finite n)
  | .float x => some x
  | _ => none

mutual

/-- Sameness of values. Records are the same when they have the same keys with the same values, in
any order. -/
def same : Value → Value → Bool
  | .null, other => match other with | .null => true | _ => false
  | .bool b, other => (other.number?).any (Number.same (.finite (if b then 1 else 0)))
  | .int n, other => (other.number?).any (Number.same (.finite n))
  | .float x, other => (other.number?).any (Number.same x)
  | .text s, other => match other with | .text t => s == t | _ => false
  | .list items, other => match other with | .list others => sameItems items others | _ => false
  | .object entries, other => match other with
    | .object others => entries.length == others.length && sameEntries entries others
    | _ => false

def sameItems : List Value → List Value → Bool
  | [], [] => true
  | item :: rest, other :: others => same item other && sameItems rest others
  | _, _ => false

def sameEntries : List (Text × Value) → List (Text × Value) → Bool
  | [], _ => true
  | (key, value) :: rest, others =>
    (match others.lookup key with | some other => same value other | none => false) &&
      sameEntries rest others

end

end Value

end Listing
