import Listing.Number.Arithmetic
import Listing.Value.Basic

/-!
Arithmetic and comparison of values. Truth values count as the integers one and zero. Integers have
any size and stay exact; as soon as one operand is a binary64 number the other becomes one too, if
it is not beyond their range. Comparisons are exact between all kinds of numbers. Values of other
kinds are refused, in the words that fit the operation.
-/

namespace Listing

/-- Why an operation on values has no result: a value of a wrong kind, or an integer beyond the
range of binary64 numbers. -/
inductive OperandFault where
  | wrongKind (fault : TypeFault)
  | tooLarge
  deriving DecidableEq, Repr

def OperandFault.message : OperandFault → String
  | .wrongKind fault => fault.message
  | .tooLarge => "int too large to convert to float"

namespace Number

def ofInt (n : Int) : Except OperandFault Number :=
  if overflows64 n then .error .tooLarge else .ok (ofRat false n)

def ceiling : Number → Except ConversionFault Int
  | .finite q => .ok q.ceil
  | .minusZero => .ok 0
  | .infinite _ => .error .infinite
  | .notANumber => .error .notANumber

end Number

namespace Value

def integer? : Value → Option Int
  | .bool b => some (if b then 1 else 0)
  | .int n => some n
  | _ => none

def index (value : Value) : Except TypeFault Int :=
  match value.integer? with
  | some n => .ok n
  | none => .error (.notInteger value.typeName)

def comparedBy (relation : String) (value : Value) : Except TypeFault Number :=
  match value.number? with
  | some x => .ok x
  | none => .error (.notComparable relation value.typeName "int")

def operand? : Value → Option (Except OperandFault Number)
  | .float x => some (.ok x)
  | value => value.integer?.map Number.ofInt

def plus (value : Value) (n : Nat) : Except TypeFault Value :=
  match value with
  | .bool b => .ok (.int ((if b then 1 else 0) + (n : Int)))
  | .int m => .ok (.int (m + (n : Int)))
  | .float x => .ok (.float (x.add (.ofRat false (n : Rat))))
  | .text _ | .list _ => .error (.notJoinable value.typeName "int")
  | .null | .object _ => .error (.notOperands "+" value.typeName "int")

def minus (a b : Value) : Except OperandFault Value :=
  match a.integer?, b.integer? with
  | some m, some n => .ok (.int (m - n))
  | _, _ =>
    match a.operand?, b.operand? with
    | some x, some y => do .ok (.float ((← x).subtract (← y)))
    | _, _ => .error (.wrongKind (.notOperands "-" a.typeName b.typeName))

def equalsNumber (a b : Value) : Bool :=
  match a.number?, b.number? with
  | some x, some y => x.equals y
  | _, _ => false

def isBelow (value : Value) (n : Int) : Bool :=
  value.number?.any fun x => x.less (.finite (n : Rat))

end Value

end Listing
