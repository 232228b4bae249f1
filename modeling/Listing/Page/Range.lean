import Listing.Value.Arithmetic

/-!
Page ranges such as `1,3,5-7`. Tokens stand between commas; each is a page number or two numbers
with a hyphen between, digits of any script, with blanks around the numbers at will. The pages
come out increasing and without repeats, however the tokens order or repeat them. The leftmost
token that is no range, or lies outside the document, is reported. The total of the document may be
a value of any kind; it is only compared with, and only by numbers that could be page numbers.
-/

namespace Listing

inductive RangeFault where
  | emptyToken
  | unreadable
  | outOfBounds (total : Text)
  | reversed
  | rangeRequired
  deriving DecidableEq, Repr

def RangeFault.reason : RangeFault → String
  | .emptyToken => "empty page token"
  | .unreadable => "expected a page number or a range like 3-7"
  | .outOfBounds total => "page must be between 1 and " ++ String.ofList total
  | .reversed => "range start is greater than range end"
  | .rangeRequired => "custom page mode requires a page range"

/-- Why a page range is refused: a token is at fault, a number has too many digits to read, or the
total of the document is no number. -/
inductive RangeError where
  | token (token : Text) (fault : RangeFault)
  | number (fault : IntegerFault)
  | total (fault : TypeFault)
  deriving DecidableEq, Repr

inductive RangeToken where
  | single (digits : Text)
  | range (first last : Text)
  deriving DecidableEq, Repr

/-- A number inside a token: digits, with blanks around them at will. -/
def numeral? (t : Text) : Option Text :=
  if t.trim ≠ [] ∧ t.trim.all isDigit then some t.trim else none

def RangeToken.ofText? (t : Text) : Option RangeToken :=
  match t.splitOn '-' with
  | [one] => (numeral? one).map .single
  | [first, last] => do
    let first ← numeral? first
    let last ← numeral? last
    some (.range first last)
  | _ => none

def pageNumber (digits : Text) : Except RangeError Int :=
  if digitLimit < digits.length then .error (.number (.tooLong digits.length))
  else .ok (digitsValue digits)

def checkPage (token : Text) (total : Value) (number : Int) : Except RangeError Unit :=
  if number < 1 then .error (.token token (.outOfBounds total.asText))
  else
    match total.number? with
    | none => .error (.total (.notComparable ">" "int" total.typeName))
    | some bound =>
      if bound.less (.finite number) then .error (.token token (.outOfBounds total.asText))
      else .ok ()

theorem checkPage_int (token : Text) (total number : Int) :
    checkPage token (.int total) number =
      if number < 1 ∨ total < number then
        .error (.token token (.outOfBounds (toString total).toList))
      else .ok () := by
  by_cases low : number < 1
  · simp [checkPage, low, Value.asText, Value.shown]
  · simp [checkPage, low, Value.number?, Number.less_int, Value.asText, Value.shown]

def tokenPages (total : Value) (raw : Text) : Except RangeError (Int × Int) :=
  let token := raw.trim
  if token = [] then .error (.token raw .emptyToken)
  else
    match RangeToken.ofText? token with
    | none => .error (.token token .unreadable)
    | some (.single digits) => do
      let number ← pageNumber digits
      checkPage token total number
      .ok (number, number)
    | some (.range first last) => do
      let first ← pageNumber first
      let last ← pageNumber last
      checkPage token total first
      checkPage token total last
      if last < first then .error (.token token .reversed) else .ok (first, last)

def integersBetween (first last : Int) : List Int :=
  (List.range (last + 1 - first).toNat).map fun (k : Nat) => first + (k : Int)

def sortedPages (pages : List Int) : List Int :=
  (pages.mergeSort fun a b => decide (a ≤ b)).eraseReps

def pagesOfRange (range : Text) (total : Value) : Except RangeError (List Int) := do
  let runs ← (range.splitOn ',').mapM (tokenPages total)
  .ok (sortedPages (runs.flatMap fun run => integersBetween run.1 run.2))

/-- A list cut into runs, as first and last; within a run each item follows the one before. -/
def runsBy {α : Type} (follows : α → α → Bool) : List α → List (α × α)
  | [] => []
  | item :: rest =>
    match runsBy follows rest with
    | (first, last) :: runs =>
      if follows item first then (item, last) :: runs else (item, item) :: (first, last) :: runs
    | [] => [(item, item)]

def contiguousRuns (pages : List Int) : List (Int × Int) :=
  runsBy (fun page next => next == page + 1) pages

def Value.isAfter (page next : Value) : Bool :=
  match page.plus 1 with
  | .ok more => next.equalsNumber more
  | .error _ => false

/-- The runs of pages that are values of any kind. Every page but the last must have a next one. -/
def runsOfValues (pages : List Value) : Except TypeFault (List (Value × Value)) := do
  let _ ← pages.dropLast.mapM fun page => page.plus 1
  .ok (runsBy Value.isAfter pages)

theorem mem_integersBetween (first last k : Int) :
    k ∈ integersBetween first last ↔ first ≤ k ∧ k ≤ last := by
  simp only [integersBetween, List.mem_map, List.mem_range]
  constructor
  · rintro ⟨offset, inside, rfl⟩
    omega
  · intro between
    exact ⟨(k - first).toNat, by omega, by omega⟩

end Listing
