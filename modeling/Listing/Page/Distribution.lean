import Listing.Page.Size

/-!
Cutting a stream of lines into pages of a fixed number of lines. Blank lines take no place on a
page. They lie in the index range of the page they fall in, and the ranges follow each other
without gaps, because a page ends only where the next line with content arrives. Pages of a size
that no count of lines fills take in the whole stream.
-/

namespace Listing

/-- One page: its number from one on, the index range of its lines in the stream, the end left
out, and the lines with content in it. -/
structure Page where
  number : Nat
  start : Nat
  stop : Nat
  lines : List Text
  deriving DecidableEq, Repr

structure Distribution where
  pages : List Page
  deriving DecidableEq, Repr

structure NoSuchPage where
  number : Int
  total : Nat
  deriving DecidableEq, Repr

def outsideMessage (number : Text) (total : Nat) : String :=
  "Page " ++ String.ofList number ++ " outside 1.." ++ toString total

def NoSuchPage.message (e : NoSuchPage) : String :=
  outsideMessage (toString e.number).toList e.total

/-- The pages of the lines from `index` on, while page `number`, which begins at `start`, is open
and holds `filled`. -/
def pagesFrom (size number start index : Nat) (filled : List Text) : List Text → List Page
  | [] => if filled = [] then [] else [⟨number, start, index, filled⟩]
  | line :: rest =>
    if line.isBlank then pagesFrom size number start (index + 1) filled rest
    else if filled.length = size then
      ⟨number, start, index, filled⟩ :: pagesFrom size (number + 1) index (index + 1) [line] rest
    else pagesFrom size number start (index + 1) (filled ++ [line]) rest

def distribute (lines : List Text) (size : Nat) : Distribution :=
  ⟨pagesFrom size 1 0 0 [] lines⟩

def distributeBy (lines : List Text) (size : PageSize) : Distribution :=
  distribute lines (size.filling?.getD (lines.length + 1))

theorem distributeBy_whole (lines : List Text) (n : Nat) :
    distributeBy lines (.whole n) = distribute lines n := by
  simp [distributeBy, PageSize.filling?_whole]

namespace Distribution

def total (d : Distribution) : Nat := d.pages.length

def page (d : Distribution) (number : Int) : Except NoSuchPage Page :=
  if number < 1 then .error ⟨number, d.total⟩
  else
    match d.pages[(number - 1).toNat]? with
    | some page => .ok page
    | none => .error ⟨number, d.total⟩

def linesOf (d : Distribution) (first : Int) : (count : Nat) → Except NoSuchPage (List Text)
  | 0 => .ok []
  | count + 1 => do
    let page ← d.page first
    let rest ← d.linesOf (first + 1) count
    .ok (page.lines ++ rest)

def linesFor (d : Distribution) (first last : Int) : Except NoSuchPage (List Text) :=
  d.linesOf first (last + 1 - first).toNat

theorem page_isOk (d : Distribution) (number : Int) (low : 1 ≤ number) (high : number ≤ d.total) :
    (d.page number).isOk = true := by
  have inside : (number - 1).toNat < d.pages.length := by
    unfold total at high
    omega
  have notLow : ¬number < 1 := by omega
  simp only [page, notLow, if_false, List.getElem?_eq_getElem inside]
  rfl

end Distribution

end Listing
