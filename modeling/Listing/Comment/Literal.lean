import Listing.Text.Basic

/-!
Comments of languages in which a `#` inside a string literal is text. Literals are copied as they
stand. One delimited by three equal quotes may span lines, and no backslash keeps it from ending;
one in single quotes ends at the matching quote that no backslash takes with it, or else at the
end of its line. So between two lines only an open triple-quoted literal is remembered.
-/

namespace Listing

/-- Where a reader stands in a line: in code, in a literal of one line, or in a literal that may
span lines; the latter two with their quote. -/
inductive Region where
  | code
  | literal (quote : Char)
  | long (quote : Char)
  deriving DecidableEq, Repr

def Region.nextLine : Region → Region
  | .long quote => .long quote
  | _ => .code

def isQuote (c : Char) : Bool := c == '\'' || c == '"'

/-- A line without its comment, and the region that its last character leaves. -/
def stripLine : Region → Text → Text × Region
  | region, [] => ([], region)
  | .code, c :: rest =>
    if c = '#' then ([], .code)
    else if isQuote c then
      match rest with
      | d :: e :: tail =>
        if d = c ∧ e = c then
          let (kept, region) := stripLine (.long c) tail
          (c :: c :: c :: kept, region)
        else
          let (kept, region) := stripLine (.literal c) (d :: e :: tail)
          (c :: kept, region)
      | rest =>
        let (kept, region) := stripLine (.literal c) rest
        (c :: kept, region)
    else
      let (kept, region) := stripLine .code rest
      (c :: kept, region)
  | .literal quote, c :: rest =>
    if c = quote then
      let (kept, region) := stripLine .code rest
      (c :: kept, region)
    else if c = '\\' then
      match rest with
      | [] => ([c], .literal quote)
      | d :: tail =>
        let (kept, region) := stripLine (.literal quote) tail
        (c :: d :: kept, region)
    else
      let (kept, region) := stripLine (.literal quote) rest
      (c :: kept, region)
  | .long quote, c :: rest =>
    match rest with
    | d :: e :: tail =>
      if c = quote ∧ d = quote ∧ e = quote then
        let (kept, region) := stripLine .code tail
        (c :: d :: e :: kept, region)
      else
        let (kept, region) := stripLine (.long quote) (d :: e :: tail)
        (c :: kept, region)
    | rest =>
      let (kept, region) := stripLine (.long quote) rest
      (c :: kept, region)

def stripLines : Region → List Text → List Text
  | _, [] => []
  | region, line :: rest =>
    let (kept, after) := stripLine region line
    kept :: stripLines after.nextLine rest

def dropHashComments (t : Text) : Text := Text.unlines (stripLines .code t.lines)

theorem stripLines_length (region : Region) (ls : List Text) :
    (stripLines region ls).length = ls.length := by
  induction ls generalizing region with
  | nil => rfl
  | cons line rest ih => simp [stripLines, ih]

end Listing
