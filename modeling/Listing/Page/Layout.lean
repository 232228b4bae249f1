import Listing.Page.Selection

/-!
Laying out a section: its lines with content, and a break wherever a page is full and another line
follows. The pages are counted in two ways, by their breaks and by division, and the layout keeps
both counts. The division is that of binary64 numbers, so a page size beyond their range gives
zero, and a size so small that the quotient is beyond their range gives no count at all.
-/

namespace Listing

inductive LayoutUnit (τ : Type) where
  | line (content : τ)
  | pageBreak
  deriving DecidableEq, Repr

/-- The units of lines, while the open page holds `filled` lines. -/
def unitsFrom (size filled : Nat) : List Text → List (LayoutUnit Text)
  | [] => []
  | line :: rest =>
    if line.isBlank then unitsFrom size filled rest
    else if size ≤ filled then .pageBreak :: .line line :: unitsFrom size 1 rest
    else .line line :: unitsFrom size (filled + 1) rest

/-- The pages that units fill: one more than the breaks between them. -/
def renderedPages (units : List (LayoutUnit Text)) : Nat :=
  if units = [] then 0 else units.count .pageBreak + 1

def contentCount (units : List (LayoutUnit Text)) : Nat :=
  (units.filter fun unit => unit != .pageBreak).length

/-- The smallest integer that is not below the binary64 quotient of two numbers. -/
def dividedPages (lines size : Nat) : Nat := (nearest64 ((lines : Rat) / size)).ceil.toNat

def PageSize.dividedPages (lines : Nat) : PageSize → Except ConversionFault Nat
  | .whole n => .ok (Listing.dividedPages lines n)
  | .measured x => ((Number.finite lines).divide x).ceiling.map Int.toNat

structure SectionLayout where
  first : Int
  last : Int
  units : List (LayoutUnit Text)
  divided : Nat
  rendered : Nat
  deriving DecidableEq, Repr

def SectionLayout.isConsistent (l : SectionLayout) : Bool := l.divided == l.rendered

def Section.laidOut (s : Section) (units : List (LayoutUnit Text)) (divided : Nat) :
    SectionLayout where
  first := s.first
  last := s.last
  units
  divided
  rendered := renderedPages units

def Section.layout (s : Section) (size : Nat) : SectionLayout :=
  let units := unitsFrom size 0 s.lines
  s.laidOut units (dividedPages (contentCount units) size)

/-- The layout of a section on pages of any size. Pages that no count of lines breaks hold all
lines. -/
def Section.layoutBy (s : Section) (size : PageSize) : Except ConversionFault SectionLayout := do
  let units := unitsFrom (size.breaking?.getD (s.lines.length + 1)) 0 s.lines
  let divided ← size.dividedPages (contentCount units)
  .ok (s.laidOut units divided)

theorem Section.layoutBy_whole (s : Section) (n : Nat) :
    s.layoutBy (.whole n) = .ok (s.layout n) := by
  simp only [Section.layoutBy, PageSize.breaking?_whole, PageSize.dividedPages, Section.layout,
    Option.getD_some]
  rfl

def splitPages {τ : Type} : List (LayoutUnit τ) → List (List τ)
  | [] => []
  | .pageBreak :: rest =>
    match splitPages rest with
    | [] => [[], []]
    | pages => [] :: pages
  | .line content :: rest =>
    match splitPages rest with
    | [] => [[content]]
    | page :: pages => (content :: page) :: pages

def LayoutUnit.map {σ τ : Type} (f : σ → τ) : LayoutUnit σ → LayoutUnit τ
  | .line content => .line (f content)
  | .pageBreak => .pageBreak

theorem splitPages_map {σ τ : Type} (f : σ → τ) (units : List (LayoutUnit σ)) :
    splitPages (units.map (LayoutUnit.map f)) = (splitPages units).map (List.map f) := by
  induction units with
  | nil => rfl
  | cons unit rest ih =>
    cases unit <;> simp only [List.map_cons, LayoutUnit.map, splitPages, ih] <;>
      cases splitPages rest <;> rfl

end Listing
