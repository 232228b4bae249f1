import Listing.Sheet.Step

/-!
Widths of the characters in the fonts of headers and footers, in thousandths of the font size.
The regular and the bold face have tables for ASCII, for the upper half of Latin-1, for the first
block of Latin letters after it, and for some signs. A tab and a carriage return are as wide as the
space of the font that has them; any other character is as wide as the face is high. In a font from
a file every character has one width, because what the file says of them is not read here. These are
the widths of one renderer; another may have its own.
-/

namespace Listing

/-- The widths of one face: from the space on, from the no-break space on, from `Ā` on, and those
of signs by their code points. -/
structure Face where
  ascii : List Nat
  latin : List Nat
  extended : List Nat
  signs : List (Nat × Nat)

namespace Face

def regular : Face where
  ascii :=
    [278, 278, 355, 556, 556, 889, 667, 191, 333, 333, 389, 584, 278, 333, 278, 278, 556, 556,
      556, 556, 556, 556, 556, 556, 556, 556, 278, 278, 584, 584, 584, 556, 1015, 667, 667, 722,
      722, 667, 611, 778, 722, 278, 500, 667, 556, 833, 722, 778, 667, 778, 722, 667, 611, 722,
      667, 944, 667, 667, 611, 278, 278, 278, 469, 556, 333, 556, 556, 500, 556, 556, 278, 556,
      556, 222, 222, 500, 222, 833, 556, 556, 556, 556, 333, 500, 278, 556, 500, 722, 500, 500,
      500, 334, 260, 334, 584]
  latin :=
    [278, 333, 556, 556, 556, 556, 260, 556, 333, 737, 370, 556, 584, 333, 737, 333, 400, 584,
      333, 333, 333, 556, 537, 278, 333, 333, 365, 556, 834, 834, 834, 611, 667, 667, 667, 667,
      667, 667, 1000, 722, 667, 667, 667, 667, 278, 278, 278, 278, 722, 722, 778, 778, 778, 778,
      778, 584, 778, 722, 722, 722, 722, 667, 667, 611, 556, 556, 556, 556, 556, 556, 889, 500,
      556, 556, 556, 556, 278, 278, 278, 278, 556, 556, 556, 556, 556, 556, 556, 584, 611, 556,
      556, 556, 556, 500, 556, 500]
  extended :=
    [667, 556, 667, 556, 667, 556, 722, 500, 722, 500, 722, 500, 722, 500, 722, 643, 722, 556, 667,
      556, 667, 556, 667, 556, 667, 556, 667, 556, 778, 556, 778, 556, 778, 556, 778, 556,
      722, 556, 722, 556, 278, 278, 278, 278, 278, 278, 278, 222, 278, 278, 778, 444, 500,
      222, 667, 500, 500, 556, 222, 556, 222, 556, 299, 556, 334, 556, 222, 722, 556, 722,
      556, 722, 556, 556, 722, 556, 778, 556, 778, 556, 778, 556, 1000, 944, 722, 333, 722,
      333, 722, 333, 667, 500, 667, 500, 667, 500, 667, 500, 611, 278, 611, 317, 611, 278,
      722, 556, 722, 556, 722, 556, 722, 556, 722, 556, 722, 556, 944, 722, 667, 500, 667,
      611, 500, 611, 500, 611, 500, 222]
  signs :=
    [(0x0192, 556), (0x2013, 556), (0x2014, 1000), (0x2018, 222), (0x2019, 222), (0x201A, 222),
      (0x201C, 333), (0x201D, 333), (0x201E, 333), (0x2020, 556), (0x2021, 556), (0x2022,
      350), (0x2026, 1000), (0x2030, 1000), (0x2039, 333), (0x203A, 333), (0x2044, 167),
      (0x20AC, 556), (0x2122, 1000), (0x2212, 584), (0xFB01, 500), (0xFB02, 500)]

def bold : Face where
  ascii :=
    [278, 333, 474, 556, 556, 889, 722, 238, 333, 333, 389, 584, 278, 333, 278, 278, 556, 556,
      556, 556, 556, 556, 556, 556, 556, 556, 333, 333, 584, 584, 584, 611, 975, 722, 722, 722,
      722, 667, 611, 778, 722, 278, 556, 722, 611, 833, 722, 778, 667, 778, 722, 667, 611, 722,
      667, 944, 667, 667, 611, 333, 278, 333, 584, 556, 333, 556, 611, 556, 611, 556, 333, 611,
      611, 278, 278, 556, 278, 889, 611, 611, 611, 611, 389, 556, 333, 611, 556, 778, 556, 556,
      500, 389, 280, 389, 584]
  latin :=
    [278, 333, 556, 556, 556, 556, 280, 556, 333, 737, 370, 556, 584, 333, 737, 333, 400, 584,
      333, 333, 333, 611, 556, 278, 333, 333, 365, 556, 834, 834, 834, 611, 722, 722, 722, 722,
      722, 722, 1000, 722, 667, 667, 667, 667, 278, 278, 278, 278, 722, 722, 778, 778, 778, 778,
      778, 584, 778, 722, 722, 722, 722, 667, 667, 611, 556, 556, 556, 556, 556, 556, 889, 556,
      556, 556, 556, 556, 278, 278, 278, 278, 611, 611, 611, 611, 611, 611, 611, 584, 611, 611,
      611, 611, 611, 556, 611, 556]
  extended :=
    [722, 556, 722, 556, 722, 556, 722, 556, 722, 556, 722, 556, 722, 556, 722, 743, 722, 611, 667,
      556, 667, 556, 667, 556, 667, 556, 667, 556, 778, 611, 778, 611, 778, 611, 778, 611,
      722, 611, 722, 611, 278, 278, 278, 278, 278, 278, 278, 278, 278, 278, 834, 556, 556,
      278, 722, 556, 556, 611, 278, 611, 278, 611, 400, 611, 556, 611, 278, 722, 611, 722,
      611, 722, 611, 611, 722, 611, 778, 611, 778, 611, 778, 611, 1000, 944, 722, 389, 722,
      389, 722, 389, 667, 556, 667, 556, 667, 556, 667, 556, 611, 333, 611, 389, 611, 333,
      722, 611, 722, 611, 722, 611, 722, 611, 722, 611, 722, 611, 944, 778, 667, 556, 667,
      611, 500, 611, 500, 611, 500, 278]
  signs :=
    [(0x0192, 556), (0x2013, 556), (0x2014, 1000), (0x2018, 278), (0x2019, 278), (0x201A, 278),
      (0x201C, 500), (0x201D, 500), (0x201E, 500), (0x2020, 556), (0x2021, 556), (0x2022,
      350), (0x2026, 1000), (0x2030, 1000), (0x2039, 333), (0x203A, 333), (0x2044, 167),
      (0x20AC, 556), (0x2122, 1000), (0x2212, 584), (0xFB01, 611), (0xFB02, 611)]

def otherAdvance : Nat := 1000

def gapAdvance : Nat := 260

def advance (f : Face) (c : Char) : Nat :=
  let n := c.toNat
  if c = '\t' ∨ c = '\r' then gapAdvance
  else if n < 0x20 then otherAdvance
  else if n < 0x7F then f.ascii[n - 0x20]?.getD otherAdvance
  else if n < 0xA0 then otherAdvance
  else if n < 0x100 then f.latin[n - 0xA0]?.getD otherAdvance
  else if n < 0x180 then f.extended[n - 0x100]?.getD otherAdvance
  else (f.signs.lookup n).getD otherAdvance

end Face

/-- The width of every character of a font from a file. -/
def fileAdvance : Nat := 600

def Font.advance (font : Font) (c : Char) : Nat :=
  match font.file with
  | some (_ :: _) => fileAdvance
  | _ => if font.name = "hebo".toList then Face.bold.advance c else Face.regular.advance c

/-- The width of a text, in thousandths of the font size. -/
def Font.textAdvance (font : Font) (t : Text) : Nat :=
  t.foldr (fun c width => font.advance c + width) 0

theorem tables_cover : ∀ f ∈ [Face.regular, Face.bold], f.ascii.length = 95 ∧
    f.latin.length = 96 ∧ f.extended.length = 128 := by
  decide +kernel

end Listing
