import Listing.Sheet.Geometry

/-!
Setting texts on a sheet. Texts of the body stand one below the other on their baselines; headers
and footers are centred.
-/

namespace Listing

/-- A text with its tabs filled up to the next multiple of `stop` columns. A line feed and a
carriage return begin the columns anew. -/
def expandTabs (stop column : Nat) : Text → Text
  | [] => []
  | c :: rest =>
    if c = '\t' then
      let gap := stop - column % stop
      List.replicate gap ' ' ++ expandTabs stop (column + gap) rest
    else c :: expandTabs stop (if c = '\n' ∨ c = '\r' then 0 else column + 1) rest

def tabStop : Nat := 4

structure Fonts where
  header : Font
  body : Font
  footer : Font

namespace Fonts

def builtIn (body : Text) (file : Option Text) : Fonts where
  header := ⟨"hebo".toList, file⟩
  body := ⟨body, file⟩
  footer := ⟨"helv".toList, file⟩

def ofFile (file : Text) : Fonts :=
  let font : Font := ⟨"codefont".toList, some file⟩
  ⟨font, font, font⟩

end Fonts

def headerSize : Rat := 14

def footerSize : Rat := 10

def headerBaseline : Rat := margin - 18

namespace Geometry

variable {α : Type} [Scalar α] [Renderer]

def footerBaseline (g : Geometry α) : Rat := g.paper.height - margin / 2

/-- A text in the middle of the sheet, or from the margin on if it is too wide for that. -/
def centred (g : Geometry α) (y : Rat) (content : Text) (font : Font) (size : Rat) : Step α :=
  let width := Renderer.textWidth font content size
  .text (larger ((Renderer.sheetWidth g.paper - width) / 2) margin) (Scalar.ofRat y) content font
    (Scalar.ofRat size)

def headerStep (g : Geometry α) (fonts : Fonts) (header : Text) : Step α :=
  g.centred headerBaseline header fonts.header headerSize

def lineStep (g : Geometry α) (fonts : Fonts) (index : Nat) (line : Text) : Step α :=
  .text margin (g.baseline index) (expandTabs tabStop 0 line) fonts.body g.fontSize

def footerStep (g : Geometry α) (fonts : Fonts) (footer : Text) : Step α :=
  g.centred g.footerBaseline footer fonts.footer footerSize

end Geometry

end Listing
