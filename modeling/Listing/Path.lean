import Listing.Value.Basic

/-!
Paths as text: a root, which may be absent, and the names below it. Slashes that follow each other
count as one and a name of one dot says nothing, so both go; a name of two dots stays, because only
the file tree knows where it leads. Exactly two slashes at the start are a root of their own.
-/

namespace Listing

/-- A path in its normal form. The root is written with `rootSlashes` slashes. -/
structure Path where
  rootSlashes : Nat
  parts : List Text
  deriving DecidableEq, Repr, Inhabited

namespace Path

def ofText (t : Text) : Path where
  rootSlashes :=
    match t with
    | '/' :: '/' :: '/' :: _ => 1
    | '/' :: '/' :: _ => 2
    | '/' :: _ => 1
    | _ => 0
  parts := (t.splitOn '/').filter fun part => part ≠ [] && part ≠ ['.']

def ofValue : Value → Except TypeFault Path
  | .text t => .ok (ofText t)
  | value => .error (.notPath value.typeName)

/-- The text of a path; the empty path is written as one dot. -/
def toText (p : Path) : Text :=
  if p.rootSlashes = 0 ∧ p.parts = [] then ['.']
  else List.replicate p.rootSlashes '/' ++ Text.join ['/'] p.parts

def name (p : Path) : Text := p.parts.getLast?.getD []

def child (p : Path) (name : Text) : Path := { p with parts := p.parts ++ [name] }

def parent (p : Path) : Path := { p with parts := p.parts.dropLast }

theorem parent_shorter (p : Path) (more : p.parts ≠ []) :
    p.parent.parts.length < p.parts.length := by
  have filled := List.length_pos_iff.2 more
  simp only [parent, List.length_dropLast]
  omega

end Path

/-- The place of the last dot of a name, unless it is its first or last character. -/
def suffixStart (name : Text) : Option Nat :=
  match name.reverse.idxOf? '.' with
  | none => none
  | some back =>
    let place := name.length - 1 - back
    if 0 < place && place < name.length - 1 then some place else none

namespace Path

def suffix (p : Path) : Text := (suffixStart p.name).elim [] p.name.drop

def stem (p : Path) : Text := (suffixStart p.name).elim p.name p.name.take

theorem stem_append_suffix (p : Path) : p.stem ++ p.suffix = p.name := by
  unfold stem suffix
  cases suffixStart p.name <;> simp

end Path

end Listing
