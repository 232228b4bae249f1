import Listing.Text.Basic

/-!
Comments found by their delimiters alone. A line comment runs from its marker to the end of the
line. A block runs from its opening through the first closing after it; an opening that nothing
closes is ordinary text. Blocks are taken from the left and do not nest.
-/

namespace Listing

def cutAt (marker : Text) : Text → Text
  | [] => []
  | c :: rest => if marker.isPrefixOf (c :: rest) then [] else c :: cutAt marker rest

/-- Every line loses what stands behind its first marker, and the marker. -/
def dropLineComments (marker t : Text) : Text := Text.unlines (t.lines.map (cutAt marker))

/-- A line that begins with the sign becomes empty; elsewhere the sign is ordinary text. -/
def dropMarkedLines (sign : Char) (t : Text) : Text :=
  Text.unlines (t.lines.map fun line => if line.head? = some sign then [] else line)

structure Block where
  opening : Text
  closing : Text
  deriving DecidableEq, Repr

namespace Block

def starred : Block := ⟨['/', '*'], ['*', '/']⟩

def markup : Block := ⟨['<', '!', '-', '-'], ['-', '-', '>']⟩

def after? (b : Block) : Text → Option Text
  | [] => none
  | c :: rest =>
    if b.closing.isPrefixOf (c :: rest) then some (rest.drop (b.closing.length - 1))
    else after? b rest

theorem after?_shorter (b : Block) (t rest : Text) (found : after? b t = some rest) :
    rest.length < t.length := by
  induction t with
  | nil => simp [after?] at found
  | cons c tail ih =>
    unfold after? at found
    split at found
    · simp only [Option.some.injEq] at found
      subst found
      simp only [List.length_drop, List.length_cons]
      omega
    · have shorter := ih found
      simp only [List.length_cons]
      omega

def drop (b : Block) : Text → Text
  | [] => []
  | c :: rest =>
    if b.opening.isPrefixOf (c :: rest) then
      match _found : after? b (rest.drop (b.opening.length - 1)) with
      | some tail => drop b tail
      | none => c :: drop b rest
    else c :: drop b rest
termination_by t => t.length
decreasing_by
  · have shorter := after?_shorter b _ _ _found
    simp only [List.length_drop] at shorter
    simp only [List.length_cons]
    omega
  · simp
  · simp

end Block

end Listing
