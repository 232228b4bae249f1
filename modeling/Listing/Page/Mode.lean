import Listing.Text.Fold
import Listing.Value.Basic

/-!
Which pages of the distributed stream a listing shows: all of them, the pages of a range, or only
those at the two ends.
-/

namespace Listing

inductive PageMode where
  | all
  | custom
  | partialEdges
  deriving DecidableEq, Repr, Inhabited

namespace PageMode

def modes : List PageMode := [.all, .custom, .partialEdges]

def name : PageMode → String
  | .all => "all"
  | .custom => "custom"
  | .partialEdges => "partial"

def named? (t : Text) : Option PageMode := modes.find? fun mode => mode.name.toList == t

def read? (t : Text) : Option PageMode := named? t.trim.fold

theorem read?_name (mode : PageMode) : read? mode.name.toList = some mode := by
  cases mode <;> decide +kernel

end PageMode

structure UnknownMode where
  value : Value

def UnknownMode.message (e : UnknownMode) : String :=
  String.ofList e.value.shown ++ " is not a valid PageMode"

def PageMode.ofValue : Value → Except UnknownMode PageMode
  | .text t =>
    match PageMode.named? t with
    | some mode => .ok mode
    | none => .error ⟨.text t⟩
  | value => .error ⟨value⟩

end Listing
