import Listing.Charset.Name
import Listing.FileTree.Resolve
import Listing.Source.Basic
import Listing.Source.Language

/-!
Reading one source: its bytes, their text, and the tag of the comment syntax that its suffix
tells. A file without bytes is an empty text, whatever its encoding might be.
-/

namespace Listing

inductive ReadError where
  | unreadable (error : SystemError)
  | undecodable (error : DecodeError)
  deriving DecidableEq, Repr

def ReadError.message (p : Path) : ReadError → String
  | .unreadable error => "Failed to read source file: " ++ error.message p
  | .undecodable error => "Failed to decode source file: " ++ error.message

def describeFailure (message : String) (path : Text) : String :=
  message ++ " (path=" ++ String.ofList path ++ ")"

section Decoding

variable [Codecs]

def fileText (detect : Detector) (bytes : List UInt8) : Except DecodeError Text :=
  if bytes = [] then .ok [] else decodeBytes detect bytes

def readSource (t : FileTree) (detect : Detector) (p : Path) : Except ReadError Source := do
  let bytes ← (t.read p).mapError .unreadable
  let text ← (fileText detect bytes).mapError .undecodable
  .ok ⟨.text p.toText, .ofString p.commentStyle.tag, .text text⟩

end Decoding

end Listing
