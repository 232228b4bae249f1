import Listing.CommandLine.Word
import Listing.Page.Mode
import Listing.Text.Integer

/-!
The arguments of a command line. An option takes the values behind it, as many as it needs; values
that no option takes are left over. The last of several equal options wins, a missing path is
noticed before left over words, and asking for help ends everything at once. The mark counts for
nothing where it is attached as a value: then the option is given, but with an empty list.
-/

namespace Listing

/-- What the options of a command line say. An option that is not given is null. -/
structure Arguments where
  paths : List Text := []
  output : Value := .ofString "output.pdf"
  lines : Value := .null
  header : Value := .null
  mode : Value := .null
  pages : Value := .null
  keepComments : Bool := false
  keepBlankLines : Bool := false
  fontFile : Value := .null
  deriving Repr

inductive UsageStop where
  | help
  | refused (error : UsageError)
  deriving DecidableEq, Repr

def readLineCount (t : Text) : Except UsageError Value :=
  match t.readInteger with
  | .ok n => .ok (.int n)
  | .error _ => .error (.notInteger .lines t)

def readModeChoice (t : Text) : Except UsageError Value :=
  match PageMode.named? t with
  | some mode => .ok (.ofString mode.name)
  | none => .error (.notChoice .mode t (PageMode.modes.map PageMode.name))

def readValue : OptionName → Text → Except UsageError Value
  | .lines, t => readLineCount t
  | .mode, t => readModeChoice t
  | _, t => .ok (.text t)

/-- The texts that an attached value holds: itself, or none if it is the mark. -/
def attachedTexts (t : Text) : List Text := if t = ['-', '-'] then [] else [t]

def readTexts (o : OptionName) : List Text → Except UsageError Value
  | [t] => readValue o t
  | _ => .ok (.list [])

structure Parsing where
  arguments : Arguments := {}
  pathGiven : Bool := false
  leftOver : List Text := []

namespace Parsing

def leave (p : Parsing) (words : List Text) : Parsing := { p with leftOver := p.leftOver ++ words }

def takeSwitch (p : Parsing) : OptionName → Except UsageStop Parsing
  | .keepComments => .ok { p with arguments := { p.arguments with keepComments := true } }
  | .keepBlankLines => .ok { p with arguments := { p.arguments with keepBlankLines := true } }
  | _ => .error .help

def takePaths (p : Parsing) (values : List Text) : Parsing :=
  { p with arguments := { p.arguments with paths := values }, pathGiven := true }

def setting (a : Arguments) (o : OptionName) (value : Value) : Arguments :=
  match o with
  | .output => { a with output := value }
  | .lines => { a with lines := value }
  | .header => { a with header := value }
  | .mode => { a with mode := value }
  | .pages => { a with pages := value }
  | .fontFile => { a with fontFile := value }
  | _ => a

def takeValue (p : Parsing) (o : OptionName) (texts : List Text) : Except UsageStop Parsing :=
  match readTexts o texts with
  | .ok value => .ok { p with arguments := setting p.arguments o value }
  | .error e => .error (.refused e)

def takeAttached (p : Parsing) (o : OptionName) (t : Text) : Except UsageStop Parsing :=
  match o.arity with
  | .none => .error (.refused (.valueUnwanted o t))
  | .one => p.takeValue o (attachedTexts t)
  | .some => .ok (p.takePaths (attachedTexts t))

def takeFollowing (p : Parsing) (o : OptionName) (values : List Text) :
    Except UsageStop Parsing :=
  match o.arity, values with
  | .none, values => (p.takeSwitch o).map fun p => p.leave values
  | .one, first :: others => (p.takeValue o [first]).map fun p => p.leave others
  | .some, first :: others => .ok (p.takePaths (first :: others))
  | _, [] => .error (.refused (.valueMissing o))

/-- What is behind the short spelling of help: its letter may be repeated, and anything else is an
unwanted value. -/
def takeShortHelp : Text → UsageStop
  | [] => .help
  | 'h' :: rest => takeShortHelp rest
  | attached => .refused (.valueUnwanted .help attached)

def take (p : Parsing) : Head × List Text → Except UsageStop Parsing
  | (.option o (some t), values) => (p.takeAttached o t).map fun p => p.leave values
  | (.option o none, values) => p.takeFollowing o values
  | (.shortHelp rest, _) => .error (takeShortHelp rest)
  | (.mark, values) => .ok (p.leave (['-', '-'] :: values))
  | (.unknown word, values) => .ok (p.leave (word :: values))

def finish (p : Parsing) : Except UsageStop Arguments :=
  if !p.pathGiven then .error (.refused (.required .path))
  else if p.leftOver ≠ [] then .error (.refused (.unrecognized p.leftOver))
  else .ok p.arguments

end Parsing

namespace Arguments

def ofTexts (texts : List Text) : Except UsageStop Arguments :=
  match Word.ofTexts texts with
  | .error e => .error (.refused e)
  | .ok words => do
    let (first, others) := Word.groups words
    let taken ← others.foldlM Parsing.take (Parsing.leave {} first)
    taken.finish

end Arguments

end Listing
