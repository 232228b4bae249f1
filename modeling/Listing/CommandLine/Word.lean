import Listing.Text.Digit
import Listing.Text.Quoted

/-!
The words of a command line and the options they name. A word that begins with a dash names an
option, in full or by the beginning of a name that only one option has; text behind an equals sign
is its value. Negative numbers, words with a space and a lone dash are values all the same. Two
dashes are a mark, and every word behind the mark is a value.
-/

namespace Listing

inductive OptionName where
  | help
  | path
  | output
  | lines
  | header
  | mode
  | pages
  | keepComments
  | keepBlankLines
  | fontFile
  deriving DecidableEq, Repr

inductive Arity where
  | none
  | one
  | some
  deriving DecidableEq, Repr

namespace OptionName

def spellings : List (String × OptionName) :=
  [("-h", .help), ("--help", .help), ("--path", .path), ("--output", .output),
    ("--lines", .lines), ("--header", .header), ("--mode", .mode), ("--pages", .pages),
    ("--keep-comments", .keepComments), ("--keep-blank-lines", .keepBlankLines),
    ("--font-file", .fontFile)]

def ofText? (t : Text) : Option OptionName :=
  (spellings.find? fun entry => entry.1.toList == t).map Prod.snd

def label (o : OptionName) : String :=
  "/".intercalate ((spellings.filter fun entry => entry.2 == o).map Prod.fst)

def arity : OptionName → Arity
  | .help | .keepComments | .keepBlankLines => .none
  | .path => .some
  | _ => .one

end OptionName

inductive UsageError where
  | ambiguous (word : Text) (spellings : List String)
  | valueMissing (o : OptionName)
  | valueUnwanted (o : OptionName) (value : Text)
  | notInteger (o : OptionName) (value : Text)
  | notChoice (o : OptionName) (value : Text) (choices : List String)
  | required (o : OptionName)
  | unrecognized (words : List Text)
  deriving DecidableEq, Repr

def OptionName.complaint (o : OptionName) : String := "argument " ++ o.label ++ ": "

def UsageError.message : UsageError → String
  | .ambiguous word spellings =>
    "ambiguous option: " ++ String.ofList word ++ " could match " ++ ", ".intercalate spellings
  | .valueMissing o =>
    o.complaint ++ "expected " ++ (if o.arity = .some then "at least " else "") ++ "one argument"
  | .valueUnwanted o value =>
    o.complaint ++ "ignored explicit argument " ++ String.ofList value.quoted
  | .notInteger o value => o.complaint ++ "invalid int value: " ++ String.ofList value.quoted
  | .notChoice o value choices =>
    o.complaint ++ "invalid choice: " ++ String.ofList value.quoted ++ " (choose from " ++
      ", ".intercalate (choices.map fun choice => String.ofList (Text.quoted choice.toList)) ++
        ")"
  | .required o => "the following arguments are required: " ++ o.label
  | .unrecognized words =>
    "unrecognized arguments: " ++ String.ofList (Text.join [' '] words)

/-- A word that is no value: an option, perhaps with a value attached, the short spelling of help
with characters behind it, the mark, or a name that no option has. -/
inductive Head where
  | option (o : OptionName) (attached : Option Text)
  | shortHelp (rest : Text)
  | mark
  | unknown (word : Text)
  deriving DecidableEq, Repr

inductive Word where
  | value (t : Text)
  | head (h : Head)
  deriving DecidableEq, Repr

namespace Word

def splitAttached (t : Text) : Text × Option Text :=
  match t.dropWhile (· != '=') with
  | [] => (t, none)
  | _ :: attached => (t.takeWhile (· != '='), some attached)

def withoutLineFeed (t : Text) : Text := if t.getLast? = some '\n' then t.dropLast else t

/-- Digits behind a dash, or a point with digits behind it and perhaps before it. -/
def isNegativeNumber (t : Text) : Bool :=
  match t with
  | '-' :: number =>
    let whole := number.takeWhile isDigit
    match withoutLineFeed (number.dropWhile isDigit) with
    | [] => !whole.isEmpty
    | '.' :: fraction => !fraction.isEmpty && fraction.all isDigit
    | _ => false
  | _ => false

/-- The options that an incomplete spelling may stand for, each with its full spelling. -/
def completions (stem : Text) : List (String × OptionName) :=
  OptionName.spellings.filter fun entry => stem.isPrefixOf entry.1.toList

def unnamed (t : Text) : Word :=
  if isNegativeNumber t || t.contains ' ' then .value t else .head (.unknown t)

def abbreviated (t : Text) : Except UsageError Word :=
  let (stem, attached) := splitAttached t
  match completions stem with
  | [] => .ok (unnamed t)
  | [(_, o)] => .ok (.head (.option o attached))
  | several => .error (.ambiguous t (several.map Prod.fst))

def ofDashed (t : Text) : Except UsageError Word :=
  match OptionName.ofText? t with
  | some o => .ok (.head (.option o none))
  | none =>
    match t with
    | '-' :: '-' :: _ =>
      match splitAttached t with
      | (name, some attached) =>
        match OptionName.ofText? name with
        | some o => .ok (.head (.option o (some attached)))
        | none => abbreviated t
      | _ => abbreviated t
    | ['-', 'h', '='] => .ok (.head (.option .help (some [])))
    | '-' :: 'h' :: '=' :: rest => .ok (.head (.shortHelp rest))
    | '-' :: 'h' :: rest => .ok (.head (.shortHelp rest))
    | _ => .ok (unnamed t)

def ofText (t : Text) : Except UsageError Word :=
  match t with
  | '-' :: _ :: _ => ofDashed t
  | _ => .ok (.value t)

def ofTexts : List Text → Except UsageError (List Word)
  | [] => .ok []
  | ['-', '-'] :: rest => .ok (.head .mark :: rest.map .value)
  | t :: rest => do
    let word ← ofText t
    let others ← ofTexts rest
    .ok (word :: others)

/-- The values at the start of words, and every other word with the values that follow it. -/
def groups : List Word → List Text × List (Head × List Text)
  | [] => ([], [])
  | .value t :: rest => ((t :: (groups rest).1), (groups rest).2)
  | .head h :: rest => ([], (h, (groups rest).1) :: (groups rest).2)

def ofGroups (first : List Text) (others : List (Head × List Text)) : List Word :=
  first.map .value ++ others.flatMap fun group => .head group.1 :: group.2.map .value

theorem ofGroups_groups (words : List Word) :
    ofGroups (groups words).1 (groups words).2 = words := by
  induction words with
  | nil => rfl
  | cons word rest ih =>
    cases word with
    | value t => simpa [groups, ofGroups] using ih
    | head h => simpa [groups, ofGroups] using ih

end Word

end Listing
