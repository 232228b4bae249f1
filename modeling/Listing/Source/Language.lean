import Listing.Comment.Style
import Listing.Path

/-!
Which language a file is written in, by the suffix of its name, and the comment syntax of each
language. Suffixes are compared without regard to case. A language without an entry of its own in
`languageStyles` keeps its comments.
-/

namespace Listing

def suffixLanguages : List (String × String) :=
  [(".js", "javascript"), (".jsx", "javascript"), (".ts", "typescript"), (".tsx", "typescript"),
    (".py", "python"), (".pyw", "python"), (".java", "java"), (".cpp", "cpp"), (".cxx", "cpp"),
    (".cc", "cpp"), (".c", "c"), (".cs", "csharp"), (".php", "php"), (".go", "go"),
    (".rs", "rust"), (".vue", "vue"), (".html", "html"), (".htm", "html"), (".css", "css"),
    (".scss", "scss"), (".sass", "sass"), (".json", "json"), (".xml", "xml"), (".sql", "sql"),
    (".sh", "shell"), (".bat", "batch"), (".md", "markdown")]

def languageStyles : List (String × CommentStyle) :=
  [("javascript", .cStyle), ("typescript", .cStyle), ("java", .cStyle), ("cpp", .cStyle),
    ("c", .cStyle), ("csharp", .cStyle), ("go", .cStyle), ("rust", .cStyle), ("php", .cStyle),
    ("python", .pythonStyle), ("html", .markup), ("xml", .markup), ("css", .cssStyle),
    ("scss", .cssStyle), ("sass", .cssStyle), ("shell", .shellStyle), ("sql", .sqlStyle)]

def languageOfSuffix (suffix : Text) : Option String :=
  (suffixLanguages.find? fun entry => entry.1.toList == suffix.fold).map Prod.snd

namespace Path

def isSource (p : Path) : Bool := (languageOfSuffix p.suffix).isSome

def language (p : Path) : String := (languageOfSuffix p.suffix).getD "text"

end Path

def styleOfLanguage (language : String) : CommentStyle :=
  (languageStyles.lookup language).getD .none

/-- The style of a language given as a value of any kind. Only a text is a language, and what cannot
be looked up is refused. -/
def styleOfValue : Value → Except TypeFault CommentStyle
  | .text t => .ok (styleOfLanguage (String.ofList t))
  | .list items => .error (.notKey (Value.list items).typeName)
  | .object entries => .error (.notKey (Value.object entries).typeName)
  | _ => .ok .none

namespace Path

def commentStyle (p : Path) : CommentStyle := styleOfLanguage p.language

end Path

def skippedNames : List String :=
  ["node_modules", "vendor", "__pycache__", "build", "dist", "target", "bin", "obj", "coverage"]

def skippedEndings : List String := ["~", ".tmp", ".temp", ".log"]

def nameReadings (name : Text) : List Text :=
  if name.getLast? = some '\n' then [name, name.dropLast] else [name]

def isSkipped (name : Text) : Bool :=
  name.head? == some '.' ||
    (nameReadings name).any fun reading =>
      skippedNames.any (fun skipped => skipped.toList == reading) ||
        skippedEndings.any fun ending => ending.toList.isSuffixOf reading

end Listing
