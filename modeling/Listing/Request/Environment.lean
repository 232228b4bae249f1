import Listing.Request.Basic

/-!
Requests from environment variables. A setting that is given by itself takes the place of its
variable, which is then not even read; what neither gives has its default. The page size comes
first, then the mode, and a custom mode without a page range is refused before the settings are
checked as a whole.
-/

namespace Listing

/-- Environment variables by name. A setting that is read from one must be a text. -/
abbrev Environment := List (String × Value)

/-- Settings that take the place of variables; one that is null takes no place. -/
structure Overrides where
  pageSize : Value := .null
  header : Value := .null
  mode : Value := .null
  range : Value := .null
  stripComments : Value := .bool true
  removeBlankLines : Value := .bool true
  deriving Repr

def Overrides.ofRecord (record : Value) : Except RequestError Overrides := do
  checkSettingNames record
  .ok
    { pageSize := (record.get? "page_size").getD .null
      header := (record.get? "header_text").getD .null
      mode := (record.get? "page_mode").getD .null
      range := (record.get? "custom_page_spec").getD .null
      stripComments := (record.get? "strip_comments").getD (.bool true)
      removeBlankLines := (record.get? "remove_blank_lines").getD (.bool true) }

namespace Environment

def sizeVariable : String := "CODEDOC_PAGE_SIZE"
def modeVariable : String := "CODEDOC_PAGE_MODE"
def headerVariable : String := "CODEDOC_HEADER_TEXT"
def rangeVariable : String := "CODEDOC_PAGE_RANGE"

def trimmed (env : Environment) (name : String) (default : Text) : Except RequestError Text := do
  let t ← (((env.lookup name).getD (.text default)).textFor "strip").mapError .wrongKind
  .ok t.trim

def required (env : Environment) (name : String) (default : Text) :
    Except RequestError Text := do
  let t ← env.trimmed name default
  if t = [] then .error (.variableEmpty name) else .ok t

def pageSize (env : Environment) : Except RequestError Value := do
  let t ← env.required sizeVariable "50".toList
  match t.readInteger with
  | .error _ => .error (.variableNotInteger sizeVariable)
  | .ok n => if n < 1 then .error (.variableTooSmall sizeVariable 1) else .ok (.int n)

def mode (env : Environment) : Except RequestError PageMode := do
  let t ← env.required modeVariable "all".toList
  readMode modeVariable (.text t)

def header (env : Environment) : Value := (env.lookup headerVariable).getD (.text [])

def range (env : Environment) : Except RequestError Value := do
  let t ← env.trimmed rangeVariable []
  .ok (if t = [] then .null else .text t)

end Environment

def Value.isGiven : Value → Bool
  | .null => false
  | _ => true

def Request.ofEnvironment (env : Environment) (overrides : Overrides) :
    Except RequestError Request := do
  let pageSize ← if overrides.pageSize.isGiven then .ok overrides.pageSize else env.pageSize
  let mode ← if overrides.mode.isGiven then readMode "page_mode" overrides.mode else env.mode
  let header := if overrides.header.isGiven then overrides.header else env.header
  let range ← if overrides.range.isGiven then .ok overrides.range else env.range
  if mode = .custom && !range.isGiven then .error .rangeVariableRequired
  else
    Settings.request
      { pageSize
        header
        mode := .ofString mode.name
        range
        stripComments := overrides.stripComments
        removeBlankLines := overrides.removeBlankLines }

end Listing
