import Listing.Page.Mode

/-!
The settings of one listing. Of a request the page size and the page mode are checked, and with
the custom mode that there is a page range; the header, the range and the switches are kept as
they are given, values of any kind. Reading a request back from its record gives the same request
up to the kinds that the record fixes.
-/

namespace Listing

inductive RequestError where
  | pageSizeNotPositive
  | pageSizeUnreadable (fault : ConversionFault)
  | modeUnknown (setting : String)
  | rangeRequired
  | wrongKind (fault : TypeFault)
  | unknownSetting (name : Text)
  | variableEmpty (name : String)
  | variableNotInteger (name : String)
  | variableTooSmall (name : String) (least : Int)
  | rangeVariableRequired
  deriving DecidableEq, Repr

def RequestError.message : RequestError → String
  | .pageSizeNotPositive => "page_size must be a positive integer"
  | .pageSizeUnreadable fault => fault.message
  | .modeUnknown setting =>
    setting ++ " must be one of: " ++ ", ".intercalate (PageMode.modes.map PageMode.name)
  | .rangeRequired => "custom_page_spec is required when page_mode is 'custom'"
  | .wrongKind fault => fault.message
  | .unknownSetting name => "unknown setting '" ++ String.ofList name ++ "'"
  | .variableEmpty name => name ++ " cannot be empty"
  | .variableNotInteger name => name ++ " must be an integer"
  | .variableTooSmall name least => name ++ " must be >= " ++ toString least
  | .rangeVariableRequired => "CODEDOC_PAGE_RANGE is required when CODEDOC_PAGE_MODE is 'custom'"

def settingNames : List String :=
  ["page_size", "header_text", "page_mode", "custom_page_spec", "strip_comments",
    "remove_blank_lines"]

def checkSettingNames : Value → Except RequestError Unit
  | .object entries =>
    match entries.find? fun entry => !settingNames.any fun name => name.toList == entry.1 with
    | some (name, _) => .error (.unknownSetting name)
    | none => .ok ()
  | _ => .ok ()

/-- Settings as they are given, before any check. -/
structure Settings where
  pageSize : Value := .int 50
  header : Value := .text []
  mode : Value := .text "all".toList
  range : Value := .null
  stripComments : Value := .bool true
  removeBlankLines : Value := .bool true
  deriving Repr

structure Request where
  pageSize : Nat
  header : Value
  mode : PageMode
  range : Value
  stripComments : Value
  removeBlankLines : Value
  pageSize_pos : 0 < pageSize

def readMode (setting : String) (value : Value) : Except RequestError PageMode :=
  match PageMode.read? value.asText with
  | some mode => .ok mode
  | none => .error (.modeUnknown setting)

def checkRange (range : Value) : Except RequestError Unit :=
  if !range.isSet then .error .rangeRequired
  else
    match range.textFor "strip" with
    | .error fault => .error (.wrongKind fault)
    | .ok t => if t.isBlank then .error .rangeRequired else .ok ()

namespace Settings

/-- Checked settings; the page size comes first, then the mode, then the range. -/
def request (s : Settings) : Except RequestError Request :=
  match s.pageSize with
  | .int (.ofNat (n + 1)) => do
    let mode ← readMode "page_mode" s.mode
    if mode = .custom then checkRange s.range
    .ok
      { pageSize := n + 1
        header := s.header
        mode
        range := s.range
        stripComments := s.stripComments
        removeBlankLines := s.removeBlankLines
        pageSize_pos := Nat.succ_pos n }
  | _ => .error .pageSizeNotPositive

def ofRecord (record : Value) : Settings where
  pageSize := (record.get? "page_size").getD (.int 50)
  header := (record.get? "header_text").getD (.text [])
  mode := (record.get? "page_mode").getD (.text "all".toList)
  range := (record.get? "custom_page_spec").getD .null
  stripComments := (record.get? "strip_comments").getD (.bool true)
  removeBlankLines := (record.get? "remove_blank_lines").getD (.bool true)

/-- The request of settings by name. A name that no setting has is refused before any check. -/
def requestOfRecord (record : Value) : Except RequestError Request := do
  checkSettingNames record
  (ofRecord record).request

end Settings

namespace Request

def record (r : Request) : Value :=
  .record [("page_size", .int r.pageSize), ("header_text", r.header),
    ("page_mode", .ofString r.mode.name), ("custom_page_spec", r.range),
    ("strip_comments", r.stripComments), ("remove_blank_lines", r.removeBlankLines)]

def checkRecord : Value → Except RequestError Unit
  | .object _ => .ok ()
  | value => .error (.wrongKind (.lacksOperation value.typeName "get"))

/-- The request that a record stands for. The page size may be anything that stands for an
integer, the header becomes its text and the switches truth values; the range stays as it is.
Other names are passed over. -/
def ofRecord (record : Value) : Except RequestError Request := do
  checkRecord record
  let settings := Settings.ofRecord record
  let size ← settings.pageSize.toInteger.mapError .pageSizeUnreadable
  let mode ← readMode "page_mode" settings.mode
  Settings.request
    { pageSize := .int size
      header := .text settings.header.asText
      mode := .ofString mode.name
      range := settings.range
      stripComments := .bool settings.stripComments.isSet
      removeBlankLines := .bool settings.removeBlankLines.isSet }

def same (r s : Request) : Bool :=
  r.pageSize == s.pageSize && r.header.same s.header && r.mode == s.mode &&
    r.range.same s.range && r.stripComments.same s.stripComments &&
    r.removeBlankLines.same s.removeBlankLines

def roundTrips (r : Request) : Except RequestError Bool :=
  (ofRecord r.record).map fun back => back.same r

end Request

end Listing
