import Listing.Proofs.Request.Settings

/-!
Requests and their records. Reading a record brings the page size, the header and the switches to
the kinds that they have in a request and passes the range on. Each of these readings leaves alone
what it has made, so a request that was read once, or that was made from values of these kinds,
comes back from its own record as it is.
-/

namespace Listing

/-- Settings of the kinds that they are meant to have. A mode is a text that names one; a mode by
itself is given by its name. -/
structure Settings.Declared (s : Settings) : Prop where
  pageSize : ∃ n, s.pageSize = .int n
  header : ∃ t, s.header = .text t
  mode : ∃ t, s.mode = .text t
  range : s.range = .null ∨ ∃ t, s.range = .text t
  stripComments : ∃ b, s.stripComments = .bool b
  removeBlankLines : ∃ b, s.removeBlankLines = .bool b

namespace Request

/-- A request that its record tells in full. -/
structure Plain (r : Request) : Prop where
  header : ∃ t, r.header = .text t
  stripComments : ∃ b, r.stripComments = .bool b
  removeBlankLines : ∃ b, r.removeBlankLines = .bool b
  isRange : r.mode = .custom → r.range.IsRange

/-- What the settings of a record are read as. -/
structure ReadFrom (s : Settings) (r : Request) : Prop where
  pageSize : s.pageSize.toInteger = .ok r.pageSize
  header : .text s.header.asText = r.header
  mode : PageMode.read? s.mode.asText = some r.mode
  range : s.range = r.range
  stripComments : .bool s.stripComments.isSet = r.stripComments
  removeBlankLines : .bool s.removeBlankLines.isSet = r.removeBlankLines
  isRange : r.mode = .custom → r.range.IsRange

theorem checkRecord_eq_ok_iff (record : Value) :
    checkRecord record = .ok () ↔ ∃ entries, record = .object entries := by
  cases record <;> simp [checkRecord]

theorem read?_ofString_name (mode : PageMode) :
    PageMode.read? (Value.ofString mode.name).asText = some mode := PageMode.read?_name mode

theorem ofRecord_eq_ok_iff (record : Value) (r : Request) :
    ofRecord record = .ok r ↔
      (∃ entries, record = .object entries) ∧ ReadFrom (Settings.ofRecord record) r := by
  simp only [ofRecord, bind_eq_ok_iff, mapError_eq_ok_iff, readMode_eq_ok_iff,
    Settings.request_eq_ok_iff]
  constructor
  · rintro ⟨_, isRecord, size, read, mode, named, makes⟩
    obtain ⟨whole, header, again, range, strip, remove, isRange⟩ := makes
    obtain rfl : mode = r.mode := Option.some.inj ((read?_ofString_name mode).symm.trans again)
    obtain rfl : size = r.pageSize := Value.int.inj whole
    exact ⟨(checkRecord_eq_ok_iff record).1 isRecord, read, header, named, range, strip, remove,
      isRange⟩
  · rintro ⟨isRecord, read, header, named, range, strip, remove, isRange⟩
    exact ⟨(), (checkRecord_eq_ok_iff record).2 isRecord, r.pageSize, read, r.mode, named,
      rfl, header, read?_ofString_name r.mode, range, strip, remove, isRange⟩

theorem ofRecord_record_settings (r : Request) : Settings.ofRecord r.record =
    { pageSize := .int r.pageSize
      header := r.header
      mode := .ofString r.mode.name
      range := r.range
      stripComments := r.stripComments
      removeBlankLines := r.removeBlankLines } := rfl

theorem ofRecord_record (r : Request) (plain : r.Plain) : ofRecord r.record = .ok r := by
  obtain ⟨⟨header, text⟩, ⟨strip, switch⟩, ⟨remove, other⟩, isRange⟩ := plain
  rw [ofRecord_eq_ok_iff, ofRecord_record_settings]
  refine ⟨⟨_, rfl⟩, rfl, ?_, read?_ofString_name r.mode, rfl, ?_, ?_, isRange⟩
  · rw [text]
    rfl
  · rw [switch]
    rfl
  · rw [other]
    rfl

theorem ReadFrom.plain {s : Settings} {r : Request} (read : ReadFrom s r) : r.Plain where
  header := ⟨_, read.header.symm⟩
  stripComments := ⟨_, read.stripComments.symm⟩
  removeBlankLines := ⟨_, read.removeBlankLines.symm⟩
  isRange := read.isRange

theorem plain_of_declared (s : Settings) (r : Request) (declared : s.Declared)
    (makes : s.Makes r) : r.Plain where
  header := makes.header ▸ declared.header
  stripComments := makes.stripComments ▸ declared.stripComments
  removeBlankLines := makes.removeBlankLines ▸ declared.removeBlankLines
  isRange := makes.isRange

/-- A request that was read from a record, whatever values the record holds, and a request that was
made from settings of the kinds they are meant to have, is read from its own record as it is. Its
page size is the integer that was given, and it is positive; with the custom mode it has a range
that is not blank. -/
theorem record_reads_back :
    (∀ payload r, ofRecord payload = .ok r →
      ofRecord r.record = .ok r ∧
        ((Settings.ofRecord payload).pageSize.toInteger = .ok r.pageSize ∧ 0 < r.pageSize) ∧
        (r.mode = .custom → ∃ t, r.range = .text t ∧ t.isBlank = false)) ∧
    ∀ (s : Settings) (r : Request), s.Declared → s.request = .ok r →
      ofRecord r.record = .ok r ∧
        (s.pageSize = .int r.pageSize ∧ 0 < r.pageSize) ∧
        (r.mode = .custom → ∃ t, r.range = .text t ∧ t.isBlank = false) := by
  constructor
  · intro payload r made
    have read := ((ofRecord_eq_ok_iff payload r).1 made).2
    exact ⟨r.ofRecord_record read.plain, ⟨read.pageSize, r.pageSize_pos⟩, read.isRange⟩
  · intro s r declared made
    have makes := (s.request_eq_ok_iff r).1 made
    exact ⟨r.ofRecord_record (plain_of_declared s r declared makes),
      ⟨makes.pageSize, r.pageSize_pos⟩, makes.isRange⟩

/-- A record of values that all change their kind, and settings with a mode in capitals. -/
theorem record_reads_back_custom :
    (∃ r, ofRecord (.record [("page_size", .ofString " 7 "), ("header_text", .int 3),
          ("page_mode", .ofString " Custom\n"), ("custom_page_spec", .ofString "1-2"),
          ("strip_comments", .list [])]) = .ok r ∧
        r.mode = .custom ∧ r.header = .text ['3'] ∧ ofRecord r.record = .ok r) ∧
      ∃ r, Settings.request { mode := .ofString "PARTIAL", range := .ofString " " } = .ok r ∧
        r.mode = .partialEdges ∧ ofRecord r.record = .ok r := by
  have read : ofRecord (.record [("page_size", .ofString " 7 "), ("header_text", .int 3),
      ("page_mode", .ofString " Custom\n"), ("custom_page_spec", .ofString "1-2"),
      ("strip_comments", .list [])]) = .ok _ := rfl
  have made : Settings.request { mode := .ofString "PARTIAL", range := .ofString " " } = .ok _ :=
    rfl
  have declared : Settings.Declared { mode := .ofString "PARTIAL", range := .ofString " " } :=
    ⟨⟨_, rfl⟩, ⟨_, rfl⟩, ⟨_, rfl⟩, .inr ⟨_, rfl⟩, ⟨_, rfl⟩, ⟨_, rfl⟩⟩
  exact ⟨⟨_, read, rfl, rfl, (record_reads_back.1 _ _ read).1⟩,
    ⟨_, made, rfl, (record_reads_back.2 _ _ declared made).1⟩⟩

end Request

end Listing
