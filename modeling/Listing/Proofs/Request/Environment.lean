import Listing.Proofs.CommandLine.Header
import Listing.Proofs.Request.Settings
import Listing.Proofs.Text.Lines

/-!
Requests of an environment. Each setting has one origin: the value that is given, else what its
variable says, else its default. The request is the one that the settings of these origins make, and
there is none exactly if a variable that counts cannot be read or if the settings make none. A
variable whose setting is given does not count, so it is not even read.
-/

namespace Listing

/-- Whether an error refuses a value of the right kind, and not its kind or a name. -/
def RequestError.RefusesValue : RequestError → Prop
  | .wrongKind _ => False
  | .unknownSetting _ => False
  | .pageSizeUnreadable (.notNumeric _) => False
  | .pageSizeUnreadable .infinite => False
  | _ => True

/-- Settings of the kinds that are meant to take the place of variables. A mode by itself is given
by its name. -/
structure Overrides.Declared (o : Overrides) : Prop where
  pageSize : o.pageSize = .null ∨ ∃ n, o.pageSize = .int n
  header : o.header = .null ∨ ∃ t, o.header = .text t
  mode : o.mode = .null ∨ ∃ t, o.mode = .text t
  range : o.range = .null ∨ ∃ t, o.range = .text t
  stripComments : ∃ b, o.stripComments = .bool b
  removeBlankLines : ∃ b, o.removeBlankLines = .bool b

abbrev Variables := List (String × Text)

namespace Variables

open Environment

variable (defined : Variables)

def SaysPageSize (v : Value) : Prop :=
  match defined.lookup sizeVariable with
  | none => v = .int 50
  | some t => ∃ n : Int, t.trim.readInteger = .ok n ∧ 1 ≤ n ∧ v = .int n

def SaysMode (v : Value) : Prop :=
  match defined.lookup modeVariable with
  | none => v = .ofString PageMode.all.name
  | some t => ∃ mode, PageMode.read? t.trim = some mode ∧ v = .ofString mode.name

def SaysHeader (v : Value) : Prop := v = .text ((defined.lookup headerVariable).getD [])

def SaysRange (v : Value) : Prop :=
  match defined.lookup rangeVariable with
  | none => v = .null
  | some t => v = if t.isBlank then .null else .text t.trim

theorem exists_saysRange : ∃ v, defined.SaysRange v := by
  unfold SaysRange
  split
  · exact ⟨_, rfl⟩
  · exact ⟨_, rfl⟩

end Variables

/-- A setting with the value that is given for it, or else with one that its variable says. -/
def Value.Settles (given : Value) (Says : Value → Prop) (v : Value) : Prop :=
  (given ≠ .null ∧ v = given) ∨ (given = .null ∧ Says v)

/-- Settings put together from what is given and what variables say. -/
structure Overrides.Merges (o : Overrides) (defined : Variables) (s : Settings) : Prop where
  pageSize : o.pageSize.Settles defined.SaysPageSize s.pageSize
  header : o.header.Settles defined.SaysHeader s.header
  mode : o.mode.Settles defined.SaysMode s.mode
  range : o.range.Settles defined.SaysRange s.range
  stripComments : s.stripComments = o.stripComments
  removeBlankLines : s.removeBlankLines = o.removeBlankLines

theorem Value.exists_settles (given : Value) (Says : Value → Prop) :
    (∃ v, given.Settles Says v) ↔ (given = .null → ∃ v, Says v) := by
  unfold Settles
  by_cases none : given = .null <;> simp [none]

theorem Value.isGiven_iff (v : Value) : v.isGiven = true ↔ v ≠ .null := by
  cases v <;> simp [isGiven]

theorem Value.ite_isGiven_congr {α : Type} (v : Value) (chosen x y : α)
    (same : v = .null → x = y) :
    (if v.isGiven then chosen else x) = if v.isGiven then chosen else y := by
  split_ifs with given
  · rfl
  · rw [isGiven_iff, not_not] at given
    exact same given

namespace Environment

variable (defined : Variables)

theorem trimmed_ofTexts (name : String) (default : Text) :
    (ofTexts defined).trimmed name default = .ok ((defined.lookup name).getD default).trim := by
  unfold trimmed
  rw [lookup_ofTexts]
  cases defined.lookup name <;> rfl

theorem required_eq_ok_iff (name : String) (default t : Text) :
    (ofTexts defined).required name default = .ok t ↔
      ((defined.lookup name).getD default).trim = t ∧ t ≠ [] := by
  rw [required, trimmed_ofTexts, bind_eq_ok_iff]
  constructor
  · rintro ⟨text, same, filled⟩
    obtain rfl := Except.ok.inj same
    split_ifs at filled with empty
    obtain rfl := Except.ok.inj filled
    exact ⟨rfl, empty⟩
  · rintro ⟨rfl, filled⟩
    exact ⟨_, rfl, if_neg filled⟩

theorem pageSize_eq_ok_iff (v : Value) :
    (ofTexts defined).pageSize = .ok v ↔ defined.SaysPageSize v := by
  have read : (ofTexts defined).pageSize = .ok v ↔ ∃ n : Int,
      ((defined.lookup sizeVariable).getD "50".toList).trim.readInteger = .ok n ∧ 1 ≤ n ∧
        v = .int n := by
    rw [pageSize, bind_eq_ok_iff]
    simp only [required_eq_ok_iff]
    constructor
    · rintro ⟨_, ⟨rfl, -⟩, rest⟩
      split at rest
      · cases rest
      · next n integer =>
        split_ifs at rest with small
        exact ⟨n, integer, not_lt.1 small, (Except.ok.inj rest).symm⟩
    · rintro ⟨n, integer, least, rfl⟩
      refine ⟨_, ⟨rfl, fun empty => ?_⟩, ?_⟩
      · rw [empty] at integer
        cases integer
      · rw [integer]
        exact if_neg (not_lt.2 least)
  have fifty : Text.readInteger (Text.trim "50".toList) = .ok 50 := by decide +kernel
  rw [read, Variables.SaysPageSize]
  cases defined.lookup sizeVariable with
  | none =>
    rw [Option.getD_none, fifty]
    simp
  | some t => exact Iff.rfl

theorem map_mode_eq_ok_iff (v : Value) :
    (∃ mode, (ofTexts defined).mode = .ok mode ∧ v = .ofString mode.name) ↔
      defined.SaysMode v := by
  have read (mode : PageMode) : (ofTexts defined).mode = .ok mode ↔
      PageMode.read? ((defined.lookup modeVariable).getD "all".toList).trim = some mode := by
    rw [Environment.mode, bind_eq_ok_iff]
    simp only [required_eq_ok_iff, readMode_eq_ok_iff]
    constructor
    · rintro ⟨_, ⟨rfl, -⟩, named⟩
      exact named
    · intro named
      refine ⟨_, ⟨rfl, fun empty => ?_⟩, named⟩
      rw [empty] at named
      cases named
  have all : PageMode.read? (Text.trim "all".toList) = some .all := by decide +kernel
  simp only [read, Variables.SaysMode]
  cases defined.lookup modeVariable with
  | none =>
    rw [Option.getD_none, all]
    simp
  | some t => exact Iff.rfl

theorem header_ofTexts_eq (v : Value) : (ofTexts defined).header = v ↔ defined.SaysHeader v := by
  rw [Environment.header, lookup_ofTexts, Variables.SaysHeader, eq_comm]
  cases defined.lookup headerVariable <;> exact Iff.rfl

theorem range_eq_ok_iff (v : Value) :
    (ofTexts defined).range = .ok v ↔ defined.SaysRange v := by
  have read : (ofTexts defined).range = .ok
      (if ((defined.lookup rangeVariable).getD []).trim = [] then .null
        else .text ((defined.lookup rangeVariable).getD []).trim) := by
    rw [Environment.range, trimmed_ofTexts]
    rfl
  rw [read, Variables.SaysRange, Except.ok.injEq, eq_comm]
  cases defined.lookup rangeVariable with
  | none => exact Iff.rfl
  | some t => simp only [Option.getD_some, Text.trim_eq_nil_iff]

end Environment

namespace Request

variable (defined : Variables) (o : Overrides)

theorem settles_iff (given v : Value) (read : Except RequestError Value) (Says : Value → Prop)
    (reads : read = .ok v ↔ Says v) :
    (if given.isGiven then .ok given else read) = .ok v ↔ given.Settles Says v := by
  by_cases none : given = .null
  · subst none
    simp [Value.isGiven, Value.Settles, reads]
  · rw [if_pos ((Value.isGiven_iff given).2 none)]
    simp [Value.Settles, none, eq_comm]

theorem settles_mode_iff (mode : PageMode) :
    (if o.mode.isGiven then readMode "page_mode" o.mode
      else (Environment.ofTexts defined).mode) = .ok mode ↔
      ∃ v, o.mode.Settles defined.SaysMode v ∧ PageMode.read? v.asText = some mode := by
  by_cases none : o.mode = .null
  · rw [none]
    simp only [Value.Settles, ne_eq, not_true_eq_false, false_and, false_or, true_and,
      ← Environment.map_mode_eq_ok_iff]
    constructor
    · intro read
      exact ⟨_, ⟨mode, read, rfl⟩, PageMode.read?_name mode⟩
    · rintro ⟨_, ⟨other, read, rfl⟩, named⟩
      obtain rfl := Option.some.inj ((PageMode.read?_name other).symm.trans named)
      exact read
  · rw [if_pos ((Value.isGiven_iff o.mode).2 none), readMode_eq_ok_iff]
    simp [Value.Settles, none]

theorem settles_header_iff (v : Value) : o.header.Settles defined.SaysHeader v ↔
    (if o.header.isGiven then o.header else (Environment.ofTexts defined).header) = v := by
  have reads := settles_iff o.header v (.ok (Environment.ofTexts defined).header)
    defined.SaysHeader (by rw [Except.ok.injEq, Environment.header_ofTexts_eq])
  rw [← reads, ← apply_ite Except.ok, Except.ok.injEq]

/-- The request of an environment is the one that the merged settings make. -/
theorem ofEnvironment_eq_ok_iff (r : Request) :
    ofEnvironment (.ofTexts defined) o = .ok r ↔ ∃ s, o.Merges defined s ∧ s.request = .ok r := by
  have size (v : Value) := settles_iff o.pageSize v _ _ (Environment.pageSize_eq_ok_iff defined v)
  have range (v : Value) := settles_iff o.range v _ _ (Environment.range_eq_ok_iff defined v)
  have header := settles_header_iff defined o
  rw [ofEnvironment_eq]
  generalize (if o.header.isGiven then o.header else (Environment.ofTexts defined).header) = chosen
    at header
  simp only [bind_eq_ok_iff, size, range, settles_mode_iff, Settings.request_eq_ok_iff]
  constructor
  · rintro ⟨v, sized, mode, ⟨w, moded, named⟩, u, ranged, made⟩
    split_ifs at made
    obtain ⟨whole, kept, again, same, strip, remove, isRange⟩ :=
      (Settings.request_eq_ok_iff _ r).1 made
    obtain rfl := Option.some.inj ((PageMode.read?_name mode).symm.trans again)
    exact ⟨⟨v, chosen, w, u, o.stripComments, o.removeBlankLines⟩,
      ⟨sized, (header chosen).2 rfl, moded, ranged, rfl, rfl⟩,
      ⟨whole, kept, named, same, strip, remove, isRange⟩⟩
  · rintro ⟨s, merges, whole, kept, named, same, strip, remove, isRange⟩
    refine ⟨s.pageSize, merges.pageSize, r.mode, ⟨s.mode, merges.mode, named⟩, s.range,
      merges.range, ?_⟩
    rw [if_neg, Settings.request_eq_ok_iff, (header s.header).1 merges.header,
      ← merges.stripComments, ← merges.removeBlankLines]
    · exact ⟨whole, kept, PageMode.read?_name r.mode, same, strip, remove, isRange⟩
    · simp only [Bool.and_eq_true, decide_eq_true_eq, Bool.not_eq_true', not_and,
        Bool.not_eq_false]
      intro custom
      obtain ⟨t, text, -⟩ := isRange custom
      rw [same, text]
      rfl

theorem refusesValue_readMode (setting : String) (v : Value) (e : RequestError)
    (failed : readMode setting v = .error e) : e.RefusesValue := by
  unfold readMode at failed
  split at failed
  · cases failed
  · cases failed
    trivial

theorem refusesValue_checkRange (v : Value) (plain : v = .null ∨ ∃ t, v = .text t)
    (e : RequestError) (failed : checkRange v = .error e) : e.RefusesValue := by
  unfold checkRange at failed
  split_ifs at failed with unset
  · cases failed
    trivial
  · rcases plain with rfl | ⟨t, rfl⟩
    · exact absurd rfl unset
    · dsimp only [Value.textFor] at failed
      split_ifs at failed
      cases failed
      trivial

theorem refusesValue_request (s : Settings) (plain : s.range = .null ∨ ∃ t, s.range = .text t)
    (e : RequestError) (failed : s.request = .error e) : e.RefusesValue := by
  unfold Settings.request at failed
  split at failed
  · rcases (bind_eq_error_iff _ _ _).1 failed with mode | ⟨_, -, rest⟩
    · exact refusesValue_readMode _ _ e mode
    · dsimp only at rest
      split_ifs at rest
      rcases (bind_eq_error_iff _ _ _).1 rest with range | ⟨_, -, made⟩
      · exact refusesValue_checkRange _ plain e range
      · cases made
  · cases failed
    trivial

theorem refusesValue_required (name : String) (default : Text) (e : RequestError)
    (failed : (Environment.ofTexts defined).required name default = .error e) :
    e.RefusesValue := by
  rw [Environment.required, Environment.trimmed_ofTexts] at failed
  rcases (bind_eq_error_iff _ _ _).1 failed with text | ⟨_, -, rest⟩
  · cases text
  · split_ifs at rest
    cases rest
    trivial

theorem refusesValue_pageSize (e : RequestError)
    (failed : (Environment.ofTexts defined).pageSize = .error e) : e.RefusesValue := by
  rcases (bind_eq_error_iff _ _ _).1 failed with text | ⟨t, -, rest⟩
  · exact refusesValue_required defined _ _ e text
  · split at rest
    · cases rest
      trivial
    · split_ifs at rest
      cases rest
      trivial

theorem refusesValue_mode (e : RequestError)
    (failed : (Environment.ofTexts defined).mode = .error e) : e.RefusesValue := by
  rcases (bind_eq_error_iff _ _ _).1 failed with text | ⟨t, -, rest⟩
  · exact refusesValue_required defined _ _ e text
  · exact refusesValue_readMode _ _ e rest

theorem plain_of_settles (declared : o.Declared) (v : Value)
    (settles : o.range.Settles defined.SaysRange v) : v = .null ∨ ∃ t, v = .text t := by
  rcases settles with ⟨-, rfl⟩ | ⟨-, read⟩
  · exact declared.range
  · unfold Variables.SaysRange at read
    split at read
    · exact .inl read
    · rw [read]
      split_ifs
      · exact .inl rfl
      · exact .inr ⟨_, rfl⟩

/-- With settings of their kinds and variables that are texts, nothing but values is refused. -/
theorem refusesValue_ofEnvironment (declared : o.Declared) (e : RequestError)
    (failed : ofEnvironment (.ofTexts defined) o = .error e) : e.RefusesValue := by
  rw [ofEnvironment_eq] at failed
  rcases (bind_eq_error_iff _ _ _).1 failed with size | ⟨_, -, rest⟩
  · split_ifs at size
    exact refusesValue_pageSize defined e size
  rcases (bind_eq_error_iff _ _ _).1 rest with mode | ⟨mode, -, last⟩
  · split_ifs at mode
    · exact refusesValue_readMode _ _ e mode
    · exact refusesValue_mode defined e mode
  rcases (bind_eq_error_iff _ _ _).1 last with range | ⟨v, ranged, made⟩
  · rw [Environment.range, Environment.trimmed_ofTexts] at range
    split_ifs at range
    cases range
  · rw [settles_iff _ _ _ _ (Environment.range_eq_ok_iff defined v)] at ranged
    by_cases missing : (decide (mode = .custom) && !v.isGiven) = true
    · rw [if_pos missing] at made
      cases made
      trivial
    · rw [if_neg missing] at made
      exact refusesValue_request _ (plain_of_settles defined o declared v ranged) e made

end Request

/-- Two environments agree on the variables that count. -/
structure Overrides.Agree (o : Overrides) (env other : Environment) : Prop where
  pageSize : o.pageSize = .null →
    env.lookup Environment.sizeVariable = other.lookup Environment.sizeVariable
  mode : o.mode = .null →
    env.lookup Environment.modeVariable = other.lookup Environment.modeVariable
  header : o.header = .null →
    env.lookup Environment.headerVariable = other.lookup Environment.headerVariable
  range : o.range = .null →
    env.lookup Environment.rangeVariable = other.lookup Environment.rangeVariable

namespace Request

theorem ofEnvironment_congr (o : Overrides) (env other : Environment) (agree : o.Agree env other) :
    ofEnvironment env o = ofEnvironment other o := by
  have size := o.pageSize.ite_isGiven_congr (.ok o.pageSize) env.pageSize other.pageSize
    fun absent => by
      unfold Environment.pageSize Environment.required Environment.trimmed
      rw [agree.pageSize absent]
  have mode := o.mode.ite_isGiven_congr (readMode "page_mode" o.mode) env.mode other.mode
    fun absent => by
      unfold Environment.mode Environment.required Environment.trimmed
      rw [agree.mode absent]
  have range := o.range.ite_isGiven_congr (.ok o.range) env.range other.range
    fun absent => by
      unfold Environment.range Environment.trimmed
      rw [agree.range absent]
  have header := o.header.ite_isGiven_congr o.header env.header other.header
    fun absent => by
      unfold Environment.header
      rw [agree.header absent]
  rw [ofEnvironment_eq, ofEnvironment_eq, size, mode, range, header]

/-- A request comes of an environment of texts exactly if every variable that counts can be read
and the settings that are merged from the given values, the variables and the defaults make that
request. Otherwise a value is refused, and nothing else is. Environments that agree on the variables
that count give the same, be it a request or an error: a variable whose setting is given is not
read. -/
theorem ofEnvironment_merges (o : Overrides) (declared : o.Declared) (defined : Variables) :
    (∀ r, ofEnvironment (.ofTexts defined) o = .ok r ↔
      ∃ s, o.Merges defined s ∧ s.request = .ok r) ∧
    ((∃ s, o.Merges defined s) ↔ (o.pageSize = .null → ∃ v, defined.SaysPageSize v) ∧
      (o.mode = .null → ∃ v, defined.SaysMode v)) ∧
    (∀ e, ofEnvironment (.ofTexts defined) o = .error e → e.RefusesValue) ∧
    ∀ other : Variables, o.Agree (.ofTexts defined) (.ofTexts other) →
      ofEnvironment (.ofTexts other) o = ofEnvironment (.ofTexts defined) o := by
  refine ⟨ofEnvironment_eq_ok_iff defined o, ?_, refusesValue_ofEnvironment defined o declared,
    fun other agree => (ofEnvironment_congr o _ _ agree).symm⟩
  rw [← Value.exists_settles, ← Value.exists_settles]
  constructor
  · rintro ⟨s, merges⟩
    exact ⟨⟨_, merges.pageSize⟩, ⟨_, merges.mode⟩⟩
  · rintro ⟨⟨size, sized⟩, ⟨mode, moded⟩⟩
    obtain ⟨header, headed⟩ := (Value.exists_settles o.header defined.SaysHeader).2
      fun _ => ⟨_, rfl⟩
    obtain ⟨range, ranged⟩ := (Value.exists_settles o.range defined.SaysRange).2
      fun _ => defined.exists_saysRange
    exact ⟨⟨size, header, mode, range, o.stripComments, o.removeBlankLines⟩,
      ⟨sized, headed, moded, ranged, rfl, rfl⟩⟩

/-- The page size is given, so its variable need not be one; the mode is given, and the range that
it needs comes from its variable. -/
theorem ofEnvironment_merges_mixed :
    let defined : Variables := [("CODEDOC_PAGE_SIZE", "many".toList),
      ("CODEDOC_PAGE_MODE", []), ("CODEDOC_PAGE_RANGE", " 2-3 ".toList)]
    let o : Overrides := { pageSize := .int 7, mode := .ofString "Custom" }
    o.Declared ∧ ∃ r, ofEnvironment (.ofTexts defined) o = .ok r ∧ r.pageSize = 7 ∧
      r.range = .ofString "2-3" ∧
      ofEnvironment (.ofTexts [("CODEDOC_PAGE_RANGE", " 2-3 ".toList)]) o = .ok r := by
  intro defined o
  have declared : o.Declared := ⟨.inr ⟨7, rfl⟩, .inl rfl, .inr ⟨_, rfl⟩, .inl rfl, ⟨_, rfl⟩,
    ⟨_, rfl⟩⟩
  obtain ⟨made, -, -, agree⟩ := ofEnvironment_merges o declared defined
  have merges : o.Merges defined ⟨.int 7, .text [], .ofString "Custom", .ofString "2-3",
      .bool true, .bool true⟩ :=
    ⟨.inl ⟨nofun, rfl⟩, .inr ⟨rfl, rfl⟩, .inl ⟨nofun, rfl⟩, .inr ⟨rfl, rfl⟩, rfl, rfl⟩
  have request := (made _).2 ⟨_, merges, rfl⟩
  exact ⟨declared, _, request, rfl, rfl,
    (agree _ ⟨nofun, nofun, fun _ => rfl, fun _ => rfl⟩).trans request⟩

end Request

end Listing
