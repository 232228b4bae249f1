import Listing.Proofs.Generation.Document
import Listing.Proofs.Page.Compaction
import Listing.Proofs.Page.Token

/-!
How a run ends. A run of texts for a valid request stops in two places at most before an assembler
is called: where nothing is left to lay out, and where the page range does not fit the pages there
are. The stages behind check again what cannot be amiss by then.
-/

namespace Listing

theorem rangeText_of_checkRange (range : Value) (checked : checkRange range = .ok ()) :
    rangeText range = .ok range.asText := by
  have text : ∃ t, rangeText range = .ok t := by
    unfold checkRange at checked
    unfold rangeText
    split_ifs at checked ⊢
    cases read : range.textFor "strip" with
    | error fault =>
      rw [read] at checked
      cases checked
    | ok t =>
      rw [read] at checked
      dsimp only at checked ⊢
      split_ifs at checked ⊢
      exact ⟨t, rfl⟩
  obtain ⟨t, read⟩ := text
  rw [read, rangeText_eq_ok range t read]

theorem Settings.rangeText_of_request (settings : Settings) (request : Request)
    (valid : settings.request = .ok request) (custom : request.mode = .custom) :
    rangeText request.range = .ok request.range.asText := by
  apply rangeText_of_checkRange
  unfold Settings.request at valid
  split at valid
  · obtain ⟨mode, read, more⟩ := (bind_eq_ok_iff _ _ _).1 valid
    dsimp only at more
    split_ifs at more with same
    · obtain ⟨_, checked, made⟩ := (bind_eq_ok_iff _ _ _).1 more
      cases made
      exact checked
    · cases more
      exact absurd custom same
  · cases valid

theorem Value.ofString_inj (s t : String) (same : Value.ofString s = .ofString t) : s = t :=
  String.toList_inj.1 (Value.text.inj same)

theorem reason_ne_rangeRequired (fault : RangeFault) (other : fault ≠ .rangeRequired) :
    fault.reason ≠ RangeFault.rangeRequired.reason := by
  cases fault with
  | outOfBounds total =>
    intro same
    have first := congrArg (fun text : String => text.toList.head?) same
    dsimp only [RangeFault.reason] at first
    have page : "page must be between 1 and ".toList.head? = some 'p' := rfl
    rw [String.toList_append, List.head?_append, page, Option.some_or] at first
    cases first
  | rangeRequired => exact absurd rfl other
  | _ => decide

/-- Whether sources come to nothing: there are none, or the text of each is blank. -/
def Request.FindsNothing (r : Request) (sources : List Source) : Prop :=
  sources = [] ∨ ∀ s ∈ sources, ∃ t, s.processed r.switches = .ok (.text t) ∧ t.isBlank = true

def Request.Misfits (r : Request) (total : Nat) : Prop :=
  r.mode = .custom ∧ ∃ token ∈ rangeTokens r.range.asText, Misfit total token

theorem paginate_outcome (content : Text) (r : Request) (solid : content.isBlank = false)
    (text : r.mode = .custom → rangeText r.range = .ok r.range.asText)
    (readable : r.mode = .custom → Readable r.range.asText) :
    (∃ document, paginate content r = .ok document ∧
        ¬r.Misfits (distribute content.lines r.pageSize).total) ∨
      ∃ token fault, paginate content r = .error (.selection (.range (.token token fault))) ∧
        fault ≠ .rangeRequired ∧ r.Misfits (distribute content.lines r.pageSize).total := by
  have filled : ¬(distribute content.lines r.pageSize).total = 0 := by
    rw [total_lines_eq_zero_iff content _ r.pageSize_pos, solid]
    exact Bool.false_ne_true
  rw [paginate_eq, if_neg filled]
  by_cases custom : r.mode = .custom
  · rw [custom, Distribution.select_custom _ _ _ (text custom)]
    rcases pagesOfRange_outcome (distribute content.lines r.pageSize).total _ (readable custom) with
      ⟨pages, read, fits⟩ | ⟨token, fault, failed, other, misfit⟩
    · rw [read]
      refine .inl ⟨_, rfl, ?_⟩
      rintro ⟨_, token, member, misfit⟩
      exact fits token member misfit
    · rw [failed]
      exact .inr ⟨token, fault, rfl, other, custom, misfit⟩
  · obtain ⟨sections, selected⟩ := Distribution.exists_select
      (distribute content.lines r.pageSize) r.mode r.range content.lines custom
    rw [selected]
    exact .inl ⟨_, rfl, fun misfits => custom misfits.1⟩

variable {δ ε : Type} (sources : List Source) (textual : ∀ s ∈ sources, s.Textual) (r : Request)

include textual in
theorem isBlank_summary_iff : (Aggregate.summary r.switches sources).content.isBlank = true ↔
    ∀ s ∈ sources, ∃ t, s.processed r.switches = .ok (.text t) ∧ t.isBlank = true := by
  rw [Aggregate.isBlank_content_iff, Aggregate.pieces_eq_nil_iff sources textual]

include textual in
theorem document_of_findsNothing (nothing : r.FindsNothing sources) :
    ∃ message, (r.document sources : Except (Stop ε) Document) =
        .error (.failed (.emptyInput message)) ∧
      GenerationError.emptyInput message ≠ .noContent := by
  have apart (one other : String) (differ : one ≠ other) :
      GenerationError.emptyInput (.ofString one) ≠ .emptyInput (.ofString other) :=
    fun same => differ (Value.ofString_inj one other (GenerationError.emptyInput.inj same))
  rw [r.document_textual sources textual]
  split_ifs with none blank
  · exact ⟨_, rfl, apart _ _ (by decide)⟩
  · exact ⟨_, rfl, apart _ _ (by decide)⟩
  · exact absurd ((isBlank_summary_iff sources textual r).2 (nothing.resolve_left none)) blank

include textual in
theorem document_of_finds (something : ¬r.FindsNothing sources) :
    (aggregateFor r sources : _ × Except (Stop ε) Aggregate).2 =
        .ok (Aggregate.summary r.switches sources) ∧
      (Aggregate.summary r.switches sources).content.isBlank = false ∧
      (r.document sources : Except (Stop ε) Document) =
        (paginate (Aggregate.summary r.switches sources).content r).mapError
          DocumentError.stop := by
  obtain ⟨some, solid⟩ := not_or.1 something
  rw [← isBlank_summary_iff sources textual r] at solid
  refine ⟨(aggregateFor_eq_ok_iff r sources _).2
    ⟨some, Aggregate.ofSources_textual sources textual _, by simpa using solid⟩,
    by simpa using solid, ?_⟩
  rw [r.document_textual sources textual, if_neg some, if_neg solid]

namespace Request

theorem ofValue_pageSize : PageSize.ofValue (.int r.pageSize) = .ok (.whole r.pageSize) := by
  have pos := r.pageSize_pos
  have less : (Number.finite ((r.pageSize : Int) : Rat)).less (.finite 0) = false :=
    (Number.less_int r.pageSize 0).trans (decide_eq_false (by omega))
  have equals : (Number.finite ((r.pageSize : Int) : Rat)).equals (.finite 0) = false := by
    simp [Number.equals, Number.value?, pos.ne']
  change (if ((Number.finite ((r.pageSize : Int) : Rat)).less (.finite 0) ||
    (Number.finite ((r.pageSize : Int) : Rat)).equals (.finite 0)) = true then _ else _) = _
  rw [less, equals]
  rfl

theorem map_distributeBy_pageSize (lines : List Text) :
    (PageSize.ofValue (.int r.pageSize)).map (distributeBy lines) =
      .ok (distribute lines r.pageSize) := by
  rw [ofValue_pageSize]
  exact congrArg Except.ok (distributeBy_whole lines r.pageSize)

theorem map_layoutBy_pageSize (s : Section) :
    (PageSize.ofValue (.int r.pageSize)).map s.layoutBy = .ok (.ok (s.layout r.pageSize)) := by
  rw [ofValue_pageSize]
  exact congrArg Except.ok (s.layoutBy_whole r.pageSize)

end Request

section Endings

variable (a : Assembler δ ε) (output : Path)

include textual in
theorem generate_of_findsNothing (nothing : r.FindsNothing sources) :
    (∃ message, (generate a sources r output).result = .error (.failed (.emptyInput message)) ∧
        GenerationError.emptyInput message ≠ .noContent) ∧
      handedOver a sources r output = [] ∧ (generate a sources r output).steps = [] := by
  obtain ⟨message, stopped, differs⟩ := document_of_findsNothing (ε := ε) sources textual r nothing
  obtain ⟨ended, _, drawn⟩ := generate_of_error a sources r output _ stopped
  exact ⟨⟨message, ended, differs⟩, handedOver_of_error a sources r output _ stopped, drawn⟩

theorem result_ne_of_ok (document : Document)
    (laid : (r.document sources : Except (Stop ε) Document) = .ok document) :
    (∀ error, (∀ stage message, error ≠ .other stage message) →
        (generate a sources r output).result ≠ .error (.failed error)) ∧
      ∀ missing, (generate a sources r output).result ≠ .error (.pageMissing missing) := by
  obtain ⟨_, _, ended⟩ := generate_of_ok a sources r output document laid
  constructor
  · intro error other same
    rcases ended _ same with ⟨_, assembled⟩ | ⟨reason, rendered⟩
    · cases assembled
    · exact other _ _ (Stop.failed.inj rendered)
  · intro missing same
    rcases ended _ same with ⟨_, assembled⟩ | ⟨_, rendered⟩
    · cases assembled
    · cases rendered

include textual in
theorem generate_of_finds (something : ¬r.FindsNothing sources)
    (text : r.mode = .custom → rangeText r.range = .ok r.range.asText)
    (readable : r.mode = .custom → Readable r.range.asText) :
    ∃ joined pages, (aggregateFor r sources : _ × Except (Stop ε) Aggregate).2 = .ok joined ∧
      pages = (contentOf joined.content.lines).length ⌈/⌉ r.pageSize ∧ 1 ≤ pages ∧
      (r.Misfits pages →
        (∃ token fault, fault ≠ RangeFault.rangeRequired ∧ (generate a sources r output).result =
          .error (.failed (.pageRange (.text token) (.ofString fault.reason)))) ∧
        handedOver a sources r output = [] ∧ (generate a sources r output).steps = []) ∧
      (¬r.Misfits pages → ∃ document, paginate joined.content r = .ok document ∧
        (r.document sources : Except (Stop ε) Document) = .ok document ∧
        handedOver a sources r output = [(document, output)] ∧
        (generate a sources r output).steps = (a.assemble document output).steps) := by
  obtain ⟨aggregated, solid, laid⟩ := document_of_finds (ε := ε) sources textual r something
  have count := total_distribute (Aggregate.summary r.switches sources).content.lines r.pageSize
    r.pageSize_pos
  have filled : 0 < (distribute (Aggregate.summary r.switches sources).content.lines
      r.pageSize).total := by
    rw [Nat.pos_iff_ne_zero, ne_eq, total_lines_eq_zero_iff _ _ r.pageSize_pos, solid]
    exact Bool.false_ne_true
  refine ⟨_, _, aggregated, count, filled, ?_⟩
  rcases paginate_outcome _ r solid text readable with
    ⟨document, paginated, fits⟩ | ⟨token, fault, failed, other, misfits⟩
  · rw [paginated] at laid
    refine ⟨fun misfits => absurd misfits fits, fun _ => ⟨document, paginated, laid, ?_, ?_⟩⟩
    · exact handedOver_of_ok a sources r output document laid
    · exact (generate_of_ok a sources r output document laid).2.1
  · rw [failed] at laid
    obtain ⟨ended, _, drawn⟩ := generate_of_error a sources r output _ laid
    refine ⟨fun _ => ⟨⟨token, fault, other, ended⟩, ?_, drawn⟩, fun fits => absurd misfits fits⟩
    exact handedOver_of_error a sources r output _ laid

end Endings

/-- How a run of texts for a valid request ends, if the numbers of its range can be read. Sources
that come to nothing are reported as empty. Of others the joined text fills at least one page, and
the range is reported exactly if it is asked for and one of its tokens does not fit the pages there
are. Before such a report no assembler is called; otherwise it is called once, with the document of
the joined text. What the later stages refuse never arises: no text without lines, no range left
out, no page that is missing and no page size that is not positive. -/
theorem generate_classified (a : Assembler δ ε) (sources : List Source) (output : Path)
    (settings : Settings) (request : Request) (textual : ∀ s ∈ sources, s.Textual)
    (valid : settings.request = .ok request)
    (readable : request.mode = .custom → Readable request.range.asText) :
    let run := generate a sources request output
    let handed := handedOver a sources request output
    ((∃ message, run.result = .error (.failed (.emptyInput message))) ↔
        request.FindsNothing sources) ∧
      (request.FindsNothing sources → handed = [] ∧ run.steps = []) ∧
      (¬request.FindsNothing sources → ∃ joined pages,
        (aggregateFor request sources : _ × Except (Stop ε) Aggregate).2 = .ok joined ∧
        pages = (contentOf joined.content.lines).length ⌈/⌉ request.pageSize ∧ 1 ≤ pages ∧
        ((∃ token reason, run.result = .error (.failed (.pageRange token reason))) ↔
          request.Misfits pages) ∧
        (request.Misfits pages → handed = [] ∧ run.steps = []) ∧
        (¬request.Misfits pages → ∃ document, paginate joined.content request = .ok document ∧
          handed = [(document, output)] ∧ run.steps = (a.assemble document output).steps)) ∧
      run.result ≠ .error (.failed .noContent) ∧
      (∀ token, run.result ≠
        .error (.failed (.pageRange token (.ofString RangeFault.rangeRequired.reason)))) ∧
      (∀ missing, run.result ≠ .error (.pageMissing missing)) ∧
      (∀ lines, (PageSize.ofValue (.int request.pageSize)).map (distributeBy lines) =
        .ok (distribute lines request.pageSize)) ∧
      ∀ s : Section, (PageSize.ofValue (.int request.pageSize)).map s.layoutBy =
        .ok (.ok (s.layout request.pageSize)) := by
  intro run handed
  have sized := And.intro request.map_distributeBy_pageSize request.map_layoutBy_pageSize
  by_cases nothing : request.FindsNothing sources
  · obtain ⟨⟨message, ended, differs⟩, untouched⟩ :=
      generate_of_findsNothing sources textual request a output nothing
    refine ⟨iff_of_true ⟨message, ended⟩ nothing, fun _ => untouched,
      fun something => absurd nothing something, ?_, ?_, ?_, sized⟩
    · intro same
      exact differs (Stop.failed.inj (Except.error.inj (ended.symm.trans same)))
    · intro token same
      cases ended.symm.trans same
    · intro missing same
      cases ended.symm.trans same
  obtain ⟨joined, pages, aggregated, count, filled, refused, laid⟩ := generate_of_finds sources
    textual request a output nothing (settings.rangeText_of_request request valid) readable
  by_cases misfits : request.Misfits pages
  · obtain ⟨⟨token, fault, other, ended⟩, untouched⟩ := refused misfits
    refine ⟨iff_of_false ?_ nothing, fun absent => absurd absent nothing,
      fun _ => ⟨joined, pages, aggregated, count, filled, iff_of_true ⟨_, _, ended⟩ misfits,
        fun _ => untouched, fun fits => absurd misfits fits⟩, ?_, ?_, ?_, sized⟩
    · rintro ⟨message, empty⟩
      cases ended.symm.trans empty
    · intro empty
      cases ended.symm.trans empty
    · intro told same
      have stops := Stop.failed.inj (Except.error.inj (ended.symm.trans same))
      have reasons := Value.ofString_inj _ _ (GenerationError.pageRange.inj stops).2
      exact reason_ne_rangeRequired fault other reasons
    · intro missing same
      cases ended.symm.trans same
  · obtain ⟨document, paginated, whole, once⟩ := laid misfits
    obtain ⟨unfailed, found⟩ := result_ne_of_ok sources request a output document whole
    refine ⟨iff_of_false ?_ nothing, fun absent => absurd absent nothing,
      fun _ => ⟨joined, pages, aggregated, count, filled, iff_of_false ?_ misfits,
        fun unfit => absurd unfit misfits, fun _ => ⟨document, paginated, once⟩⟩,
      unfailed .noContent nofun, fun _ => unfailed _ nofun, found, sized⟩
    · rintro ⟨message, empty⟩
      exact unfailed (.emptyInput message) nofun empty
    · rintro ⟨token, reason, unread⟩
      exact unfailed (.pageRange token reason) nofun unread

/-- Three pages, and a range whose second token reaches beyond them. -/
theorem generate_classified_beyond :
    let settings : Settings :=
      { pageSize := .int 2, mode := .ofString PageMode.custom.name, range := .ofString "1, 2 -9" }
    let request : Request :=
      { pageSize := 2, header := .text [], mode := .custom, range := .ofString "1, 2 -9"
        stripComments := .bool true, removeBlankLines := .bool true, pageSize_pos := Nat.two_pos }
    let sources : List Source := [⟨.int 1, .text [], .text "a\nb\n\nc\nd\ne".toList⟩]
    let assembler : Assembler Unit Empty := ⟨fun _ _ => ⟨[()], [], .ok []⟩, nofun⟩
    (∀ s ∈ sources, s.Textual) ∧ settings.request = .ok request ∧
      Readable request.range.asText ∧
      (∃ token reason, (generate assembler sources request ⟨0, []⟩).result =
        .error (.failed (.pageRange token reason))) ∧
      handedOver assembler sources request ⟨0, []⟩ = [] := by
  intro settings request sources assembler
  have textual : ∀ s ∈ sources, s.Textual := by
    rw [List.forall_mem_singleton]
    exact ⟨⟨_, rfl⟩, _, rfl⟩
  have valid : settings.request = .ok request := by
    have custom : PageMode.read? (Value.ofString PageMode.custom.name).asText = some .custom :=
      PageMode.read?_name .custom
    have mode : readMode "page_mode" (.ofString PageMode.custom.name) = .ok .custom := by
      rw [readMode, custom]
    change (readMode "page_mode" (.ofString PageMode.custom.name) >>= _) = _
    rw [mode]
    rfl
  have readable : Readable request.range.asText := fun digits inside _ =>
    inside.length_le.trans (by decide)
  have classified := generate_classified assembler sources ⟨0, []⟩ settings request textual
    valid fun _ => readable
  have something : ¬request.FindsNothing sources := by
    rintro (none | blank)
    · exact List.cons_ne_nil _ _ none
    · obtain ⟨t, work, white⟩ := blank _ List.mem_cons_self
      have text : (⟨.int 1, .text [], .text "a\nb\n\nc\nd\ne".toList⟩ : Source).processed
          request.switches = .ok (.text "a\nb\nc\nd\ne".toList) := rfl
      rw [text] at work
      cases work
      cases white
  obtain ⟨joined, pages, aggregated, count, _, refused, uncalled, _⟩ := classified.2.2.1 something
  have misfit : Misfit 3 "2 -9".toList := by
    have spelled : (RangeToken.range ['2'] ['9']).Spells "2 -9".toList :=
      (RangeToken.ofText?_eq_some_iff ..).1 rfl
    exact .outside spelled (List.mem_cons_of_mem _ List.mem_cons_self) (by decide)
  have three : pages = 3 := by
    cases aggregated
    exact count.trans (Nat.ceilDiv_eq_add_pred_div 5 2)
  rw [three] at refused uncalled
  have misfits : request.Misfits 3 := ⟨rfl, _, by decide, misfit⟩
  exact ⟨textual, valid, readable, refused.2 misfits, (uncalled misfits).1⟩

end Listing
