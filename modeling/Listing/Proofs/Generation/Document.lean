import Listing.Generation
import Listing.Proofs.Aggregate.Textual
import Listing.Proofs.Except

/-!
What a run of sources is about to write. Joining and laying out give a document or a reason to stop,
before an assembler comes in; a run with a document hands it over once, and a run without one hands
nothing over.
-/

namespace Listing

variable {δ ε : Type}

def Request.document (r : Request) (sources : List Source) : Except (Stop ε) Document := do
  let joined ← (aggregateFor r sources).2
  (paginate joined.content r).mapError DocumentError.stop

theorem aggregateFor_eq_ok_iff (r : Request) (sources : List Source) (joined : Aggregate) :
    (aggregateFor r sources : _ × Except (Stop ε) Aggregate).2 = .ok joined ↔
      sources ≠ [] ∧ Aggregate.ofSources r.switches sources = .ok joined ∧
        joined.content.isBlank = false := by
  unfold aggregateFor
  split_ifs with none
  · simp [none]
  · cases Aggregate.ofSources r.switches sources with
    | error stopped => simp
    | ok a =>
      dsimp only
      split_ifs with blank
      · constructor
        · intro failed
          cases failed
        · rintro ⟨_, same, solid⟩
          cases same
          exact absurd blank (by simp [solid])
      · constructor
        · rintro ⟨⟩
          exact ⟨none, rfl, by simpa using blank⟩
        · rintro ⟨_, same, _⟩
          cases same
          rfl

theorem Request.document_textual (r : Request) (sources : List Source)
    (textual : ∀ s ∈ sources, s.Textual) :
    (r.document sources : Except (Stop ε) Document) =
      if sources = [] then .error (.failed .noSources)
      else if (Aggregate.summary r.switches sources).content.isBlank then
        .error (.failed .allEmpty)
      else
        (paginate (Aggregate.summary r.switches sources).content r).mapError
          DocumentError.stop := by
  unfold document aggregateFor
  rw [Aggregate.ofSources_textual sources textual]
  split_ifs with none blank
  · rfl
  · dsimp only
    rw [if_pos blank]
    rfl
  · dsimp only
    rw [if_neg blank]
    rfl

/-- An assembler that writes down what it is handed, and ends as another one does. -/
def Assembler.recording (a : Assembler δ ε) : Assembler (Document × Path) ε where
  assemble document output :=
    ⟨[(document, output)], (a.assemble document output).notices,
      (a.assemble document output).result⟩
  reported := a.reported

/-- The documents that a run hands to an assembler, each with its path. -/
def handedOver (a : Assembler δ ε) (sources : List Source) (r : Request) (output : Path) :
    List (Document × Path) := (generate a.recording sources r output).steps

variable (a : Assembler δ ε) (sources : List Source) (r : Request) (output : Path)

theorem generate_of_error (stop : Stop ε) (failed : r.document sources = .error stop) :
    (generate a sources r output).result = .error stop ∧
      (generate a sources r output).document = none ∧ (generate a sources r output).steps = [] := by
  unfold Request.document at failed
  unfold generate
  generalize (aggregateFor r sources : _ × Except (Stop ε) Aggregate) = run at failed ⊢
  obtain ⟨notices, joined | joined⟩ := run
  · cases failed
    exact ⟨rfl, rfl, rfl⟩
  · change (paginate joined.content r).mapError DocumentError.stop = .error stop at failed
    dsimp only
    unfold listAggregate
    cases laid : paginate joined.content r with
    | ok document =>
      rw [laid] at failed
      cases failed
    | error e =>
      rw [laid] at failed
      cases failed
      exact ⟨rfl, rfl, rfl⟩

theorem generate_of_document (document : Document)
    (laid : (r.document sources : Except (Stop ε) Document) = .ok document) :
    (generate a sources r output).document = some document ∧
      (generate a sources r output).steps = (a.assemble document output).steps ∧
      ∃ joined, (generate a sources r output).result =
        match (a.assemble document output).result with
        | .ok path => .ok (reportOf joined document path)
        | .error error =>
          match a.reported error with
          | some reason => .error (.failed (.rendering reason))
          | none => .error (.assembler error) := by
  obtain ⟨joined, aggregated, paginated⟩ := (bind_eq_ok_iff _ _ _).1 laid
  rw [mapError_eq_ok_iff] at paginated
  unfold generate
  generalize (aggregateFor r sources : _ × Except (Stop ε) Aggregate) = run at aggregated ⊢
  obtain ⟨notices, result⟩ := run
  cases aggregated
  dsimp only
  unfold listAggregate
  rw [paginated]
  exact ⟨rfl, rfl, joined, rfl⟩

theorem generate_of_ok (document : Document)
    (laid : (r.document sources : Except (Stop ε) Document) = .ok document) :
    (generate a sources r output).document = some document ∧
      (generate a sources r output).steps = (a.assemble document output).steps ∧
      ∀ stop, (generate a sources r output).result = .error stop →
        (∃ error, stop = .assembler error) ∨ ∃ reason, stop = .failed (.rendering reason) := by
  obtain ⟨kept, steps, joined, result⟩ := generate_of_document a sources r output document laid
  refine ⟨kept, steps, fun stop stopped => ?_⟩
  rw [result] at stopped
  split at stopped
  · cases stopped
  · split at stopped
    · cases stopped
      exact Or.inr ⟨_, rfl⟩
    · cases stopped
      exact Or.inl ⟨_, rfl⟩

theorem handedOver_of_error (stop : Stop ε) (failed : r.document sources = .error stop) :
    handedOver a sources r output = [] :=
  (generate_of_error a.recording sources r output stop failed).2.2

theorem handedOver_of_ok (document : Document)
    (laid : (r.document sources : Except (Stop ε) Document) = .ok document) :
    handedOver a sources r output = [(document, output)] :=
  (generate_of_ok a.recording sources r output document laid).2.1

end Listing
