import Listing.CommandLine.Run
import Listing.Proofs.Except
import Listing.Proofs.Sheet.Delivery

/-!
The header of a command. Whatever stands on an accepted command line, and whatever the environment
holds, the header of the request is a text or nothing, so it can be drawn.
-/

namespace Listing

namespace Parsing

def KeepsHeader (p : Parsing) : Prop := p.arguments.header = .null ∨ p.arguments.header.IsHeader

variable {p q : Parsing}

theorem KeepsHeader.takeValue (keeps : p.KeepsHeader) (o : OptionName) (texts : List Text)
    (taken : p.takeValue o texts = .ok q) : q.KeepsHeader := by
  unfold Parsing.takeValue at taken
  cases read : readTexts o texts with
  | error e =>
    rw [read] at taken
    cases taken
  | ok value =>
    rw [read] at taken
    cases taken
    cases o with
    | header =>
      right
      unfold readTexts at read
      split at read
      · next t =>
        cases read
        exact .inl ⟨t, rfl⟩
      · cases read
        exact .inr rfl
    | _ => exact keeps

theorem KeepsHeader.takeSwitch (keeps : p.KeepsHeader) (o : OptionName)
    (taken : p.takeSwitch o = .ok q) : q.KeepsHeader := by
  unfold Parsing.takeSwitch at taken
  split at taken
  · cases taken
    exact keeps
  · cases taken
    exact keeps
  · cases taken

theorem KeepsHeader.map_leave {run : Except UsageStop Parsing} (words : List Text)
    (keeps : ∀ r, run = .ok r → r.KeepsHeader)
    (taken : run.map (fun p => p.leave words) = .ok q) : q.KeepsHeader := by
  cases run with
  | error e => cases taken
  | ok r =>
    cases taken
    exact keeps r rfl

theorem KeepsHeader.take (keeps : p.KeepsHeader) (word : Head × List Text)
    (taken : p.take word = .ok q) : q.KeepsHeader := by
  obtain ⟨head, values⟩ := word
  cases head with
  | option o attached =>
    cases attached with
    | some t =>
      apply KeepsHeader.map_leave values _ taken
      intro r more
      unfold Parsing.takeAttached at more
      split at more
      · cases more
      · exact keeps.takeValue o _ more
      · cases more
        exact keeps
    | none =>
      change p.takeFollowing o values = .ok q at taken
      unfold Parsing.takeFollowing at taken
      split at taken
      · exact KeepsHeader.map_leave _ (fun r more => keeps.takeSwitch o more) taken
      · exact KeepsHeader.map_leave _ (fun r more => keeps.takeValue o _ more) taken
      · cases taken
        exact keeps
      · cases taken
  | shortHelp rest => cases taken
  | mark =>
    cases taken
    exact keeps
  | unknown word =>
    cases taken
    exact keeps

theorem KeepsHeader.foldlM (words : List (Head × List Text)) (keeps : p.KeepsHeader)
    (taken : words.foldlM Parsing.take p = .ok q) : q.KeepsHeader := by
  induction words generalizing p with
  | nil =>
    cases taken
    exact keeps
  | cons word rest ih =>
    rw [List.foldlM_cons, bind_eq_ok_iff] at taken
    obtain ⟨r, first, later⟩ := taken
    exact ih (keeps.take word first) later

end Parsing

/-- The environment of a process: every variable is a text. -/
def Environment.ofTexts (defined : List (String × Text)) : Environment :=
  defined.map fun entry => (entry.1, .text entry.2)

theorem Environment.lookup_ofTexts (defined : List (String × Text)) (name : String) :
    (Environment.ofTexts defined).lookup name = (defined.lookup name).map .text := by
  induction defined with
  | nil => rfl
  | cons entry rest ih =>
    change ((entry.1, Value.text entry.2) :: Environment.ofTexts rest).lookup name = _
    rw [List.lookup_cons, List.lookup_cons]
    split
    · rfl
    · exact ih

theorem Request.ofEnvironment_eq (env : Environment) (overrides : Overrides) :
    Request.ofEnvironment env overrides = (do
      let pageSize ← (if overrides.pageSize.isGiven then .ok overrides.pageSize else env.pageSize)
      let mode ← (if overrides.mode.isGiven then readMode "page_mode" overrides.mode else env.mode)
      let range ← (if overrides.range.isGiven then .ok overrides.range else env.range)
      if mode = .custom && !range.isGiven then .error .rangeVariableRequired
      else
        Settings.request
          { pageSize
            header := if overrides.header.isGiven then overrides.header else env.header
            mode := .ofString mode.name
            range
            stripComments := overrides.stripComments
            removeBlankLines := overrides.removeBlankLines }) := by
  unfold Request.ofEnvironment
  split_ifs <;> rfl

end Listing
