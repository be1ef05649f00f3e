import Stencil.Failure
import Stencil.Proofs.Text.Infix

namespace Stencil.Failure

open Text (Occurs joinWith)

/-- Which causes are told after the messages of `told`: those that do not occur in the text of the
messages before them. -/
inductive Told : (told causes kept : List String) → Prop where
  | nothing {told : List String} : Told told [] []
  | repeated {told causes kept : List String} {cause : String} :
      Occurs cause (joinWith ": " told) → Told told causes kept → Told told (cause :: causes) kept
  | added {told causes kept : List String} {cause : String} :
      ¬Occurs cause (joinWith ": " told) → Told (told ++ [cause]) causes kept →
      Told told (cause :: causes) (cause :: kept)

variable {message cause text : String} {told causes kept : List String}

theorem addCause_occurring (occurs : Occurs cause text) : addCause text cause = text :=
  if_pos (Text.contains_iff.mpr occurs)

theorem addCause_new (new : ¬Occurs cause text) :
    addCause text cause = text ++ ": " ++ cause :=
  if_neg (mt Text.contains_iff.mp new)

theorem addCause_grows (text cause : String) : ∃ more, addCause text cause = text ++ more := by
  by_cases occurs : Occurs cause text
  · exact ⟨"", by rw [addCause_occurring occurs, String.append_empty]⟩
  · exact ⟨": " ++ cause, by rw [addCause_new occurs, String.append_assoc]⟩

theorem occurs_addCause (text cause : String) : Occurs cause (addCause text cause) := by
  by_cases occurs : Occurs cause text
  · rwa [addCause_occurring occurs]
  · rw [addCause_new occurs]
    exact Text.occurs_append _ _

theorem report_cons (message cause : String) (causes : List String) :
    report message (cause :: causes) = report (addCause message cause) causes :=
  rfl

theorem report_grows (message : String) (causes : List String) :
    ∃ more, report message causes = message ++ more := by
  induction causes generalizing message with
  | nil => exact ⟨"", String.append_empty.symm⟩
  | cons cause causes ih =>
    obtain ⟨more, first⟩ := addCause_grows message cause
    obtain ⟨others, rest⟩ := ih (addCause message cause)
    refine ⟨more ++ others, ?_⟩
    rw [report_cons, rest, first, String.append_assoc]

theorem report_concat (message : String) (causes : List String) (cause : String) :
    report message (causes ++ [cause]) = addCause (report message causes) cause :=
  List.foldl_append

theorem occurs_report {part : String} (member : part ∈ message :: causes) :
    Occurs part (report message causes) := by
  induction causes generalizing message with
  | nil =>
    obtain rfl := List.mem_singleton.mp member
    exact .refl part
  | cons cause causes ih =>
    have told : ∀ {early : String}, Occurs early (addCause message cause) →
        Occurs early (report message (cause :: causes)) := by
      intro early occurs
      obtain ⟨more, grown⟩ := report_grows (addCause message cause) causes
      rw [report_cons, grown]
      exact occurs.append more
    rcases List.mem_cons.mp member with rfl | later
    · obtain ⟨more, grown⟩ := addCause_grows part cause
      exact told (grown ▸ (Occurs.refl part).append more)
    · rcases List.mem_cons.mp later with rfl | behind
      · exact told (occurs_addCause message part)
      · exact ih (List.mem_cons_of_mem _ behind)

theorem report_of_occurs (all : ∀ cause ∈ causes, Occurs cause message) :
    report message causes = message := by
  induction causes with
  | nil => rfl
  | cons cause causes ih =>
    obtain ⟨first, rest⟩ := List.forall_mem_cons.mp all
    rw [report_cons, addCause_occurring first, ih rest]

theorem exists_told (told causes : List String) :
    ∃ kept, Told told causes kept ∧ kept.Sublist causes := by
  induction causes generalizing told with
  | nil => exact ⟨[], .nothing, .slnil⟩
  | cons cause causes ih =>
    by_cases occurs : Occurs cause (joinWith ": " told)
    · obtain ⟨kept, rest, among⟩ := ih told
      exact ⟨kept, .repeated occurs rest, among.cons cause⟩
    · obtain ⟨kept, rest, among⟩ := ih (told ++ [cause])
      exact ⟨cause :: kept, .added occurs rest, among.cons_cons cause⟩

theorem Told.report (tells : Told told causes kept) (some : told ≠ []) :
    Failure.report (joinWith ": " told) causes = joinWith ": " (told ++ kept) := by
  induction tells with
  | nothing => rw [List.append_nil]; rfl
  | repeated occurs _ ih =>
    rw [report_cons, addCause_occurring occurs]
    exact ih some
  | @added told causes kept cause new _ ih =>
    have rest := ih (List.append_ne_nil_of_left_ne_nil some _)
    rw [Text.joinWith_concat some, List.append_assoc] at rest
    rw [report_cons, addCause_new new]
    exact rest

/-- A report begins with the message and has every cause in it. It is the message and the causes
that are told, joined in order; what it has already adds nothing to it, and put in front of what it
was made from it comes out as it was. -/
theorem report_tells (message : String) (causes : List String) :
    let text := report message causes
    (∃ more, text = message ++ more) ∧
    (∀ part ∈ message :: causes, Occurs part text) ∧
    (∃ kept, Told [message] causes kept ∧ kept.Sublist causes ∧
      text = joinWith ": " (message :: kept)) ∧
    (∀ part, Occurs part text → report message (causes ++ [part]) = text) ∧
    report text (message :: causes) = text := by
  intro text
  have all : ∀ part ∈ message :: causes, Occurs part text := fun _ => occurs_report
  refine ⟨report_grows message causes, all, ?_, fun part occurs => ?_, report_of_occurs all⟩
  · obtain ⟨kept, tells, among⟩ := exists_told [message] causes
    have joined := tells.report (List.cons_ne_nil message [])
    rw [joinWith, String.intercalate_singleton] at joined
    exact ⟨kept, tells, among, joined⟩
  · rw [report_concat]
    exact addCause_occurring occurs

example : report "a" ["b", "a: b", "c"] = "a: b: c" := by decide +kernel

end Stencil.Failure
