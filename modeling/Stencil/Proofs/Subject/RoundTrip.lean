import Stencil.Proofs.Json.Printing
import Stencil.Proofs.Subject.Accepts

namespace Stencil.Subject

open Json

theorem exact_members (s : Subject) : Value.ExactMembers s.members :=
  ⟨trivial, exact_ofStrings s.annotations, trivial⟩

theorem describes_members (s : Subject) : Describes s.members s :=
  ⟨rfl, .inr rfl⟩

theorem parse_print (s : Subject) : parse s.print = .ok s := by
  have written := objectText_print s.exact_members
  have described := (describe?_eq_some_iff s.members s).mpr s.describes_members
  rw [print, parse_object written, described]

theorem clean_print (s : Subject) : Clean s.print.toList := by
  have clean := clean_text (.object s.members) s.exact_members
  simpa [print, Value.print] using clean

theorem print_ne_empty (s : Subject) : s.print ≠ "" := by
  intro empty
  have read := s.parse_print
  rw [empty] at read
  cases read

/-- The text of a subject is read as the subject, so it is the text of no other one. -/
theorem print_faithful (s t : Subject) :
    parse s.print = .ok s ∧ Text.lines s.print = [s.print] ∧
      (∀ c ∈ s.print.toList, 0x20 ≤ c.toNat) ∧ (s.print = t.print ↔ s = t) := by
  refine ⟨s.parse_print, lines_of_clean s.clean_print s.print_ne_empty, s.clean_print, ?_⟩
  constructor
  · intro same
    have read := s.parse_print
    rw [same, t.parse_print] at read
    exact (Except.ok.inj read).symm
  · rintro rfl
    rfl

end Stencil.Subject
