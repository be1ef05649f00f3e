import Stencil.Text.Search

namespace Stencil.Text

/-- The part stands somewhere in the text. -/
def Occurs (part text : String) : Prop :=
  ∃ before after, text = before ++ part ++ after

variable {part text : String}

theorem hasInfix_iff (sub cs : List Char) : hasInfix sub cs = true ↔ sub <:+: cs := by
  induction cs with
  | nil => simp [hasInfix]
  | cons c cs ih => simp [hasInfix, ih, List.infix_cons_iff]

theorem occurs_iff_infix : Occurs part text ↔ part.toList <:+: text.toList := by
  constructor
  · rintro ⟨before, after, rfl⟩
    exact ⟨before.toList, after.toList, by simp⟩
  · rintro ⟨before, after, split⟩
    exact ⟨String.ofList before, String.ofList after, String.toList_injective (by simp [split])⟩

theorem contains_iff : contains text part = true ↔ Occurs part text :=
  (hasInfix_iff _ _).trans occurs_iff_infix.symm

theorem Occurs.refl (text : String) : Occurs text text :=
  ⟨"", "", by simp⟩

theorem Occurs.append (occurs : Occurs part text) (more : String) : Occurs part (text ++ more) := by
  obtain ⟨before, after, rfl⟩ := occurs
  exact ⟨before, after ++ more, String.append_assoc ..⟩

theorem occurs_append (before part : String) : Occurs part (before ++ part) :=
  ⟨before, "", by simp⟩

theorem joinWith_concat {sep : String} {parts : List String} (some : parts ≠ []) (part : String) :
    joinWith sep (parts ++ [part]) = joinWith sep parts ++ sep ++ part := by
  unfold joinWith
  rw [String.intercalate_append_of_ne_nil some (List.cons_ne_nil part []),
    String.intercalate_singleton]

end Stencil.Text
