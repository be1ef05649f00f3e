import Stencil.Proofs.Json.Printing
import Stencil.Proofs.Text.Replace
import Stencil.Template.Display

namespace Stencil.Template

open Json (Value Number)

def marks : List Char :=
  ['<', '>', '"', '\'']

def Unmarked (cs : List Char) : Prop :=
  ∀ c ∈ cs, c ∉ marks

instance : DecidablePred Unmarked := fun cs =>
  List.decidableBAll _ cs

theorem unmarked_append {left right : List Char} :
    Unmarked (left ++ right) ↔ Unmarked left ∧ Unmarked right :=
  List.forall_mem_append

theorem unmarked_cons {c : Char} {cs : List Char} : Unmarked (c :: cs) ↔ c ∉ marks ∧ Unmarked cs :=
  List.forall_mem_cons

section Escaping

/-- What is escaped, and what stands for it. The ampersand is the first, or it would be escaped
again in what stands for the others. -/
def entities : List (Char × String) :=
  [('&', "&amp;"), ('<', "&lt;"), ('>', "&gt;"), ('"', "&quot;"), ('\'', "&#x27;"), ('/', "&#x2F;")]

theorem escapeChar_eq_self {c : Char} (other : c ∉ entities.map Prod.fst) : escapeChar c = [c] := by
  unfold escapeChar
  split <;> first | exact absurd (by decide) other | rfl

theorem escapeChar_eq (c : Char) : escapeChar c = Text.expand entities c := by
  by_cases special : c ∈ entities.map Prod.fst
  · have listed : ∀ entity ∈ entities, escapeChar entity.1 = Text.expand entities entity.1 := by
      decide
    obtain ⟨entity, member, rfl⟩ := List.mem_map.mp special
    exact listed entity member
  · rw [escapeChar_eq_self special, Text.expand_of_notMem special]

theorem escapeText_eq (s : String) :
    escapeText s = entities.foldl
      (fun s entity => Text.replace s (String.singleton entity.1) entity.2) s := by
  apply String.toList_injective
  rw [Text.toList_replaceAll, escapeText, String.toList_ofList, funext escapeChar_eq]

theorem unmarked_escapeChar (c : Char) : Unmarked (escapeChar c) := by
  by_cases special : c ∈ entities.map Prod.fst
  · have listed : ∀ entity ∈ entities, Unmarked (escapeChar entity.1) := by decide
    obtain ⟨entity, member, rfl⟩ := List.mem_map.mp special
    exact listed entity member
  · have escaped : marks ⊆ entities.map Prod.fst := by simp [marks, entities]
    rw [escapeChar_eq_self special]
    exact unmarked_cons.mpr ⟨fun mark => special (escaped mark), nofun⟩

theorem unmarked_escapeText (s : String) : Unmarked (escapeText s).toList := by
  intro d member
  rw [escapeText, String.toList_ofList] at member
  obtain ⟨c, -, here⟩ := List.mem_flatMap.mp member
  exact unmarked_escapeChar c d here

end Escaping

section Numbers

theorem unmarked_digits {ds : List Char} (digits : ∀ d ∈ ds, d.isDigit = true) : Unmarked ds := by
  have marked : ∀ c ∈ marks, c.isDigit = false := by simp [marks]
  intro d member mark
  exact Bool.false_ne_true ((marked d mark).symm.trans (digits d member))

theorem unmarked_toDigits (n : Nat) : Unmarked (Nat.toDigits 10 n) :=
  unmarked_digits fun _ => Nat.isDigit_of_mem_toDigits (by decide) (by decide)

theorem unmarked_zeros (n : Int) : Unmarked (Decimal.zeros n) :=
  unmarked_digits fun _ member => List.eq_of_mem_replicate member ▸ rfl

theorem unmarked_positionalText (c : Decimal.Coefficient) :
    Unmarked (Decimal.positionalText false c) := by
  have digits := unmarked_toDigits c.coefficient
  have taken (n : Nat) : Unmarked ((Nat.toDigits 10 c.coefficient).take n) :=
    fun d member => digits d (List.mem_of_mem_take member)
  have dropped (n : Nat) : Unmarked ((Nat.toDigits 10 c.coefficient).drop n) :=
    fun d member => digits d (List.mem_of_mem_drop member)
  have point : '.' ∉ marks := by decide
  have zero : '0' ∉ marks := by decide
  unfold Decimal.positionalText
  dsimp only
  split
  · simp [unmarked_append, digits, unmarked_zeros]
  · split
    · simp [unmarked_append, unmarked_cons, taken, dropped, point]
    · simp [unmarked_append, unmarked_cons, unmarked_zeros, digits, zero, point]

theorem unmarked_plain (x : Float) : Unmarked (Decimal.plain.text x).toList := by
  have sign (negative : Bool) : Unmarked (if negative then ['-'] else []) := by
    cases negative <;> decide
  rw [Decimal.Layout.text, String.toList_ofList]
  cases Decimal.Parts.ofFloat x with
  | zero negative => exact unmarked_append.mpr ⟨sign negative, by decide⟩
  | finite negative b => exact unmarked_append.mpr ⟨sign negative, unmarked_positionalText _⟩
  | infinite negative => exact unmarked_append.mpr ⟨sign negative, by decide⟩
  | notANumber => decide

theorem unmarked_number (n : Number) : Unmarked n.display.toList := by
  cases n with
  | int n =>
    show Unmarked (Json.intText n)
    cases n.value with
    | ofNat n =>
      rw [Json.intText_ofNat]
      exact unmarked_toDigits n
    | negSucc n =>
      rw [Json.intText_negSucc]
      exact unmarked_cons.mpr ⟨by decide, unmarked_toDigits _⟩
  | float x _ => exact unmarked_plain x

end Numbers

section Values

/-- The character stands in a string of the value: in the value itself, or in a list. -/
inductive Carries (c : Char) : Value → Prop where
  | string {s : String} : c ∈ s.toList → Carries c (.string s)
  | array {items : List Value} {v : Value} : v ∈ items → Carries c v → Carries c (.array items)

variable {c : Char}

theorem carries_string {s : String} : Carries c (.string s) ↔ c ∈ s.toList :=
  ⟨fun | .string member => member, .string⟩

theorem carries_array {items : List Value} :
    Carries c (.array items) ↔ ∃ v ∈ items, Carries c v :=
  ⟨fun | .array member inside => ⟨_, member, inside⟩, fun ⟨_, member, inside⟩ => .array member inside⟩

theorem notMem_of_unmarked {cs : List Char} (unmarked : Unmarked cs) (mark : c ∈ marks) : c ∉ cs :=
  fun member => unmarked c member mark

theorem mem_display_array (mark : c ∈ marks) (items : List Value) :
    c ∈ (Value.array items).display.toList ↔
      ∃ text ∈ Value.displayItems items, c ∈ text.toList := by
  have comma : c ∉ (", ").toList := notMem_of_unmarked (by decide) mark
  have opening : c ∉ ("[").toList := notMem_of_unmarked (by decide) mark
  have closing : c ∉ ("]").toList := notMem_of_unmarked (by decide) mark
  rw [Value.display, String.toList_append, String.toList_append, List.mem_append, List.mem_append,
    Text.mem_intercalate comma]
  simp only [opening, closing, false_or, or_false]

mutual

theorem mem_display (mark : c ∈ marks) (v : Value) :
    c ∈ v.display.toList ↔ Carries c v := by
  match v with
  | .null => exact iff_of_false (notMem_of_unmarked (by decide) mark) nofun
  | .bool true => exact iff_of_false (notMem_of_unmarked (by decide) mark) nofun
  | .bool false => exact iff_of_false (notMem_of_unmarked (by decide) mark) nofun
  | .number n => exact iff_of_false (notMem_of_unmarked (unmarked_number n) mark) nofun
  | .string s => exact carries_string.symm
  | .array items =>
    rw [mem_display_array mark, carries_array]
    exact mem_displayItems mark items
  | .object _ =>
    have unmarked : Unmarked ("[object]").toList := by decide
    exact iff_of_false (notMem_of_unmarked unmarked mark) nofun

theorem mem_displayItems (mark : c ∈ marks) (vs : List Value) :
    (∃ text ∈ Value.displayItems vs, c ∈ text.toList) ↔ ∃ v ∈ vs, Carries c v := by
  match vs with
  | [] => simp [Value.displayItems]
  | v :: vs =>
    have head := mem_display mark v
    have tail := mem_displayItems mark vs
    simp only [Value.displayItems, List.mem_cons, exists_eq_or_imp, head, tail]

end

end Values

end Stencil.Template
