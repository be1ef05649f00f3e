import Stencil.Data

namespace Stencil.Data

inductive Sound : Data → Prop where
  | value {v : Json.Value} : Sound (.value v)
  | int {n : Int} : -Json.Number.signedLimit ≤ n → n < Json.Number.unsignedLimit → Sound (.int n)
  | list {items : List Data} : (∀ item ∈ items, Sound item) → Sound (.list items)
  | table {entries : List (Key × Data)} : (∀ entry ∈ entries, entry.1 ≠ .compound) →
      (∀ entry ∈ entries, Sound entry.2) → Sound (.table entries)

theorem sound_int {n : Int} :
    Sound (.int n) ↔ -Json.Number.signedLimit ≤ n ∧ n < Json.Number.unsignedLimit :=
  ⟨fun | .int least greatest => ⟨least, greatest⟩, fun ⟨least, greatest⟩ => .int least greatest⟩

theorem sound_list {items : List Data} : Sound (.list items) ↔ ∀ item ∈ items, Sound item :=
  ⟨fun | .list sound => sound, .list⟩

theorem sound_table {entries : List (Key × Data)} :
    Sound (.table entries) ↔ ∀ entry ∈ entries, entry.1 ≠ .compound ∧ Sound entry.2 :=
  ⟨fun | .table keys sound => fun entry member => ⟨keys entry member, sound entry member⟩,
    fun sound => .table (fun entry member => (sound entry member).1)
      fun entry member => (sound entry member).2⟩

theorem exists_map_ok {ε α β : Type} {f : α → β} {step : Except ε α} :
    (∃ b, step.map f = .ok b) ↔ ∃ a, step = .ok a := by
  cases step <;> simp [Except.map]

theorem exists_print {key : Key} : (∃ name, key.print = .ok name) ↔ key ≠ .compound := by
  cases key <;> simp [Key.print]

mutual

theorem exists_toValue (data : Data) : (∃ v, data.toValue = .ok v) ↔ data.Sound := by
  match data with
  | .value v => exact iff_of_true ⟨v, rfl⟩ .value
  | .int n =>
    rw [sound_int, toValue, Json.Whole.ofInt?]
    by_cases fits : -Json.Number.signedLimit ≤ n ∧ n < Json.Number.unsignedLimit
    · rw [dif_pos fits]
      exact iff_of_true ⟨_, rfl⟩ fits
    · rw [dif_neg fits]
      exact iff_of_false nofun fits
  | .list items => rw [toValue, exists_map_ok, sound_list, exists_itemsToValues]
  | .table entries => rw [toValue, exists_map_ok, sound_table, exists_entriesToMembers]

theorem exists_itemsToValues (items : List Data) :
    (∃ vs, itemsToValues items = .ok vs) ↔ ∀ item ∈ items, item.Sound := by
  match items with
  | [] => exact iff_of_true ⟨[], rfl⟩ nofun
  | item :: items =>
    rw [List.forall_mem_cons, ← exists_toValue item, ← exists_itemsToValues items, itemsToValues]
    cases item.toValue <;> cases itemsToValues items <;> simp [bind, Except.bind]

theorem exists_entriesToMembers (entries : List (Key × Data)) :
    (∃ members, entriesToMembers entries = .ok members) ↔
      ∀ entry ∈ entries, entry.1 ≠ .compound ∧ entry.2.Sound := by
  match entries with
  | [] => exact iff_of_true ⟨[], rfl⟩ nofun
  | (key, item) :: entries =>
    rw [List.forall_mem_cons, ← exists_print, ← exists_toValue item,
      ← exists_entriesToMembers entries, entriesToMembers]
    cases key.print <;> cases item.toValue <;> cases entriesToMembers entries <;>
      simp [bind, Except.bind]

end

end Stencil.Data
