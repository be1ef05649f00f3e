import Mathlib.Data.Finset.Card
import Stencil.Context
import Stencil.Proofs.Table
import Stencil.Proofs.Text.Order

namespace Stencil

open Json (Value stringText)

namespace Json.Value

def memberText (member : String × Value) : List Char :=
  stringText member.1 ++ ':' :: member.2.text

theorem membersText_eq (members : List (String × Value)) :
    membersText members = [','].intercalate (members.map memberText) ++ ['\x7d'] := by
  induction members with
  | nil => rfl
  | cons member rest ih =>
    obtain ⟨name, v⟩ := member
    cases rest with
    | nil => simp [membersText, memberText]
    | cons next rest => simp [membersText, ih, memberText]

theorem sameMembers_iff {members others : List (String × Value)} :
    sameMembers members others = true ↔
      List.Forall₂ (fun pair other => pair.1 = other.1 ∧ (pair.2 == other.2) = true)
        members others := by
  induction members generalizing others with
  | nil => cases others <;> simp [sameMembers]
  | cons pair rest ih =>
    cases others with
    | nil => simp [sameMembers]
    | cons other rest' => simp [sameMembers, ih, BEq.beq]

end Json.Value

namespace Context

variable {c d : Context} {name : String} {v : Value}

theorem ext_get? (same : ∀ name, c.get? name = d.get? name) : c = d := by
  obtain ⟨members, ascending⟩ := c
  obtain ⟨others, ascendingToo⟩ := d
  obtain rfl := ascending.ext ascendingToo same
  rfl

theorem get?_insert (c : Context) (name query : String) (v : Value) :
    (c.insert name v).get? query = if query = name then some v else c.get? query :=
  Table.get?_insert name query v c.entries

theorem entries_foldl_insert (pairs : List (String × Value)) (c : Context) :
    (pairs.foldl (fun c pair => c.insert pair.1 pair.2) c).entries =
      pairs.foldl (fun members pair => Table.insert pair.1 pair.2 members) c.entries := by
  induction pairs generalizing c with
  | nil => rfl
  | cons pair rest ih => exact ih _

theorem get?_ofPairs (pairs : List (String × Value)) (name : String) :
    (ofPairs pairs).get? name = pairs.reverse.lookup name := by
  rw [get?, ofPairs, entries_foldl_insert]
  exact Table.get?_ofPairs pairs name

theorem mem_entries : (name, v) ∈ c.entries ↔ c.get? name = some v :=
  ⟨Table.get?_of_mem c.ascending, Table.mem_of_get?⟩

theorem mem_names : name ∈ c.entries.map Prod.fst ↔ c.contains name = true :=
  Table.isSome_get?.symm

theorem nodup_names (c : Context) : (c.entries.map Prod.fst).Nodup :=
  (List.pairwise_map.mpr c.ascending).imp String.ne_of_lt

theorem same_iff : c.same d = true ↔ ∀ name, (c.get? name == d.get? name) = true := by
  have answers (found other : Option Value) :
      (found == other) = true ↔ Option.Rel (fun v w => (v == w) = true) found other := by
    cases found <;> cases other <;> simp
  simp only [answers]
  exact Json.Value.sameMembers_iff.trans
    ⟨Table.rel_get? (R := fun v w => (v == w) = true), c.ascending.forall₂ d.ascending⟩

theorem length_eq_card (c : Context) :
    ∃ names : Finset String, (∀ name, name ∈ names ↔ c.contains name = true) ∧
      c.length = names.card :=
  ⟨⟨c.entries.map Prod.fst, c.nodup_names⟩, fun _ => mem_names, (List.length_map Prod.fst).symm⟩

theorem isEmpty_iff : c.isEmpty = true ↔ c.length = 0 := by
  rw [isEmpty, length, List.isEmpty_iff, List.length_eq_zero_iff]

theorem contains_iff : c.contains name = true ↔ ∃ v, c.get? name = some v :=
  Option.isSome_iff_exists

theorem entries_bytes (c : Context) :
    c.entries.Pairwise fun entry next => Text.bytes entry.1 < Text.bytes next.1 :=
  c.ascending.imp Text.bytes_lt_iff.mpr

theorem toList_print (c : Context) :
    c.print.toList = '\x7b' :: ([','].intercalate (c.entries.map Value.memberText) ++ ['\x7d']) := by
  rw [print, Value.print, String.toList_ofList, value, Value.text, Value.membersText_eq]

end Context

end Stencil
