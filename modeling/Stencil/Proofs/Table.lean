import Mathlib.Data.List.Forall2
import Stencil.Table

namespace Stencil.Table

variable {α β : Type}

theorem Ascending.tail {pair : String × α} {rest : List (String × α)}
    (ascending : Ascending (pair :: rest)) : Ascending rest :=
  (List.pairwise_cons.mp ascending).2

theorem Ascending.head_lt {name : String} {value : α} {rest : List (String × α)}
    (ascending : Ascending ((name, value) :: rest)) :
    ∀ pair ∈ rest, name < pair.1 :=
  (List.pairwise_cons.mp ascending).1

theorem mem_of_get? {name : String} {value : α} {members : List (String × α)}
    (found : get? name members = some value) : (name, value) ∈ members := by
  induction members with
  | nil => cases found
  | cons pair rest ih =>
    obtain ⟨other, old⟩ := pair
    by_cases same : name = other
    · simp only [get?, same, ite_true, Option.some.injEq] at found
      rw [same, found]
      exact List.mem_cons_self
    · simp only [get?, same, ite_false] at found
      exact List.mem_cons_of_mem _ (ih found)

theorem get?_of_mem {name : String} {value : α} {members : List (String × α)}
    (ascending : Ascending members) (member : (name, value) ∈ members) :
    get? name members = some value := by
  induction members with
  | nil => cases member
  | cons pair rest ih =>
    obtain ⟨other, old⟩ := pair
    rcases List.mem_cons.mp member with same | inside
    · cases same
      simp [get?]
    · have differ : name ≠ other := fun same =>
        String.lt_irrefl name (by simpa [same] using ascending.head_lt _ inside)
      simp only [get?, differ, ite_false]
      exact ih ascending.tail inside

theorem erase_sublist (name : String) (members : List (String × α)) :
    (erase name members).Sublist members := by
  induction members with
  | nil => exact List.Sublist.slnil
  | cons pair rest ih =>
    obtain ⟨other, old⟩ := pair
    by_cases same : name = other
    · simp only [erase, same, ite_true]
      exact List.sublist_cons_self _ _
    · simp only [erase, same, ite_false]
      exact ih.cons_cons _

theorem Ascending.erase {members : List (String × α)} (ascending : Ascending members)
    (name : String) : Ascending (erase name members) :=
  List.Pairwise.sublist (erase_sublist name members) ascending

theorem get?_eq_none_of_lt {name : String} {members : List (String × α)}
    (less : ∀ pair ∈ members, name < pair.1) : get? name members = none := by
  cases found : get? name members with
  | none => rfl
  | some value => exact absurd (less _ (mem_of_get? found)) (String.lt_irrefl name)

theorem get?_erase_self {members : List (String × α)} (ascending : Ascending members)
    (name : String) : get? name (erase name members) = none := by
  induction members with
  | nil => rfl
  | cons pair rest ih =>
    obtain ⟨other, old⟩ := pair
    by_cases same : name = other
    · subst same
      simp only [erase, ite_true]
      exact get?_eq_none_of_lt ascending.head_lt
    · simp only [erase, same, ite_false, get?]
      exact ih ascending.tail

theorem get?_erase_of_ne {name query : String} (differ : query ≠ name)
    (members : List (String × α)) :
    get? query (erase name members) = get? query members := by
  induction members with
  | nil => rfl
  | cons pair rest ih =>
    obtain ⟨other, old⟩ := pair
    by_cases same : name = other
    · subst same
      simp [erase, get?, differ]
    · simp [erase, get?, same, ih]

theorem get?_insert (name query : String) (value : α) (members : List (String × α)) :
    get? query (insert name value members) =
      if query = name then some value else get? query members := by
  split
  · rename_i same
    rw [same, get?_insert_self]
  · rename_i differ
    exact get?_insert_of_ne differ value members

theorem get?_erase {members : List (String × α)} (ascending : Ascending members)
    (name query : String) :
    get? query (erase name members) = if query = name then none else get? query members := by
  split
  · rename_i same
    rw [same, get?_erase_self ascending]
  · rename_i differ
    exact get?_erase_of_ne differ members

theorem get?_map (f : α → β) (name : String) (members : List (String × α)) :
    get? name (members.map fun pair => (pair.1, f pair.2)) = (get? name members).map f := by
  induction members with
  | nil => rfl
  | cons pair rest ih =>
    obtain ⟨other, old⟩ := pair
    by_cases same : name = other <;> simp [get?, same, ih]

theorem Ascending.map {members : List (String × α)} (ascending : Ascending members)
    (f : α → β) : Ascending (members.map fun pair => (pair.1, f pair.2)) :=
  List.pairwise_map.mpr ascending

theorem isSome_get? {name : String} {members : List (String × α)} :
    (get? name members).isSome = true ↔ name ∈ members.map Prod.fst := by
  induction members with
  | nil => simp [get?]
  | cons pair rest ih =>
    obtain ⟨other, old⟩ := pair
    by_cases same : name = other
    · simp [get?, same]
    · rw [get?, if_neg same, ih]
      simp [same]

theorem Ascending.head_eq {name name' : String} {value : α} {value' : β}
    {rest : List (String × α)} {rest' : List (String × β)}
    (ascending : Ascending ((name, value) :: rest))
    (ascendingToo : Ascending ((name', value') :: rest'))
    (found : (get? name ((name', value') :: rest')).isSome = true)
    (foundToo : (get? name' ((name, value) :: rest)).isSome = true) : name = name' := by
  rcases List.mem_cons.mp (isSome_get?.mp found) with same | later
  · exact same
  · rcases List.mem_cons.mp (isSome_get?.mp foundToo) with same | laterToo
    · exact same.symm
    · obtain ⟨pair, inside, rfl⟩ := List.mem_map.mp later
      obtain ⟨pair', insideToo, rfl⟩ := List.mem_map.mp laterToo
      exact absurd (String.lt_trans (ascending.head_lt _ insideToo) (ascendingToo.head_lt _ inside))
        (String.lt_irrefl pair.1)

section Related

variable {R : α → β → Prop} {members : List (String × α)} {others : List (String × β)}

theorem isSome_eq_of_rel {found : Option α} {foundToo : Option β}
    (related : Option.Rel R found foundToo) : found.isSome = foundToo.isSome := by
  cases related <;> rfl

theorem Ascending.forall₂ (ascending : Ascending members) (ascendingToo : Ascending others)
    (related : ∀ name, Option.Rel R (get? name members) (get? name others)) :
    List.Forall₂ (fun pair other => pair.1 = other.1 ∧ R pair.2 other.2) members others := by
  induction members generalizing others with
  | nil =>
    cases others with
    | nil => exact .nil
    | cons pair rest => simpa [get?] using isSome_eq_of_rel (related pair.1)
  | cons pair rest ih =>
    obtain ⟨name, value⟩ := pair
    cases others with
    | nil => simpa [get?] using isSome_eq_of_rel (related name)
    | cons pair rest' =>
      obtain ⟨name', value'⟩ := pair
      obtain rfl := ascending.head_eq ascendingToo
        (by rw [← isSome_eq_of_rel (related name)]; simp [get?])
        (by rw [isSome_eq_of_rel (related name')]; simp [get?])
      have first := related name
      simp only [get?, ite_true] at first
      cases first with
      | some first =>
        refine .cons ⟨rfl, first⟩ (ih ascending.tail ascendingToo.tail fun query => ?_)
        by_cases same : query = name
        · rw [same, get?_eq_none_of_lt ascending.head_lt, get?_eq_none_of_lt ascendingToo.head_lt]
          exact .none
        · simpa [get?, same] using related query

theorem rel_get? (related : List.Forall₂ (fun pair other => pair.1 = other.1 ∧ R pair.2 other.2)
    members others) (name : String) : Option.Rel R (get? name members) (get? name others) := by
  induction related with
  | nil => exact .none
  | @cons pair other rest rest' head _ ih =>
    obtain ⟨key, value⟩ := pair
    obtain ⟨key', value'⟩ := other
    obtain ⟨rfl, holds⟩ := head
    by_cases same : name = key
    · simpa [get?, same] using Option.Rel.some holds
    · simpa [get?, same] using ih

end Related

theorem Ascending.ext {members others : List (String × α)} (ascending : Ascending members)
    (ascendingToo : Ascending others) (same : ∀ name, get? name members = get? name others) :
    members = others := by
  have paired : List.Forall₂ (fun pair other => pair.1 = other.1 ∧ pair.2 = other.2)
      members others := ascending.forall₂ ascendingToo fun name => by
    rw [same]
    cases get? name others <;> constructor
    rfl
  exact List.forall₂_eq_eq_eq ▸ paired.imp fun _ _ both => Prod.ext both.1 both.2

theorem erase_of_absent {name : String} {members : List (String × α)}
    (absent : get? name members = none) : erase name members = members := by
  induction members with
  | nil => rfl
  | cons pair rest ih =>
    obtain ⟨other, old⟩ := pair
    have differ : name ≠ other := fun same => by simp [get?, same] at absent
    simp only [get?, differ, ite_false] at absent
    simp only [erase, differ, ite_false, ih absent]

theorem perm_of_get? {name : String} {value : α} {members : List (String × α)}
    (found : get? name members = some value) :
    members.Perm ((name, value) :: erase name members) := by
  induction members with
  | nil => cases found
  | cons pair rest ih =>
    obtain ⟨other, old⟩ := pair
    by_cases same : name = other
    · simp only [get?, same, ite_true, Option.some.injEq] at found
      rw [erase, if_pos same, same, found]
    · simp only [get?, same, ite_false] at found
      rw [erase, if_neg same]
      exact ((ih found).cons _).trans (List.Perm.swap _ _ _)

theorem insert_perm {members : List (String × α)} (ascending : Ascending members) (name : String)
    (value : α) : (insert name value members).Perm ((name, value) :: erase name members) := by
  -- Without the name both tables answer alike, so they are one table.
  have erased : erase name (insert name value members) = erase name members := by
    refine Ascending.ext ((ascending.insert name value).erase name) (ascending.erase name)
      fun query => ?_
    rw [get?_erase (ascending.insert name value), get?_erase ascending]
    split
    · rfl
    · rename_i differ
      exact get?_insert_of_ne differ value members
  rw [← erased]
  exact perm_of_get? (get?_insert_self name value members)

theorem lookup_singleton (name key : String) (value : α) :
    [(key, value)].lookup name = if name = key then some value else none := by
  rw [List.lookup_cons]
  by_cases same : name = key
  · simp [same]
  · rw [beq_false_of_ne same, if_neg same]
    rfl

theorem get?_foldl_insert (pairs members : List (String × α)) (name : String) :
    get? name (pairs.foldl (fun members pair => insert pair.1 pair.2 members) members) =
      (pairs.reverse.lookup name).or (get? name members) := by
  induction pairs generalizing members with
  | nil => simp
  | cons pair rest ih =>
    obtain ⟨key, value⟩ := pair
    rw [List.foldl_cons, ih, get?_insert, List.reverse_cons, List.lookup_append, Option.or_assoc,
      lookup_singleton]
    congr 1
    split <;> rfl

theorem get?_ofPairs (pairs : List (String × α)) (name : String) :
    get? name (ofPairs pairs) = pairs.reverse.lookup name := by
  rw [ofPairs, get?_foldl_insert, get?, Option.or_none]

theorem Ascending.lookup_reverse {members : List (String × α)} (ascending : Ascending members)
    (name : String) : members.reverse.lookup name = get? name members := by
  induction members with
  | nil => rfl
  | cons pair rest ih =>
    obtain ⟨key, value⟩ := pair
    rw [List.reverse_cons, List.lookup_append, ih ascending.tail, get?, lookup_singleton]
    by_cases same : name = key
    · simp [same, get?_eq_none_of_lt ascending.head_lt]
    · simp [same]

end Stencil.Table
