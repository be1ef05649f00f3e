namespace Stencil.Table

variable {α : Type}

def insert (name : String) (value : α) : List (String × α) → List (String × α)
  | [] => [(name, value)]
  | (other, old) :: rest =>
    if name = other then (name, value) :: rest
    else if name < other then (name, value) :: (other, old) :: rest
    else (other, old) :: insert name value rest

def get? (name : String) : List (String × α) → Option α
  | [] => none
  | (other, value) :: rest => if name = other then some value else get? name rest

def erase (name : String) : List (String × α) → List (String × α)
  | [] => []
  | (other, value) :: rest =>
    if name = other then rest else (other, value) :: erase name rest

def contains (name : String) (members : List (String × α)) : Bool :=
  (get? name members).isSome

def ofPairs (pairs : List (String × α)) : List (String × α) :=
  pairs.foldl (fun members pair => insert pair.1 pair.2 members) []

/-- Names ascend strictly, by code points, which is the order of their UTF-8 bytes; so no name
stands twice. -/
def Ascending (members : List (String × α)) : Prop :=
  members.Pairwise fun first second => first.1 < second.1

theorem get?_insert_self (name : String) (value : α) (members : List (String × α)) :
    get? name (insert name value members) = some value := by
  induction members with
  | nil => simp [insert, get?]
  | cons pair rest ih =>
    obtain ⟨other, old⟩ := pair
    by_cases same : name = other
    · simp [insert, get?, same]
    · by_cases less : name < other <;> simp [insert, get?, same, less, ih]

theorem get?_insert_of_ne {name query : String} (differ : query ≠ name) (value : α)
    (members : List (String × α)) :
    get? query (insert name value members) = get? query members := by
  induction members with
  | nil => simp [insert, get?, differ]
  | cons pair rest ih =>
    obtain ⟨other, old⟩ := pair
    by_cases same : name = other
    · subst same
      simp [insert, get?, differ]
    · by_cases less : name < other <;> simp [insert, get?, same, less, differ, ih]

theorem mem_insert {pair : String × α} {name : String} {value : α}
    {members : List (String × α)} (member : pair ∈ insert name value members) :
    pair = (name, value) ∨ pair ∈ members := by
  induction members with
  | nil => simpa [insert] using member
  | cons head rest ih =>
    obtain ⟨other, old⟩ := head
    simp only [insert] at member
    split at member
    · rcases List.mem_cons.mp member with same | tail
      · exact .inl same
      · exact .inr (List.mem_cons_of_mem _ tail)
    · split at member
      · rcases List.mem_cons.mp member with same | tail
        · exact .inl same
        · exact .inr tail
      · rcases List.mem_cons.mp member with same | tail
        · exact .inr (same ▸ List.mem_cons_self)
        · rcases ih tail with same | inside
          · exact .inl same
          · exact .inr (List.mem_cons_of_mem _ inside)

theorem Ascending.insert {members : List (String × α)} (ascending : Ascending members)
    (name : String) (value : α) : Ascending (insert name value members) := by
  induction members with
  | nil => simp [Table.insert, Ascending]
  | cons head rest ih =>
    obtain ⟨other, old⟩ := head
    have below := (List.pairwise_cons.mp ascending).1
    have tail := (List.pairwise_cons.mp ascending).2
    simp only [Table.insert]
    split
    · rename_i same
      exact List.pairwise_cons.mpr ⟨same ▸ below, tail⟩
    · split
      · rename_i less
        refine List.pairwise_cons.mpr ⟨fun pair member => ?_, ascending⟩
        rcases List.mem_cons.mp member with same | inside
        · exact same ▸ less
        · exact String.lt_trans less (below pair inside)
      · rename_i differ notLess
        refine List.pairwise_cons.mpr ⟨fun pair member => ?_, ih tail⟩
        rcases mem_insert member with same | inside
        · have greater : other < name := by
            rcases Decidable.em (other < name) with holds | fails
            · exact holds
            · exact absurd (String.le_antisymm (String.not_lt.mp fails) (String.not_lt.mp notLess))
                differ
          exact same ▸ greater
        · exact below pair inside

end Stencil.Table
