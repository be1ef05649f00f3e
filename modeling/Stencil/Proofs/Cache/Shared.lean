import Stencil.Cache
import Stencil.Proofs.Table

namespace Stencil

/-- A template and the number of the run of a compile function that made it. What two runs made is
not the same object, however alike. -/
structure Product (τ : Type) where
  run : Nat
  template : τ
  deriving DecidableEq, Repr

structure Slot (τ : Type) where
  content : Option (Product τ)
  busy : Bool
  handles : Nat

/-- What the callers of one cache share. A slot has handles on it: one of the cache, as long as a
name leads to it, and one of every caller that has found it and is not through with it. -/
structure Shared (τ : Type) where
  names : List (String × Nat)
  slots : Nat → Slot τ
  next : Nat
  hits : Nat
  misses : Nat
  compilations : Nat
  failures : Nat

namespace Shared

variable {τ : Type}

def empty : Shared τ := ⟨[], fun _ => ⟨none, false, 0⟩, 0, 0, 0, 0, 0⟩

def find? (s : Shared τ) (name : String) : Option Nat :=
  Table.get? name s.names

def get? (s : Shared τ) (name : String) : Option (Product τ) :=
  (s.find? name).bind fun k => (s.slots k).content

def update (s : Shared τ) (k : Nat) (slot : Slot τ) : Shared τ :=
  { s with slots := fun j => if j = k then slot else s.slots j }

def hold (s : Shared τ) (k : Nat) : Shared τ :=
  s.update k { s.slots k with handles := (s.slots k).handles + 1 }

def drop (s : Shared τ) (k : Nat) : Shared τ :=
  s.update k { s.slots k with handles := (s.slots k).handles - 1 }

def add (s : Shared τ) (name : String) : Shared τ :=
  { s.update s.next ⟨none, false, 2⟩ with
    names := Table.insert name s.next s.names
    next := s.next + 1 }

def findOrAdd (s : Shared τ) (name : String) : Shared τ × Nat :=
  match s.find? name with
  | some k => (s.hold k, k)
  | none => (s.add name, s.next)

def countHit (s : Shared τ) : Shared τ :=
  { s with hits := s.hits + 1 }

def enter (s : Shared τ) (k : Nat) : Shared τ :=
  { s.update k { s.slots k with busy := true } with misses := s.misses + 1 }

def fill (s : Shared τ) (k : Nat) (product : Product τ) : Shared τ :=
  { s.update k { s.slots k with content := some product, busy := false } with
    compilations := s.compilations + 1 }

def vacate (s : Shared τ) (k : Nat) : Shared τ :=
  { s.update k { s.slots k with busy := false } with failures := s.failures + 1 }

/-- Whether a name leads to a slot that is empty and that, but for the cache, one caller alone has
a handle on. -/
def Removable (s : Shared τ) (name : String) (k : Nat) : Prop :=
  s.find? name = some k ∧ (s.slots k).content.isNone ∧ (s.slots k).handles = 2

instance (s : Shared τ) (name : String) (k : Nat) : Decidable (s.Removable name k) :=
  inferInstanceAs (Decidable (_ ∧ _ ∧ _))

def forget (s : Shared τ) (name : String) (k : Nat) : Shared τ :=
  { s.drop k with names := Table.erase name s.names }

/-- Removes the slot of a name after its caller has failed, unless other callers have handles on
it. -/
def release (s : Shared τ) (name : String) (k : Nat) : Shared τ :=
  if s.Removable name k then s.forget name k else s

structure Tidy (s : Shared τ) : Prop where
  ascending : Table.Ascending s.names
  named {name k} : s.find? name = some k → k < s.next
  apart {name other k} : s.find? name = some k → s.find? other = some k → name = other

theorem empty_tidy : (empty : Shared τ).Tidy :=
  ⟨List.Pairwise.nil, nofun, nofun⟩

section Operations

variable (s : Shared τ) (j k : Nat)

@[simp] theorem hold_content : ((s.hold k).slots j).content = (s.slots j).content := by
  simp only [hold, update]
  split <;> simp_all

@[simp] theorem hold_busy : ((s.hold k).slots j).busy = (s.slots j).busy := by
  simp only [hold, update]
  split <;> simp_all

@[simp] theorem hold_handles :
    ((s.hold k).slots j).handles = (s.slots j).handles + if k = j then 1 else 0 := by
  simp only [hold, update]
  grind

@[simp] theorem drop_content : ((s.drop k).slots j).content = (s.slots j).content := by
  simp only [drop, update]
  split <;> simp_all

@[simp] theorem drop_busy : ((s.drop k).slots j).busy = (s.slots j).busy := by
  simp only [drop, update]
  split <;> simp_all

@[simp] theorem drop_handles :
    ((s.drop k).slots j).handles = (s.slots j).handles - if k = j then 1 else 0 := by
  simp only [drop, update]
  grind

@[simp] theorem enter_content : ((s.enter k).slots j).content = (s.slots j).content := by
  simp only [enter, update]
  split <;> simp_all

@[simp] theorem vacate_content : ((s.vacate k).slots j).content = (s.slots j).content := by
  simp only [vacate, update]
  split <;> simp_all

@[simp] theorem hold_get? (name : String) : (s.hold k).get? name = s.get? name := by
  simp only [get?, hold_content]
  rfl

@[simp] theorem drop_get? (name : String) : (s.drop k).get? name = s.get? name := by
  simp only [get?, drop_content]
  rfl

@[simp] theorem enter_get? (name : String) : (s.enter k).get? name = s.get? name := by
  simp only [get?, enter_content]
  rfl

@[simp] theorem vacate_get? (name : String) : (s.vacate k).get? name = s.get? name := by
  simp only [get?, vacate_content]
  rfl

theorem add_find? (name query : String) :
    (s.add name).find? query = if query = name then some s.next else s.find? query :=
  Table.get?_insert name query s.next s.names

end Operations

variable {s : Shared τ} {name : String} {k : Nat}

theorem get?_of_find? (leads : s.find? name = some k) : s.get? name = (s.slots k).content := by
  rw [get?, leads, Option.bind_some]

theorem forget_find? (ascending : Table.Ascending s.names) (name : String) (k : Nat)
    (query : String) :
    (s.forget name k).find? query = if query = name then none else s.find? query :=
  Table.get?_erase ascending name query

namespace Tidy

theorem of_same {other : Shared τ} (tidy : s.Tidy) (names : other.names = s.names)
    (next : other.next = s.next) : other.Tidy := by
  have find (query : String) : other.find? query = s.find? query := by
    simp only [find?, names]
  refine ⟨names ▸ tidy.ascending, ?_, ?_⟩
  · intro query j leads
    rw [next]
    exact tidy.named ((find query).symm.trans leads)
  · intro query third j leads leadsToo
    exact tidy.apart ((find query).symm.trans leads) ((find third).symm.trans leadsToo)

theorem add (tidy : s.Tidy) (name : String) : (s.add name).Tidy := by
  have old {query : String} {j : Nat} (leads : (s.add name).find? query = some j) :
      query = name ∧ j = s.next ∨ s.find? query = some j ∧ j < s.next := by
    rw [add_find?] at leads
    split at leads
    · rename_i same
      exact .inl ⟨same, (Option.some.inj leads).symm⟩
    · exact .inr ⟨leads, tidy.named leads⟩
  refine ⟨tidy.ascending.insert name s.next, ?_, ?_⟩
  · intro query j leads
    show j < s.next + 1
    rcases old leads with ⟨_, new⟩ | ⟨_, below⟩ <;> omega
  · intro query third j leads leadsToo
    rcases old leads with ⟨same, new⟩ | ⟨earlier, below⟩ <;>
      rcases old leadsToo with ⟨sameToo, newToo⟩ | ⟨earlierToo, belowToo⟩
    · rw [same, sameToo]
    · omega
    · omega
    · exact tidy.apart earlier earlierToo

theorem forget (tidy : s.Tidy) (name : String) (k : Nat) : (s.forget name k).Tidy := by
  have old {query : String} {j : Nat} (leads : (s.forget name k).find? query = some j) :
      s.find? query = some j := by
    rw [forget_find? tidy.ascending] at leads
    split at leads
    · cases leads
    · exact leads
  exact ⟨tidy.ascending.erase name, fun leads => tidy.named (old leads),
    fun leads leadsToo => tidy.apart (old leads) (old leadsToo)⟩

end Tidy

theorem add_get? (tidy : s.Tidy) (absent : s.find? name = none) (query : String) :
    (s.add name).get? query = s.get? query := by
  simp only [get?, add_find?]
  split
  · rename_i same
    simp [same, absent, Shared.add, update]
  · cases leads : s.find? query with
    | none => rfl
    | some j =>
      have differ : j ≠ s.next := Nat.ne_of_lt (tidy.named leads)
      simp [Shared.add, update, differ]

theorem fill_get? (tidy : s.Tidy) (leads : s.find? name = some k) (product : Product τ)
    (query : String) :
    (s.fill k product).get? query = if query = name then some product else s.get? query := by
  have find : (s.fill k product).find? query = s.find? query := rfl
  simp only [get?, find]
  split
  · rename_i same
    simp [same, leads, fill, update]
  · rename_i differ
    cases leadsToo : s.find? query with
    | none => rfl
    | some j =>
      have slots : j ≠ k := fun same => differ (tidy.apart leadsToo (same ▸ leads))
      simp [fill, update, slots]

theorem forget_get? (tidy : s.Tidy) (removable : s.Removable name k) (query : String) :
    (s.forget name k).get? query = s.get? query := by
  obtain ⟨leads, vacant, _⟩ := removable
  have content (j : Nat) : ((s.forget name k).slots j).content = (s.slots j).content :=
    drop_content s j k
  simp only [get?, forget_find? tidy.ascending, content]
  split
  · rename_i same
    simp_all
  · rfl

end Shared

end Stencil
