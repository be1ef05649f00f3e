import Stencil.Proofs.Context.Map
import Stencil.Proofs.Data

namespace Stencil.Context

open Json (Value)

/-- What a context is made from. A map has its entries in order already. -/
inductive Origin where
  | nothing
  | map (members : List (String × Value)) (ascending : Table.Ascending members)
  | pairs (puts : List (String × Value))

def Origin.context : Origin → Context
  | nothing => empty
  | map members ascending => ⟨members, ascending⟩
  | pairs puts => ofPairs puts

def Origin.puts : Origin → List (String × Value)
  | nothing => []
  | map members _ => members
  | pairs puts => puts

inductive Change where
  | insert (name : String) (v : Value)
  | insertData (name : String) (data : Data)

def Change.name : Change → String
  | insert name _ => name
  | insertData name _ => name

/-- The pair that a change puts in, if it does not fail. -/
def Change.put? : Change → Option (String × Value)
  | insert name v => some (name, v)
  | insertData name data => data.toValue.toOption.map fun v => (name, v)

/-- What is put in has a JSON form. -/
def Change.Sound : Change → Prop
  | insert _ _ => True
  | insertData _ data => data.Sound

def apply (c : Context) : Change → Context × Option Data.Fault
  | .insert name v => (c.insert name v, none)
  | .insertData name data =>
    match c.insertData name data with
    | .ok d => (d, none)
    | .error fault => (c, some fault)

structure History where
  origin : Origin
  changes : List Change

namespace History

def context (h : History) : Context :=
  h.changes.foldl (fun c change => (c.apply change).1) h.origin.context

def puts (h : History) : List (String × Value) :=
  h.origin.puts ++ h.changes.filterMap Change.put?

end History

/-- The context is the finite map of the pairs, of which the last one under a name counts. -/
structure Maps (c : Context) (puts : List (String × Value)) : Prop where
  get : ∀ name, c.get? name = puts.reverse.lookup name
  contains : ∀ name, c.contains name = true ↔ ∃ v, c.get? name = some v
  length : ∃ names : Finset String, (∀ name, name ∈ names ↔ c.contains name = true) ∧
    c.length = names.card
  isEmpty : c.isEmpty = true ↔ c.length = 0
  entries : ∀ name v, (name, v) ∈ c.entries ↔ c.get? name = some v
  ascending : c.entries.Pairwise fun entry next => Text.bytes entry.1 < Text.bytes next.1
  printed : c.print.toList =
    '\x7b' :: ([','].intercalate (c.entries.map Value.memberText) ++ ['\x7d'])

variable {c d : Context} {change other : Change} {fault : Data.Fault}

theorem apply_cases (c : Context) (change : Change) :
    (∃ v, change.put? = some (change.name, v) ∧ c.apply change = (c.insert change.name v, none)) ∨
      ∃ fault, change.put? = none ∧ c.apply change = (c, some fault) := by
  cases change with
  | insert name v => exact .inl ⟨v, rfl, rfl⟩
  | insertData name data =>
    cases made : data.toValue with
    | ok v => exact .inl ⟨v, by simp [Change.put?, Change.name, made, Except.toOption],
        by simp [apply, insertData, Change.name, made, Except.map]⟩
    | error fault => exact .inr ⟨fault, by simp [Change.put?, made, Except.toOption],
        by simp [apply, insertData, made, Except.map]⟩

theorem get?_apply (c : Context) (change : Change) (name : String) :
    (c.apply change).1.get? name = (change.put?.toList.lookup name).or (c.get? name) := by
  obtain ⟨v, put, applied⟩ | ⟨fault, put, applied⟩ := c.apply_cases change
  · rw [applied, put, get?_insert, Option.toList_some, Table.lookup_singleton]
    split <;> rfl
  · rw [applied, put]
    rfl

theorem lookup_put {name : String} (apart : name ≠ change.name) :
    change.put?.toList.lookup name = none := by
  obtain ⟨v, put, -⟩ | ⟨fault, put, -⟩ := empty.apply_cases change
  · rw [put, Option.toList_some, Table.lookup_singleton, if_neg apart]
  · rw [put]
    rfl

theorem apply_comm (c : Context) (apart : change.name ≠ other.name) :
    ((c.apply change).1.apply other).1 = ((c.apply other).1.apply change).1 := by
  refine ext_get? fun name => ?_
  simp only [get?_apply]
  -- No name is that of both changes, so one of them says nothing of it.
  by_cases same : name = change.name
  · have silent : other.put?.toList.lookup name = none := lookup_put (same ▸ apart)
    rw [silent, Option.none_or, Option.none_or]
  · rw [lookup_put same, Option.none_or, Option.none_or]

theorem apply_of_fault (failed : (c.apply change).2 = some fault) : (c.apply change).1 = c := by
  obtain ⟨v, -, applied⟩ | ⟨fault, -, applied⟩ := c.apply_cases change
  · rw [applied] at failed
    cases failed
  · rw [applied]

theorem sound_iff : change.Sound ↔ ∃ v, change.put? = some (change.name, v) := by
  cases change with
  | insert name v => exact iff_of_true trivial ⟨v, rfl⟩
  | insertData name data =>
    rw [Change.Sound, ← Data.exists_toValue]
    cases made : data.toValue <;> simp [Change.put?, Change.name, made, Except.toOption]

theorem faultless_iff : (c.apply change).2 = none ↔ change.Sound := by
  rw [sound_iff]
  obtain ⟨v, put, applied⟩ | ⟨fault, put, applied⟩ := c.apply_cases change <;> simp [put, applied]

namespace History

theorem get?_foldl_apply (changes : List Change) (c : Context) (name : String) :
    (changes.foldl (fun c change => (c.apply change).1) c).get? name =
      ((changes.filterMap Change.put?).reverse.lookup name).or (c.get? name) := by
  induction changes generalizing c with
  | nil => rfl
  | cons change rest ih =>
    rw [List.foldl_cons, ih, get?_apply, ← Option.or_assoc, ← List.lookup_append]
    cases put : change.put? <;> simp [put]

theorem get?_foldl_apply_absent {changes : List Change} {name : String}
    (absent : name ∉ changes.map Change.name) (c : Context) :
    (changes.foldl (fun c change => (c.apply change).1) c).get? name = c.get? name := by
  induction changes generalizing c with
  | nil => rfl
  | cons change rest ih =>
    rw [List.map_cons, List.mem_cons, not_or] at absent
    rw [List.foldl_cons, ih absent.2, get?_apply, lookup_put absent.1, Option.none_or]

theorem get?_foldl_apply_of_mem {changes : List Change} (apart : (changes.map Change.name).Nodup)
    {change : Change} (member : change ∈ changes) {v : Value}
    (put : change.put? = some (change.name, v)) (c : Context) :
    (changes.foldl (fun c change => (c.apply change).1) c).get? change.name = some v := by
  induction changes generalizing c with
  | nil => cases member
  | cons first rest ih =>
    rw [List.map_cons, List.nodup_cons] at apart
    rw [List.foldl_cons]
    rcases List.mem_cons.mp member with rfl | later
    · rw [get?_foldl_apply_absent apart.1, get?_apply, put, Option.toList_some,
        Table.lookup_singleton, if_pos rfl, Option.some_or]
    · exact ih apart.2 later _

theorem get?_origin (origin : Origin) (name : String) :
    origin.context.get? name = origin.puts.reverse.lookup name := by
  cases origin with
  | nothing => rfl
  | map members ascending => exact (ascending.lookup_reverse name).symm
  | pairs puts => exact get?_ofPairs puts name

theorem get?_context (h : History) (name : String) :
    h.context.get? name = h.puts.reverse.lookup name := by
  rw [context, get?_foldl_apply, get?_origin, puts, List.reverse_append, List.lookup_append]

theorem context_collected (pairs : List (String × Value)) (changes : List Change) :
    context ⟨.pairs pairs, changes⟩ =
      context ⟨.nothing, pairs.map (fun pair => .insert pair.1 pair.2) ++ changes⟩ := by
  refine ext_get? fun name => ?_
  have kept : pairs.filterMap (Change.put? ∘ fun pair => .insert pair.1 pair.2) = pairs :=
    List.filterMap_some
  rw [get?_context, get?_context, puts, puts, List.filterMap_append, List.filterMap_map, kept]
  rfl

/-- A context is the finite map of what was put in: a change that fails puts in nothing, contexts
that answer alike are equal, and the order of changes under different names does not matter. -/
theorem context_maps (h : History) :
    h.context.Maps h.puts ∧
    (∀ change, (change.Sound ↔ ∃ v, change.put? = some (change.name, v)) ∧
      ((h.context.apply change).2 = none ↔ change.Sound) ∧
      ∀ fault, (h.context.apply change).2 = some fault → (h.context.apply change).1 = h.context) ∧
    (∀ d, (h.context = d ↔ ∀ name, h.context.get? name = d.get? name) ∧
      (h.context.same d = true ↔ ∀ name, (h.context.get? name == d.get? name) = true)) ∧
    (∀ pairs changes, context ⟨.pairs pairs, changes⟩ =
      context ⟨.nothing, pairs.map (fun pair => .insert pair.1 pair.2) ++ changes⟩) ∧
    ∀ change other, change.name ≠ other.name →
      ((h.context.apply change).1.apply other).1 = ((h.context.apply other).1.apply change).1 := by
  refine ⟨?_, fun change => ⟨sound_iff, faultless_iff, fun fault => apply_of_fault⟩,
    fun d => ⟨⟨fun same name => same ▸ rfl, ext_get?⟩, same_iff⟩, context_collected,
    fun change other => h.context.apply_comm⟩
  exact {
    get := h.get?_context
    contains _ := contains_iff
    length := h.context.length_eq_card
    isEmpty := isEmpty_iff
    entries _ _ := mem_entries
    ascending := h.context.entries_bytes
    printed := h.context.toList_print }

def mixed : History where
  origin := .pairs [("z", .ofNat 1), ("\u00E9", .null), ("", .bool true), ("z", .ofNat 2)]
  changes := [.insert "𝄞" (.string "clef"), .insertData "z" (.list [.int 0x10000000000000000]),
    .insert "\uFFFD" .null, .insertData "" (.value (.bool false))]

theorem context_maps_mixed :
    mixed.context.entries.map Prod.fst = ["", "z", "\u00E9", "\uFFFD", "𝄞"] ∧
    mixed.context.get? "z" = some (.ofNat 2) ∧ mixed.context.get? "" = some (.bool false) ∧
    (mixed.context.apply (.insertData "z" (.int 0x10000000000000000))).1 = mixed.context ∧
    ((mixed.context.apply (.insert "a" .null)).1.apply (.insertData "z" (.int 3))).1 =
      ((mixed.context.apply (.insertData "z" (.int 3))).1.apply (.insert "a" .null)).1 := by
  obtain ⟨maps, fails, -, -, commutes⟩ := context_maps mixed
  exact ⟨by decide +kernel, maps.get "z", maps.get "", (fails _).2.2 .numberOutOfRange rfl,
    commutes _ _ (by decide)⟩

end History

end Stencil.Context
