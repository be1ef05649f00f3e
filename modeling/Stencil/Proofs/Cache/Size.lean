import Stencil.Proofs.Cache.Content

namespace Stencil.Cache

variable {τ : Type} {c : Cache τ} {name : String}

theorem length_erase (absent : c.get? name = none) :
    (Table.erase name c.slots).countP (fun slot => slot.2.isSome) = c.length := by
  unfold length
  cases slot : Table.get? name c.slots with
  | none => rw [Table.erase_of_absent slot]
  | some content =>
    have vacant : content = none := by
      unfold get? at absent
      rwa [slot, Option.join_some] at absent
    rw [(Table.perm_of_get? slot).countP_eq, vacant]
    simp

theorem length_reserve (ascending : Table.Ascending c.slots) (absent : c.get? name = none) :
    (c.reserve name).length = c.length := by
  rw [← length_erase absent]
  unfold reserve length
  cases slot : Table.get? name c.slots with
  | none =>
    show (Table.insert name none c.slots).countP _ = _
    rw [(Table.insert_perm ascending name none).countP_eq]
    simp
  | some content => exact (length_erase absent).symm

theorem length_fill (ascending : Table.Ascending c.slots) (absent : c.get? name = none)
    (template : τ) : (c.fill name template).length = c.length + 1 := by
  rw [← length_erase absent]
  show (Table.insert name (some template) c.slots).countP _ = _
  rw [(Table.insert_perm ascending name _).countP_eq]
  simp

theorem length_release (absent : c.get? name = none) : (c.release name).length = c.length := by
  have vacant : c.contains name = false := by rw [contains, absent, Option.isSome_none]
  unfold release
  rw [vacant]
  exact length_erase absent

theorem slots_reserve (ascending : Table.Ascending c.slots)
    (free : Table.get? name c.slots = none) :
    (c.reserve name).slots.length = c.slots.length + 1 := by
  unfold reserve
  rw [free]
  show (Table.insert name none c.slots).length = _
  rw [(Table.insert_perm ascending name none).length_eq, Table.erase_of_absent free,
    List.length_cons]

theorem slots_fill (ascending : Table.Ascending c.slots) {content : Option τ}
    (taken : Table.get? name c.slots = some content) (template : τ) :
    (c.fill name template).slots.length = c.slots.length := by
  show (Table.insert name (some template) c.slots).length = _
  rw [(Table.insert_perm ascending name _).length_eq, (Table.perm_of_get? taken).length_eq]
  rfl

theorem slots_release (reserved : Table.get? name c.slots = some none) :
    (c.release name).slots.length + 1 = c.slots.length := by
  have vacant : c.contains name = false := by
    rw [contains, get?, reserved, Option.join_some, Option.isSome_none]
  unfold release
  rw [vacant, (Table.perm_of_get? reserved).length_eq]
  rfl

end Stencil.Cache
