import Stencil.Cache
import Stencil.Proofs.Table

namespace Stencil.Cache

variable {τ σ : Type} {c : Cache τ} {name : String}

theorem get?_reserve (query : String) : (c.reserve name).get? query = c.get? query := by
  unfold reserve get?
  split
  · rfl
  · rename_i absent
    rw [Option.not_isSome_iff_eq_none] at absent
    rw [Table.get?_insert]
    split
    · rename_i same
      rw [same, absent]
      rfl
    · rfl

theorem get?_fill (template : τ) (query : String) :
    (c.fill name template).get? query = if query = name then some template else c.get? query := by
  unfold fill get?
  rw [Table.get?_insert]
  split <;> rfl

theorem get?_release (ascending : Table.Ascending c.slots) (query : String) :
    (c.release name).get? query = c.get? query := by
  unfold release
  cases filled : c.contains name with
  | true => rfl
  | false =>
    have absent : c.get? name = none := by
      unfold contains at filled
      rwa [Option.isSome_eq_false_iff, Option.isNone_iff_eq_none] at filled
    show (Table.get? query (Table.erase name c.slots)).join = c.get? query
    rw [Table.get?_erase ascending]
    split
    · rename_i same
      rw [same, absent]
      rfl
    · rfl

theorem get?_slots_reserve (absent : c.get? name = none) (query : String) :
    Table.get? query (c.reserve name).slots =
      if query = name then some none else Table.get? query c.slots := by
  unfold reserve
  cases slot : Table.get? name c.slots with
  | none =>
    show Table.get? query (Table.insert name none c.slots) = _
    rw [Table.get?_insert]
  | some content =>
    show Table.get? query c.slots = _
    unfold get? at absent
    rw [slot, Option.join_some] at absent
    split
    · rename_i same
      rw [same, slot, absent]
    · rfl

theorem get?_slots_release (ascending : Table.Ascending c.slots) (absent : c.get? name = none)
    (query : String) :
    Table.get? query (c.release name).slots =
      if query = name then none else Table.get? query c.slots := by
  have vacant : c.contains name = false := by rw [contains, absent, Option.isSome_none]
  unfold release
  rw [vacant]
  exact Table.get?_erase ascending name query

theorem ascending_reserve (ascending : Table.Ascending c.slots) :
    Table.Ascending (c.reserve name).slots := by
  unfold reserve
  split
  · exact ascending
  · exact ascending.insert name none

theorem ascending_fill (ascending : Table.Ascending c.slots) (template : τ) :
    Table.Ascending (c.fill name template).slots :=
  ascending.insert name (some template)

theorem ascending_release (ascending : Table.Ascending c.slots) :
    Table.Ascending (c.release name).slots := by
  unfold release
  split
  · exact ascending
  · exact ascending.erase name

variable {compile : Traced (Cache τ × σ) (Except Failure τ)} {s s' : σ} {after : Cache τ}
  {signals : List Signal}

theorem request_hit {template : τ} (found : c.get? name = some template) :
    request name compile (c, s) =
      ((.ok template, c.countHit, s), [.event (.lookup name true)]) := by
  simp only [request, Bind.bind, Traced.bind, Traced.get, found]
  rfl

theorem request_filled {template : τ} (absent : c.get? name = none)
    (compiled : compile (c.reserve name, s) = ((.ok template, after, s'), signals)) :
    request name compile (c, s) =
      ((.ok template, after.fill name template, s'),
        .event (.lookup name false) :: signals) := by
  simp [request, Bind.bind, Traced.bind, Traced.get, Traced.modify, Traced.emit, Traced.signal,
    Pure.pure, Traced.pure, absent, compiled]

theorem request_released {failure : Failure} (absent : c.get? name = none)
    (failed : compile (c.reserve name, s) = ((.error failure, after, s'), signals)) :
    request name compile (c, s) =
      ((.error failure, after.release name, s'),
        .event (.lookup name false) :: signals ++
          [.event (.notCompiled name failure.kind)]) := by
  simp [request, Bind.bind, Traced.bind, Traced.get, Traced.modify, Traced.emit, Traced.signal,
    Pure.pure, Traced.pure, absent, failed]

end Stencil.Cache
