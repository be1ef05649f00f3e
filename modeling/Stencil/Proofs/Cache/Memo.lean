import Stencil.Proofs.Cache.Content
import Stencil.Proofs.Cache.Script
import Stencil.Proofs.Trace

namespace Stencil

variable {τ σ ρ α : Type}

structure Cache.Recalls (c : Cache τ) (memo : Memo τ) : Prop where
  ascending : Table.Ascending c.slots
  get? (name) : c.get? name = memo.lookup name

namespace Cache.Recalls

variable {c : Cache τ} {memo : Memo τ} {name : String}

theorem empty : (Cache.empty : Cache τ).Recalls ∅ where
  ascending := List.Pairwise.nil
  get? name := by
    rw [Finmap.lookup_empty]
    rfl

theorem countHit (recalls : c.Recalls memo) : c.countHit.Recalls memo :=
  ⟨recalls.ascending, recalls.get?⟩

theorem reserve (recalls : c.Recalls memo) : (c.reserve name).Recalls memo where
  ascending := ascending_reserve recalls.ascending
  get? query := by rw [get?_reserve, recalls.get?]

theorem fill (recalls : c.Recalls memo) (template : τ) :
    (c.fill name template).Recalls (memo.insert name template) where
  ascending := ascending_fill recalls.ascending template
  get? query := by
    rw [get?_fill]
    split
    · rename_i same
      rw [same, Finmap.lookup_insert]
    · rename_i differ
      rw [Finmap.lookup_insert_of_ne _ differ, recalls.get?]

theorem release (recalls : c.Recalls memo) : (c.release name).Recalls memo where
  ascending := ascending_release recalls.ascending
  get? query := by rw [get?_release recalls.ascending, recalls.get?]

theorem contains (recalls : c.Recalls memo) (name : String) :
    c.contains name = decide (name ∈ memo) := by
  unfold Cache.contains
  rw [recalls.get?, Bool.eq_iff_iff, Finmap.lookup_isSome, decide_eq_true_iff]

theorem length (recalls : c.Recalls memo) : c.length = memo.keys.card := by
  have keys : memo.keys =
      ((c.slots.filter fun slot => slot.2.isSome).map fun slot => slot.1).toFinset := by
    ext name
    rw [Finmap.mem_keys, ← Finmap.lookup_isSome, ← recalls.get?, List.mem_toFinset, List.mem_map]
    constructor
    · intro filled
      obtain ⟨template, found⟩ := Option.isSome_iff_exists.mp filled
      have slot := Option.join_eq_some_iff.mp found
      exact ⟨_, List.mem_filter.mpr ⟨Table.mem_of_get? slot, rfl⟩, rfl⟩
    · rintro ⟨slot, member, rfl⟩
      obtain ⟨inside, filled⟩ := List.mem_filter.mp member
      unfold Cache.get?
      rw [Table.get?_of_mem recalls.ascending inside, Option.join_some]
      exact filled
  have apart : ((c.slots.filter fun slot => slot.2.isSome).map fun slot => slot.1).Nodup := by
    refine List.pairwise_map.mpr (List.Pairwise.imp ?_ (recalls.ascending.filter _))
    intro first second less same
    rw [same] at less
    exact String.lt_irrefl _ less
  rw [keys, List.toFinset_card_of_nodup apart, List.length_map, Cache.length,
    List.countP_eq_length_filter]

theorem isEmpty (recalls : c.Recalls memo) : c.isEmpty = decide (memo.keys = ∅) := by
  unfold Cache.isEmpty
  rw [recalls.length, Bool.eq_iff_iff, beq_iff_eq, decide_eq_true_iff, Finset.card_eq_zero]

end Cache.Recalls

/-- From every cache with the templates of a memo, a step does what another does from the memo. -/
def Cache.Simulates (step : Traced (Cache τ × ρ) α) (recalled : Memo τ × ρ → α × Memo τ × ρ)
    (memo : Memo τ) (r : ρ) : Prop :=
  ∀ c : Cache τ, c.Recalls memo → ∃ after signals,
    step (c, r) = (((recalled (memo, r)).1, after, (recalled (memo, r)).2.2), signals) ∧
      after.Recalls (recalled (memo, r)).2.1

namespace Memo

variable {memo later : Memo τ} {name : String} {r r' : ρ}
  {recalled : Memo τ × ρ → Except Failure τ × Memo τ × ρ}

theorem request_found {template : τ} (found : memo.lookup name = some template) :
    Memo.request name recalled (memo, r) = (.ok template, memo, r) := by
  simp only [Memo.request, found]

theorem request_filled {template : τ} (absent : memo.lookup name = none)
    (compiled : recalled (memo, r) = (.ok template, later, r')) :
    Memo.request name recalled (memo, r) = (.ok template, later.insert name template, r') := by
  simp only [Memo.request, absent, compiled]

theorem request_failed {failure : Failure} (absent : memo.lookup name = none)
    (failed : recalled (memo, r) = (.error failure, later, r')) :
    Memo.request name recalled (memo, r) = (.error failure, later, r') := by
  simp only [Memo.request, absent, failed]

end Memo

theorem Cache.Simulates.request {name : String} {memo : Memo τ} {r : ρ}
    {compile : Traced (Cache τ × ρ) (Except Failure τ)}
    {recalled : Memo τ × ρ → Except Failure τ × Memo τ × ρ}
    (simulates : memo.lookup name = none → Simulates compile recalled memo r) :
    Simulates (Cache.request name compile) (Memo.request name recalled) memo r := by
  intro c recalls
  cases found : memo.lookup name with
  | some template =>
    rw [Memo.request_found found]
    exact ⟨_, _, request_hit ((recalls.get? name).trans found), recalls.countHit⟩
  | none =>
    have absent : c.get? name = none := (recalls.get? name).trans found
    obtain ⟨after, signals, compiled, kept⟩ := simulates found _ recalls.reserve
    rcases ended : recalled (memo, r) with ⟨result, later, r'⟩
    rw [ended] at compiled kept
    cases result with
    | ok template =>
      rw [Memo.request_filled found ended]
      exact ⟨_, _, request_filled absent compiled, kept.fill template⟩
    | error failure =>
      rw [Memo.request_failed found ended]
      exact ⟨_, _, request_released absent compiled, kept.release⟩

namespace Script

theorem run_simulates (script : Script τ σ) (memo : Memo τ) (n : Notes τ σ) :
    Cache.Simulates script.run script.denote memo n := by
  induction script generalizing memo n with
  | finish result => exact fun c recalls => ⟨c, [], rfl, recalls⟩
  | request name compile next compiles continues =>
    intro c recalls
    have noted : Cache.Simulates (noting name compile.run) (noting name compile.denote) memo n :=
      compiles memo (n.add (.compiling name))
    obtain ⟨after, signals, done, kept⟩ := Cache.Simulates.request (fun _ => noted) c recalls
    simp only [run, denote]
    rw [Traced.bind_eq done, Traced.modify_bind]
    obtain ⟨final, rest, continued, keeps⟩ := continues _ _ _ after kept
    rw [continued]
    exact ⟨final, _, rfl, keeps⟩
  | contains name next continues =>
    intro c recalls
    simp only [run, denote]
    rw [Traced.get_bind, Traced.modify_bind, recalls.contains]
    exact continues _ _ _ c recalls
  | length next continues =>
    intro c recalls
    simp only [run, denote]
    rw [Traced.get_bind, Traced.modify_bind, recalls.length]
    exact continues _ _ _ c recalls
  | isEmpty next continues =>
    intro c recalls
    simp only [run, denote]
    rw [Traced.get_bind, Traced.modify_bind, recalls.isEmpty]
    exact continues _ _ _ c recalls
  | consult next continues =>
    intro c recalls
    simp only [run, denote]
    rw [Traced.get_bind]
    exact continues _ _ _ c recalls
  | change step next continues =>
    intro c recalls
    simp only [run, denote]
    rw [Traced.modify_bind]
    exact continues _ _ c recalls

end Script

end Stencil
