import Stencil.Proofs.Cache.Memo
import Stencil.Proofs.Cache.Request

namespace Stencil

variable {τ σ : Type}

namespace Script

open Shared (Mirrors Opens)

/-- A run on slots. It has no end if a name is requested while its compile function runs. -/
def walk : Script τ σ → Shared τ × Notes τ σ → Option (Except Failure τ × Shared τ × Notes τ σ)
  | finish result, (s, n) => some (result, s, n)
  | request name compile next, (s, n) =>
    (Shared.request name (noting name compile.walk) (s, n)).bind fun (result, s, n) =>
      (next result).walk (s, n.add (.requested name result))
  | contains name next, (s, n) =>
    (next (s.contains name)).walk (s, n.add (.contained name (s.contains name)))
  | length next, (s, n) => (next s.length).walk (s, n.add (.counted s.length))
  | isEmpty next, (s, n) => (next s.isEmpty).walk (s, n.add (.emptiness s.isEmpty))
  | consult next, (s, n) => (next n.state).walk (s, n)
  | change step next, (s, n) => next.walk (s, n.change step)

theorem walk_mirrors (script : Script τ σ) {inside : List (String × Nat)} {s : Shared τ}
    {memo : Memo τ} {n : Notes τ σ} (settled : s.Settled inside) (recalls : s.cache.Recalls memo)
    (avoids : script.Avoids (inside.map (·.1)) (memo, n)) :
    Mirrors script.walk script.run inside s n := by
  induction script generalizing inside s memo n with
  | finish result => exact ⟨result, s, n, rfl, rfl, settled⟩
  | request name compile next compiles continues =>
    simp only [Avoids] at avoids
    obtain ⟨fresh, inner, outer⟩ := avoids
    have free : ∀ k, (name, k) ∉ inside := fun k member =>
      fresh (List.mem_map.mpr ⟨_, member, rfl⟩)
    have noted (absent : s.get? name = none) (k : Nat) (after : Shared τ)
        (opens : Opens s after name k) :
        Mirrors (noting name compile.walk) (noting name compile.run) ((name, k) :: inside) after
          n := by
      have reserved : after.cache.Recalls memo := by
        rw [opens.cache_eq settled.ascending absent]
        exact recalls.reserve
      have lookup : memo.lookup name = none := by
        rw [← recalls.get?, Shared.get?_cache, absent, Option.map_none]
      exact compiles (settled.opened free opens) reserved (inner lookup)
    obtain ⟨result, after, n', walked, mirrored, kept⟩ := settled.request free noted
    have simulates : Cache.Simulates (noting name compile.run) (noting name compile.denote) memo n :=
      compile.run_simulates memo (n.add (.compiling name))
    obtain ⟨cache, signals, done, recalled⟩ :=
      Cache.Simulates.request (fun _ => simulates) s.cache recalls
    rw [done] at mirrored
    rcases answered : Memo.request name (noting name compile.denote) (memo, n) with ⟨told, later, n⟩
    simp only [answered] at mirrored outer recalled done
    cases mirrored
    obtain ⟨final, last, rest, continued, ended, keeps⟩ := continues result kept recalled outer
    refine ⟨final, last, rest, ?_, ?_, keeps⟩
    · simp only [walk, walked, Option.bind_some]
      exact continued
    · simp only [run]
      rw [Traced.bind_eq done, Traced.modify_bind]
      exact ended
  | contains name next continues =>
    simp only [Avoids] at avoids
    rw [← recalls.contains, Shared.contains_cache] at avoids
    obtain ⟨result, last, rest, continued, ended, keeps⟩ := continues _ settled recalls avoids
    refine ⟨result, last, rest, continued, ?_, keeps⟩
    simp only [run]
    rw [Traced.get_bind, Traced.modify_bind, Shared.contains_cache]
    exact ended
  | length next continues =>
    simp only [Avoids] at avoids
    rw [← recalls.length, Shared.length_cache] at avoids
    obtain ⟨result, last, rest, continued, ended, keeps⟩ := continues _ settled recalls avoids
    refine ⟨result, last, rest, continued, ?_, keeps⟩
    simp only [run]
    rw [Traced.get_bind, Traced.modify_bind, Shared.length_cache]
    exact ended
  | isEmpty next continues =>
    simp only [Avoids] at avoids
    rw [← recalls.isEmpty, Shared.isEmpty_cache] at avoids
    obtain ⟨result, last, rest, continued, ended, keeps⟩ := continues _ settled recalls avoids
    refine ⟨result, last, rest, continued, ?_, keeps⟩
    simp only [run]
    rw [Traced.get_bind, Traced.modify_bind, Shared.isEmpty_cache]
    exact ended
  | consult next continues => exact continues _ settled recalls avoids
  | change step next continues => exact continues settled recalls avoids

/-- A new cache gives a program the answers that a memo gives it, with all its slots and handles,
and to whatever depth compile functions make requests. -/
theorem answers_of_memo (script : Script τ σ) (state : σ)
    (avoids : script.Avoids [] (∅, ⟨state, []⟩)) :
    ∃ result memo n s signals,
      script.denote (∅, ⟨state, []⟩) = (result, memo, n) ∧
      script.run (Cache.empty, ⟨state, []⟩) = ((result, s.cache, n), signals) ∧
      script.walk (Shared.empty, ⟨state, []⟩) = some (result, s, n) ∧
      ∀ name, s.cache.get? name = memo.lookup name := by
  obtain ⟨cache, signals, ran, recalls⟩ :=
    script.run_simulates ∅ ⟨state, []⟩ Cache.empty Cache.Recalls.empty
  obtain ⟨result, s, n, walked, ended, _⟩ :=
    script.walk_mirrors Shared.empty_settled Cache.Recalls.empty avoids
  rw [Shared.cache_empty, ran] at ended
  cases ended
  exact ⟨_, _, _, s, signals, rfl, ran, walked, recalls.get?⟩

def fallback : Script String Unit :=
  .request "outer"
    (.request "inner" (.finish (.error (.absent "inner"))) fun _ =>
      .contains "outer" fun _ => .finish (.ok "text"))
    fun result => .length fun _ => .finish result

theorem answers_of_memo_fallback :
    fallback.Avoids [] (∅, ⟨(), []⟩) ∧ ∃ result memo n s signals,
      fallback.denote (∅, ⟨(), []⟩) = (result, memo, n) ∧
      fallback.run (Cache.empty, ⟨(), []⟩) = ((result, s.cache, n), signals) ∧
      fallback.walk (Shared.empty, ⟨(), []⟩) = some (result, s, n) ∧
      ∀ name, s.cache.get? name = memo.lookup name := by
  have avoids : fallback.Avoids [] (∅, ⟨(), []⟩) := by
    simp [fallback, Avoids, noting]
  exact ⟨avoids, answers_of_memo fallback () avoids⟩

end Script

end Stencil
