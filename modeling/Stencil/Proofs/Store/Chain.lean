import Stencil.Store

namespace Stencil.Store

variable {files : File.Tree} {name : String} {store : Store} {front stores : List Store}

def Silent (files : File.Tree) (name : String) (store : Store) : Prop :=
  (store.read files name).1 = .ok none

theorem readFirst_silent (silent : store.Silent files name) :
    readFirst files name (store :: stores) =
      ((readFirst files name stores).1,
        (store.read files name).2 :: (readFirst files name stores).2) := by
  unfold Silent at silent
  rcases answered : store.read files name with ⟨answer, after⟩
  rw [answered] at silent
  dsimp only at silent
  subst silent
  simp only [readFirst, answered]

theorem readFirst_answered (answered : ¬store.Silent files name) :
    readFirst files name (store :: stores) =
      ((store.read files name).1, (store.read files name).2 :: stores) := by
  unfold Silent at answered
  unfold readFirst
  split
  · rename_i silent
    exact absurd (congrArg Prod.fst silent) answered
  · rename_i spoken
    rw [spoken]

theorem readFirst_append (silent : ∀ store ∈ front, store.Silent files name) :
    (readFirst files name (front ++ stores)).1 = (readFirst files name stores).1 := by
  induction front with
  | nil => rfl
  | cons store front ih =>
    obtain ⟨first, rest⟩ := List.forall_mem_cons.mp silent
    rw [List.cons_append, readFirst_silent first]
    exact ih rest

theorem readFirst_eq_none_iff :
    (readFirst files name stores).1 = .ok none ↔ ∀ store ∈ stores, store.Silent files name := by
  induction stores with
  | nil => exact ⟨nofun, fun _ => rfl⟩
  | cons store stores ih =>
    by_cases silent : store.Silent files name
    · rw [readFirst_silent silent, List.forall_mem_cons]
      exact ⟨fun none => ⟨silent, ih.mp none⟩, fun both => ih.mpr both.2⟩
    · rw [readFirst_answered silent]
      constructor
      · intro none
        exact absurd none silent
      · intro all
        exact absurd (all store List.mem_cons_self) silent

end Stencil.Store
