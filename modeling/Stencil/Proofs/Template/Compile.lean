import Stencil.Template.Compiled

namespace Stencil

open Template

section

variable {escaping : Bool} {name source : String} {template : Compiled}

theorem Template.of_compile_ok (compiled : Template.compile escaping name source = .ok template) :
    ∃ nodes, readTemplate? source = some nodes ∧ firstOutOfBounds? nodes = none ∧
      defect? name (trimNodes nodes) = none ∧ template = ⟨name, trimNodes nodes, escaping⟩ := by
  unfold Template.compile at compiled
  split at compiled
  · cases compiled
  case h_2 nodes read =>
    split at compiled
    · cases compiled
    case h_2 bounded =>
      dsimp only at compiled
      split at compiled
      · cases compiled
      case h_2 sound =>
        cases compiled
        exact ⟨nodes, read, bounded, sound, rfl⟩

theorem Template.compile_ok {nodes : List Node} (read : readTemplate? source = some nodes)
    (bounded : firstOutOfBounds? nodes = none) (sound : defect? name (trimNodes nodes) = none) :
    Template.compile escaping name source = .ok ⟨name, trimNodes nodes, escaping⟩ := by
  unfold Template.compile
  simp only [read, bounded, sound]

theorem Template.compile_name (compiled : Template.compile escaping name source = .ok template) :
    template.name = name := by
  obtain ⟨nodes, -, -, -, rfl⟩ := of_compile_ok compiled
  rfl

end

namespace Engine

variable {e : Engine} {name source : String}

theorem of_compile_ok {template : Compiled} (compiled : e.compile name source = .ok template) :
    Template.compile e.escaping name source = .ok template := by
  unfold compile at compiled
  split at compiled
  · rename_i made
    cases compiled
    exact made
  · cases compiled

theorem compile_ok {nodes : List Node} (read : readTemplate? source = some nodes)
    (bounded : firstOutOfBounds? nodes = none) (sound : defect? name (trimNodes nodes) = none) :
    e.compile name source = .ok ⟨name, trimNodes nodes, e.escaping⟩ := by
  unfold compile
  rw [Template.compile_ok read bounded sound]

theorem of_compile_error {f : Failure} (failed : e.compile name source = .error f) :
    ∃ defect, Template.compile e.escaping name source = .error defect ∧
      f = .malformed name (defect.report name) := by
  unfold compile at failed
  split at failed
  · cases failed
  · rename_i defect found
    cases failed
    exact ⟨defect, found, rfl⟩

end Engine

end Stencil
