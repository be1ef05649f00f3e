import Stencil.Store

namespace Stencil

abbrev Reader (ω : Type) := String → ω → Except File.Error (Option String) × ω

namespace Store

mutual

def Firm : Store → Prop
  | embedded _ | directory _ | failing _ => True
  | flaky left _ inner => left = 0 ∧ inner.Firm
  | chain stores => AllFirm stores

def AllFirm : List Store → Prop
  | [] => True
  | store :: stores => store.Firm ∧ AllFirm stores

end

mutual

theorem read_firm (files : File.Tree) (name : String) :
    ∀ store : Store, store.Firm → (store.read files name).2 = store
  | embedded _, _ | directory _, _ | failing _, _ => rfl
  | flaky left e inner, firm => by
    obtain ⟨rfl, inside⟩ := firm
    have same := read_firm files name inner inside
    simp only [read, same]
  | chain stores, firm => by
    have same := readFirst_firm files name stores firm
    simp only [read, same]

theorem readFirst_firm (files : File.Tree) (name : String) :
    ∀ stores : List Store, AllFirm stores → (readFirst files name stores).2 = stores
  | [], _ => rfl
  | store :: stores, firm => by
    have same := read_firm files name store firm.1
    have sameToo := readFirst_firm files name stores firm.2
    unfold readFirst
    split
    · rename_i answered
      rw [answered] at same
      exact List.cons_eq_cons.mpr ⟨same, sameToo⟩
    · rename_i answered
      rw [answered] at same
      exact List.cons_eq_cons.mpr ⟨same, rfl⟩

end

end Store

theorem Library.read_firm {l : Library} (firm : l.store.Firm) (name : String) :
    (Library.read name l).2 = l := by
  have same := l.store.read_firm l.files name firm
  simp only [Library.read, same]

end Stencil
