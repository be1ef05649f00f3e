import Stencil.Environment
import Stencil.Proofs.Text.Utf8

namespace Stencil.Environment

def ofList (values : List (String × List UInt8)) : Environment := fun name =>
  (values.lookup name).map OsText.ofBytes

def Unread (value : Option (List UInt8)) : Prop :=
  ∀ text, value ≠ some (Text.bytes text)

/-- The variable is set, but to no text. -/
def Garbled (value : Option (List UInt8)) : Prop :=
  value ≠ none ∧ Unread value

theorem unread_iff {value : Option (List UInt8)} :
    Unread value ↔ value.bind (OsText.text? ∘ OsText.ofBytes) = none := by
  cases value <;> simp [Unread, Option.eq_none_iff_forall_ne_some, OsText.text?_ofBytes]

instance : DecidablePred Unread := fun _ =>
  decidable_of_iff _ unread_iff.symm

instance : DecidablePred Garbled := fun value =>
  inferInstanceAs (Decidable (value ≠ none ∧ Unread value))

variable {env : Environment} {name : String} {value : Option (List UInt8)}

theorem unread_none : Unread none :=
  nofun

theorem exists_text {bytes : List UInt8} (sound : ¬Garbled (some bytes)) :
    ∃ text, bytes = Text.bytes text := by
  have read : ¬Unread (some bytes) := fun unread => sound ⟨nofun, unread⟩
  obtain ⟨text, read⟩ := Option.ne_none_iff_exists'.mp (mt unread_iff.mpr read)
  exact ⟨text, OsText.text?_ofBytes.mp read⟩

theorem text?_congr {other : Environment} (same : env name = other name) :
    env.text? name = other.text? name := by
  rw [text?, text?, same]

theorem text?_eq_some (set : env name = value.map OsText.ofBytes) {text : String} :
    env.text? name = some text ↔ value = some (Text.bytes text) := by
  rw [text?, set]
  cases value with
  | none => simp
  | some bytes => simpa using OsText.text?_ofBytes

theorem text?_eq_none (set : env name = value.map OsText.ofBytes) :
    env.text? name = none ↔ Unread value := by
  rw [unread_iff, text?, set, Option.bind_map]

end Stencil.Environment
