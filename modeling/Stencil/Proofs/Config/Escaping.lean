import Stencil.Proofs.Config.Dirs
import Stencil.Proofs.Environment
import Stencil.Proofs.Text.Word

namespace Stencil.Config

open Environment (Garbled)
open File (Tree)

def spellings : Bool → List String
  | true => ["1", "true", "yes", "on"]
  | false => ["0", "false", "no", "off"]

/-- The text spells the boolean: in letters of either size, and perhaps with blanks around it. -/
def Spells (text : String) (b : Bool) : Prop :=
  ∃ word ∈ spellings b, Text.Wraps text word

variable {files : Tree} {env : Environment} {file : Option Path} {raw : Layer}
  {value : Option (List UInt8)} {text : String} {b : Bool}

theorem wordToBool?_eq_some {word : String} : wordToBool? word = some b ↔ word ∈ spellings b := by
  have apart : ∀ word ∈ spellings true, word ∉ spellings false := by decide
  have yes : ["1", "true", "yes", "on"].contains word = true ↔ word ∈ spellings true :=
    List.contains_iff_mem
  have no : ["0", "false", "no", "off"].contains word = true ↔ word ∈ spellings false :=
    List.contains_iff_mem
  simp only [wordToBool?, yes, no]
  by_cases listed : word ∈ spellings true
  · cases b <;> simp [listed, apart word listed]
  · by_cases listedToo : word ∈ spellings false <;> cases b <;> simp [listed, listedToo]

theorem wordToBool?_wordOf : wordToBool? (wordOf text) = some b ↔ Spells text b := by
  have solid : ∀ b, ∀ word ∈ spellings b, Text.Solid word := by decide
  rw [wordToBool?_eq_some]
  constructor
  · intro listed
    exact ⟨_, listed, (Text.lowerAscii_trim (solid b _ listed)).mp rfl⟩
  · rintro ⟨word, listed, wraps⟩
    rwa [wordOf, (Text.lowerAscii_trim (solid b word listed)).mpr wraps]

theorem load_unread (stated : Says files file raw)
    (unread : env.text? Layer.escapingVariable = none) :
    ∃ c, load files env file = .ok c ∧ c.escaping = raw.escaping.getD false := by
  have told : Layer.ofEnvironment env =
      .ok { templateDirs := (env.filled? Layer.dirsVariable).map (OsText.split ':') } := by
    unfold Layer.ofEnvironment
    rw [unread]
  exact ⟨_, load_eq stated told, rfl⟩

theorem load_spelled (stated : Says files file raw)
    (read : env.text? Layer.escapingVariable = some text) (spelled : Spells text b) :
    ∃ c, load files env file = .ok c ∧ c.escaping = b := by
  have told : Layer.ofEnvironment env =
      .ok ⟨(env.filled? Layer.dirsVariable).map (OsText.split ':'), some b⟩ := by
    unfold Layer.ofEnvironment
    rw [read]
    simp only [wordToBool?_wordOf.mpr spelled]
  exact ⟨_, load_eq stated told, rfl⟩

theorem load_unspelled (stated : Says files file raw)
    (read : env.text? Layer.escapingVariable = some text)
    (unknown : wordToBool? (wordOf text) = none) :
    load files env file = .error (.badBoolean text) := by
  have refused : readEnvironment env = .error (.badBoolean text) := by
    unfold readEnvironment Layer.ofEnvironment
    rw [read]
    simp only [unknown]
    rfl
  rw [load_stated stated, refused]
  rfl

theorem load_text (stated : Says files file raw)
    (read : env.text? Layer.escapingVariable = some text) :
    (∃ c, load files env file = .ok c) ↔ ∃ b, Spells text b := by
  constructor
  · rintro ⟨c, loaded⟩
    cases known : wordToBool? (wordOf text) with
    | none =>
      rw [load_unspelled stated read known] at loaded
      cases loaded
    | some b => exact ⟨b, wordToBool?_wordOf.mp known⟩
  · rintro ⟨b, spelled⟩
    obtain ⟨c, loaded, -⟩ := load_spelled stated read spelled
    exact ⟨c, loaded⟩

theorem fromEnvironment_eq_load (files : Tree) (env : Environment) :
    fromEnvironment env = load files env none := by
  rw [load_stated .nothing]
  rfl

/-- A value that is a text is obeyed if it spells a boolean and rejected if it does not. A value
that is none counts as little as no value: then the file decides, and without a word from it the
default. -/
theorem load_escaping (stated : Says files file raw)
    (set : env Layer.escapingVariable = value.map OsText.ofBytes) :
    (¬Garbled value →
      ((∃ c, load files env file = .ok c) ↔
        ∀ bytes, value = some bytes → ∃ text b, bytes = Text.bytes text ∧ Spells text b) ∧
      ∀ c, load files env file = .ok c →
        (∀ text b, value = some (Text.bytes text) → Spells text b → c.escaping = b) ∧
        (value = none → c.escaping = raw.escaping.getD false)) ∧
    (Garbled value → ∃ c, load files env file = .ok c ∧ c.escaping = raw.escaping.getD false) ∧
    fromEnvironment env = load files env none := by
  have passed (unread : Environment.Unread value) :=
    load_unread stated ((Environment.text?_eq_none set).mpr unread)
  refine ⟨fun sound => ⟨?_, fun c loaded => ⟨fun text b held spelled => ?_, fun unset => ?_⟩⟩,
    fun garbled => passed garbled.2, fromEnvironment_eq_load files env⟩
  · cases value with
    | none =>
      obtain ⟨c, loaded, -⟩ := passed Environment.unread_none
      exact iff_of_true ⟨c, loaded⟩ nofun
    | some bytes =>
      obtain ⟨text, rfl⟩ := Environment.exists_text sound
      rw [load_text stated ((Environment.text?_eq_some set).mpr rfl)]
      constructor
      · rintro ⟨b, spelled⟩ _ ⟨⟩
        exact ⟨text, b, rfl, spelled⟩
      · intro obeyed
        obtain ⟨other, b, same, spelled⟩ := obeyed _ rfl
        obtain rfl := Text.bytes_inj.mp same
        exact ⟨b, spelled⟩
  · obtain ⟨d, loadedToo, obeyed⟩ :=
      load_spelled stated ((Environment.text?_eq_some set).mpr held) spelled
    rw [loaded] at loadedToo
    cases loadedToo
    exact obeyed
  · obtain ⟨d, loadedToo, left⟩ := passed (unset ▸ Environment.unread_none)
    rw [loaded] at loadedToo
    cases loadedToo
    exact left

def switched : Tree :=
  ⟨.dir [(Path.ofString "c.json", .file "\x7b\"autoescape\":true\x7d".toUTF8)], []⟩

theorem says_of_switched : Says switched (some (Path.ofString "c.json")) ⟨none, some true⟩ := by
  have parsed : Layer.Json.parse "\x7b\"autoescape\":true\x7d" = .ok ⟨none, some true⟩ :=
    eq_ok_of_toOption (by decide +kernel)
  exact .json rfl rfl (by decide +kernel) parsed

def switching (bytes : List UInt8) : Environment :=
  .ofList [(Layer.escapingVariable, bytes)]

theorem load_escaping_switched :
    let file := some (Path.ofString "c.json")
    Spells " OfF\u00A0" false ∧
    (∃ c, load switched (switching [0x20, 0x4F, 0x66, 0x46, 0xC2, 0xA0]) file = .ok c ∧
      c.escaping = false) ∧
    Garbled (some [0x6F, 0x6E, 0xFF]) ∧
    ∃ c, load switched (switching [0x6F, 0x6E, 0xFF]) file = .ok c ∧ c.escaping = true := by
  have spelled : Spells " OfF\u00A0" false :=
    ⟨"off", by decide, (Text.lowerAscii_trim (by decide)).mp (by decide +kernel)⟩
  have bytes : Text.bytes " OfF\u00A0" = [0x20, 0x4F, 0x66, 0x46, 0xC2, 0xA0] := by decide +kernel
  have sound : ¬Garbled (some [0x20, 0x4F, 0x66, 0x46, 0xC2, 0xA0]) := by decide
  have garbled : Garbled (some [0x6F, 0x6E, 0xFF]) := by decide
  have set (bytes : List UInt8) :
      switching bytes Layer.escapingVariable = (some bytes).map OsText.ofBytes := rfl
  obtain ⟨obeys, -, -⟩ := load_escaping says_of_switched
    (set [0x20, 0x4F, 0x66, 0x46, 0xC2, 0xA0])
  obtain ⟨loads, decides⟩ := obeys sound
  obtain ⟨c, loaded⟩ := loads.mpr (by rintro _ ⟨⟩; exact ⟨_, _, bytes.symm, spelled⟩)
  obtain ⟨-, passes, -⟩ := load_escaping says_of_switched (set [0x6F, 0x6E, 0xFF])
  exact ⟨spelled, ⟨c, loaded, (decides c loaded).1 _ false (congrArg some bytes.symm) spelled⟩,
    garbled, passes garbled⟩

theorem garbled_ignored :
    ¬∀ (files : Tree) (env : Environment) (file : Option Path) (raw : Layer)
      (value : Option (List UInt8)), Says files file raw →
      env Layer.escapingVariable = value.map OsText.ofBytes →
      ((∃ c, load files env file = .ok c) ↔
        ∀ bytes, value = some bytes → ∃ text b, bytes = Text.bytes text ∧ Spells text b) := by
  intro all
  have loaded := all switched (switching [0xFF]) none {} (some [0xFF]) .nothing rfl
  obtain ⟨text, b, written, -⟩ := loaded.mp ⟨default, rfl⟩ _ rfl
  have garbled : Garbled (some [0xFF]) := by decide
  exact garbled.2 text (congrArg some written)

end Stencil.Config
