import Stencil.Logging.Settings
import Stencil.Proofs.Environment
import Stencil.Proofs.Text.Word

namespace Stencil.Logging

open Environment (Unread Garbled)

def Format.word : Format → String
  | json => "json"
  | pretty => "pretty"

/-- The text names the format: in letters of either size, and perhaps with blanks around it. -/
def Format.Named (text : String) (format : Format) : Prop :=
  Text.Wraps text format.word

theorem Format.ofText?_eq_some {text : String} {format : Format} :
    ofText? text = some format ↔ Named text format := by
  have solid : Text.Solid format.word := by cases format <;> decide
  rw [Named, ← Text.lowerAscii_trim solid, ← wordOf]
  by_cases first : wordOf text = "json"
  · cases format <;> simp [ofText?, first, word]
  · by_cases second : wordOf text = "pretty"
    · cases format <;> simp [ofText?, second, word]
    · cases format <;> simp [ofText?, first, second, word]

namespace Settings

/-- The settings that values of the four variables make, if there are any. -/
structure Overlaid (format dir own common : Option (List UInt8)) (s : Settings) : Prop where
  named : ∀ text known, format = some (Text.bytes text) → Format.Named text known → s.format = known
  unnamed : format = none → s.format = .pretty
  directory : ∀ path, dir = some path → path ≠ [] →
    s.output = .directory (OsText.ofBytes path) .daily
  stderr : dir.getD [] = [] → s.output = .stderr
  ownFilter : ∀ text, own = some (Text.bytes text) → s.filter = text
  commonFilter : ∀ text, Unread own → common = some (Text.bytes text) → s.filter = text
  noFilter : Unread own → Unread common → s.filter = "info,tera=warn"

/-- Two environments agree in a field if they agree in the variables that it is made of. -/
structure Alike (env other : Environment) (s t : Settings) : Prop where
  format : env formatVariable = other formatVariable → s.format = t.format
  output : env directoryVariable = other directoryVariable → s.output = t.output
  filter : env filterVariable = other filterVariable →
    env commonFilterVariable = other commonFilterVariable → s.filter = t.filter

variable {env other : Environment} {text : String} {known : Format} {s t : Settings}

theorem ofEnvironment_eq_ok :
    ofEnvironment env = .ok s ↔
      formatOf env = .ok s.format ∧ s.output = outputOf env ∧ s.filter = filterOf env := by
  unfold ofEnvironment
  cases formatOf env with
  | error text => simp [Except.map]
  | ok known =>
    obtain ⟨format, output, filter⟩ := s
    simp [Except.map, eq_comm]

theorem exists_ok : (∃ s, ofEnvironment env = .ok s) ↔ ∃ known, formatOf env = .ok known := by
  unfold ofEnvironment
  cases formatOf env <;> simp [Except.map]

theorem exists_error :
    (∃ text, ofEnvironment env = .error text) ↔ ¬∃ known, formatOf env = .ok known := by
  unfold ofEnvironment
  cases formatOf env <;> simp [Except.map]

section Fields

theorem formatOf_congr (same : env formatVariable = other formatVariable) :
    formatOf env = formatOf other := by
  rw [formatOf, formatOf, Environment.text?_congr same]

theorem outputOf_congr (same : env directoryVariable = other directoryVariable) :
    outputOf env = outputOf other := by
  rw [outputOf, outputOf, Environment.filled?, Environment.filled?, same]

theorem filterOf_congr (same : env filterVariable = other filterVariable)
    (sameToo : env commonFilterVariable = other commonFilterVariable) :
    filterOf env = filterOf other := by
  rw [filterOf, filterOf, Environment.text?_congr same, Environment.text?_congr sameToo]

theorem alike (made : ofEnvironment env = .ok s) (madeToo : ofEnvironment other = .ok t) :
    Alike env other s t := by
  obtain ⟨format, output, filter⟩ := ofEnvironment_eq_ok.mp made
  obtain ⟨formatToo, outputToo, filterToo⟩ := ofEnvironment_eq_ok.mp madeToo
  refine ⟨fun same => ?_, fun same => ?_, fun same sameToo => ?_⟩
  · rw [formatOf_congr same, formatToo] at format
    exact (Except.ok.inj format).symm
  · rw [output, outputToo, outputOf_congr same]
  · rw [filter, filterToo, filterOf_congr same sameToo]

end Fields

section Values

variable {format dir own common : Option (List UInt8)}

theorem formatOf_unread (set : env formatVariable = format.map OsText.ofBytes)
    (unread : Unread format) : formatOf env = .ok .pretty := by
  rw [formatOf, (Environment.text?_eq_none set).mpr unread]
  rfl

theorem formatOf_text (set : env formatVariable = some (OsText.ofBytes (Text.bytes text))) :
    formatOf env = .ok known ↔ Format.Named text known := by
  have held : env formatVariable = (some (Text.bytes text)).map OsText.ofBytes := set
  have read : env.text? formatVariable = some text := (Environment.text?_eq_some held).mpr rfl
  rw [formatOf, read, ← Format.ofText?_eq_some]
  dsimp only
  cases Format.ofText? text with
  | none => exact iff_of_false nofun nofun
  | some found => exact ⟨congrArg some ∘ Except.ok.inj, congrArg Except.ok ∘ Option.some.inj⟩

theorem overlaid (formatSet : env formatVariable = format.map OsText.ofBytes)
    (dirSet : env directoryVariable = dir.map OsText.ofBytes)
    (ownSet : env filterVariable = own.map OsText.ofBytes)
    (commonSet : env commonFilterVariable = common.map OsText.ofBytes)
    (made : ofEnvironment env = .ok s) : Overlaid format dir own common s := by
  obtain ⟨formatted, output, filter⟩ := ofEnvironment_eq_ok.mp made
  refine ⟨fun text known held named => ?_, fun unset => ?_, fun path held filled => ?_,
    fun empty => ?_, fun text held => ?_, fun text unread held => ?_, fun unread unreadToo => ?_⟩
  · subst held
    rw [(formatOf_text formatSet).mpr named] at formatted
    exact (Except.ok.inj formatted).symm
  · rw [formatOf_unread formatSet (unset ▸ Environment.unread_none)] at formatted
    exact (Except.ok.inj formatted).symm
  · subst held
    have kept : env.filled? directoryVariable = some (OsText.ofBytes path) := by
      rw [Environment.filled?, dirSet]
      simpa [OsText.isEmpty_ofBytes] using filled
    rw [output, outputOf, kept]
  · have gone : env.filled? directoryVariable = none := by
      rw [Environment.filled?, dirSet]
      cases dir with
      | none => rfl
      | some path =>
        obtain rfl : path = [] := empty
        rfl
    rw [output, outputOf, gone]
    rfl
  · rw [filter, filterOf, (Environment.text?_eq_some ownSet).mpr held]
    rfl
  · rw [filter, filterOf, (Environment.text?_eq_none ownSet).mpr unread,
      (Environment.text?_eq_some commonSet).mpr held]
    rfl
  · rw [filter, filterOf, (Environment.text?_eq_none ownSet).mpr unread,
      (Environment.text?_eq_none commonSet).mpr unreadToo]
    rfl

/-- A text that names no format is the only thing that is refused, and each variable has its own
field. A format that is set, but to no text, is not refused: it counts as not set. -/
theorem ofEnvironment_overlays (formatSet : env formatVariable = format.map OsText.ofBytes)
    (dirSet : env directoryVariable = dir.map OsText.ofBytes)
    (ownSet : env filterVariable = own.map OsText.ofBytes)
    (commonSet : env commonFilterVariable = common.map OsText.ofBytes) :
    (¬Garbled format →
      ((∃ text, ofEnvironment env = .error text) ↔
        ∃ bytes, format = some bytes ∧
          ¬∃ text known, bytes = Text.bytes text ∧ Format.Named text known)) ∧
    (Garbled format → ∃ s, ofEnvironment env = .ok s ∧ s.format = .pretty) ∧
    (∀ s, ofEnvironment env = .ok s → Overlaid format dir own common s) ∧
    ∀ other, (env formatVariable = other formatVariable →
        ((∃ s, ofEnvironment env = .ok s) ↔ ∃ t, ofEnvironment other = .ok t)) ∧
      ∀ s t, ofEnvironment env = .ok s → ofEnvironment other = .ok t → Alike env other s t := by
  refine ⟨fun sound => ?_, fun garbled => ?_,
    fun s made => overlaid formatSet dirSet ownSet commonSet made,
    fun other => ⟨fun same => ?_, fun s t made madeToo => alike made madeToo⟩⟩
  · rw [exists_error]
    cases format with
    | none => simp [formatOf_unread formatSet Environment.unread_none]
    | some bytes =>
      obtain ⟨text, rfl⟩ := Environment.exists_text sound
      simp only [formatOf_text formatSet]
      constructor
      · intro unnamed
        refine ⟨_, rfl, fun ⟨other, known, same, named⟩ => ?_⟩
        obtain rfl := Text.bytes_inj.mp same
        exact unnamed ⟨known, named⟩
      · rintro ⟨_, ⟨⟩, unnamed⟩ ⟨known, named⟩
        exact unnamed ⟨text, known, rfl, named⟩
  · obtain ⟨s, made⟩ := exists_ok.mpr ⟨_, formatOf_unread formatSet garbled.2⟩
    have format := (ofEnvironment_eq_ok.mp made).1
    rw [formatOf_unread formatSet garbled.2] at format
    exact ⟨s, made, (Except.ok.inj format).symm⟩
  · rw [exists_ok, exists_ok, formatOf_congr same]

def mixed : Environment :=
  .ofList [(formatVariable, [0x20, 0x4A, 0x53, 0x4F, 0x4E, 0x0A]), (directoryVariable, [0x61, 0xFF]),
    (filterVariable, [0xC0]), (commonFilterVariable, [0x77, 0x61, 0x72, 0x6E])]

theorem ofEnvironment_overlays_mixed :
    (∃ s, ofEnvironment mixed = .ok s ∧ s.format = .json ∧
      s.output = .directory [.char 'a', .stray [0xFF]] .daily ∧ s.filter = "warn") ∧
    Garbled (some [0xFF]) ∧
    ∃ s, ofEnvironment (.ofList [(formatVariable, [0xFF])]) = .ok s ∧ s.format = .pretty := by
  have named : Format.Named " JSON\n" .json :=
    (Text.lowerAscii_trim (by decide)).mp (by decide +kernel)
  have bytes : [0x20, 0x4A, 0x53, 0x4F, 0x4E, 0x0A] = Text.bytes " JSON\n" := by decide +kernel
  have sound : ¬Garbled (some [0x20, 0x4A, 0x53, 0x4F, 0x4E, 0x0A]) := by decide
  have garbled : Garbled (some [0xFF]) := by decide
  have format : mixed formatVariable =
      (some [0x20, 0x4A, 0x53, 0x4F, 0x4E, 0x0A]).map OsText.ofBytes := rfl
  have dir : mixed directoryVariable = (some [0x61, 0xFF]).map OsText.ofBytes := rfl
  have own : mixed filterVariable = (some [0xC0]).map OsText.ofBytes := rfl
  have common : mixed commonFilterVariable = (some [0x77, 0x61, 0x72, 0x6E]).map OsText.ofBytes :=
    rfl
  obtain ⟨refuses, -, overlays, -⟩ := ofEnvironment_overlays format dir own common
  have lone : Environment.ofList [(formatVariable, [0xFF])] formatVariable =
      (some [0xFF]).map OsText.ofBytes := rfl
  have unset : ∀ name ∈ [directoryVariable, filterVariable, commonFilterVariable],
      Environment.ofList [(formatVariable, [0xFF])] name = Option.map OsText.ofBytes none := by
    decide
  obtain ⟨-, accepts, -, -⟩ := ofEnvironment_overlays lone (unset _ (by decide))
    (unset filterVariable (by decide)) (unset commonFilterVariable (by decide))
  refine ⟨?_, garbled, accepts garbled⟩
  cases made : ofEnvironment mixed with
  | error text =>
    obtain ⟨_, ⟨⟩, unnamed⟩ := (refuses sound).mp ⟨text, made⟩
    exact absurd ⟨_, _, bytes, named⟩ unnamed
  | ok s =>
    have fields := overlays s made
    exact ⟨s, rfl, fields.named _ _ (congrArg some bytes) named,
      fields.directory _ rfl (List.cons_ne_nil _ _),
      fields.commonFilter "warn" (by decide) (congrArg some (by decide +kernel))⟩

theorem garbled_format_accepted :
    ¬∀ (env : Environment) (format : Option (List UInt8)),
      env formatVariable = format.map OsText.ofBytes →
      ((∃ text, ofEnvironment env = .error text) ↔
        ∃ bytes, format = some bytes ∧
          ¬∃ text known, bytes = Text.bytes text ∧ Format.Named text known) := by
  intro all
  have refuses := all (.ofList [(formatVariable, [0xFF])]) (some [0xFF]) rfl
  have garbled : Garbled (some [0xFF]) := by decide
  obtain ⟨text, refused⟩ := refuses.mpr
    ⟨_, rfl, fun ⟨text, known, same, _⟩ => garbled.2 text (congrArg some same)⟩
  have made : ofEnvironment (.ofList [(formatVariable, [0xFF])]) = .ok Settings.default := rfl
  rw [made] at refused
  cases refused

end Values

end Settings

end Stencil.Logging
