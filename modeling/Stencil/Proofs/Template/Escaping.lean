import Stencil.Proofs.Template.Filling
import Stencil.Proofs.Template.Marks

namespace Stencil.Template

open Json (Value)

/-- What a blank shows of a value if everything is escaped. -/
def shown : Value → String
  | .string s => escapeText s
  | v => v.display

theorem mem_shown {c : Char} (mark : c ∈ marks) (v : Value) :
    c ∈ (shown v).toList ↔ ∃ items, v = .array items ∧ ∃ item ∈ items, Carries c item := by
  by_cases listed : ∃ items, v = .array items
  · obtain ⟨items, rfl⟩ := listed
    have kept : shown (.array items) = (Value.array items).display := rfl
    rw [kept, mem_display mark, carries_array]
    simp
  · constructor
    · intro member
      cases v with
      | string s => exact absurd mark (unmarked_escapeText s c member)
      | array items => exact absurd ⟨items, rfl⟩ listed
      | _ => cases (mem_display mark _).mp member
    · rintro ⟨items, same, -⟩
      exact absurd ⟨items, same⟩ listed

namespace Form

variable {form : Form} {name : String} {context : Context} {values : String → Value}

theorem shown?_escaped {t : Compiled} (escaping : t.escaping = true) {v : Value}
    (bound : context.get? name = some v) : (t.scene context).shown? name = some (shown v) := by
  have escaped : (t.scene context).escaping = true := (Compiled.escapes_eq t).trans escaping
  have found : Table.get? name (t.scene context).globals = some v := bound
  cases v <;> simp [Scene.shown?, found, escapeIn, escaped, Value.display, shown]

theorem render_escaped (identifiers : ∀ blank ∈ form.blanks, IsIdentifier blank.toList)
    (bound : ∀ blank ∈ form.blanks, context.get? blank = some (values blank)) :
    (⟨name, form.nodes, true⟩ : Compiled).render context =
      .ok (form.filled fun blank => shown (values blank)) := by
  have escaped := fun blank member =>
    shown?_escaped (t := ⟨name, form.nodes, true⟩) rfl (bound blank member)
  exact (render_fill? identifiers true context _).mpr (fill?_eq_some escaped)

/-- A form that escapes renders to its texts and what its blanks show. Strings are escaped, the
ampersand first; marks come from the strings in lists, and from nothing else. -/
theorem fills_escaped (name : String) (plain : ∀ blank ∈ form.blanks, IsPlain blank)
    (other : ∀ blank ∈ form.blanks, ¬BeginsLikeBoolean blank.toList) (unbroken : form.Unbroken) :
    ∃ t, (⟨true⟩ : Engine).compile name form.source = .ok t ∧
      ∀ (context : Context) (values : String → Value),
        (∀ blank ∈ form.blanks, context.get? blank = some (values blank)) →
        t.render context = .ok (form.filled fun blank => shown (values blank)) ∧
        ∀ blank ∈ form.blanks,
          (∀ s, values blank = .string s → shown (values blank) = entities.foldl
            (fun s entity => Text.replace s (String.singleton entity.1) entity.2) s) ∧
          ∀ c ∈ marks, c ∈ (shown (values blank)).toList ↔
            ∃ items, values blank = .array items ∧ ∃ item ∈ items, Carries c item := by
  have identifiers : ∀ blank ∈ form.blanks, IsIdentifier blank.toList :=
    fun blank member => (plain blank member).identifier
  refine ⟨⟨name, form.nodes, true⟩, compile_source ⟨identifiers, other, unbroken⟩ _ name,
    fun context values bound => ⟨render_escaped identifiers bound, fun blank member =>
      ⟨fun s string => ?_, fun c mark => mem_shown mark _⟩⟩⟩
  rw [string]
  exact escapeText_eq s

def page : Form :=
  [.text "<b>", .blank "who", .text "</b>", .blank "list"]

def guests : String → Value
  | "who" => .string "<&lt;'"
  | _ => .array [.ofInt (-3), .array [.string "&/", .null], .object [("<", .string ">")]]

theorem page_fills_escaped :
    (∀ blank ∈ page.blanks, IsPlain blank) ∧
    (∀ blank ∈ page.blanks, ¬BeginsLikeBoolean blank.toList) ∧ page.Unbroken ∧
    ∃ t, (⟨true⟩ : Engine).compile "page.txt" page.source = .ok t ∧
      t.render (.ofPairs [("who", guests "who"), ("list", guests "list")]) =
        .ok "<b>&lt;&amp;lt;&#x27;</b>[-3, [&/, ], [object]]" := by
  have plain : ∀ blank ∈ page.blanks, IsPlain blank := by decide
  have other : ∀ blank ∈ page.blanks, ¬BeginsLikeBoolean blank.toList := by decide
  have unbroken : page.Unbroken := by decide
  obtain ⟨t, compiled, renders⟩ := fills_escaped "page.txt" plain other unbroken
  obtain ⟨rendered, -⟩ := renders (.ofPairs [("who", guests "who"), ("list", guests "list")]) guests
    (List.forall_mem_cons.mpr ⟨rfl, List.forall_mem_cons.mpr ⟨rfl, nofun⟩⟩)
  have text : page.filled (fun blank => shown (guests blank)) =
      "<b>&lt;&amp;lt;&#x27;</b>[-3, [&/, ], [object]]" := by decide +kernel
  exact ⟨plain, other, unbroken, t, compiled, text ▸ rendered⟩

theorem list_unescaped :
    ¬∀ (name : String) (form : Form), (∀ blank ∈ form.blanks, IsPlain blank) →
      (∀ blank ∈ form.blanks, ¬BeginsLikeBoolean blank.toList) → form.Unbroken →
      ∃ t, (⟨true⟩ : Engine).compile name form.source = .ok t ∧
        ∀ (context : Context) (values : String → Value),
          (∀ blank ∈ form.blanks, context.get? blank = some (values blank)) →
          ∃ given : String → String, t.render context = .ok (form.filled given) ∧
            ∀ blank ∈ form.blanks, ∀ c ∈ marks, c ∉ (given blank).toList := by
  intro escapes
  have plain : ∀ blank ∈ blanks [.blank "x"], IsPlain blank := by decide
  have other : ∀ blank ∈ blanks [.blank "x"], ¬BeginsLikeBoolean blank.toList := by decide
  have identifiers : ∀ blank ∈ blanks [.blank "x"], IsIdentifier blank.toList :=
    fun blank member => (plain blank member).identifier
  have list : ∀ blank ∈ blanks [.blank "x"], (Context.empty.insert "x" (.array [.string "<b>"])).get?
      blank = some (.array [.string "<b>"]) := List.forall_mem_cons.mpr ⟨rfl, nofun⟩
  obtain ⟨t, compiled, renders⟩ := escapes "t.tmpl" [.blank "x"] plain other (by decide)
  rw [compile_source ⟨identifiers, other, by decide⟩] at compiled
  cases compiled
  obtain ⟨given, rendered, unmarked⟩ := renders _ _ list
  rw [render_escaped identifiers list] at rendered
  have same : shown (.array [.string "<b>"]) = given "x" := by
    simpa [filled, String.join] using Except.ok.inj rendered
  have member : '<' ∈ (shown (.array [.string "<b>"])).toList := by decide +kernel
  exact unmarked "x" (by decide) '<' (by decide) (same ▸ member)

end Form

end Stencil.Template
