import Stencil.Proofs.Context.History
import Stencil.Proofs.Template.Sheet

namespace Stencil.Template

open Context (Change)
open Data (itemsToValues)
open Json (Value)

structure Field where
  ty : String
  name : String

namespace Field

def declaration (f : Field) : String :=
  "  private final " ++ f.ty ++ " " ++ f.name ++ ";"

def parameter (f : Field) : String :=
  f.ty ++ " " ++ f.name

def assignment (f : Field) : String :=
  "    this." ++ f.name ++ " = " ++ f.name ++ ";"

/-- The value is an object with the members of the field, and perhaps others. -/
def Shown (f : Field) (v : Value) : Prop :=
  v.get? "ty" = some (.string f.ty) ∧ v.get? "name" = some (.string f.name)

def Held (f : Field) (data : Data) : Prop :=
  ∃ v, data.toValue = .ok v ∧ f.Shown v

def data (f : Field) : Data :=
  .table [(.text "name", .value (.string f.name)), (.text "ty", .value (.string f.ty))]

theorem held_data (f : Field) : f.Held f.data := by
  refine ⟨_, rfl, ?_, ?_⟩
  · exact Table.get?_ofPairs _ "ty"
  · exact Table.get?_ofPairs _ "name"

end Field

/-- A class that is generated for a type: it has the fields of the type, and a constructor that
takes a value for each of them. -/
structure Handle where
  package : String
  simpleName : String
  sourceType : String
  initiator : String
  fields : List Field

namespace Handle

section Source

/-- The source of the template, most of it line by line. -/
def pieces : List String :=
  ["package \x7b\x7b package \x7d\x7d;\n",
    "\n",
    "/**\n",
    " * Generated handle for \x7b\x7b source_type \x7d\x7d.\n",
    " * Initiated by \x7b\x7b initiator \x7d\x7d.\n",
    " */\n",
    "public final class \x7b\x7b simple_name \x7d\x7dHandle \x7b\n",
    "\x7b%- for field in fields %\x7d\n",
    "  private final \x7b\x7b field.ty \x7d\x7d \x7b\x7b field.name \x7d\x7d;\n",
    "\x7b%- endfor %\x7d\n",
    "\n",
    "  public \x7b\x7b simple_name \x7d\x7dHandle(",
    "\x7b% for field in fields %\x7d",
    "\x7b\x7b field.ty \x7d\x7d \x7b\x7b field.name \x7d\x7d",
    "\x7b% if not loop.last %\x7d, \x7b% endif %\x7d",
    "\x7b% endfor %\x7d) \x7b\n",
    "\x7b%- for field in fields %\x7d\n",
    "    this.\x7b\x7b field.name \x7d\x7d = \x7b\x7b field.name \x7d\x7d;\n",
    "\x7b%- endfor %\x7d\n",
    "  \x7d\n",
    "\x7d\n"]

def source : String := String.join pieces

theorem toList_source : source.toList = pieces.flatMap String.toList := by simp [source]

def declared : List Detail :=
  [.text "\n  private final ", .member "ty", .text " ", .member "name", .text ";"]

def listed : List Detail :=
  [.member "ty", .text " ", .member "name", .between ", "]

def assigned : List Detail :=
  [.text "\n    this.", .member "name", .text " = ", .member "name", .text ";"]

def sheet : Sheet :=
  [.text "package ", .blank "package",
    .text ";\n\n/**\n * Generated handle for ", .blank "source_type",
    .text ".\n * Initiated by ", .blank "initiator",
    .text ".\n */\npublic final class ", .blank "simple_name", .text "Handle \x7b",
    .each "field" "fields" ⟨true, false⟩ ⟨true, false⟩ declared,
    .text "\n\n  public ", .blank "simple_name", .text "Handle(",
    .each "field" "fields" ⟨false, false⟩ ⟨false, false⟩ listed,
    .text ") \x7b",
    .each "field" "fields" ⟨true, false⟩ ⟨true, false⟩ assigned,
    .text "\n  \x7d\n\x7d\n"]

theorem compile_source (e : Engine) (name : String) :
    e.compile name source = .ok ⟨name, sheet.nodes, e.escaping⟩ := by
  apply Sheet.compile_of_spells toList_source
  decide +kernel

end Source

def header (h : Handle) : List String :=
  ["package " ++ h.package ++ ";",
    "",
    "/**",
    " * Generated handle for " ++ h.sourceType ++ ".",
    " * Initiated by " ++ h.initiator ++ ".",
    " */",
    "public final class " ++ h.simpleName ++ "Handle \x7b"]

def constructorHead (h : Handle) : String :=
  "  public " ++ h.simpleName ++ "Handle(" ++ ", ".intercalate (h.fields.map Field.parameter) ++
    ") \x7b"

def lines (h : Handle) : List String :=
  h.header ++ h.fields.map Field.declaration ++ ["", h.constructorHead] ++
    h.fields.map Field.assignment ++ ["  \x7d", "\x7d"]

def text (h : Handle) : String :=
  String.join (h.lines.map (· ++ "\n"))

/-- What is put into the context for a handle, if the fields are handed over as the data. -/
def changes (h : Handle) (data : List Data) : List Change :=
  [.insert "package" (.string h.package), .insert "simple_name" (.string h.simpleName),
    .insert "source_type" (.string h.sourceType), .insert "initiator" (.string h.initiator),
    .insertData "fields" (.list data)]

/-- What the context has for a handle then. -/
structure Shown (h : Handle) (vs : List Value) (look : String → Option Value) : Prop where
  package : look "package" = some (.string h.package)
  simpleName : look "simple_name" = some (.string h.simpleName)
  sourceType : look "source_type" = some (.string h.sourceType)
  initiator : look "initiator" = some (.string h.initiator)
  fields : look "fields" = some (.array vs)
  each : List.Forall₂ Field.Shown h.fields vs

theorem itemsToValues_of_held {fields : List Field} {data : List Data}
    (held : List.Forall₂ Field.Held fields data) :
    ∃ vs, itemsToValues data = .ok vs ∧ List.Forall₂ Field.Shown fields vs := by
  induction held with
  | nil => exact ⟨[], rfl, .nil⟩
  | cons here _ ih =>
    rcases here with ⟨v, made, shown⟩
    rcases ih with ⟨vs, rest, each⟩
    refine ⟨v :: vs, ?_, .cons shown each⟩
    rw [itemsToValues, made, rest]
    rfl

section Changes

variable {h : Handle} {data : List Data} (held : List.Forall₂ Field.Held h.fields data)
  {changes : List Change} (order : changes.Perm (h.changes data))

include held order

theorem faultless {change : Change} (member : change ∈ changes) (c : Context) :
    (c.apply change).2 = none := by
  rcases itemsToValues_of_held held with ⟨vs, made, -⟩
  have sound : (Data.list data).toValue = .ok (.array vs) := by
    rw [Data.toValue, made]
    rfl
  have inside := order.mem_iff.mp member
  simp only [Handle.changes, List.mem_cons, List.not_mem_nil, or_false] at inside
  rcases inside with rfl | rfl | rfl | rfl | rfl
  · rfl
  · rfl
  · rfl
  · rfl
  · simp [Context.apply, Context.insertData, sound, Except.map]

theorem shown_changes (c : Context) :
    ∃ vs, h.Shown vs (changes.foldl (fun c change => (c.apply change).1) c).get? := by
  rcases itemsToValues_of_held held with ⟨vs, made, each⟩
  have apart : (changes.map Change.name).Nodup := by
    rw [(order.map Change.name).nodup_iff]
    show ["package", "simple_name", "source_type", "initiator", "fields"].Nodup
    decide
  have inserted {name s : String} (member : .insert name (.string s) ∈ h.changes data) :=
    Context.History.get?_foldl_apply_of_mem apart (order.mem_iff.mpr member) rfl c
  have member : Change.insertData "fields" (.list data) ∈ h.changes data := by
    simp [Handle.changes]
  have put : (Change.insertData "fields" (.list data)).put? = some ("fields", .array vs) := by
    rw [Change.put?, Data.toValue, made]
    rfl
  refine ⟨vs, ?_⟩
  exact {
    package := inserted (by simp [Handle.changes])
    simpleName := inserted (by simp [Handle.changes])
    sourceType := inserted (by simp [Handle.changes])
    initiator := inserted (by simp [Handle.changes])
    fields := Context.History.get?_foldl_apply_of_mem apart (order.mem_iff.mpr member) put c
    each }

end Changes

section Rendering

theorem flatMap_newline {α : Type} (line : α → List Char) (xs : List α) (rest : List Char) :
    (xs.flatMap fun x => '\n' :: line x) ++ '\n' :: rest =
      '\n' :: ((xs.flatMap fun x => line x ++ ['\n']) ++ rest) := by
  induction xs with
  | nil => rfl
  | cons x xs ih =>
    rw [List.flatMap_cons, List.append_assoc, ih, List.flatMap_cons]
    simp

variable {vs : List Value}

section Loops

variable {fields : List Field} (each : List.Forall₂ Field.Shown fields vs)

include each

theorem held_details {details : List Detail}
    (members : ∀ name, .member name ∈ details → name = "ty" ∨ name = "name") :
    ∀ v ∈ vs, ∀ d ∈ details, d.Held v := by
  induction each with
  | nil =>
    intro v member
    cases member
  | cons here _ ih =>
    refine List.forall_mem_cons.mpr ⟨?_, ih⟩
    intro d inside
    cases d with
    | text s => trivial
    | between s => trivial
    | member name =>
      rcases members name inside with rfl | rfl
      · exact ⟨by decide, _, here.1⟩
      · exact ⟨by decide, _, here.2⟩

theorem eachText_declared : eachText (lineText declared) vs =
    String.join (fields.map fun f => "\n" ++ f.declaration) := by
  apply eachText_eq_join each
  intro f v here last
  simp only [lineText, declared, List.map_cons, List.map_nil, Detail.shown, here.1, here.2, textOf]
  unfold Field.declaration
  apply String.toList_injective
  simp

theorem eachText_listed : eachText (lineText listed) vs =
    ", ".intercalate (fields.map Field.parameter) := by
  apply eachText_eq_intercalate each
  intro f v here last
  simp only [lineText, listed, List.map_cons, List.map_nil, Detail.shown, here.1, here.2, textOf]
  unfold Field.parameter
  apply String.toList_injective
  simp

theorem eachText_assigned : eachText (lineText assigned) vs =
    String.join (fields.map fun f => "\n" ++ f.assignment) := by
  apply eachText_eq_join each
  intro f v here last
  simp only [lineText, assigned, List.map_cons, List.map_nil, Detail.shown, here.2, textOf]
  unfold Field.assignment
  apply String.toList_injective
  simp

end Loops

variable {h : Handle} {look : String → Option Value} (shown : h.Shown vs look)

include shown

theorem held_sheet : ∀ p ∈ sheet, p.Held look := by
  have loop {details : List Detail}
      (members : ∀ name, .member name ∈ details → name = "ty" ∨ name = "name")
      (opening closing : Trim) :
      (Passage.each "field" "fields" opening closing details).Held look :=
    ⟨by decide, by decide, by decide, vs, shown.fields, held_details shown.each members⟩
  have package : (Passage.blank "package").Held look := ⟨by decide, _, shown.package⟩
  have sourceType : (Passage.blank "source_type").Held look := ⟨by decide, _, shown.sourceType⟩
  have initiator : (Passage.blank "initiator").Held look := ⟨by decide, _, shown.initiator⟩
  have simpleName : (Passage.blank "simple_name").Held look := ⟨by decide, _, shown.simpleName⟩
  have declarations := loop (show ∀ name, .member name ∈ declared → _ by simp [declared])
  have parameters := loop (show ∀ name, .member name ∈ listed → _ by simp [listed])
  have assignments := loop (show ∀ name, .member name ∈ assigned → _ by simp [assigned])
  simp only [sheet, List.forall_mem_cons]
  exact ⟨trivial, package, trivial, sourceType, trivial, initiator, trivial, simpleName, trivial,
    declarations _ _, trivial, simpleName, trivial, parameters _ _, trivial, assignments _ _, trivial,
    fun _ member => (List.not_mem_nil member).elim⟩

theorem shown_sheet : sheet.shown look = h.text := by
  simp only [Sheet.shown, sheet, List.map_cons, List.map_nil, Passage.shown, shown.package,
    shown.sourceType, shown.initiator, shown.simpleName, shown.fields, textOf, itemsOf,
    eachText_declared shown.each, eachText_listed shown.each, eachText_assigned shown.each]
  unfold text lines header constructorHead
  -- The lines of the fields stay whole; only the new lines around them move.
  generalize Field.declaration = declaration
  generalize Field.assignment = assignment
  generalize ", ".intercalate (h.fields.map Field.parameter) = parameters
  apply String.toList_injective
  simp [Function.comp_def, List.flatMap_map, flatMap_newline]

end Rendering

/-- For a handle that is put into a context in any order, the template renders to the text of the
handle. -/
theorem render_source (e : Engine) (plain : e.escaping = false) (name : String) {h : Handle}
    {data : List Data} (held : List.Forall₂ Field.Held h.fields data) {changes : List Change}
    (order : changes.Perm (h.changes data)) (c : Context) :
    (∀ change ∈ changes, ∀ c : Context, (c.apply change).2 = none) ∧
      ∃ template, e.compile name source = .ok template ∧
        template.render (changes.foldl (fun c change => (c.apply change).1) c) = .ok h.text := by
  rcases shown_changes held order c with ⟨vs, shown⟩
  refine ⟨fun change member => faultless held order member, _, compile_source e name, ?_⟩
  rw [Sheet.render plain rfl (held_sheet shown), shown_sheet shown]

def shadowing : Handle :=
  ⟨"a.b", "C", "a.b.C", "x.Y", [⟨"long", "id"⟩, ⟨"List<String>", "id"⟩]⟩

theorem render_source_shadowing : ∃ template, ({} : Engine).compile "t" source = .ok template ∧
    template.render ((shadowing.changes (shadowing.fields.map Field.data)).reverse.foldl
      (fun c change => (c.apply change).1) Context.empty) = .ok shadowing.text ∧
    shadowing.lines =
      ["package a.b;", "", "/**", " * Generated handle for a.b.C.", " * Initiated by x.Y.", " */",
        "public final class CHandle \x7b", "  private final long id;",
        "  private final List<String> id;", "", "  public CHandle(long id, List<String> id) \x7b",
        "    this.id = id;", "    this.id = id;", "  \x7d", "\x7d"] := by
  have held : List.Forall₂ Field.Held shadowing.fields (shadowing.fields.map Field.data) :=
    .cons (Field.held_data _) (.cons (Field.held_data _) .nil)
  rcases render_source {} rfl "t" held (List.reverse_perm _) Context.empty with
    ⟨-, template, compiled, rendered⟩
  exact ⟨template, compiled, rendered, by decide +kernel⟩

end Handle

end Stencil.Template
