import Stencil.Proofs.Template.Form
import Stencil.Proofs.Template.Rendering

namespace Stencil.Template

open Json (Value)
open Eval

theorem cutAt_absent {c : Char} {cs : List Char} (absent : c ∉ cs) : cutAt c cs = (cs, none) := by
  induction cs with
  | nil => rfl
  | cons d cs ih =>
    rw [List.mem_cons, not_or] at absent
    simp [cutAt, Ne.symm absent.1, ih absent.2]

namespace Form

def fill? (look : String → Option String) : Form → Option String
  | [] => some ""
  | .text s :: form => (fill? look form).map (s ++ ·)
  | .blank name :: form => (look name).bind fun value => (fill? look form).map (value ++ ·)

def filled (values : String → String) (form : Form) : String :=
  String.join (form.map fun
    | .text s => s
    | .blank name => values name)

theorem fill?_eq_some {look : String → Option String} {values : String → String} {form : Form}
    (bound : ∀ name ∈ form.blanks, look name = some (values name)) :
    form.fill? look = some (form.filled values) := by
  induction form with
  | nil => rfl
  | cons part form ih =>
    cases part with
    | text s =>
      have rest := ih bound
      simp [fill?, filled, rest, String.join_cons]
    | blank name =>
      obtain ⟨here, later⟩ := List.forall_mem_cons.mp bound
      have rest := ih later
      simp [fill?, filled, here, rest, String.join_cons]

theorem fill?_eq_none {look : String → Option String} {form : Form} {name : String}
    (member : name ∈ form.blanks) (unbound : look name = none) : form.fill? look = none := by
  induction form with
  | nil => cases member
  | cons part form ih =>
    cases part with
    | text s => simp [fill?, ih member]
    | blank other =>
      rcases List.mem_cons.mp member with rfl | later
      · simp [fill?, unbound]
      · simp [fill?, ih later]

end Form

section Rendering

variable (scene : Scene)

def pageFrames : List Frame :=
  [⟨.page, []⟩]

theorem resolve_name {name : String} (identifier : IsIdentifier name.toList)
    (globals : List (String × Value)) (template : String) (depth : Nat) :
    (resolve globals pageFrames template (depth + 1) name).toOption = Table.get? name globals := by
  have bracketless : '[' ∉ name.toList := fun member =>
    ne_of_isNameChar (identifier.named '[' member) rfl rfl
  have pointless : '.' ∉ name.toList := fun member =>
    ne_of_isNameChar (identifier.named '.' member) rfl rfl
  have found : find? globals pageFrames name.toList = Table.get? name globals := by
    have cut := cutAt_absent pointless
    simp only [pageFrames, find?, Frame.find?, Frame.findBinding?, Frame.loop?, Frame.isClosed,
      findVariable?, cut, String.ofList_toList, Table.get?, Option.bind_none, ↓reduceIte]
    cases Table.get? name globals <;> rfl
  simp only [resolve, List.contains_eq_mem, bracketless, decide_false, Bool.false_eq_true,
    ↓reduceIte, found]
  cases Table.get? name globals <;> rfl

def Scene.shown? (scene : Scene) (name : String) : Option String :=
  (Table.get? name scene.globals).map fun v => (escapeIn scene true [] v).display

theorem outcome_pathValue (frames : List Frame) (path : String) :
    outcome (pathValue path false []) scene frames =
      ((resolve scene.globals frames scene.template (2 * path.length + 2) path).toOption.map
        (escapeIn scene true []), frames) := by
  have found := outcome_lookup scene frames path
  rw [outcome] at found
  simp only [pathValue, outcome_bind, outcome_attempt]
  rcases run : ((lookup path).run scene).run.run frames with ⟨trouble | v, left⟩ <;>
    rw [run] at found <;> obtain ⟨value, rfl⟩ := Prod.mk.inj found
  · rw [← value]
    rfl
  · rw [← value]
    cases v <;> rfl

theorem outcome_slot (again : List Node → Eval String) (frames : List Frame) (path : String) :
    outcome (renderNode again (slot path)) scene frames =
      ((resolve scene.globals frames scene.template (2 * path.length + 2) path).toOption.map
        fun v => (escapeIn scene true [] v).display, frames) := by
  have shown : renderNode again (slot path) =
      (pathValue path false [] >>= fun v => pure v.display) := rfl
  rw [shown, outcome_bind, outcome_pathValue]
  cases (resolve scene.globals frames scene.template (2 * path.length + 2) path).toOption <;> rfl

theorem outcome_blank (again : List Node → Eval String) {name : String}
    (identifier : IsIdentifier name.toList) :
    outcome (renderNode again (slot name)) scene pageFrames =
      (scene.shown? name, pageFrames) := by
  rw [outcome_slot, resolve_name identifier, Scene.shown?]

theorem outcome_cons {again : List Node → Eval String} {node : Node} {nodes : List Node}
    {frames : List Frame} {text rest : Option String}
    (running : innermostSignal frames = .running)
    (here : outcome (renderNode again node) scene frames = (text, frames))
    (later : outcome (renderNodes again nodes) scene frames = (rest, frames)) :
    outcome (renderNodes again (node :: nodes)) scene frames =
      (text.bind fun text => rest.map (text ++ ·), frames) := by
  have signal : outcome currentSignal scene frames = (some .running, frames) := by
    rw [← running]
    rfl
  rw [renderNodes, outcome_bind, here]
  cases text with
  | none => rfl
  | some text =>
    dsimp only
    rw [outcome_bind, signal]
    dsimp only
    rw [outcome_bind, later]
    cases rest <;> rfl

theorem outcome_textNode {again : List Node → Eval String} (s : String) {nodes : List Node}
    {rest : Option String}
    (later : outcome (renderNodes again nodes) scene pageFrames = (rest, pageFrames)) :
    outcome (renderNodes again (textNode s ++ nodes)) scene pageFrames =
      (rest.map (s ++ ·), pageFrames) := by
  unfold textNode
  split
  case isTrue empty =>
    obtain rfl := String.isEmpty_iff.mp empty
    simp [later]
  case isFalse =>
    have shown : outcome (renderNode again (.text s)) scene pageFrames = (some s, pageFrames) := rfl
    exact outcome_cons scene rfl shown later

theorem outcome_nodesFrom (again : List Node → Eval String) {form : Form}
    (identifiers : ∀ name ∈ form.blanks, IsIdentifier name.toList) (pending : String) :
    outcome (renderNodes again (Form.nodesFrom pending form)) scene pageFrames =
      ((form.fill? scene.shown?).map (pending ++ ·), pageFrames) := by
  induction form generalizing pending with
  | nil =>
    have ended : outcome (renderNodes again []) scene pageFrames = (some "", pageFrames) := rfl
    have text := outcome_textNode scene pending ended
    rw [List.append_nil] at text
    exact text
  | cons part form ih =>
    cases part with
    | text s =>
      have rest := ih identifiers (pending ++ s)
      rw [Form.nodesFrom, rest]
      simp [Form.fill?, String.append_assoc, Function.comp_def]
    | blank name =>
      obtain ⟨identifier, identifiers⟩ := List.forall_mem_cons.mp identifiers
      have rest := ih identifiers ""
      have shown := outcome_cons scene rfl (outcome_blank scene again identifier) rest
      have whole := outcome_textNode scene pending shown
      rw [Form.nodesFrom, whole]
      simp [Form.fill?]

theorem Compiled.render_ok_iff_shown {t : Compiled} {context : Context} {shown : Option String}
    {left : List Frame}
    (shows : outcome (renderNodes (renderAt (nestingBound - 1)) t.nodes) (t.scene context)
      pageFrames = (shown, left)) (text : String) :
    t.render context = .ok text ↔ shown = some text := by
  have outermost : renderAt nestingBound t.nodes =
      renderNodes (renderAt (nestingBound - 1)) t.nodes := rfl
  rw [pageFrames] at shows
  rw [render_ok_iff, outermost, shows]

end Rendering

namespace Form

variable {form : Form} {name : String}

theorem render_fill? (identifiers : ∀ blank ∈ form.blanks, IsIdentifier blank.toList)
    (escaping : Bool) (context : Context) (text : String) :
    (⟨name, form.nodes, escaping⟩ : Compiled).render context = .ok text ↔
      form.fill? ((⟨name, form.nodes, escaping⟩ : Compiled).scene context).shown? = some text := by
  have shown := outcome_nodesFrom ((⟨name, form.nodes, escaping⟩ : Compiled).scene context)
    (renderAt (nestingBound - 1)) identifiers ""
  rw [Compiled.render_ok_iff_shown shown]
  simp

theorem shown?_string {t : Compiled} (plain : t.escaping = false) {context : Context} {s : String}
    (bound : context.get? name = some (.string s)) : (t.scene context).shown? name = some s := by
  have unescaped : (t.scene context).escaping = false := (Compiled.escapes_eq t).trans plain
  have found : Table.get? name (t.scene context).globals = some (.string s) := bound
  simp [Scene.shown?, found, escapeIn, unescaped, Value.display]

theorem shown?_none {t : Compiled} {context : Context} (unbound : context.get? name = none) :
    (t.scene context).shown? name = none := by
  have missing : Table.get? name (t.scene context).globals = none := unbound
  simp [Scene.shown?, missing]

/-- A form compiles under every name. It renders to its texts and the strings that its blanks are
bound to, all of them as they are; a blank that is bound to nothing makes it fail, and tell its
name. -/
theorem fills (name : String) (plain : ∀ blank ∈ form.blanks, IsPlain blank)
    (other : ∀ blank ∈ form.blanks, ¬BeginsLikeBoolean blank.toList) (unbroken : form.Unbroken) :
    ∃ t, ({} : Engine).compile name form.source = .ok t ∧ ∀ context : Context,
      (∀ values : String → String,
        (∀ blank ∈ form.blanks, context.get? blank = some (.string (values blank))) →
          t.render context = .ok (form.filled values)) ∧
      ∀ blank ∈ form.blanks, context.get? blank = none →
        ∃ report, t.render context = .error (.unrenderable name report) := by
  have identifiers : ∀ blank ∈ form.blanks, IsIdentifier blank.toList :=
    fun blank member => (plain blank member).identifier
  refine ⟨⟨name, form.nodes, false⟩, compile_source ⟨identifiers, other, unbroken⟩ _ name,
    fun context => ⟨fun values bound => ?_, fun blank member unbound => ?_⟩⟩
  · have shown := fun blank member =>
      shown?_string (t := ⟨name, form.nodes, false⟩) rfl (bound blank member)
    exact (render_fill? identifiers false context _).mpr (fill?_eq_some shown)
  · cases rendered : (⟨name, form.nodes, false⟩ : Compiled).render context with
    | ok text =>
      have filled := (render_fill? identifiers false context text).mp rendered
      rw [fill?_eq_none member (shown?_none unbound)] at filled
      cases filled
    | error f =>
      obtain ⟨report, rfl⟩ := render_error rendered
      exact ⟨report, rfl⟩

def letter : Form :=
  [.text "\x7b ", .text "", .blank "who", .text "\x7d\x7d \n", .blank "_2", .text "\x7b"]

def given : Context :=
  (Context.empty.insert "who" (.string "\x7b\x7b_2\x7d\x7d <&")).insert "_2" (.string " \n")

theorem letter_fills :
    (∀ blank ∈ letter.blanks, IsPlain blank) ∧
    (∀ blank ∈ letter.blanks, ¬BeginsLikeBoolean blank.toList) ∧ letter.Unbroken ∧
    letter.source = "\x7b \x7b\x7bwho\x7d\x7d\x7d\x7d \n\x7b\x7b_2\x7d\x7d\x7b" ∧
    ∃ t, ({} : Engine).compile "letter.html" letter.source = .ok t ∧
      t.render given = .ok "\x7b \x7b\x7b_2\x7d\x7d <&\x7d\x7d \n \n\x7b" ∧
      ∃ report, t.render .empty = .error (.unrenderable "letter.html" report) := by
  have plain : ∀ blank ∈ letter.blanks, IsPlain blank := by decide
  have other : ∀ blank ∈ letter.blanks, ¬BeginsLikeBoolean blank.toList := by decide
  have unbroken : letter.Unbroken := by decide
  obtain ⟨t, compiled, renders⟩ := fills "letter.html" plain other unbroken
  obtain ⟨full, -⟩ := renders given
  obtain ⟨-, blank⟩ := renders .empty
  have bound : ∀ blank ∈ letter.blanks, given.get? blank =
      some (.string (if blank = "who" then "\x7b\x7b_2\x7d\x7d <&" else " \n")) :=
    List.forall_mem_cons.mpr ⟨rfl, List.forall_mem_cons.mpr ⟨rfl, nofun⟩⟩
  exact ⟨plain, other, unbroken, by decide, t, compiled, full _ bound, blank "who" (by decide) rfl⟩

/-- Not every plain name can be the name of a blank. -/
theorem trueish_unread :
    ¬∀ (name : String) (form : Form), (∀ blank ∈ form.blanks, IsPlain blank) → form.Unbroken →
      ∃ t, ({} : Engine).compile name form.source = .ok t := by
  intro reads
  obtain ⟨t, compiled⟩ := reads "t.tmpl" [.blank "trueish"] (by decide) (by decide)
  have refused : (({} : Engine).compile "t.tmpl" (source [.blank "trueish"])).isOk = false := by
    decide +kernel
  rw [compiled] at refused
  cases refused

end Form

end Stencil.Template
