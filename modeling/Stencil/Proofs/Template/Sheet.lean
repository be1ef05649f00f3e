import Stencil.Proofs.Template.Looping

namespace Stencil.Template

open Json (Value)
open Eval

inductive Detail where
  | text (value : String)
  | member (name : String)
  | between (value : String)
  deriving DecidableEq, Repr

/-- A text, the name of a variable, or a loop over a list of objects. -/
inductive Passage where
  | text (value : String)
  | blank (name : String)
  | each (item container : String) (opening closing : Trim) (details : List Detail)
  deriving DecidableEq, Repr

abbrev Sheet := List Passage

def textOf : Option Value → String
  | some (.string s) => s
  | _ => ""

def itemsOf : Option Value → List Value
  | some (.array items) => items
  | _ => []

namespace Detail

def node (item : String) : Detail → Node
  | text s => .text s
  | member name => slot (item ++ "." ++ name)
  | between s =>
    .branch [.mk ⟨false, false⟩ (.mk (.path "loop.last") true []) [.text s]] none ⟨false, false⟩

def shown (last : Bool) (v : Value) : Detail → String
  | text s => s
  | member name => textOf (v.get? name)
  | between s => if last then "" else s

def Held (v : Value) : Detail → Prop
  | text _ => True
  | member name => IsIdentifier name.toList ∧ ∃ s, v.get? name = some (.string s)
  | between _ => True

def spells (item : String) : Detail → Node → Bool
  | text s, .text t => t == s
  | member name, .print trim (.mk (.path path) negated filters) =>
    trim == ⟨false, false⟩ && path == item ++ "." ++ name && !negated && filters.isEmpty
  | between s, .branch [.mk trim (.mk (.path path) negated filters) [.text t]] none closing =>
    trim == ⟨false, false⟩ && path == "loop.last" && negated && filters.isEmpty && t == s &&
      closing == ⟨false, false⟩
  | _, _ => false

theorem node_of_spells {item : String} {d : Detail} {n : Node} (spelled : d.spells item n = true) :
    n = d.node item := by
  unfold spells at spelled
  split at spelled
  · rw [beq_iff_eq.mp spelled, node]
  · simp only [Bool.and_eq_true, beq_iff_eq, Bool.not_eq_true', List.isEmpty_iff] at spelled
    rcases spelled with ⟨⟨⟨rfl, rfl⟩, rfl⟩, rfl⟩
    rfl
  · simp only [Bool.and_eq_true, beq_iff_eq, List.isEmpty_iff] at spelled
    rcases spelled with ⟨⟨⟨⟨⟨rfl, rfl⟩, rfl⟩, rfl⟩, rfl⟩, rfl⟩
    rfl
  · cases spelled

end Detail

def lineText (details : List Detail) (last : Bool) (v : Value) : String :=
  String.join (details.map (Detail.shown last v))

def spellsAll {α : Type} (spells : α → Node → Bool) : List α → List Node → Bool
  | [], [] => true
  | x :: xs, n :: ns => spells x n && spellsAll spells xs ns
  | _, _ => false

theorem nodes_of_spellsAll {α : Type} {spells : α → Node → Bool} {node : α → Node} {xs : List α}
    {ns : List Node} (spelled : spellsAll spells xs ns = true)
    (sound : ∀ {x n}, spells x n = true → n = node x) : ns = xs.map node := by
  induction xs generalizing ns with
  | nil =>
    cases ns with
    | nil => rfl
    | cons n ns => cases spelled
  | cons x xs ih =>
    cases ns with
    | nil => cases spelled
    | cons n ns =>
      rcases Bool.and_eq_true_iff.mp spelled with ⟨here, later⟩
      rw [sound here, ih later, List.map_cons]

namespace Passage

def node : Passage → Node
  | text s => .text s
  | blank name => slot name
  | each item container opening closing details =>
    .loop opening none item (.ofTerm (.path container)) (details.map (Detail.node item)) none []
      closing

def shown (look : String → Option Value) : Passage → String
  | text s => s
  | blank name => textOf (look name)
  | each _ container _ _ details => eachText (lineText details) (itemsOf (look container))

def Held (look : String → Option Value) : Passage → Prop
  | text _ => True
  | blank name => IsIdentifier name.toList ∧ ∃ s, look name = some (.string s)
  | each item container _ _ details =>
    IsIdentifier item.toList ∧ item ≠ "loop" ∧ IsIdentifier container.toList ∧
      ∃ items, look container = some (.array items) ∧ ∀ v ∈ items, ∀ d ∈ details, d.Held v

def spells : Passage → Node → Bool
  | text s, .text t => t == s
  | blank name, .print trim (.mk (.path path) negated filters) =>
    trim == ⟨false, false⟩ && path == name && !negated && filters.isEmpty
  | each item container opening closing details,
      .loop left none itemToo (.mk (.path path) negated filters) body none unused right =>
    left == opening && itemToo == item && path == container && !negated && filters.isEmpty &&
      spellsAll (Detail.spells item) details body && unused.isEmpty && right == closing
  | _, _ => false

theorem node_of_spells {p : Passage} {n : Node} (spelled : p.spells n = true) : n = p.node := by
  unfold spells at spelled
  split at spelled
  · rw [beq_iff_eq.mp spelled, node]
  · simp only [Bool.and_eq_true, beq_iff_eq, Bool.not_eq_true', List.isEmpty_iff] at spelled
    rcases spelled with ⟨⟨⟨rfl, rfl⟩, rfl⟩, rfl⟩
    rfl
  · simp only [Bool.and_eq_true, beq_iff_eq, Bool.not_eq_true', List.isEmpty_iff] at spelled
    rcases spelled with ⟨⟨⟨⟨⟨⟨⟨rfl, rfl⟩, rfl⟩, rfl⟩, rfl⟩, body⟩, rfl⟩, rfl⟩
    rw [nodes_of_spellsAll body Detail.node_of_spells]
    rfl
  · cases spelled

end Passage

section Rendering

variable {scene : Scene} {again : List Node → Eval String} {frames : List Frame}

theorem outcome_map {α : Type} {node : α → Node} {shown : α → String}
    (running : innermostSignal frames = .running) {xs : List α}
    (shows : ∀ x ∈ xs,
      outcome (renderNode again (node x)) scene frames = (some (shown x), frames)) :
    outcome (renderNodes again (xs.map node)) scene frames =
      (some (String.join (xs.map shown)), frames) := by
  induction xs with
  | nil => rfl
  | cons x xs ih =>
    rcases List.forall_mem_cons.mp shows with ⟨here, later⟩
    rw [List.map_cons, outcome_cons scene running here (ih later), List.map_cons, String.join_cons]
    rfl

theorem outcome_string (plain : scene.escaping = false) {path s : String}
    (found : (resolve scene.globals frames scene.template (2 * path.length + 2) path).toOption =
      some (.string s)) :
    outcome (renderNode again (slot path)) scene frames = (some s, frames) := by
  rw [outcome_slot, found]
  simp [escapeIn, plain, Value.display]

variable (plain : scene.escaping = false)

include plain

theorem outcome_detail {item : String} (identifier : IsIdentifier item.toList)
    (apart : item ≠ "loop") {v : Value} {d : Detail} (held : d.Held v) (total index : Nat) :
    outcome (renderNode again (d.node item)) scene (loopFrame item total index v :: frames) =
      (some (d.shown (index + 1 == total) v), loopFrame item total index v :: frames) := by
  cases d with
  | text s => rfl
  | member name =>
    rcases held with ⟨member, s, held⟩
    rw [Detail.shown, held]
    exact outcome_string plain (resolve_member _ _ _ _ identifier apart member held total index)
  | between s =>
    exact outcome_unless scene rfl (resolve_last _ _ _ _ item v total index) _ _ s

theorem outcome_passage {look : String → Option Value}
    (looks : ∀ name, Table.get? name scene.globals = look name) {p : Passage} (held : p.Held look) :
    outcome (renderNode again p.node) scene pageFrames = (some (p.shown look), pageFrames) := by
  have resolved {name : String} (identifier : IsIdentifier name.toList) :=
    (resolve_name identifier scene.globals scene.template (2 * name.length + 1)).trans (looks name)
  cases p with
  | text s => rfl
  | blank name =>
    rcases held with ⟨identifier, s, bound⟩
    rw [Passage.shown, bound]
    exact outcome_string plain ((resolved identifier).trans bound)
  | each item container opening closing details =>
    rcases held with ⟨identifier, apart, named, items, bound, held⟩
    rw [Passage.shown, bound]
    apply outcome_loop scene ((resolved named).trans bound)
    intro v member index
    apply outcome_map rfl
    intro d inside
    exact outcome_detail plain identifier apart (held v member d inside) _ _

end Rendering

def readChars? (cs : List Char) : Option (List Node) :=
  let start := readTop (skipComments (depthFor cs) cs)
  let page := readPage (depthFor start.2) start.2
  if page.2.isEmpty then some (start.1 ++ page.1) else none

theorem readTemplate?_eq (source : String) : readTemplate? source = readChars? source.toList := by
  unfold readTemplate? readChars?
  generalize source.toList = cs
  dsimp only
  rcases readTop (skipComments (depthFor cs) cs) with ⟨top, rest⟩
  dsimp only
  rcases readPage (depthFor rest) rest with ⟨nodes, _ | ⟨c, later⟩⟩ <;> rfl

namespace Sheet

def nodes (sheet : Sheet) : List Node :=
  sheet.map Passage.node

def shown (sheet : Sheet) (look : String → Option Value) : String :=
  String.join (sheet.map (Passage.shown look))

theorem defect?_nodes (sheet : Sheet) (name : String) : defect? name sheet.nodes = none := by
  have blocks : blocksOf sheet.nodes = [] := by
    induction sheet with
    | nil => rfl
    | cons p sheet ih =>
      have here : p.node.blocks = [] := by cases p <;> rfl
      rw [nodes, List.map_cons, blocksOf, here]
      exact ih
  have definitions : definitionsOf sheet.nodes = [] := by
    refine List.filterMap_eq_nil_iff.mpr fun n member => ?_
    rcases List.mem_map.mp member with ⟨p, -, rfl⟩
    cases p <;> rfl
  have alone : parentOf? sheet.nodes = none := by
    refine List.findSome?_eq_none_iff.mpr fun n member => ?_
    rcases List.mem_map.mp member with ⟨p, -, rfl⟩
    cases p <;> rfl
  have loads : loadsOf sheet.nodes = [] := by
    refine List.filterMap_eq_nil_iff.mpr fun n member => ?_
    rcases List.mem_map.mp member with ⟨p, -, rfl⟩
    cases p <;> rfl
  simp [defect?, blocks, definitions, alone, loads, firstRepeated?]

def spells (sheet : Sheet) (cs : List Char) : Bool :=
  match readChars? cs with
  | some nodes =>
    (firstOutOfBounds? nodes).isNone && spellsAll Passage.spells sheet (trimNodes nodes)
  | none => false

theorem compile_of_spells {sheet : Sheet} {source : String} {cs : List Char}
    (characters : source.toList = cs) (spelled : sheet.spells cs = true) (e : Engine)
    (name : String) : e.compile name source = .ok ⟨name, sheet.nodes, e.escaping⟩ := by
  subst characters
  unfold spells at spelled
  split at spelled
  · rename_i nodes read
    rcases Bool.and_eq_true_iff.mp spelled with ⟨bounded, passages⟩
    have trimmed : trimNodes nodes = sheet.nodes :=
      nodes_of_spellsAll passages Passage.node_of_spells
    have unspoiled : defect? name (trimNodes nodes) = none := by
      rw [trimmed]
      exact sheet.defect?_nodes name
    rw [Engine.compile_ok ((readTemplate?_eq source).trans read)
      (Option.isNone_iff_eq_none.mp bounded) unspoiled, trimmed]
  · cases spelled

theorem render {sheet : Sheet} {t : Compiled} (plain : t.escaping = false)
    (nodes : t.nodes = sheet.nodes) {context : Context}
    (held : ∀ p ∈ sheet, p.Held context.get?) :
    t.render context = .ok (sheet.shown context.get?) := by
  have unescaped : (t.scene context).escaping = false := (Compiled.escapes_eq t).trans plain
  have shows : outcome (renderNodes (renderAt (nestingBound - 1)) sheet.nodes) (t.scene context)
      pageFrames = (some (sheet.shown context.get?), pageFrames) := by
    apply outcome_map rfl
    intro p member
    exact outcome_passage unescaped (fun _ => rfl) (held p member)
  rw [← nodes] at shows
  exact (Compiled.render_ok_iff_shown shows _).mpr rfl

end Sheet

end Stencil.Template
