import Mathlib.Data.List.Forall2
import Stencil.Proofs.Template.Filling
import Stencil.Proofs.Text.Replace

namespace Stencil.Template

open Json (Value)
open Eval

section Members

theorem charsOf_cells (cs : List Char) : charsOf (cells cs) = cs := by
  induction cs with
  | nil => rfl
  | cons c cs ih =>
    have bytes : cells (c :: cs) = some c :: List.replicate (c.utf8Size - 1) none ++ cells cs := rfl
    rw [charsOf, bytes, List.filterMap_append, show (cells cs).filterMap id = cs from ih]
    simp

theorem findMark_named {cs : List Char} (named : ∀ c ∈ cs, isNameChar c = true)
    (first place : Nat) : findMark {} first place cs = ({}, first, none) := by
  induction cs generalizing place with
  | nil => rfl
  | cons c cs ih =>
    rcases List.forall_mem_cons.mp named with ⟨here, later⟩
    have backslash := ne_of_isNameChar here (show isNameChar '\\' = false from rfl)
    have double := ne_of_isNameChar here (show isNameChar '"' = false from rfl)
    have single := ne_of_isNameChar here (show isNameChar '\'' = false from rfl)
    have point := ne_of_isNameChar here (show isNameChar '.' = false from rfl)
    have bracket := ne_of_isNameChar here (show isNameChar '[' = false from rfl)
    have read : Marks.read {} c = ({}, none) := by
      simp [Marks.read, backslash, double, single, point, bracket]
    simp only [findMark, read]
    exact ih later (place + 1)

theorem steps_name {name : String} (identifier : IsIdentifier name.toList) :
    steps name.toList = [name] := by
  have named := identifier.named
  have nameless : '~' ∉ name.toList := fun member =>
    ne_of_isNameChar (named '~' member) rfl rfl
  have single : stepsFrom ((cells name.toList).length + 1) {} (cells name.toList) =
      [name.toList] := by
    have mark := findMark_named named 0 0
    cases spelled : name.toList with
    | nil =>
      rw [spelled] at identifier
      exact identifier.elim
    | cons c cs =>
      rw [spelled] at mark
      simp only [stepsFrom, charsOf_cells, mark, List.drop_zero]
      simp [cells]
  have slashes : Text.replace name "~1" "/" = name :=
    Text.replace_absent (show "~1".toList = ['~', '1'] by decide) nameless
  have tildes : Text.replace name "~0" "~" = name :=
    Text.replace_absent (show "~0".toList = ['~', '0'] by decide) nameless
  simp [steps, single, nameOfStep, slashes, tildes]

theorem cutAt_append {c : Char} {before : List Char} (absent : c ∉ before) (after : List Char) :
    cutAt c (before ++ c :: after) = (before, some after) := by
  induction before with
  | nil => simp [cutAt]
  | cons d before ih =>
    rw [List.mem_cons, not_or] at absent
    simp [cutAt, Ne.symm absent.1, ih absent.2]

theorem part?_name {name : String} (identifier : IsIdentifier name.toList) {v w : Value}
    (held : v.get? name = some w) : part? v name.toList = some w := by
  have step : follow? v name = some w := by
    cases v with
    | object members => exact held
    | _ => cases held
  rw [part?, steps_name identifier, followAll?, step]
  rfl

def loopFrame (item : String) (total index : Nat) (v : Value) : Frame :=
  ⟨.loop ⟨item, none, "", v, index, total, .running⟩, []⟩

variable (globals : List (String × Value)) (frames : List Frame) (template : String) (depth : Nat)

theorem resolve_member {item name : String} (identifier : IsIdentifier item.toList)
    (apart : item ≠ "loop") (member : IsIdentifier name.toList) {v w : Value}
    (held : v.get? name = some w) (total index : Nat) :
    (resolve globals (loopFrame item total index v :: frames) template (depth + 1)
      (item ++ "." ++ name)).toOption = some w := by
  have spelled : (item ++ "." ++ name).toList = item.toList ++ '.' :: name.toList := by simp
  have bracketless : '[' ∉ item.toList ++ '.' :: name.toList := by
    intro inside
    rcases List.mem_append.mp inside with before | after
    · exact ne_of_isNameChar (identifier.named '[' before) rfl rfl
    · rcases List.mem_cons.mp after with point | after
      · exact absurd point (by decide)
      · exact ne_of_isNameChar (member.named '[' after) rfl rfl
  have pointless : '.' ∉ item.toList := fun inside =>
    ne_of_isNameChar (identifier.named '.' inside) rfl rfl
  have cut := cutAt_append pointless name.toList
  have other : item.toList ≠ "loop".toList := fun same => apart (String.toList_injective same)
  have found : find? globals (loopFrame item total index v :: frames)
      (item.toList ++ '.' :: name.toList) = some w := by
    simp only [find?, Frame.find?, Frame.findBinding?, loopFrame, cut, Table.get?, Frame.loop?,
      Option.bind_some, LoopState.find?, Option.map_none, reduceCtorEq, ↓reduceIte, other,
      part?_name member held]
  simp only [resolve, spelled, List.contains_eq_mem, bracketless, decide_false,
    Bool.false_eq_true, ↓reduceIte, found, Except.toOption]

theorem resolve_last (item : String) (v : Value) (total index : Nat) :
    (resolve globals (loopFrame item total index v :: frames) template (depth + 1)
      "loop.last").toOption = some (.bool (index + 1 == total)) := by
  have cut : cutAt '.' "loop.last".toList = ("loop".toList, some "last".toList) := by decide
  have found : find? globals (loopFrame item total index v :: frames) "loop.last".toList =
      some (.bool (index + 1 == total)) := by
    simp only [find?, Frame.find?, Frame.findBinding?, loopFrame, cut, Table.get?, Frame.loop?,
      Option.bind_some, LoopState.find?, Option.map_none, reduceCtorEq, ↓reduceIte]
    rfl
  have bracketless : '[' ∉ "loop.last".toList := by decide
  simp only [resolve, List.contains_eq_mem, bracketless, decide_false, Bool.false_eq_true,
    ↓reduceIte, found, Except.toOption]

end Members

section Loops

variable (scene : Scene) {again : List Node → Eval String} {frames : List Frame}

def eachText {α : Type} (line : Bool → α → String) : List α → String
  | [] => ""
  | [x] => line true x
  | x :: y :: rest => line false x ++ eachText line (y :: rest)

section Texts

variable {α β : Type} {R : α → β → Prop} {xs : List α} {ys : List β} {line : Bool → β → String}
  {text : α → String} (related : List.Forall₂ R xs ys)

include related

theorem eachText_eq_join (shown : ∀ x y, R x y → ∀ last, line last y = text x) :
    eachText line ys = String.join (xs.map text) := by
  induction related with
  | nil => rfl
  | @cons x y xs ys here later ih =>
    rw [List.map_cons, String.join_cons, ← ih]
    cases later with
    | nil => simp [eachText, shown x y here true]
    | cons => rw [eachText, shown x y here false]

theorem eachText_eq_intercalate {sep : String}
    (shown : ∀ x y, R x y → ∀ last, line last y = text x ++ if last then "" else sep) :
    eachText line ys = sep.intercalate (xs.map text) := by
  induction related with
  | nil => rfl
  | @cons x y xs ys here later ih =>
    rw [List.map_cons]
    cases later with
    | nil => simp [eachText, shown x y here true]
    | cons =>
      rw [eachText, shown x y here false, ih, List.map_cons, String.intercalate_cons_cons]
      rfl

end Texts

theorem outcome_negated {path : String} {v : Value}
    (found : (resolve scene.globals frames scene.template (2 * path.length + 2) path).toOption =
      some v) :
    outcome (pathValue path true []) scene frames = (some (.bool !v.isTrue), frames) := by
  have value := outcome_lookup scene frames path
  rw [found, outcome] at value
  simp only [pathValue, outcome_bind, outcome_attempt]
  rcases run : ((lookup path).run scene).run.run frames with ⟨trouble | w, left⟩ <;>
    rw [run] at value <;> obtain ⟨same, rfl⟩ := Prod.mk.inj value
  · cases same
  · cases same
    cases v <;> rfl

theorem outcome_unless (running : innermostSignal frames = .running) {path : String} {v : Value}
    (found : (resolve scene.globals frames scene.template (2 * path.length + 2) path).toOption =
      some v)
    (trim closing : Trim) (s : String) :
    outcome (renderNode again
        (.branch [.mk trim (.mk (.path path) true []) [.text s]] none closing)) scene frames =
      (some (if v.isTrue then "" else s), frames) := by
  have condition : outcome ((Expr.mk (.path path) true []).meaning again).truth scene frames =
      (some !v.isTrue, frames) := by
    have reading : ((Expr.mk (.path path) true []).meaning again).truth =
        (tryCatch (pathValue path true []) (fun _ => pure (.bool false)) >>=
          fun v => pure v.isTrue) := rfl
    rw [reading, outcome_bind, outcome_rescue, outcome_negated scene found]
    rfl
  have body : outcome (renderNodes again [.text s]) scene frames = (some s, frames) := by
    have text : outcome (renderNode again (.text s)) scene frames = (some s, frames) := rfl
    have ended : outcome (renderNodes again []) scene frames = (some "", frames) := rfl
    have both := outcome_cons scene running text ended
    simpa using both
  have arms : renderNode again
      (.branch [.mk trim (.mk (.path path) true []) [.text s]] none closing) =
      (((Expr.mk (.path path) true []).meaning again).truth >>= fun holds =>
        if holds then renderNodes again [.text s] else pure "") := by
    simp only [renderNode, renderArms, renderFinal]
  rw [arms, outcome_bind, condition]
  cases v.isTrue
  · exact body
  · rfl

/-- The rule of loops: what the body shows at each item is shown item after item, and the frame of
the loop is left on top. -/
theorem outcome_renderItems {body : Eval String} {item : String} {total : Nat}
    {line : Bool → Value → String} (others : List Value) {index : Nat} {v : Value}
    (count : index + 1 + others.length = total)
    (shows : ∀ w ∈ v :: others, ∀ index,
      outcome body scene (loopFrame item total index w :: frames) =
        (some (line (index + 1 == total) w), loopFrame item total index w :: frames)) :
    ∃ left, outcome (renderItems body (others.map ("", ·))) scene
        (loopFrame item total index v :: frames) = (some (eachText line (v :: others)), left) ∧
      left.tail = frames := by
  have signal (w : Value) (index : Nat) : outcome currentSignal scene
      (loopFrame item total index w :: frames) =
      (some .running, loopFrame item total index w :: frames) := rfl
  have here := shows v List.mem_cons_self index
  induction others generalizing index v with
  | nil =>
    have last : (index + 1 == total) = true := beq_iff_eq.mpr count
    rw [last] at here
    refine ⟨loopFrame item total (index + 1) v :: frames, ?_, rfl⟩
    rw [List.map_nil, renderItems, outcome_bind, here]
    dsimp only
    rw [outcome_bind, signal]
    rfl
  | cons w others ih =>
    have later : (index + 1 == total) = false := by
      rw [List.length_cons] at count
      exact beq_eq_false_iff_ne.mpr (by omega)
    rw [later] at here
    have moved : outcome (advance (("", w) :: others.map ("", ·))) scene
        (loopFrame item total index v :: frames) =
        (some (), loopFrame item total (index + 1) w :: frames) := rfl
    have count : index + 1 + 1 + others.length = total := by
      rw [← count, List.length_cons]
      omega
    have shows := (List.forall_mem_cons.mp shows).2
    rcases ih count shows (shows w List.mem_cons_self (index + 1)) with ⟨left, rest, tail⟩
    refine ⟨left, ?_, tail⟩
    rw [List.map_cons, renderItems, outcome_bind, here]
    dsimp only
    rw [outcome_bind, signal]
    dsimp only
    rw [outcome_bind, moved]
    dsimp only
    rw [outcome_bind, rest]
    rfl

theorem outcome_within (frames : List Frame) (frame : Frame) (body : Eval String) :
    outcome (within frame body) scene frames =
      match outcome body scene (frame :: frames) with
      | (some text, left) => (some text, left.tail)
      | (none, left) => (none, left) := by
  have pushed : outcome (modify (frame :: ·)) scene frames = (some (), frame :: frames) := rfl
  rw [within, outcome_bind, pushed]
  dsimp only
  rw [outcome_bind]
  rcases outcome body scene (frame :: frames) with ⟨_ | text, left⟩ <;> rfl

theorem outcome_loop {container item : String} {items : List Value} {line : Bool → Value → String}
    {body : List Node}
    (found : (resolve scene.globals frames scene.template (2 * container.length + 2)
      container).toOption = some (.array items))
    (shows : ∀ v ∈ items, ∀ index,
      outcome (renderNodes again body) scene (loopFrame item items.length index v :: frames) =
        (some (line (index + 1 == items.length) v),
          loopFrame item items.length index v :: frames))
    (opening closing : Trim) :
    outcome (renderNode again
        (.loop opening none item (.ofTerm (.path container)) body none [] closing)) scene frames =
      (some (eachText line items), frames) := by
  have value : outcome (verbatim (pathValue container false [])) scene frames =
      (some (.array items), frames) := by
    have inner := outcome_pathValue { scene with escaping := false } frames container
    rw [found] at inner
    exact inner
  have loop : renderNode again
      (.loop opening none item (.ofTerm (.path container)) body none [] closing) =
      renderLoop none item (.path container) (pathValue container false [])
        (renderNodes again body) (pure "") := by
    simp only [renderNode, renderUnlooped]
    rfl
  have pairs : loopItems (none : Option String).isSome container (.array items) =
      .ok (items.map ("", ·)) := rfl
  have name : containerName? (.path container) = some container := rfl
  rw [loop, renderLoop, name]
  dsimp only
  rw [outcome_bind, value]
  dsimp only
  rw [outcome_bind, pairs, outcome_settle]
  cases items with
  | nil => rfl
  | cons v others =>
    rcases outcome_renderItems scene others (Nat.add_comm _ _) shows with ⟨left, text, tail⟩
    have whole := outcome_within scene frames (loopFrame item (others.length + 1) 0 v)
      (renderItems (renderNodes again body) (others.map ("", ·)))
    rw [text] at whole
    dsimp only at whole
    rw [tail] at whole
    rw [← whole]
    simp only [loopFrame, List.length_map, List.map_cons, Except.toOption]

end Loops

end Stencil.Template
