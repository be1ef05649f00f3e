import Stencil.Template.Meaning

namespace Stencil.Template

open Json (Value)
open Eval

def loopItems (keyed : Bool) (container : String) : Value → Except Trouble (List (String × Value))
  | .array items =>
    if keyed then .error (.keyWithoutObject container) else .ok (items.map ("", ·))
  | .string s =>
    if keyed then .error (.keyWithoutObject container)
    else .ok (s.toList.map fun c => ("", .string c.toString))
  | .object members =>
    if keyed then .ok members else .error (.objectWithoutKey container)
  | _ => .error (.notIterable container)

def containerName? : Term → Option String
  | .path path => some path
  | .call call => some call.name
  | .list _ => some "an array literal"
  | _ => none

def currentSignal : Eval Signal := do
  pure (innermostSignal (← get))

def tellLoop (word : String) (signal : Signal) : Eval Unit := do
  match updateLoop (fun state => { state with signal }) (← get) with
  | some frames => set frames
  | none => throw (.leavesNoLoop word)

def advance (items : List (String × Value)) : Eval Unit := do
  match nextItem items.head? (← get) with
  | some frames => set frames
  | none => throw (.leavesNoLoop "increment")

def renderItems (body : Eval String) : List (String × Value) → Eval String
  | [] => do
    let text ← body
    match ← currentSignal with
    | .leaving => pure text
    | _ =>
      advance []
      pure text
  | item :: others => do
    let text ← body
    match ← currentSignal with
    | .leaving => pure text
    | _ =>
      advance (item :: others)
      let rest ← renderItems body others
      pure (text ++ rest)

def renderLoop (key : Option String) (item : String) (container : Term) (value : Eval Value)
    (body otherwise : Eval String) : Eval String := do
  match containerName? container with
  | none => throw (.loopContainer container)
  | some name =>
    match ← settle (loopItems key.isSome name (← verbatim value)) with
    | [] => otherwise
    | (firstKey, first) :: others =>
      let state : LoopState :=
        { itemName := item, keyName := key, key := firstKey, item := first, index := 0,
          total := others.length + 1, signal := .running }
      within ⟨.loop state, []⟩ (renderItems body others)

def renderInclude (again : List Node → Eval String) (names : List String) (optional : Bool) :
    Eval String := do
  let scene ← read
  if names.contains scene.template then within ⟨.included, []⟩ (again scene.nodes)
  else if optional then pure ""
  else throw (.missingTemplates names)

mutual

def renderNode (again : List Node → Eval String) : Node → Eval String
  | .text s => pure s
  | .raw _ s _ => pure s
  | .print _ e => do pure (← (e.meaning again).value).display
  | .comment _ => pure ""
  | .assign _ name e everywhere => do
    let v ← verbatim (e.meaning again).value
    modify (if everywhere then assignOutside name v else assignHere name v)
    pure ""
  | .include _ names optional => renderInclude again names optional
  | .branch arms otherwise _ => renderArms again arms (renderFinal again otherwise)
  | .loop _ key item container body otherwise _ _ =>
    renderLoop key item container.term (container.meaning again).value
      (renderNodes again body) (renderUnlooped again otherwise)
  | .quit _ => do
    tellLoop "break" .leaving
    pure ""
  | .next _ => do
    tellLoop "continue" .skipping
    pure ""
  | .section _ filter body _ => do
    let text ← renderNodes again body
    if filter.name == "safe" then pure text
    else do pure (← applyFilter (.string text) (filter.application again)).display
  | .block _ name body _ => do
    match (← read).blocks.lookup name with
    | some body => again body
    | none => renderNodes again body
  | .inherited => throw .topLevelInherited
  | .define _ _ _ _ _ => pure ""
  | .extend _ _ => pure ""
  | .load _ _ _ => pure ""

/-- Renders nodes up to the first one after which the loop around them goes elsewhere. -/
def renderNodes (again : List Node → Eval String) : List Node → Eval String
  | [] => pure ""
  | node :: nodes => do
    let text ← renderNode again node
    match ← currentSignal with
    | .running => do
      let rest ← renderNodes again nodes
      pure (text ++ rest)
    | _ => pure text

def renderArms (again : List Node → Eval String) : List Arm → Eval String → Eval String
  | [], otherwise => otherwise
  | .mk _ condition body :: arms, otherwise => do
    if ← (condition.meaning again).truth then renderNodes again body
    else renderArms again arms otherwise

def renderFinal (again : List Node → Eval String) : Option Final → Eval String
  | none => pure ""
  | some (.mk _ body) => renderNodes again body

def renderUnlooped (again : List Node → Eval String) : Option (List Node) → Eval String
  | none => pure ""
  | some body => renderNodes again body

end

/-- Renders nodes; bodies from elsewhere are reached at most `depth` deep. -/
def renderAt : (depth : Nat) → List Node → Eval String
  | 0, _ => throw .nestedTooDeep
  | depth + 1, nodes => renderNodes (renderAt depth) nodes

/-- How deep macros, blocks and included templates may stand in each other. Tera has no such bound:
what nests without end overflows its stack, where here there is a trouble of its own. -/
def nestingBound : Nat := 1000

def Scene.render (scene : Scene) : Except (Trouble × List Frame) String :=
  match (renderAt nestingBound scene.nodes).run scene |>.run |>.run [⟨.page, []⟩] with
  | (.ok text, _) => .ok text
  | (.error trouble, frames) => .error (trouble, frames)

end Stencil.Template
