import Stencil.Context
import Stencil.Failure
import Stencil.Template.Body
import Stencil.Template.Literal
import Stencil.Template.Render
import Stencil.Template.Trimming

namespace Stencil.Template

inductive Defect where
  | malformed
  | outOfBounds (literal : Int)
  | repeatedBlock (name : String)
  | repeatedMacro (name : String)
  | missingParent (parent : String)
  | extendsItself
  | missingLoad (template : String)
  deriving DecidableEq, Repr

/-- The report on a defect in a template of the given name. Faults of the text are told as causes of
a failure to read it. For a text that is malformed Tera adds where its parser stopped and what it
expected there; that part is left out. -/
def Defect.report (name : String) (d : Defect) : String :=
  let unread := "Failed to parse '" ++ name ++ "'"
  match d with
  | malformed => unread
  | outOfBounds literal =>
    Failure.report unread ["Integer out of bounds: " ++ ticked (toString literal)]
  | repeatedBlock block => Failure.report unread ["Block " ++ ticked block ++ " is duplicated"]
  | repeatedMacro macroName =>
    Failure.report unread ["Macro " ++ ticked macroName ++ " is duplicated"]
  | missingParent parent =>
    "Template '" ++ name ++ "' is inheriting from '" ++ parent ++
      "', which doesn't exist or isn't loaded."
  | extendsItself =>
    "Circular extend detected for template '" ++ name ++ "'. Inheritance chain: " ++
      ticked ("[" ++ Text.quoted name ++ "]")
  | missingLoad template =>
    "Template " ++ ticked name ++ " loads macros from " ++ ticked template ++
      " which isn't present in Tera"

mutual

/-- The blocks of a node and the blocks in them. Other bodies are not searched. -/
def Node.blocks : Node → List (String × List Node)
  | .block _ name body _ => (name, body) :: blocksOf body
  | _ => []

def blocksOf : List Node → List (String × List Node)
  | [] => []
  | node :: nodes => node.blocks ++ blocksOf nodes

end

def definitionsOf (nodes : List Node) : List Definition :=
  nodes.filterMap fun
    | .define _ name params body _ => some ⟨name, lastOfEach params, body⟩
    | _ => none

def parentOf? (nodes : List Node) : Option String :=
  nodes.findSome? fun
    | .extend _ template => some template
    | _ => none

def loadsOf (nodes : List Node) : List String :=
  nodes.filterMap fun
    | .load _ template _ => some template
    | _ => none

def firstRepeated? : (seen : List String) → List String → Option String
  | _, [] => none
  | seen, name :: names =>
    if seen.contains name then some name else firstRepeated? (name :: seen) names

def defect? (name : String) (nodes : List Node) : Option Defect :=
  let repeatedBlock := firstRepeated? [] ((blocksOf nodes).map (·.1))
  let repeatedMacro := firstRepeated? [] ((definitionsOf nodes).map (·.name))
  match repeatedBlock, repeatedMacro, parentOf? nodes with
  | some block, _, _ => some (.repeatedBlock block)
  | none, some macroName, _ => some (.repeatedMacro macroName)
  | none, none, some parent =>
    if parent = name then some .extendsItself else some (.missingParent parent)
  | none, none, none => ((loadsOf nodes).find? (· != name)).map .missingLoad

structure Compiled where
  name : String
  nodes : List Node
  escaping : Bool

/-- Reads the source of a template. It stands alone: what it extends, loads or includes can only be
the template itself. -/
def compile (escaping : Bool) (name source : String) : Except Defect Compiled :=
  match readTemplate? source with
  | none => .error .malformed
  | some read =>
    match firstOutOfBounds? read with
    | some literal => .error (.outOfBounds literal)
    | none =>
      let nodes := trimNodes read
      match defect? name nodes with
      | some defect => .error defect
      | none => .ok ⟨name, nodes, escaping⟩

namespace Compiled

/-- The suffixes of names that make a template escape. Every name ends with the empty one. -/
def suffixes (t : Compiled) : List String :=
  if t.escaping then [""] else []

def escapes (t : Compiled) : Bool :=
  t.suffixes.any (Text.endsWith t.name)

def scene (t : Compiled) (context : Context) : Scene :=
  { template := t.name, globals := context.entries, nodes := t.nodes,
    blocks := blocksOf t.nodes, definitions := definitionsOf t.nodes, escaping := t.escapes }

/-- Where a trouble arose: in which template, and in which macro if that is the innermost frame. -/
def location (name : String) (frames : List Frame) : String :=
  let unrendered := "Failed to render '" ++ name ++ "'"
  match frames with
  | ⟨.expansion space macroName, _⟩ :: _ =>
    unrendered ++ ": error while rendering macro " ++ ticked (space ++ "::" ++ macroName)
  | _ => unrendered

def render (t : Compiled) (context : Context) : Except Failure String :=
  match (t.scene context).render with
  | .ok text => .ok text
  | .error (trouble, frames) =>
    .error (.unrenderable t.name (Failure.report (location t.name frames) trouble.messages))

end Compiled

end Stencil.Template

namespace Stencil

open Template (Compiled)

structure Engine where
  escaping : Bool := false
  deriving DecidableEq, Repr

def Engine.compile (e : Engine) (name source : String) : Except Failure Compiled :=
  match Template.compile e.escaping name source with
  | .ok template => .ok template
  | .error defect => .error (.malformed name (defect.report name))

end Stencil
