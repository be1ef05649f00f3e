import Stencil.Template.Tree
import Stencil.Text.Blank

namespace Stencil.Template

/-- The nodes so far, the last one first, and what the next node has to know. -/
structure Trimmed where
  reversed : List Node
  afterText : Bool
  trimNext : Bool

def textNode (s : String) : List Node :=
  if s.isEmpty then [] else [.text s]

def trimLast : List Node → List Node
  | .text s :: nodes => textNode (Text.trimEnd s) ++ nodes
  | nodes => nodes

def trimBodyEnd (nodes : List Node) : List Node :=
  (trimLast nodes.reverse).reverse

def Arm.trimEnd : Arm → Arm
  | .mk trim condition body => .mk trim condition (trimBodyEnd body)

def trimLastArm (arms : List Arm) : List Arm :=
  match arms.reverse with
  | arm :: others => (arm.trimEnd :: others).reverse
  | [] => []

namespace Trimmed

def start (trimNext : Bool) : Trimmed := ⟨[], false, trimNext⟩

def addText (t : Trimmed) (s : String) : Trimmed :=
  let kept := if t.trimNext then textNode (Text.trimStart s) else [.text s]
  ⟨kept ++ t.reversed, true, false⟩

/-- Adds a node between whose outer sides `left` and `right` ask for trimming. -/
def addNode (t : Trimmed) (left right : Bool) (node : Node) : Trimmed :=
  let before := if t.afterText && left then trimLast t.reversed else t.reversed
  ⟨node :: before, false, right⟩

def finish (t : Trimmed) (trimEnd : Bool) : List Node :=
  (if trimEnd then trimLast t.reversed else t.reversed).reverse

end Trimmed

def trimRaw (left right : Bool) (s : String) : String :=
  let s := if left then Text.trimStart s else s
  if right then Text.trimEnd s else s

def joinArms : List Arm → List Arm
  | [] => []
  | [arm] => [arm]
  | first :: .mk trim condition body :: others =>
    (if trim.left then first.trimEnd else first) ::
      joinArms (.mk trim condition body :: others)

mutual

def trimFrom (t : Trimmed) (trimEnd : Bool) : List Node → List Node
  | [] => t.finish trimEnd
  | .text s :: nodes => trimFrom (t.addText s) trimEnd nodes
  | .inherited :: nodes =>
    trimFrom ⟨.inherited :: t.reversed, false, t.trimNext⟩ trimEnd nodes
  | node :: nodes =>
    let (left, right) := node.sides
    trimFrom (t.addNode left right node.trimInside) trimEnd nodes

/-- Trims the bodies that a node holds. What a loop shows for no items is kept as it is. -/
def Node.trimInside : Node → Node
  | .raw opening s closing => .raw opening (trimRaw opening.right closing.left s) closing
  | .branch arms otherwise closing =>
    let arms := joinArms (trimArms arms)
    match otherwise with
    | none => .branch (if closing.left then trimLastArm arms else arms) none closing
    | some (.mk trim body) =>
      .branch (if trim.left then trimLastArm arms else arms)
        (some (.mk trim (trimFrom (.start trim.right) closing.left body))) closing
  | .loop opening key item container body otherwise unused closing =>
    .loop opening key item container (trimFrom (.start opening.right) closing.left body)
      otherwise unused closing
  | .section opening filter body closing =>
    .section opening filter (trimFrom (.start opening.right) closing.left body) closing
  | .block opening name body closing =>
    .block opening name (trimFrom (.start opening.right) closing.left body) closing
  | .define opening name params body closing =>
    .define opening name params (trimFrom (.start opening.right) closing.left body) closing
  | node => node

def trimArms : List Arm → List Arm
  | [] => []
  | .mk trim condition body :: arms =>
    .mk trim condition (trimFrom (.start trim.right) false body) :: trimArms arms

def Node.sides : Node → Bool × Bool
  | .text _ | .inherited => (false, false)
  | .print t _ | .comment t | .assign t _ _ _ | .include t _ _ | .quit t | .next t
  | .extend t _ | .load t _ _ => (t.left, t.right)
  | .raw opening _ closing => (opening.left, closing.right)
  | .branch (.mk t _ _ :: _) _ closing => (t.left, closing.right)
  | .branch [] _ closing => (false, closing.right)
  | .loop opening _ _ _ _ _ _ closing => (opening.left, closing.right)
  | .section opening _ _ closing => (opening.left, closing.right)
  | .block opening _ _ closing => (opening.left, closing.right)
  | .define opening _ _ _ closing => (opening.left, closing.right)

end

def trimNodes (nodes : List Node) : List Node :=
  trimFrom (.start false) false nodes

end Stencil.Template
