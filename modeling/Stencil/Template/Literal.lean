import Stencil.Json.Value
import Stencil.Template.Tree

namespace Stencil.Template

mutual

def Term.integers : Term → List Int
  | .int n => [n]
  | .text _ | .float _ | .bool _ | .path _ => []
  | .math _ left right | .compare _ left right | .both left right | .either left right =>
    left.integers ++ right.integers
  | .among item container _ => item.integers ++ container.integers
  | .test _ _ _ args => integersOfAll args
  | .call call => call.integers
  | .expand _ _ args => integersOfNamed args
  | .list items => integersOfAll items
  | .joined parts => integersOfParts parts

def Expr.integers : Expr → List Int
  | .mk term _ filters => term.integers ++ integersOfFilters filters

def Call.integers : Call → List Int
  | .mk _ args => integersOfNamed args

def integersOfAll : List Expr → List Int
  | [] => []
  | e :: es => e.integers ++ integersOfAll es

def integersOfNamed : List (String × Expr) → List Int
  | [] => []
  | (_, e) :: es => e.integers ++ integersOfNamed es

def integersOfParts : List Term → List Int
  | [] => []
  | t :: ts => t.integers ++ integersOfParts ts

def integersOfFilters : List Call → List Int
  | [] => []
  | c :: cs => c.integers ++ integersOfFilters cs

end

def integersOfParams (params : List (String × Option Expr)) : List Int :=
  params.flatMap fun (_, default) => (default.map Expr.integers).getD []

mutual

def Node.integers : Node → List Int
  | .text _ | .comment _ | .include _ _ _ | .raw _ _ _ | .quit _ | .next _ | .inherited
  | .extend _ _ | .load _ _ _ => []
  | .print _ e => e.integers
  | .assign _ _ e _ => e.integers
  | .branch arms otherwise _ => integersOfArms arms ++ integersOfFinal otherwise
  | .loop _ _ _ container body otherwise unused _ =>
    container.integers ++ integersOfNodes body ++ integersOfNodes unused ++
      integersOfUnlooped otherwise
  | .section _ filter body _ => filter.integers ++ integersOfNodes body
  | .block _ _ body _ => integersOfNodes body
  | .define _ _ params body _ => integersOfParams params ++ integersOfNodes body

def integersOfNodes : List Node → List Int
  | [] => []
  | node :: nodes => node.integers ++ integersOfNodes nodes

def integersOfArms : List Arm → List Int
  | [] => []
  | .mk _ condition body :: arms =>
    condition.integers ++ integersOfNodes body ++ integersOfArms arms

def integersOfFinal : Option Final → List Int
  | none => []
  | some (.mk _ body) => integersOfNodes body

def integersOfUnlooped : Option (List Node) → List Int
  | none => []
  | some body => integersOfNodes body

end

def firstOutOfBounds? (nodes : List Node) : Option Int :=
  (integersOfNodes nodes).find? fun n =>
    decide (n < -Json.Number.signedLimit ∨ Json.Number.signedLimit ≤ n)

end Stencil.Template
