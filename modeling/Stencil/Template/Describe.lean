import Stencil.Decimal.Layout
import Stencil.Json.Printer
import Stencil.Template.Tree
import Stencil.Text.Quoted

namespace Stencil.Json.Value

def bracketed (first last : String) (parts : List String) : String :=
  first ++ ", ".intercalate parts ++ last

mutual

def describe : Value → String
  | .null => "Null"
  | .bool b => "Bool(" ++ (if b then "true" else "false") ++ ")"
  | .number n => "Number(" ++ String.ofList n.text ++ ")"
  | .string s => "String(" ++ Text.quoted s ++ ")"
  | .array items => bracketed "Array [" "]" (describeItems items)
  | .object members => bracketed "Object \x7b" "\x7d" (describeMembers members)

def describeItems : List Value → List String
  | [] => []
  | v :: vs => describe v :: describeItems vs

def describeMembers : List (String × Value) → List String
  | [] => []
  | (k, v) :: ms => (Text.quoted k ++ ": " ++ describe v) :: describeMembers ms

end

end Stencil.Json.Value

namespace Stencil.Template

open Json.Value (bracketed)

def entries (named : List (String × String)) : List String :=
  named.map fun (name, text) => Text.quoted name ++ ": " ++ text

/-- Numbers in full: an exponent below `1e-4` and from `1e16` on. -/
def fullNumber : Decimal.Layout :=
  { positional := some (-4, 15), pointZero := true, plusSign := false, tie := .up }

def fielded (kind : String) (fields : List (String × String)) : String :=
  bracketed (kind ++ " \x7b ") " \x7d" (fields.map fun (name, text) => name ++ ": " ++ text)

def describeBool (b : Bool) : String :=
  if b then "true" else "false"

def MathOp.describe : MathOp → String
  | .add => "Add"
  | .sub => "Sub"
  | .mul => "Mul"
  | .div => "Div"
  | .rem => "Modulo"

def CompareOp.describe : CompareOp → String
  | .less => "Lt"
  | .lessEqual => "Lte"
  | .greater => "Gt"
  | .greaterEqual => "Gte"
  | .equal => "Eq"
  | .notEqual => "NotEq"

def describePair (kind inner left right operator : String) : String :=
  kind ++ "(" ++
    fielded inner [("lhs", left), ("rhs", right), ("operator", operator)] ++ ")"

mutual

def Term.describe : Term → String
  | .text s => "String(" ++ Text.quoted s ++ ")"
  | .int n => "Int(" ++ toString n ++ ")"
  | .float x => "Float(" ++ fullNumber.text x ++ ")"
  | .bool b => "Bool(" ++ describeBool b ++ ")"
  | .path p => "Ident(" ++ Text.quoted p ++ ")"
  | .math op left right =>
    describePair "Math" "MathExpr" left.describe right.describe op.describe
  | .compare op left right =>
    describePair "Logic" "LogicExpr" left.describe right.describe op.describe
  | .both left right => describePair "Logic" "LogicExpr" left.describe right.describe "And"
  | .either left right => describePair "Logic" "LogicExpr" left.describe right.describe "Or"
  | .among item container negated =>
    "In(" ++ fielded "In" [("lhs", item.describe), ("rhs", container.describe),
      ("negated", describeBool negated)] ++ ")"
  | .test path negated name args =>
    "Test(" ++ fielded "Test" [("ident", Text.quoted path), ("negated", describeBool negated),
      ("name", Text.quoted name), ("args", bracketed "[" "]" (describeAll args))] ++ ")"
  | .call call => "FunctionCall(" ++ call.describe ++ ")"
  | .expand space name args =>
    "MacroCall(" ++ fielded "MacroCall" [("namespace", Text.quoted space),
      ("name", Text.quoted name),
      ("args", bracketed "\x7b" "\x7d" (entries (lastOfEach (describeNamed args))))] ++ ")"
  | .list items => "Array(" ++ bracketed "[" "]" (describeAll items) ++ ")"
  | .joined parts =>
    "StringConcat(" ++
      fielded "StringConcat" [("values", bracketed "[" "]" (describeParts parts))] ++ ")"

def Expr.describe : Expr → String
  | .mk term negated filters =>
    fielded "Expr" [("val", term.describe), ("negated", describeBool negated),
      ("filters", bracketed "[" "]" (describeFilters filters))]

def Call.describe : Call → String
  | .mk name args =>
    fielded "FunctionCall" [("name", Text.quoted name),
      ("args", bracketed "\x7b" "\x7d" (entries (lastOfEach (describeNamed args))))]

def describeAll : List Expr → List String
  | [] => []
  | e :: es => e.describe :: describeAll es

def describeNamed : List (String × Expr) → List (String × String)
  | [] => []
  | (name, e) :: es => (name, e.describe) :: describeNamed es

def describeParts : List Term → List String
  | [] => []
  | t :: ts => t.describe :: describeParts ts

def describeFilters : List Call → List String
  | [] => []
  | c :: cs => c.describe :: describeFilters cs

end

end Stencil.Template
