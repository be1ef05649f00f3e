namespace Stencil.Template

inductive MathOp where
  | add
  | sub
  | mul
  | div
  | rem
  deriving DecidableEq, Repr

inductive CompareOp where
  | less
  | lessEqual
  | greater
  | greaterEqual
  | equal
  | notEqual
  deriving DecidableEq, Repr

mutual

inductive Term where
  | text (value : String)
  | int (value : Int)
  | float (value : Float)
  | bool (value : Bool)
  | path (written : String)
  | math (op : MathOp) (left right : Expr)
  | compare (op : CompareOp) (left right : Expr)
  | both (left right : Expr)
  | either (left right : Expr)
  | among (item container : Expr) (negated : Bool)
  | test (path : String) (negated : Bool) (name : String) (args : List Expr)
  | call (function : Call)
  | expand (space name : String) (args : List (String × Expr))
  | list (items : List Expr)
  | joined (parts : List Term)

inductive Expr where
  | mk (term : Term) (negated : Bool) (filters : List Call)

inductive Call where
  | mk (name : String) (args : List (String × Expr))

end

def lastOfEach {α : Type} : List (String × α) → List (String × α)
  | [] => []
  | (name, value) :: others =>
    if others.any (·.1 == name) then lastOfEach others
    else (name, value) :: lastOfEach others

namespace Call

def name : Call → String
  | mk name _ => name

def args : Call → List (String × Expr)
  | mk _ args => args

end Call

namespace Expr

def ofTerm (t : Term) : Expr := mk t false []

def term : Expr → Term
  | mk t _ _ => t

def filters : Expr → List Call
  | mk _ _ fs => fs

end Expr

structure Trim where
  left : Bool
  right : Bool
  deriving DecidableEq, Repr, Inhabited

mutual

inductive Node where
  | text (value : String)
  | print (trim : Trim) (value : Expr)
  | comment (trim : Trim)
  | assign (trim : Trim) (name : String) (value : Expr) (everywhere : Bool)
  | include (trim : Trim) (names : List String) (optional : Bool)
  | raw (opening : Trim) (value : String) (closing : Trim)
  | branch (arms : List Arm) (otherwise : Option Final) (closing : Trim)
  /-- A loop. Of several bodies for no items the last is `otherwise`; the others are `unused`. -/
  | loop (opening : Trim) (key : Option String) (item : String) (container : Expr)
      (body : List Node) (otherwise : Option (List Node)) (unused : List Node) (closing : Trim)
  | quit (trim : Trim)
  | next (trim : Trim)
  | section (opening : Trim) (filter : Call) (body : List Node) (closing : Trim)
  | block (opening : Trim) (name : String) (body : List Node) (closing : Trim)
  | inherited
  | define (opening : Trim) (name : String) (params : List (String × Option Expr))
      (body : List Node) (closing : Trim)
  | extend (trim : Trim) (template : String)
  | load (trim : Trim) (template space : String)

inductive Arm where
  | mk (trim : Trim) (condition : Expr) (body : List Node)

inductive Final where
  | mk (trim : Trim) (body : List Node)

end

end Stencil.Template
