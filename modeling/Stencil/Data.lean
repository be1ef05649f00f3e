import Stencil.Context

namespace Stencil

open Json (Value)

namespace Data

inductive Key where
  | text (s : String)
  | int (n : Int)
  | bool (b : Bool)
  | compound

/-- Why data has no JSON form. -/
inductive Fault where
  | numberOutOfRange
  | keyWithoutText
  deriving DecidableEq, Repr

def Fault.message : Fault → String
  | numberOutOfRange => "number out of range"
  | keyWithoutText => "key must be a string"

def Key.print : Key → Except Fault String
  | text s => .ok s
  | int n => .ok (toString n)
  | bool b => .ok (if b then "true" else "false")
  | compound => .error .keyWithoutText

end Data

inductive Data where
  | value (v : Value)
  | int (n : Int)
  | list (items : List Data)
  | table (entries : List (Data.Key × Data))

namespace Data

mutual

def toValue : Data → Except Fault Value
  | value v => .ok v
  | int n =>
    match Json.Whole.ofInt? n with
    | some whole => .ok (.number (.int whole))
    | none => .error .numberOutOfRange
  | list items => (itemsToValues items).map .array
  | table entries => (entriesToMembers entries).map .ofPairs

def itemsToValues : List Data → Except Fault (List Value)
  | [] => .ok []
  | item :: items => do
    let v ← toValue item
    let vs ← itemsToValues items
    .ok (v :: vs)

def entriesToMembers : List (Key × Data) → Except Fault (List (String × Value))
  | [] => .ok []
  | (key, item) :: entries => do
    let name ← key.print
    let v ← toValue item
    let members ← entriesToMembers entries
    .ok ((name, v) :: members)

end

end Data

/-- Puts data under a name; data without a JSON form changes nothing. -/
def Context.insertData (c : Context) (name : String) (data : Data) :
    Except Data.Fault Context :=
  data.toValue.map (c.insert name)

end Stencil
