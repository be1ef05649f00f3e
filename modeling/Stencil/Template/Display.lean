import Stencil.Decimal.Layout
import Stencil.Json.Value

namespace Stencil.Json

def Number.display : Number → String
  | .int n => toString n.value
  | .float x _ => Decimal.plain.text x

def Number.isTrue : Number → Bool
  | .int n => n.value != 0
  | .float x _ => x != 0

namespace Value

mutual

/-- The text of a value: null has none, a list stands in brackets, an object shows no members. -/
def display : Value → String
  | .null => ""
  | .bool b => if b then "true" else "false"
  | .number n => n.display
  | .string s => s
  | .array items => "[" ++ ", ".intercalate (displayItems items) ++ "]"
  | .object _ => "[object]"

def displayItems : List Value → List String
  | [] => []
  | v :: vs => v.display :: displayItems vs

end

/-- Null, zero, and what is empty count as false. -/
def isTrue : Value → Bool
  | .null => false
  | .bool b => b
  | .number n => n.isTrue
  | .string s => !s.isEmpty
  | .array items => !items.isEmpty
  | .object members => !members.isEmpty

end Value

end Stencil.Json

namespace Stencil.Template

def escapeChar : Char → List Char
  | '&' => "&amp;".toList
  | '<' => "&lt;".toList
  | '>' => "&gt;".toList
  | '"' => "&quot;".toList
  | '\'' => "&#x27;".toList
  | '/' => "&#x2F;".toList
  | c => [c]

def escapeText (s : String) : String :=
  String.ofList (s.toList.flatMap escapeChar)

end Stencil.Template
