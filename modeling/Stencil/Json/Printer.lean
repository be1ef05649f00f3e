import Stencil.Decimal.Layout
import Stencil.Json.Value
import Stencil.Text.Quoted

namespace Stencil.Json

def controlEscape (c : Char) : List Char :=
  let digits := Text.hexDigits c.toNat
  ['\\', 'u'] ++ List.replicate (4 - digits.length) '0' ++ digits

def escapeChar (c : Char) : List Char :=
  match c with
  | '"' => ['\\', '"']
  | '\\' => ['\\', '\\']
  | '\x08' => ['\\', 'b']
  | '\t' => ['\\', 't']
  | '\n' => ['\\', 'n']
  | '\x0c' => ['\\', 'f']
  | '\r' => ['\\', 'r']
  | c => if c.toNat < 0x20 then controlEscape c else [c]

def stringText (s : String) : List Char :=
  '"' :: (s.toList.flatMap escapeChar ++ ['"'])

def intText (n : Int) : List Char :=
  (toString n).toList

def Number.text : Number → List Char
  | .int n => intText n
  | .float x _ => (Decimal.json.text x).toList

namespace Value

mutual

def text : Value → List Char
  | .null => "null".toList
  | .bool b => (if b then "true" else "false").toList
  | .number n => n.text
  | .string s => stringText s
  | .array items => '[' :: itemsText items
  | .object members => '\x7b' :: membersText members

def itemsText : List Value → List Char
  | [] => [']']
  | [v] => v.text ++ [']']
  | v :: w :: vs => v.text ++ ',' :: itemsText (w :: vs)

def membersText : List (String × Value) → List Char
  | [] => ['\x7d']
  | [(k, v)] => stringText k ++ ':' :: (v.text ++ ['\x7d'])
  | (k, v) :: m :: ms => stringText k ++ ':' :: (v.text ++ ',' :: membersText (m :: ms))

end

def print (v : Value) : String :=
  String.ofList v.text

end Value

end Stencil.Json
