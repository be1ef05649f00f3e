import Stencil.Template.Display
import Stencil.Template.Reference
import Stencil.Template.Trouble
import Stencil.Text.Blank

namespace Stencil.Json.Value

def prettyText (indent : Nat) : Value → List Char
  | .array [] => ['[', ']']
  | .array items => '[' :: prettyItems (indent + 2) items ++ line indent [']']
  | .object [] => ['\x7b', '\x7d']
  | .object members => '\x7b' :: prettyMembers (indent + 2) members ++ line indent ['\x7d']
  | v => v.text
where
  line (indent : Nat) (rest : List Char) : List Char := '\n' :: (List.replicate indent ' ' ++ rest)
  prettyItems (indent : Nat) : List Value → List Char
    | [] => []
    | [v] => line indent (v.prettyText indent)
    | v :: vs => line indent (v.prettyText indent) ++ ',' :: prettyItems indent vs
  prettyMembers (indent : Nat) : List (String × Value) → List Char
    | [] => []
    | [(k, v)] => line indent (stringText k ++ ':' :: ' ' :: v.prettyText indent)
    | (k, v) :: ms =>
      line indent (stringText k ++ ':' :: ' ' :: v.prettyText indent) ++
        ',' :: prettyMembers indent ms

end Stencil.Json.Value

namespace Stencil.Template

open Json (Value Number)

abbrev Arguments := List (String × Value)

def Arguments.get? (args : Arguments) (name : String) : Option Value :=
  (args.find? (·.1 == name)).map (·.2)

namespace Filter

structure Wanted (α : Type) where
  name : String
  read? : Value → Option α

def text : Wanted String := ⟨"String", Value.string?⟩

def items : Wanted (List Value) := ⟨"Vec<Value>", Value.array?⟩

def size : Wanted Nat := ⟨"usize", fun v => v.number?.bind Number.unsigned?⟩

def float : Wanted Float := ⟨"f64", fun v => v.number?.map Number.toFloat⟩

def small : Wanted Int :=
  ⟨"i32", fun v => (v.number?.bind Number.signed?).filter
    fun n => -0x80000000 ≤ n ∧ n < 0x80000000⟩

def flag : Wanted Bool := ⟨"bool", Value.bool?⟩

def input {α : Type} (filter : String) (wanted : Wanted α) (v : Value) : Except Trouble α :=
  match wanted.read? v with
  | some x => .ok x
  | none => .error (.filterInput filter v wanted.name)

def argumentOf {α : Type} (filter argument : String) (wanted : Wanted α) (v : Value) :
    Except Trouble α :=
  match wanted.read? v with
  | some x => .ok x
  | none => .error (.filterArgument filter argument v wanted.name)

def optional {α : Type} (filter argument : String) (wanted : Wanted α) (default : α)
    (args : Arguments) : Except Trouble α :=
  match args.get? argument with
  | some v => argumentOf filter argument wanted v
  | none => .ok default

def required {α : Type} (filter argument : String) (wanted : Wanted α) (complaint : String)
    (args : Arguments) : Except Trouble α :=
  match args.get? argument with
  | some v => argumentOf filter argument wanted v
  | none => .error (.refused complaint)

def unescape (s : String) : String :=
  Text.replace (Text.replace s "\\n" "\n") "\\t" "\t"

def onText (filter : String) (f : String → String) (v : Value) : Except Trouble Value := do
  .ok (.string (f (← input filter text v)))

def capitalize (s : String) : String :=
  match s.toList with
  | [] => ""
  | c :: cs => String.ofList (c.toUpper :: cs.map Char.toLower)

def expects (filter argument : String) : String :=
  "Filter " ++ ticked filter ++ " expected an arg called " ++ ticked argument

def needs (filter argument : String) : String :=
  "The " ++ ticked filter ++ " filter has to have an " ++ ticked argument ++ " argument"

def replace (v : Value) (args : Arguments) : Except Trouble Value := do
  let s ← input "replace" text v
  let old ← required "replace" "from" text (expects "replace" "from") args
  let new ← required "replace" "to" text (expects "replace" "to") args
  .ok (.string (Text.replace s old new))

def length : Value → Except Trouble Value
  | .array items => .ok (.ofNat items.length)
  | .object members => .ok (.ofNat members.length)
  | .string s => .ok (.ofNat s.length)
  | _ => .error (.refused ("Filter " ++ ticked "length" ++
      " was used on a value that isn't an array, an object, or a string."))

def first (v : Value) : Except Trouble Value := do
  .ok ((← input "first" items v).head?.getD (.string ""))

def last (v : Value) : Except Trouble Value := do
  .ok ((← input "last" items v).getLast?.getD (.string ""))

def nth (v : Value) (args : Arguments) : Except Trouble Value := do
  let values ← input "nth" items v
  if values.isEmpty then .ok (.string "")
  else
    let n ← required "nth" "n" size (needs "nth" "n") args
    .ok (values[n]?.getD (.string ""))

def join (v : Value) (args : Arguments) : Except Trouble Value := do
  let values ← input "join" items v
  let sep ← match args.get? "sep" with
    | some sep => (argumentOf "truncate" "sep" text sep).map unescape
    | none => .ok ""
  .ok (.string (sep.intercalate (values.map Value.display)))

def reverse : Value → Except Trouble Value
  | .array items => .ok (.array items.reverse)
  | .string s => .ok (.string (String.ofList s.toList.reverse))
  | v => .error (.refused ("Filter " ++ ticked "reverse" ++
      " received an incorrect type for arg " ++ ticked "value" ++ ": got " ++ ticked v.print ++
      " but expected Array|String"))

/-- A position counted from the start, or from the end if it is negative. -/
def indexOf (count : Nat) (x : Float) : Nat :=
  if x ≥ 0 then x.toUInt64.toNat else ((UInt64.ofNat count).toFloat + x).toUInt64.toNat

def slice (v : Value) (args : Arguments) : Except Trouble Value := do
  let values ← input "slice" items v
  if values.isEmpty then .ok (.array [])
  else
    let start ← match args.get? "start" with
      | some x => (argumentOf "slice" "start" float x).map (indexOf values.length)
      | none => .ok 0
    let stop ← match args.get? "end" with
      | some x => (argumentOf "slice" "end" float x).map (indexOf values.length)
      | none => .ok values.length
    .ok (.array ((values.take stop).drop start))

def concat (v : Value) (args : Arguments) : Except Trouble Value := do
  let values ← input "concat" items v
  match args.get? "with" with
  | some (.array more) => .ok (.array (values ++ more))
  | some one => .ok (.array (values ++ [one]))
  | none => .error (.refused ("The " ++ ticked "concat" ++ " filter has to have a " ++
      ticked "with" ++ " argument"))

def map (v : Value) (args : Arguments) : Except Trouble Value := do
  let values ← input "map" items v
  if values.isEmpty then .ok (.array [])
  else
    let way ← required "map" "attribute" text (needs "map" "attribute") args
    let found := values.filterMap fun v => part? v way.toList
    .ok (.array (found.filter fun v => !v.isNull))

def split (v : Value) (args : Arguments) : Except Trouble Value := do
  let s ← input "split" text v
  let pat ← required "split" "pat" text (expects "split" "pat") args
  .ok (.ofStrings (Text.split s (unescape pat)))

def get (v : Value) (args : Arguments) : Except Trouble Value := do
  let key ← required "get" "key" text (needs "get" "key") args
  match v with
  | .object members =>
    match Table.get? key members, args.get? "default" with
    | some found, _ => .ok found
    | none, some default => .ok default
    | none, none => .error (.refused ("Filter " ++ ticked "get" ++ " tried to get key " ++
        ticked key ++ " but it wasn't found"))
  | _ => .error (.refused ("Filter " ++ ticked "get" ++
      " was used on a value that isn't an object"))

def jsonEncode (v : Value) (args : Arguments) : Except Trouble Value :=
  match args.get? "pretty" with
  | some (.bool true) => .ok (.string (String.ofList (v.prettyText 0)))
  | _ => .ok (.string v.print)

/-- The least integer of 64 bits has no counterpart among them and stays as it is. -/
def abs : Value → Except Trouble Value
  | .number (.int n) => .ok (.ofInt (if n.value = -Number.signedLimit then n else n.value.natAbs))
  | .number (.float x _) => .ok (.ofFloat x.abs)
  | _ => .error (.refused ("Filter " ++ ticked "abs" ++
      " was used on a value that isn't a number."))

def power : (fuel : Nat) → (base result : Float) → (exponent : Nat) → Float
  | 0, _, r, _ => r
  | fuel + 1, b, r, n =>
    let r := if n % 2 == 1 then r * b else r
    if n / 2 == 0 then r else power fuel (b * b) r (n / 2)

def tenTo (n : Int) : Float :=
  let p := power 40 10 1 n.natAbs
  if n < 0 then 1 / p else p

def round (v : Value) (args : Arguments) : Except Trouble Value := do
  let x ← input "round" float v
  let method ← optional "round" "method" text "common" args
  let precision ← optional "round" "precision" small 0 args
  let unit := if precision = 0 then 1.0 else tenTo precision
  if method == "common" then .ok (.ofFloat ((unit * x).round / unit))
  else if method == "ceil" then .ok (.ofFloat ((unit * x).ceil / unit))
  else if method == "floor" then .ok (.ofFloat ((unit * x).floor / unit))
  else .error (.refused ("Filter " ++ ticked "round" ++
      " received an incorrect value for arg " ++ ticked "method" ++ ": got " ++
      ticked (Text.quoted method) ++ ", only common, ceil and floor are allowed"))

def indentLines (start : String) (blank : Bool) (lines : List String) : String :=
  String.join (lines.map fun line =>
    "\n" ++ (if blank || !(Text.trimStart line).isEmpty then start else "") ++ line)

def indent (v : Value) (args : Arguments) : Except Trouble Value := do
  let s ← input "indent" text v
  let start ← optional "indent" "prefix" text "    " args
  let first ← optional "indent" "first" flag false args
  let blank ← optional "indent" "blank" flag false args
  match Text.lines s with
  | [] => .ok (.string "")
  | line :: others =>
    .ok (.string ((if first then start else "") ++ line ++ indentLines start blank others))

end Filter

def filter? (name : String) : Option (Value → Arguments → Except Trouble Value) :=
  let plain (f : Value → Except Trouble Value) := some fun v (_ : Arguments) => f v
  match name with
  | "upper" => plain (Filter.onText name Text.upperAscii)
  | "lower" => plain (Filter.onText name Text.lowerAscii)
  | "capitalize" => plain (Filter.onText name Filter.capitalize)
  | "trim" => plain (Filter.onText name Text.trim)
  | "trim_start" => plain (Filter.onText name Text.trimStart)
  | "trim_end" => plain (Filter.onText name Text.trimEnd)
  | "replace" => some Filter.replace
  | "length" => plain Filter.length
  | "first" => plain Filter.first
  | "last" => plain Filter.last
  | "nth" => some Filter.nth
  | "join" => some Filter.join
  | "reverse" => plain Filter.reverse
  | "slice" => some Filter.slice
  | "concat" => some Filter.concat
  | "map" => some Filter.map
  | "split" => some Filter.split
  | "get" => some Filter.get
  | "json_encode" => some Filter.jsonEncode
  | "as_str" => plain fun v => .ok (.string v.display)
  | "escape" => plain (Filter.onText "escape_html" escapeText)
  | "abs" => plain Filter.abs
  | "round" => some Filter.round
  | "indent" => some Filter.indent
  | _ => none

end Stencil.Template
