import Stencil.Json.Value
import Stencil.Text.Search

namespace Stencil.Template

open Json (Value)

def cutAt (c : Char) : List Char → List Char × Option (List Char)
  | [] => ([], none)
  | x :: xs =>
    if x = c then ([], some xs)
    else
      let (before, after) := cutAt c xs
      (x :: before, after)

structure Marks where
  double : Bool := false
  single : Bool := false
  escaped : Bool := false

/-- Reads a character, and tells how wide it is as a mark between steps. Quotation marks are marks,
and so are, outside of them, points and brackets; a bracket takes the next place with it. After a
backslash nothing is a mark. -/
def Marks.read (m : Marks) (c : Char) : Marks × Option Nat :=
  if c = '\\' then ({ m with escaped := true }, none)
  else if m.escaped then ({ m with escaped := false }, none)
  else if c = '"' then ({ m with double := !m.double }, some 1)
  else if c = '\'' then ({ m with single := !m.single }, some 1)
  else if m.double || m.single then (m, none)
  else if c = '.' then (m, some 1)
  else if c = '[' then (m, some 2)
  else (m, none)

def findMark (m : Marks) (first place : Nat) : List Char → Marks × Nat × Option (Nat × Nat)
  | [] => (m, first, none)
  | c :: cs =>
    match m.read c with
    | (m, none) => findMark m first (place + 1) cs
    | (m, some width) =>
      if place = first then findMark m (first + 1) (place + 1) cs
      else (m, first, some (place, width))

def cells (cs : List Char) : List (Option Char) :=
  cs.flatMap fun c => some c :: List.replicate (c.utf8Size - 1) none

def charsOf (bytes : List (Option Char)) : List Char :=
  bytes.filterMap id

/-- The steps in the bytes of a path; `bound` limits their number. Places are counted in characters
and cut in bytes: a step with characters of several bytes ends before its mark. -/
def stepsFrom : (bound : Nat) → Marks → List (Option Char) → List (List Char)
  | 0, _, _ => []
  | bound + 1, m, path =>
    match findMark m 0 0 (charsOf path) with
    | (m, first, some (place, width)) =>
      charsOf ((path.drop first).take (place - first)) ::
        stepsFrom bound m (path.drop (place + width))
    | (_, first, none) =>
      if path.length ≤ first then [] else [charsOf (path.drop first)]

/-- A step as the name that it stands for: a slash may be written `~1`, and a tilde `~0`. -/
def nameOfStep (step : List Char) : String :=
  Text.replace (Text.replace (String.ofList step) "~1" "/") "~0" "~"

def steps (path : List Char) : List String :=
  (stepsFrom ((cells path).length + 1) {} (cells path)).map nameOfStep

def position? (step : String) : Option Nat :=
  match step.toList with
  | [] => none
  | ['0'] => some 0
  | '0' :: _ => none
  | ds => if ds.all Char.isDigit then some (digits ds) else none
where
  digits (ds : List Char) : Nat := ds.foldl (fun n d => n * 10 + (d.toNat - '0'.toNat)) 0

def follow? (v : Value) (step : String) : Option Value :=
  match v with
  | .object members => Table.get? step members
  | .array items => (position? step).bind (items[·]?)
  | _ => none

def followAll? : Value → List String → Option Value
  | v, [] => some v
  | v, step :: rest => (follow? v step).bind (followAll? · rest)

def part? (v : Value) (path : List Char) : Option Value :=
  followAll? v (steps path)

def takeBracket? : (open_ : Nat) → List Char → Option (List Char × List Char)
  | _, [] => none
  | n, c :: cs =>
    if c = ']' ∧ n ≤ 1 then some ([], cs)
    else
      (takeBracket? (if c = ']' then n - 1 else if c = '[' then n + 1 else n) cs).map
        fun (inside, rest) => (c :: inside, rest)

def isPosition (cs : List Char) : Bool :=
  let ds := match cs with
    | '+' :: ds => ds
    | ds => ds
  !ds.isEmpty && ds.all Char.isDigit && decide (position?.digits ds < Json.Number.unsignedLimit)

/-- What stands in the outer brackets of a path and has to be looked up: neither a quoted name nor
a position. The first character in a bracket is taken for what it is; brackets in quotation marks
count like others, and one that is never closed ends the search. -/
def lookups : (bound : Nat) → List Char → List (List Char)
  | 0, _ => []
  | bound + 1, '[' :: first :: cs =>
    if first = '"' ∨ first = '\'' then lookups bound cs
    else
      match takeBracket? 1 cs with
      | none => []
      | some (inside, rest) =>
        if isPosition (first :: inside) then lookups bound rest
        else (first :: inside) :: lookups bound rest
  | _ + 1, [] => []
  | bound + 1, _ :: cs => lookups bound cs

/-- A path in which the brackets have become points, and a slash is written so that it stands for
itself. -/
def dotted (path : String) : String :=
  let path := Text.replace path "/" "~1"
  let path := Text.replace path "['" ".\""
  let path := Text.replace path "[\"" ".\""
  let path := Text.replace path "[" "."
  let path := Text.replace path "']" "\""
  let path := Text.replace path "\"]" "\""
  Text.replace path "]" ""

def replaceBracket (path inside text : String) : String :=
  match Text.split path ("[" ++ inside ++ "]") with
  | first :: second :: others =>
    first ++ "." ++ text ++ Text.joinWith ("[" ++ inside ++ "]") (second :: others)
  | _ => path ++ "." ++ text

end Stencil.Template
