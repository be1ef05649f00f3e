import Stencil.Yaml.Cursor

namespace Stencil.Yaml

/-- The white space since the last other character. -/
inductive Gap where
  | blanks (reversed : List Char)
  | lines (first : Option Char) (reversed : List Char)

namespace Gap

def none : Gap := .blanks []

def hasLines : Gap → Bool
  | blanks _ => false
  | lines _ _ => true

def isNone : Gap → Bool
  | blanks reversed => reversed.isEmpty
  | lines _ _ => false

def addBlank (c : Char) : Gap → Gap
  | blanks reversed => .blanks (c :: reversed)
  | gap => gap

def addBreak (meaning : Char) : Gap → Gap
  | blanks _ => .lines (some meaning) []
  | lines first reversed => .lines first (meaning :: reversed)

/-- What the gap means, the last character first. A line break with all white space around it
becomes one space, and every further line break stays one. -/
def reversedText : Gap → List Char
  | blanks reversed => reversed
  | lines (some '\n') [] => [' ']
  | lines (some '\n') reversed => reversed
  | lines first reversed => reversed ++ first.toList

end Gap

structure ScalarRead where
  text : String
  after : Cursor
  brokeLine : Bool

def finishScalar (reversed : List Char) (after : Cursor) (brokeLine : Bool) : ScalarRead :=
  ⟨String.ofList reversed.reverse, after, brokeLine⟩

def isFlowSign (c : Char) : Bool :=
  c == ',' || c == '[' || c == ']' || c == '\x7b' || c == '\x7d'

def readPlain (inFlow : Bool) (indent : Nat) :
    (bound : Nat) → Cursor → Gap → (reversed : List Char) → Option ScalarRead
  | 0, _, _, _ => none
  | bound + 1, at_, gap, reversed =>
    let stop := some (finishScalar reversed at_ gap.hasLines)
    match at_.takeBreak? with
    | some (meaning, next) => readPlain inFlow indent bound next (gap.addBreak meaning) reversed
    | none =>
      match at_.rest with
      | [] => stop
      | c :: rest =>
        if isBlank c then
          if c == '\t' && gap.hasLines && at_.column < indent then none
          else readPlain inFlow indent bound (at_.skip 1) (gap.addBlank c) reversed
        else if gap.hasLines && !inFlow && at_.column < indent then stop
        else if at_.atAnyMarker then stop
        else if c == '#' && !gap.isNone then stop
        else if c == ':' && inFlow && (rest.head?.any fun d => isFlowSign d || d == '?') then none
        else if c == ':' && endsWord rest then stop
        else if inFlow && isFlowSign c then stop
        else
          readPlain inFlow indent bound (at_.skip 1) .none (c :: (gap.reversedText ++ reversed))

def hexValue? (digits : List Char) : Option Nat :=
  digits.foldlM (fun n c =>
    let d := c.toLower
    if d.isDigit then some (16 * n + (d.toNat - '0'.toNat))
    else if 'a' ≤ d ∧ d ≤ 'f' then some (16 * n + (d.toNat - 'a'.toNat + 10))
    else none) 0

def hexChar? (length : Nat) (rest : List Char) : Option (Char × Nat) := do
  let digits := rest.take length
  if digits.length < length then none
  else
    let n ← hexValue? digits
    if n.isValidChar then some (Char.ofNat n, length) else none

/-- The character that an escape names, and how many characters of it follow the backslash. -/
def escape? : List Char → Option (Char × Nat)
  | [] => none
  | c :: rest =>
    match c with
    | '0' => some ('\x00', 1)
    | 'a' => some ('\x07', 1)
    | 'b' => some ('\x08', 1)
    | 't' => some ('\t', 1)
    | '\t' => some ('\t', 1)
    | 'n' => some ('\n', 1)
    | 'v' => some ('\x0b', 1)
    | 'f' => some ('\x0c', 1)
    | 'r' => some ('\r', 1)
    | 'e' => some ('\x1b', 1)
    | ' ' => some (' ', 1)
    | '"' => some ('"', 1)
    | '/' => some ('/', 1)
    | '\\' => some ('\\', 1)
    | 'N' => some ('\x85', 1)
    | '_' => some ('\xa0', 1)
    | 'L' => some ('\u2028', 1)
    | 'P' => some ('\u2029', 1)
    | 'x' => (hexChar? 2 rest).map fun (named, n) => (named, n + 1)
    | 'u' => (hexChar? 4 rest).map fun (named, n) => (named, n + 1)
    | 'U' => (hexChar? 8 rest).map fun (named, n) => (named, n + 1)
    | _ => none

def readQuoted (mark : Char) :
    (bound : Nat) → Cursor → Gap → (reversed : List Char) → Option ScalarRead
  | 0, _, _, _ => none
  | bound + 1, at_, gap, reversed =>
    if at_.atAnyMarker then none
    else
      match at_.takeBreak? with
      | some (meaning, next) => readQuoted mark bound next (gap.addBreak meaning) reversed
      | none =>
        let reversedSoFar := gap.reversedText ++ reversed
        match at_.rest with
        | [] => none
        | c :: rest =>
          if isBlank c then readQuoted mark bound (at_.skip 1) (gap.addBlank c) reversed
          else if c == mark then
            if mark == '\'' && rest.head? == some '\'' then
              readQuoted mark bound (at_.skip 2) .none ('\'' :: reversedSoFar)
            else some (finishScalar reversedSoFar (at_.skip 1) false)
          else if c == '\\' && mark == '"' then
            match (at_.skip 1).takeBreak? with
            | some (_, next) => readQuoted mark bound next (.lines none []) reversedSoFar
            | none =>
              match escape? rest with
              | some (named, length) =>
                readQuoted mark bound (at_.skip (length + 1)) .none (named :: reversedSoFar)
              | none => none
          else readQuoted mark bound (at_.skip 1) .none (c :: reversedSoFar)

end Stencil.Yaml
