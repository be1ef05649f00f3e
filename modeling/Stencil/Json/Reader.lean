import Stencil.Json.Numeral

namespace Stencil.Json

inductive Separator where
  | closed (rest : List Char)
  | more (rest : List Char)

def listSeparator (first : Bool) (cs : List Char) : Except Fault Separator :=
  match skipSpace cs with
  | [] => .error .truncated
  | ']' :: rest => .ok (.closed rest)
  | c :: rest =>
    if first then .ok (.more (c :: rest))
    else if c = ',' then
      match skipSpace rest with
      | [] => .error .truncated
      | ']' :: _ => .error .malformed
      | next => .ok (.more next)
    else .error .malformed

def memberSeparator (first : Bool) (cs : List Char) : Except Fault Separator :=
  match skipSpace cs with
  | [] => .error .truncated
  | '\x7d' :: rest => .ok (.closed rest)
  | c :: rest =>
    if first then (if c = '"' then .ok (.more rest) else .error .malformed)
    else if c = ',' then
      match skipSpace rest with
      | [] => .error .truncated
      | '"' :: rest => .ok (.more rest)
      | _ :: _ => .error .malformed
    else .error .malformed

def readColon (cs : List Char) : Except Fault (List Char) :=
  match skipSpace cs with
  | [] => .error .truncated
  | ':' :: rest => .ok rest
  | _ :: _ => .error .malformed

def readEnd (cs : List Char) : Except Fault Unit :=
  match skipSpace cs with
  | [] => .ok ()
  | _ :: _ => .error .malformed

mutual

/-- Passes over a value nobody asked for. -/
def skipValue : (depth : Nat) → List Char → Except Fault (List Char)
  | 0, _ => .error .malformed
  | depth + 1, cs =>
    match skipSpace cs with
    | [] => .error .truncated
    | 'n' :: rest => readWord ['u', 'l', 'l'] rest
    | 't' :: rest => readWord ['r', 'u', 'e'] rest
    | 'f' :: rest => readWord ['a', 'l', 's', 'e'] rest
    | '"' :: rest => skipString rest
    | '[' :: rest => skipItems depth true rest
    | '\x7b' :: rest => skipMembers depth true rest
    | c :: rest => if c = '-' ∨ c.isDigit then skipNumber (c :: rest) else .error .malformed

def skipItems : (depth : Nat) → Bool → List Char → Except Fault (List Char)
  | 0, _, _ => .error .malformed
  | depth + 1, first, cs =>
    match listSeparator first cs with
    | .error fault => .error fault
    | .ok (.closed rest) => .ok rest
    | .ok (.more rest) => do
      let rest ← skipValue depth rest
      skipItems depth false rest

def skipMembers : (depth : Nat) → Bool → List Char → Except Fault (List Char)
  | 0, _, _ => .error .malformed
  | depth + 1, first, cs =>
    match memberSeparator first cs with
    | .error fault => .error fault
    | .ok (.closed rest) => .ok rest
    | .ok (.more rest) => do
      let rest ← skipString rest
      let rest ← readColon rest
      let rest ← skipValue depth rest
      skipMembers depth false rest

end

mutual

def readValueWithin : (depth : Nat) → List Char → Except Fault (Value × List Char)
  | 0, _ => .error .malformed
  | depth + 1, cs =>
    match skipSpace cs with
    | [] => .error .truncated
    | 'n' :: rest => do .ok (.null, ← readWord ['u', 'l', 'l'] rest)
    | 't' :: rest => do .ok (.bool true, ← readWord ['r', 'u', 'e'] rest)
    | 'f' :: rest => do .ok (.bool false, ← readWord ['a', 'l', 's', 'e'] rest)
    | '"' :: rest => do
      let (text, rest) ← readString rest
      .ok (.string (String.ofList text), rest)
    | '[' :: rest => do
      let (items, rest) ← readItemsWithin depth true rest
      .ok (.array items, rest)
    | '\x7b' :: rest => do
      let (members, rest) ← readMembersWithin depth true rest
      .ok (.ofPairs members, rest)
    | c :: rest =>
      if c = '-' ∨ c.isDigit then do
        let (number, rest) ← readNumber (c :: rest)
        .ok (.number number, rest)
      else .error .malformed

def readItemsWithin : (depth : Nat) → Bool → List Char → Except Fault (List Value × List Char)
  | 0, _, _ => .error .malformed
  | depth + 1, first, cs =>
    match listSeparator first cs with
    | .error fault => .error fault
    | .ok (.closed rest) => .ok ([], rest)
    | .ok (.more rest) => do
      let (item, rest) ← readValueWithin depth rest
      let (items, rest) ← readItemsWithin depth false rest
      .ok (item :: items, rest)

def readMembersWithin : (depth : Nat) → Bool → List Char →
    Except Fault (List (String × Value) × List Char)
  | 0, _, _ => .error .malformed
  | depth + 1, first, cs =>
    match memberSeparator first cs with
    | .error fault => .error fault
    | .ok (.closed rest) => .ok ([], rest)
    | .ok (.more rest) => do
      let (name, rest) ← readString rest
      let rest ← readColon rest
      let (value, rest) ← readValueWithin depth rest
      let (members, rest) ← readMembersWithin depth false rest
      .ok ((String.ofList name, value) :: members, rest)

end

/-- A bound for the depth of readers on a text: every level and every part takes a character. -/
def depthFor (cs : List Char) : Nat :=
  2 * cs.length + 2

def readValue (cs : List Char) : Except Fault (Value × List Char) :=
  readValueWithin (depthFor cs) cs

def Value.parse (s : String) : Except Fault Value := do
  let (value, rest) ← readValue s.toList
  readEnd rest
  .ok value

end Stencil.Json
