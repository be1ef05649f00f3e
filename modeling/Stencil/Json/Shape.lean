import Stencil.Json.Reader

namespace Stencil.Json

/-- The fault of a value that stands where another shape is wanted. Its text is checked as far as
its first word goes. -/
def mismatchAt (cs : List Char) : Fault :=
  let checked {α : Type} (reading : Except Fault α) : Fault :=
    match reading with
    | .ok _ => .mismatched
    | .error fault => fault
  match cs with
  | [] => .truncated
  | 'n' :: rest => checked (readWord ['u', 'l', 'l'] rest)
  | 't' :: rest => checked (readWord ['r', 'u', 'e'] rest)
  | 'f' :: rest => checked (readWord ['a', 'l', 's', 'e'] rest)
  | '"' :: rest => checked (readString rest)
  | '[' :: _ => .mismatched
  | '\x7b' :: _ => .mismatched
  | c :: rest => if c = '-' ∨ c.isDigit then checked (readNumber (c :: rest)) else .malformed

def wantString (cs : List Char) : Except Fault (String × List Char) :=
  match skipSpace cs with
  | '"' :: rest => do
    let (text, rest) ← readString rest
    .ok (String.ofList text, rest)
  | other => .error (mismatchAt other)

def wantBool (cs : List Char) : Except Fault (Bool × List Char) :=
  match skipSpace cs with
  | 't' :: rest => do .ok (true, ← readWord ['r', 'u', 'e'] rest)
  | 'f' :: rest => do .ok (false, ← readWord ['a', 'l', 's', 'e'] rest)
  | other => .error (mismatchAt other)

def wantStringItems : (bound : Nat) → Bool → List Char → Except Fault (List String × List Char)
  | 0, _, _ => .error .malformed
  | bound + 1, first, cs =>
    match listSeparator first cs with
    | .error fault => .error fault
    | .ok (.closed rest) => .ok ([], rest)
    | .ok (.more rest) => do
      let (item, rest) ← wantString rest
      let (items, rest) ← wantStringItems bound false rest
      .ok (item :: items, rest)

def wantStrings (cs : List Char) : Except Fault (List String × List Char) :=
  match skipSpace cs with
  | '[' :: rest => wantStringItems (depthFor cs) true rest
  | other => .error (mismatchAt other)

def wantOptional {α : Type} (want : List Char → Except Fault (α × List Char)) (cs : List Char) :
    Except Fault (Option α × List Char) :=
  match skipSpace cs with
  | [] => .error .truncated
  | 'n' :: rest => do .ok (none, ← readWord ['u', 'l', 'l'] rest)
  | other => do
    let (value, rest) ← want other
    .ok (some value, rest)

def closeList (cs : List Char) : Except Fault (List Char) :=
  match skipSpace cs with
  | [] => .error .truncated
  | ']' :: rest => .ok rest
  | _ :: _ => .error .malformed

end Stencil.Json
