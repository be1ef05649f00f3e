namespace Stencil.Yaml

structure Cursor where
  rest : List Char
  line : Nat
  column : Nat
  index : Nat

def isBlank (c : Char) : Bool :=
  c == ' ' || c == '\t'

def isBreak (c : Char) : Bool :=
  c == '\n' || c == '\r' || c == '\x85' || c == '\u2028' || c == '\u2029'

def endsWord : List Char → Bool
  | [] => true
  | c :: _ => isBlank c || isBreak c

def isAllowed (c : Char) : Bool :=
  let n := c.toNat
  n == 0x09 || n == 0x0A || n == 0x0D || (0x20 ≤ n && n ≤ 0x7E) || n == 0x85 ||
    (0xA0 ≤ n && n ≤ 0xD7FF) || (0xE000 ≤ n && n ≤ 0xFFFD) || 0x10000 ≤ n

namespace Cursor

def ofText (cs : List Char) : Cursor := ⟨cs, 0, 0, 0⟩

def skip (n : Nat) (c : Cursor) : Cursor :=
  { c with rest := c.rest.drop n, column := c.column + n, index := c.index + n }

/-- Passes over a line break and tells what it means: the separators of lines and paragraphs stand
for themselves, all others for a line feed. -/
def takeBreak? (c : Cursor) : Option (Char × Cursor) :=
  let next (meaning : Char) (length : Nat) (rest : List Char) : Option (Char × Cursor) :=
    some (meaning, ⟨rest, c.line + 1, 0, c.index + length⟩)
  match c.rest with
  | '\r' :: '\n' :: rest => next '\n' 2 rest
  | '\u2028' :: rest => next '\u2028' 1 rest
  | '\u2029' :: rest => next '\u2029' 1 rest
  | first :: rest => if isBreak first then next '\n' 1 rest else none
  | [] => none

/-- Whether three signs at the start of a line begin or end a document here. -/
def atMarker (c : Cursor) (sign : Char) : Bool :=
  c.column == 0 && c.rest.take 3 == [sign, sign, sign] && endsWord (c.rest.drop 3)

def atAnyMarker (c : Cursor) : Bool :=
  c.atMarker '-' || c.atMarker '.'

end Cursor

end Stencil.Yaml
