import Stencil.Json.Value

namespace Stencil.Json

/-- Why reading stopped. The first fault from the left is the one reported. -/
inductive Fault where
  | truncated
  | malformed
  /-- The text may be JSON, but not of the shape that is wanted. -/
  | mismatched
  deriving DecidableEq, Repr, Inhabited

def isSpace (c : Char) : Bool :=
  c == ' ' || c == '\n' || c == '\t' || c == '\r'

def skipSpace (cs : List Char) : List Char :=
  cs.dropWhile isSpace

def readWord : (word : List Char) → List Char → Except Fault (List Char)
  | [], cs => .ok cs
  | _ :: _, [] => .error .truncated
  | w :: ws, c :: cs => if c = w then readWord ws cs else .error .malformed

def hexValue? (c : Char) : Option Nat :=
  if c.isDigit then some (c.toNat - '0'.toNat)
  else if 'a' ≤ c ∧ c ≤ 'f' then some (c.toNat - 'a'.toNat + 10)
  else if 'A' ≤ c ∧ c ≤ 'F' then some (c.toNat - 'A'.toNat + 10)
  else none

def lessThanFourBytes (cs : List Char) : Bool :=
  (String.ofList (cs.take 4)).utf8ByteSize < 4

/-- Where a string stands: between characters, after a backslash, in the four digits of a code
unit, or after the first of two code units that make one character. -/
inductive StringState where
  | plain
  | escaped
  | digits (missing value : Nat) (high : Option Nat)
  | betweenUnits (high : Nat)
  | secondUnit (high : Nat)
  deriving DecidableEq, Repr

def simpleEscape? : Char → Option Char
  | '"' => some '"'
  | '\\' => some '\\'
  | '/' => some '/'
  | 'b' => some '\x08'
  | 'f' => some '\x0c'
  | 'n' => some '\n'
  | 'r' => some '\r'
  | 't' => some '\t'
  | _ => none

def isHighUnit (n : Nat) : Bool := 0xD800 ≤ n && n ≤ 0xDBFF

def isLowUnit (n : Nat) : Bool := 0xDC00 ≤ n && n ≤ 0xDFFF

/-- What a complete code unit means after an optional first one: a character, or the wait for the
second unit of a pair. -/
def unitMeaning (high : Option Nat) (value : Nat) : Except Fault (Char ⊕ Nat) :=
  match high with
  | none =>
    if isLowUnit value then .error .malformed
    else if isHighUnit value then .ok (.inr value)
    else .ok (.inl (Char.ofNat value))
  | some h =>
    if isLowUnit value then
      .ok (.inl (Char.ofNat ((h - 0xD800) * 0x400 + (value - 0xDC00) + 0x10000)))
    else .error .malformed

def readStringFrom : StringState → List Char → Except Fault (List Char × List Char)
  | _, [] => .error .truncated
  | .plain, c :: cs =>
    if c = '"' then .ok ([], cs)
    else if c = '\\' then readStringFrom .escaped cs
    else if c.toNat < 0x20 then .error .malformed
    else do
      let (text, rest) ← readStringFrom .plain cs
      .ok (c :: text, rest)
  | .escaped, c :: cs =>
    if c = 'u' then
      if lessThanFourBytes cs then .error .truncated else readStringFrom (.digits 4 0 none) cs
    else
      match simpleEscape? c with
      | none => .error .malformed
      | some d => do
        let (text, rest) ← readStringFrom .plain cs
        .ok (d :: text, rest)
  | .digits missing value high, c :: cs =>
    match hexValue? c with
    | none => .error .malformed
    | some d =>
      let value := value * 16 + d
      if 1 < missing then readStringFrom (.digits (missing - 1) value high) cs
      else
        match unitMeaning high value with
        | .error fault => .error fault
        | .ok (.inr high) => readStringFrom (.betweenUnits high) cs
        | .ok (.inl d) => do
          let (text, rest) ← readStringFrom .plain cs
          .ok (d :: text, rest)
  | .betweenUnits high, c :: cs =>
    if c = '\\' then readStringFrom (.secondUnit high) cs else .error .malformed
  | .secondUnit high, c :: cs =>
    if c = 'u' then
      if lessThanFourBytes cs then .error .truncated
      else readStringFrom (.digits 4 0 (some high)) cs
    else .error .malformed

def readString (cs : List Char) : Except Fault (List Char × List Char) :=
  readStringFrom .plain cs

/-- Passes over a string whose contents do not matter: escapes must be well formed, but code units
need not pair up. -/
def skipStringFrom : StringState → List Char → Except Fault (List Char)
  | _, [] => .error .truncated
  | .escaped, c :: cs =>
    if c = 'u' then
      if lessThanFourBytes cs then .error .truncated else skipStringFrom (.digits 4 0 none) cs
    else if (simpleEscape? c).isSome then skipStringFrom .plain cs
    else .error .malformed
  | .digits missing _ _, c :: cs =>
    if (hexValue? c).isNone then .error .malformed
    else if 1 < missing then skipStringFrom (.digits (missing - 1) 0 none) cs
    else skipStringFrom .plain cs
  | _, c :: cs =>
    if c = '"' then .ok cs
    else if c = '\\' then skipStringFrom .escaped cs
    else if c.toNat < 0x20 then .error .malformed
    else skipStringFrom .plain cs

def skipString (cs : List Char) : Except Fault (List Char) :=
  skipStringFrom .plain cs

end Stencil.Json
