import Stencil.Json.Lexeme

namespace Stencil.Json

structure Numeral where
  negative : Bool
  whole : List Char
  fraction : Option (List Char)
  exponent : Option (Bool × List Char)

def digitValue (c : Char) : Nat :=
  c.toNat - '0'.toNat

def digitsValue (ds : List Char) : Nat :=
  ds.foldl (fun n d => n * 10 + digitValue d) 0

def takeDigits (cs : List Char) : List Char × List Char :=
  (cs.takeWhile Char.isDigit, cs.dropWhile Char.isDigit)

def readSomeDigits (early : Fault) (cs : List Char) : Except Fault (List Char × List Char) :=
  match takeDigits cs with
  | ([], []) => .error early
  | ([], _ :: _) => .error .malformed
  | (ds, rest) => .ok (ds, rest)

def readWhole (early : Fault) : List Char → Except Fault (List Char × List Char)
  | [] => .error early
  | '0' :: cs =>
    match cs with
    | d :: _ => if d.isDigit then .error .malformed else .ok (['0'], cs)
    | [] => .ok (['0'], cs)
  | c :: cs => if c.isDigit then .ok (takeDigits (c :: cs)) else .error .malformed

def readFraction (early : Fault) : List Char → Except Fault (Option (List Char) × List Char)
  | '.' :: cs => do
    let (ds, rest) ← readSomeDigits early cs
    .ok (some ds, rest)
  | cs => .ok (none, cs)

def readExponent (early : Fault) : List Char → Except Fault (Option (Bool × List Char) × List Char)
  | [] => .ok (none, [])
  | c :: cs =>
    if c = 'e' ∨ c = 'E' then
      let (negative, cs) := match cs with
        | '+' :: rest => (false, rest)
        | '-' :: rest => (true, rest)
        | _ => (false, cs)
      do
        let (ds, rest) ← readSomeDigits early cs
        .ok (some (negative, ds), rest)
    else .ok (none, c :: cs)

def readNumeral (early : Fault) (cs : List Char) : Except Fault (Numeral × List Char) := do
  let (negative, cs) := match cs with
    | '-' :: rest => (true, rest)
    | _ => (false, cs)
  let (whole, cs) ← readWhole early cs
  let (fraction, cs) ← readFraction early cs
  let (exponent, cs) ← readExponent early cs
  .ok (⟨negative, whole, fraction, exponent⟩, cs)

/-- The leading digits as long as they fit 64 bits, and how many do not. -/
def fittingDigits (start : Nat) : List Char → Nat × Nat
  | [] => (start, 0)
  | d :: ds =>
    let next := start * 10 + digitValue d
    if next < Number.unsignedLimit then fittingDigits next ds else (start, ds.length + 1)

def powerOfTen (n : Nat) : Float :=
  Float.ofScientific 1 false n

def divideByPower : (steps : Nat) → Float → Nat → Float
  | 0, x, _ => x
  | steps + 1, x, n =>
    if n ≤ 308 then x / powerOfTen n
    else if x == 0 then x
    else divideByPower steps (x / powerOfTen 308) (n - 308)

/-- A whole number times a power of ten, rounded at each step; `none` where that is too large. -/
def scaled? (significand : Nat) (exponent : Int) : Option Float :=
  let x := (UInt64.ofNat significand).toFloat
  if 0 ≤ exponent then
    if x == 0 then some x
    else if 308 < exponent then none
    else
      let product := x * powerOfTen exponent.toNat
      if product.isInf then none else some product
  else some (divideByPower (exponent.natAbs / 308 + 1) x exponent.natAbs)

/-- Whole numbers of up to 64 bits are exact. Of any other number the leading digits that fit 64
bits are kept, and the result is scaled in floating-point arithmetic; `none` where it is out of
range. -/
def Numeral.value? (n : Numeral) : Option Number :=
  let (whole, dropped) := fittingDigits 0 n.whole
  if dropped == 0 && n.fraction.isNone && n.exponent.isNone then
    if !n.negative then (Whole.ofInt? whole).map .int
    else if whole == 0 || Number.signedLimit < whole then
      Number.ofFloat? (-(UInt64.ofNat whole).toFloat)
    else (Whole.ofInt? (-whole)).map .int
  else
    let fraction := n.fraction.getD []
    let (significand, ignored) := fittingDigits whole fraction
    let written : Int := match n.exponent with
      | none => 0
      | some (negative, ds) => if negative then -(digitsValue ds) else digitsValue ds
    let exponent := (dropped : Int) - (fraction.length - ignored : Nat) + written
    (scaled? significand exponent).bind fun x => Number.ofFloat? (if n.negative then -x else x)

def readNumber (cs : List Char) : Except Fault (Number × List Char) := do
  let (numeral, rest) ← readNumeral .truncated cs
  match numeral.value? with
  | some value => .ok (value, rest)
  | none => .error .malformed

def skipNumber (cs : List Char) : Except Fault (List Char) := do
  let (_, rest) ← readNumeral .malformed cs
  .ok rest

end Stencil.Json
