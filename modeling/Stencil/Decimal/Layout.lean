import Stencil.Decimal.Shortest

namespace Stencil.Decimal

inductive Parts where
  | zero (negative : Bool)
  | finite (negative : Bool) (magnitude : Binary)
  | infinite (negative : Bool)
  | notANumber
  deriving DecidableEq, Repr

def hiddenBit : Nat := 1 <<< 52

def Parts.ofFloat (x : Float) : Parts :=
  let bits := x.toBits.toNat
  let negative := bits >>> 63 == 1
  let biased : Nat := bits >>> 52 % 2048
  let fraction : Nat := bits % hiddenBit
  if biased == 2047 then (if fraction == 0 then .infinite negative else .notANumber)
  else if biased == 0 then
    if fraction == 0 then .zero negative else .finite negative ⟨fraction, -1074, false⟩
  else
    .finite negative ⟨hiddenBit + fraction, (biased : Int) - 1075, fraction == 0 && biased != 1⟩

structure Layout where
  /-- Least and greatest exponent of the first digit in positional notation; `none` for no limit. -/
  positional : Option (Int × Int)
  pointZero : Bool
  plusSign : Bool
  tie : Tie

def zeros (n : Int) : List Char :=
  List.replicate n.toNat '0'

def positionalText (pointZero : Bool) (c : Coefficient) : List Char :=
  let digits := Nat.toDigits 10 c.coefficient
  let whole := (digits.length : Int) + c.exponent
  if 0 ≤ c.exponent then
    digits ++ zeros c.exponent ++ (if pointZero then ['.', '0'] else [])
  else if 0 < whole then digits.take whole.toNat ++ '.' :: digits.drop whole.toNat
  else '0' :: '.' :: (zeros (-whole) ++ digits)

def exponentText (plusSign : Bool) (c : Coefficient) : List Char :=
  let digits := Nat.toDigits 10 c.coefficient
  let lead := (digits.length : Int) + c.exponent - 1
  let mantissa := match digits with
    | [] => []
    | [d] => [d]
    | d :: ds => d :: '.' :: ds
  let sign := if plusSign && 0 ≤ lead then ['+'] else []
  mantissa ++ 'e' :: (sign ++ (toString lead).toList)

def Layout.magnitude (l : Layout) (b : Binary) : List Char :=
  let c := b.shortest l.tie
  let lead := (digitCount c.coefficient : Int) + c.exponent - 1
  match l.positional with
  | none => positionalText l.pointZero c
  | some (least, greatest) =>
    if least ≤ lead && lead ≤ greatest then positionalText l.pointZero c
    else exponentText l.plusSign c

def Layout.text (l : Layout) (x : Float) : String :=
  let sign := fun (negative : Bool) => if negative then ['-'] else []
  String.ofList <| match Parts.ofFloat x with
    | .zero negative => sign negative ++ (if l.pointZero then ['0', '.', '0'] else ['0'])
    | .finite negative b => sign negative ++ l.magnitude b
    | .infinite negative => sign negative ++ ['i', 'n', 'f']
    | .notANumber => ['N', 'a', 'N']

/-- Plain numbers: no exponent at any size, and no decimal point in a whole number. -/
def plain : Layout :=
  { positional := none, pointZero := false, plusSign := false, tie := .up }

/-- Numbers in JSON: an exponent, always with a sign, below `1e-5` and from `1e16` on, and `.0`
after a whole number. -/
def json : Layout :=
  { positional := some (-5, 15), pointZero := true, plusSign := true, tie := .toEven }

end Stencil.Decimal
