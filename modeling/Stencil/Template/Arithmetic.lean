import Stencil.Decimal.Layout
import Stencil.Template.Trouble

namespace Stencil.Template

open Json (Number Whole)

def scaleTwo (significand : Nat) (exponent : Int) : Float :=
  (UInt64.ofNat significand).toFloat.scaleB exponent

def stripTwos : (fuel : Nat) → Nat → Int → Nat × Int
  | 0, n, e => (n, e)
  | fuel + 1, n, e => if n % 2 == 0 && n != 0 then stripTwos fuel (n / 2) (e + 1) else (n, e)

/-- The exact remainder of a division rounded toward zero; it has the sign of the left side. -/
def floatRemainder (x y : Float) : Float :=
  match Decimal.Parts.ofFloat x, Decimal.Parts.ofFloat y with
  | .finite negative a, .finite _ b =>
    let e := min a.exponent b.exponent
    let left := a.significand <<< (a.exponent - e).toNat
    let right := b.significand <<< (b.exponent - e).toNat
    let rest := left % right
    let (n, e) := stripTwos 2200 rest e
    let magnitude := scaleTwo n e
    if negative then -magnitude else magnitude
  | .zero negative, .finite _ _ => if negative then -0.0 else 0.0
  | .finite _ _, .infinite _ => x
  | .zero _, .infinite _ => x
  | _, _ => 0.0 / 0.0

def wholeOf (n : Int64) : Whole where
  value := n.toInt
  least := Int64.le_toInt n
  greatest := Int.lt_trans (Int64.toInt_lt n) (by decide)

/-- A quotient. A whole one becomes an integer, the nearest of 64 bits. -/
def quotient (x y : Float) : Option Number :=
  let q := x / y
  if q.isNaN then none
  else if q.isFinite && q.round == q then some (.int (wholeOf q.toInt64))
  else Number.ofFloat? q

def wholeResult (op : MathOp) (a b : Int) : Int :=
  match op with
  | .add => a + b
  | .sub => a - b
  | .mul => a * b
  | .div => a / b
  | .rem => a.tmod b

def floatResult (op : MathOp) (x y : Float) : Option Number :=
  match op with
  | .add => Number.ofFloat? (x + y)
  | .sub => Number.ofFloat? (x - y)
  | .mul => Number.ofFloat? (x * y)
  | .div => quotient x y
  | .rem => Number.ofFloat? (floatRemainder x y)

/-- An operation on integers whose result has to stay between two bounds. A remainder by zero is the
trouble `byZero`. -/
def checked (op : MathOp) (byZero : Trouble) (a b : Int) (least greatest : Int) (range : String) :
    Except Trouble (Option Number) :=
  if op = .rem ∧ b = 0 then .error byZero
  else
    let r := wholeResult op a b
    if least ≤ r ∧ r ≤ greatest then .ok ((Whole.ofInt? r).map .int)
    else .error (.outOfBounds op a b range)

def MathOp.apply (op : MathOp) (byZero : Trouble) (x y : Number) : Except Trouble (Option Number) :=
  if op = .div then .ok (quotient x.toFloat y.toFloat)
  else
    match x.signed?, y.signed? with
    | some a, some b => checked op byZero a b (-Number.signedLimit) (Number.signedLimit - 1) "i64"
    | _, _ =>
      match x.unsigned?, y.unsigned? with
      | some a, some b => checked op byZero a b 0 (Number.unsignedLimit - 1) "u64"
      | _, _ => .ok (floatResult op x.toFloat y.toFloat)

def CompareOp.holds (op : CompareOp) (x y : Float) : Bool :=
  match op with
  | .less => x < y
  | .lessEqual => x ≤ y
  | .greater => x > y
  | .greaterEqual => x ≥ y
  | .equal => x == y
  | .notEqual => x != y

end Stencil.Template
