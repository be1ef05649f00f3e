namespace Stencil.Decimal

structure Binary where
  significand : Nat
  exponent : Int
  lowGap : Bool
  deriving DecidableEq, Repr

structure Coefficient where
  coefficient : Nat
  exponent : Int
  deriving DecidableEq, Repr, Inhabited

/-- How a decimal exactly between two candidates is decided. -/
inductive Tie where
  | toEven
  | up
  deriving DecidableEq, Repr

/-- A number and the ends of the interval that rounds to it, over one denominator. -/
structure Interval where
  low : Nat
  value : Nat
  high : Nat
  denominator : Nat
  closed : Bool

def Binary.interval (b : Binary) : Interval :=
  let unit := 1 <<< b.exponent.toNat
  let value := 4 * b.significand * unit
  { low := value - (if b.lowGap then unit else 2 * unit)
    value
    high := value + 2 * unit
    denominator := 4 <<< (-b.exponent).toNat
    closed := b.significand % 2 == 0 }

def shifted (n : Nat) (k : Int) : Nat :=
  n * Nat.pow 10 k.toNat

def Interval.accepts (i : Interval) (c : Nat) (k : Int) : Bool :=
  let x := shifted c k * i.denominator
  let low := shifted i.low (-k)
  let high := shifted i.high (-k)
  if i.closed then low ≤ x && x ≤ high else low < x && x < high

def digitCount (n : Nat) : Nat :=
  (Nat.toDigits 10 n).length

def Interval.leading (i : Interval) : Int :=
  let e : Int := (digitCount i.value : Int) - (digitCount i.denominator : Int)
  if shifted i.denominator e ≤ shifted i.value (-e) then e else e - 1

/-- The decimals with `n` digits next to the number: the one that is not above it, then the one
above. The first that rounds to the number is taken, of two the nearer. -/
def Interval.withDigits? (i : Interval) (tie : Tie) (n : Nat) : Option Coefficient :=
  let k := i.leading - (n : Int) + 1
  let whole := shifted i.value (-k)
  let unit := shifted i.denominator k
  let below := whole / unit
  let above := below + 1
  let nearerAbove :=
    match compare (2 * (whole - below * unit)) unit with
    | .lt => false
    | .gt => true
    | .eq => match tie with
      | .up => true
      | .toEven => below % 2 == 1
  match i.accepts below k, i.accepts above k with
  | true, true => some ⟨if nearerAbove then above else below, k⟩
  | true, false => some ⟨below, k⟩
  | false, true => some ⟨above, k⟩
  | false, false => none

def stripZeros : (fuel : Nat) → Coefficient → Coefficient
  | 0, c => c
  | fuel + 1, c =>
    if c.coefficient % 10 == 0 && c.coefficient != 0 then
      stripZeros fuel ⟨c.coefficient / 10, c.exponent + 1⟩
    else c

/-- The shortest decimal that reads back as the number. Seventeen digits always suffice. -/
def Binary.shortest (b : Binary) (tie : Tie) : Coefficient :=
  let i := b.interval
  let found := (List.range 17).findSome? fun n => i.withDigits? tie (n + 1)
  stripZeros 20 (found.getD ⟨0, 0⟩)

end Stencil.Decimal
