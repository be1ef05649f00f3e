import Stencil.Table

namespace Stencil.Json

def Number.signedLimit : Nat := 0x8000000000000000

def Number.unsignedLimit : Nat := 0x10000000000000000

/-- An integer from the least signed to the greatest unsigned one of 64 bits. -/
@[ext]
structure Whole where
  value : Int
  least : -Number.signedLimit ≤ value
  greatest : value < Number.unsignedLimit
  deriving DecidableEq

namespace Whole

instance : Coe Whole Int := ⟨value⟩

instance : Inhabited Whole := ⟨0, by decide, by decide⟩

def ofInt? (n : Int) : Option Whole :=
  if fits : -Number.signedLimit ≤ n ∧ n < Number.unsignedLimit then some ⟨n, fits.1, fits.2⟩
  else none

def nearest (n : Int) : Whole where
  value := max (-Number.signedLimit) (min n (Number.unsignedLimit - 1))
  least := Int.le_max_left ..
  greatest := by
    simp only [Number.signedLimit, Number.unsignedLimit]
    omega

theorem nearest_eq {n : Int} (least : -Number.signedLimit ≤ n)
    (greatest : n < Number.unsignedLimit) : nearest n = ⟨n, least, greatest⟩ := by
  ext
  simp only [nearest, Number.signedLimit, Number.unsignedLimit] at least greatest ⊢
  omega

theorem ofInt?_eq {n : Int} (least : -Number.signedLimit ≤ n)
    (greatest : n < Number.unsignedLimit) : ofInt? n = some ⟨n, least, greatest⟩ :=
  dif_pos ⟨least, greatest⟩

end Whole

/-- A floating-point number is never equal to an integer. -/
inductive Number where
  | int (value : Whole)
  | float (value : Float) (finite : value.isFinite = true)
  deriving Inhabited

inductive Value where
  | null
  | bool (value : Bool)
  | number (value : Number)
  | string (value : String)
  | array (items : List Value)
  | object (members : List (String × Value))
  deriving Inhabited

namespace Number

def ofFloat? (x : Float) : Option Number :=
  if finite : x.isFinite then some (.float x finite) else none

def same : Number → Number → Bool
  | .int a, .int b => a == b
  | .float a _, .float b _ => a == b
  | _, _ => false

instance : BEq Number := ⟨same⟩

def toFloat : Number → Float
  | .int n =>
    let magnitude := (UInt64.ofNat n.value.natAbs).toFloat
    if n.value < 0 then -magnitude else magnitude
  | .float x _ => x

def signed? : Number → Option Int
  | .int n => if n.value < signedLimit then some n else none
  | .float _ _ => none

def unsigned? : Number → Option Nat
  | .int n => if 0 ≤ n.value then some n.value.toNat else none
  | .float _ _ => none

end Number

namespace Value

mutual

/-- Equality of values. Floating-point numbers compare as numbers, so the two zeros are equal. -/
def same : Value → Value → Bool
  | .null, .null => true
  | .bool a, .bool b => a == b
  | .number a, .number b => a.same b
  | .string a, .string b => a == b
  | .array as, .array bs => sameItems as bs
  | .object as, .object bs => sameMembers as bs
  | _, _ => false

def sameItems : List Value → List Value → Bool
  | [], [] => true
  | a :: as, b :: bs => a.same b && sameItems as bs
  | _, _ => false

def sameMembers : List (String × Value) → List (String × Value) → Bool
  | [], [] => true
  | (k, a) :: as, (l, b) :: bs => k == l && a.same b && sameMembers as bs
  | _, _ => false

end

instance : BEq Value := ⟨same⟩

def ofInt (n : Int) : Value := .number (.int (.nearest n))

def ofNat (n : Nat) : Value := .ofInt n

/-- A floating-point number; what is not finite has no JSON form and becomes null. -/
def ofFloat (x : Float) : Value :=
  match Number.ofFloat? x with
  | some n => .number n
  | none => .null

def ofStrings (ss : List String) : Value := .array (ss.map .string)

def ofPairs (pairs : List (String × Value)) : Value := .object (Table.ofPairs pairs)

def string? : Value → Option String
  | .string s => some s
  | _ => none

def bool? : Value → Option Bool
  | .bool b => some b
  | _ => none

def number? : Value → Option Number
  | .number n => some n
  | _ => none

def array? : Value → Option (List Value)
  | .array items => some items
  | _ => none

def object? : Value → Option (List (String × Value))
  | .object members => some members
  | _ => none

def get? (v : Value) (name : String) : Option Value :=
  match v with
  | .object members => Table.get? name members
  | _ => none

def isNull : Value → Bool
  | .null => true
  | _ => false

end Value

end Stencil.Json
