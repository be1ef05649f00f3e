import Stencil.Json.Reader

namespace Stencil.Json

def Blank (cs : List Char) : Prop :=
  ∀ c ∈ cs, isSpace c = true

def hexNumber? (ds : List Char) : Option Nat :=
  ds.foldlM (fun n d => (hexValue? d).map (n * 16 + ·)) 0

def UnitText (n : Nat) (ds : List Char) : Prop :=
  ds.length = 4 ∧ hexNumber? ds = some n

inductive CharText : Char → List Char → Prop where
  | plain {c : Char} (free : c ≠ '"' ∧ c ≠ '\\' ∧ 0x20 ≤ c.toNat) : CharText c [c]
  | short {letter c : Char} (stands : simpleEscape? letter = some c) : CharText c ['\\', letter]
  | unit {n : Nat} {ds : List Char} (number : UnitText n ds) (low : isLowUnit n = false)
      (high : isHighUnit n = false) : CharText (Char.ofNat n) ('\\' :: 'u' :: ds)
  | pair {h l : Nat} {ds es : List Char} (first : UnitText h ds) (second : UnitText l es)
      (high : isHighUnit h = true) (low : isLowUnit l = true) :
      CharText (Char.ofNat ((h - 0xD800) * 0x400 + (l - 0xDC00) + 0x10000))
        ('\\' :: 'u' :: (ds ++ '\\' :: 'u' :: es))

inductive StringText : List Char → List Char → Prop where
  | nil : StringText [] []
  | cons {c : Char} {cs text rest : List Char} (first : CharText c text)
      (others : StringText cs rest) : StringText (c :: cs) (text ++ rest)

def Digits (ds : List Char) : Prop :=
  ds ≠ [] ∧ ∀ d ∈ ds, d.isDigit = true

def WholeText (ds : List Char) : Prop :=
  Digits ds ∧ (ds.head? = some '0' → ds = ['0'])

inductive FractionText : Option (List Char) → List Char → Prop where
  | none : FractionText none []
  | some {ds : List Char} (digits : Digits ds) : FractionText (some ds) ('.' :: ds)

inductive SignText : Bool → List Char → Prop where
  | none : SignText false []
  | plus : SignText false ['+']
  | minus : SignText true ['-']

inductive ExponentText : Option (Bool × List Char) → List Char → Prop where
  | none : ExponentText none []
  | some {mark : Char} {negative : Bool} {sign ds : List Char} (known : mark = 'e' ∨ mark = 'E')
      (signed : SignText negative sign) (digits : Digits ds) :
      ExponentText (some (negative, ds)) (mark :: (sign ++ ds))

inductive NumeralText : Numeral → List Char → Prop where
  | mk {negative : Bool} {whole fs es : List Char} {fraction : Option (List Char)}
      {exponent : Option (Bool × List Char)} (proper : WholeText whole)
      (fractional : FractionText fraction fs) (exponential : ExponentText exponent es) :
      NumeralText ⟨negative, whole, fraction, exponent⟩
        ((if negative then ['-'] else []) ++ (whole ++ (fs ++ es)))

/-- What a text can be read as: a value, or the rest of a list or an object after the bracket
(`first`) or after one of its items. -/
inductive Part where
  | value (v : Value)
  | items (first : Bool) (vs : List Value)
  | members (first : Bool) (ms : List (String × Value))

/-- Which characters spell a value. Escapes spell characters, so a surrogate stands only in a pair,
and numbers are those in the range of floating-point numbers. -/
inductive Spells : Part → List Char → Prop where
  | null : Spells (.value .null) ['n', 'u', 'l', 'l']
  | yes : Spells (.value (.bool true)) ['t', 'r', 'u', 'e']
  | no : Spells (.value (.bool false)) ['f', 'a', 'l', 's', 'e']
  | number {n : Numeral} {x : Number} {cs : List Char} (written : NumeralText n cs)
      (inRange : n.value? = some x) : Spells (.value (.number x)) cs
  | string {s cs : List Char} (written : StringText s cs) :
      Spells (.value (.string (String.ofList s))) ('"' :: (cs ++ ['"']))
  | array {vs : List Value} {cs : List Char} (inside : Spells (.items true vs) cs) :
      Spells (.value (.array vs)) ('[' :: cs)
  | object {ms : List (String × Value)} {cs : List Char}
      (inside : Spells (.members true ms) cs) : Spells (.value (.object ms)) ('\x7b' :: cs)
  | noItem {first : Bool} {gap : List Char} (blank : Blank gap) :
      Spells (.items first []) (gap ++ [']'])
  | item {v : Value} {vs : List Value} {gap cs rest : List Char} (blank : Blank gap)
      (head : Spells (.value v) cs) (others : Spells (.items false vs) rest) :
      Spells (.items true (v :: vs)) (gap ++ (cs ++ rest))
  | nextItem {v : Value} {vs : List Value} {gap cs : List Char} (blank : Blank gap)
      (others : Spells (.items true (v :: vs)) cs) :
      Spells (.items false (v :: vs)) (gap ++ ',' :: cs)
  | noMember {first : Bool} {gap : List Char} (blank : Blank gap) :
      Spells (.members first []) (gap ++ ['\x7d'])
  | member {name : List Char} {v : Value} {ms : List (String × Value)}
      {gap gap' gap'' ns cs rest : List Char} (blank : Blank gap) (named : StringText name ns)
      (blank' : Blank gap') (blank'' : Blank gap'') (head : Spells (.value v) cs)
      (others : Spells (.members false ms) rest) :
      Spells (.members true ((String.ofList name, v) :: ms))
        (gap ++ '"' :: (ns ++ '"' :: (gap' ++ ':' :: (gap'' ++ (cs ++ rest)))))
  | nextMember {m : String × Value} {ms : List (String × Value)} {gap cs : List Char}
      (blank : Blank gap) (others : Spells (.members true (m :: ms)) cs) :
      Spells (.members false (m :: ms)) (gap ++ ',' :: cs)

/-- A text that is one object, with its members as they are written: in their order, and one name
perhaps several times. -/
def ObjectText (text : String) (ms : List (String × Value)) : Prop :=
  ∃ before cs after, Blank before ∧ Blank after ∧ Spells (.value (.object ms)) cs ∧
    text.toList = before ++ (cs ++ after)

end Stencil.Json
