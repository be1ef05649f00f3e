import Stencil.Yaml.Scalar

namespace Stencil.Yaml

inductive Token where
  | documentStart
  | documentEnd
  | listStart
  | mapStart
  | blockEnd
  | flowListStart
  | flowListEnd
  | flowMapStart
  | flowMapEnd
  | entry
  | comma
  | key
  | value
  | scalar (text : String) (plain : Bool)
  deriving DecidableEq, Repr

/-- A token that may turn out to be the start of a key. -/
structure KeyStart where
  required : Bool
  position : Nat
  at_ : Cursor

structure Reading where
  at_ : Cursor
  indent : Option Nat
  outer : List (Option Nat)
  /-- For the text outside of brackets and for every open bracket, innermost first, the token that
  may be the start of a key. -/
  keys : List (Option KeyStart)
  mayBeKey : Bool
  tokens : List Token

namespace Reading

def ofText (cs : List Char) : Reading :=
  ⟨.ofText cs, none, [], [none], true, []⟩

def inFlow (r : Reading) : Bool :=
  1 < r.keys.length

def put (t : Token) (r : Reading) : Reading :=
  { r with tokens := r.tokens ++ [t] }

def putAt (position : Nat) (t : Token) (r : Reading) : Reading :=
  { r with tokens := r.tokens.take position ++ t :: r.tokens.drop position }

def skip (n : Nat) (r : Reading) : Reading :=
  { r with at_ := r.at_.skip n }

/-- Passes over white space, comments and line breaks, and over a byte-order mark with which a line
begins; the mark is a column of its own. -/
def skipSpace : (bound : Nat) → Reading → Reading
  | 0, r => r
  | bound + 1, r =>
    match r.at_.takeBreak? with
    | some (_, next) =>
      skipSpace bound { r with at_ := next, mayBeKey := r.mayBeKey || !r.inFlow }
    | none =>
      match r.at_.rest with
      | ' ' :: _ => skipSpace bound (r.skip 1)
      | '\uFEFF' :: _ => if r.at_.column == 0 then skipSpace bound (r.skip 1) else r
      | '\t' :: _ => if r.inFlow || !r.mayBeKey then skipSpace bound (r.skip 1) else r
      | '#' :: rest => skipSpace bound (r.skip ((rest.takeWhile fun c => !isBreak c).length + 1))
      | _ => r

def keyBound : Nat := 1024

def dropStale (r : Reading) : Option Reading := do
  let keys ← r.keys.mapM fun
    | some k =>
      if k.at_.line < r.at_.line || k.at_.index + keyBound < r.at_.index then
        if k.required then none else some none
      else some (some k)
    | none => some none
  some { r with keys }

def unroll (column : Option Nat) (r : Reading) : Reading :=
  if r.inFlow then r else go r.indent r.outer r
where
  go (indent : Option Nat) : List (Option Nat) → Reading → Reading
    | outer, r =>
      let deeper := match indent, column with
        | none, _ => false
        | some _, none => true
        | some open_, some column => column < open_
      match deeper, outer with
      | true, next :: others => go next others (r.put .blockEnd)
      | _, outer => { r with indent, outer }

def roll (column : Nat) (position : Nat) (t : Token) (r : Reading) : Reading :=
  let deeper := match r.indent with
    | none => true
    | some open_ => open_ < column
  if !r.inFlow && deeper then
    { r.putAt position t with indent := some column, outer := r.indent :: r.outer }
  else r

def dropKey (r : Reading) : Option Reading :=
  match r.keys with
  | some k :: others => if k.required then none else some { r with keys := none :: others }
  | _ => some r

def noteKey (r : Reading) : Option Reading :=
  if r.mayBeKey then do
    let r ← r.dropKey
    let required := !r.inFlow && r.indent == some r.at_.column
    some { r with keys := some ⟨required, r.tokens.length, r.at_⟩ :: r.keys.tail }
  else some r

def readMarker (t : Token) (r : Reading) : Option Reading := do
  let r ← (r.unroll none).dropKey
  some { (r.put t).skip 3 with mayBeKey := false }

def readOpen (t : Token) (r : Reading) : Option Reading := do
  let r ← r.noteKey
  some { (r.put t).skip 1 with keys := none :: r.keys, mayBeKey := true }

def readClose (t : Token) (r : Reading) : Option Reading := do
  let r ← r.dropKey
  let keys := if r.inFlow then r.keys.tail else r.keys
  some { (r.put t).skip 1 with keys, mayBeKey := false }

def readComma (r : Reading) : Option Reading := do
  let r ← r.dropKey
  some { (r.put .comma).skip 1 with mayBeKey := true }

def readEntry (r : Reading) : Option Reading := do
  if !r.inFlow && !r.mayBeKey then none
  else
    let r ← (r.roll r.at_.column r.tokens.length .listStart).dropKey
    some { (r.put .entry).skip 1 with mayBeKey := true }

def readKey (r : Reading) : Option Reading := do
  if !r.inFlow && !r.mayBeKey then none
  else
    let r ← (r.roll r.at_.column r.tokens.length .mapStart).dropKey
    some { (r.put .key).skip 1 with mayBeKey := !r.inFlow }

def readValue (r : Reading) : Option Reading :=
  match r.keys with
  | some k :: others =>
    let r := r.putAt k.position .key
    let r := r.roll k.at_.column k.position .mapStart
    some { (r.put .value).skip 1 with keys := none :: others, mayBeKey := false }
  | _ =>
    if !r.inFlow && !r.mayBeKey then none
    else
      let r := r.roll r.at_.column r.tokens.length .mapStart
      some { (r.put .value).skip 1 with mayBeKey := !r.inFlow }

def readQuotedScalar (mark : Char) (r : Reading) : Option Reading := do
  let r ← r.noteKey
  let scalar ← readQuoted mark (r.at_.rest.length + 1) (r.at_.skip 1) .none []
  some { r.put (.scalar scalar.text false) with at_ := scalar.after, mayBeKey := false }

def readPlainScalar (r : Reading) : Option Reading := do
  let r ← r.noteKey
  let indent := match r.indent with
    | none => 0
    | some column => column + 1
  let scalar ← readPlain r.inFlow indent (r.at_.rest.length + 1) r.at_ .none []
  some { r.put (.scalar scalar.text true) with
    at_ := scalar.after, mayBeKey := scalar.brokeLine }

def isIndicator (c : Char) : Bool :=
  "-?:,[]\x7b\x7d#&*!|>'\"%@\x60".toList.contains c

/-- Reads one token and the tokens that come with it; `none` stands for a fault. -/
def readToken (c : Char) (rest : List Char) (r : Reading) : Option Reading :=
  if r.at_.atMarker '-' then r.readMarker .documentStart
  else if r.at_.atMarker '.' then r.readMarker .documentEnd
  else
    match c with
    | '[' => r.readOpen .flowListStart
    | '\x7b' => r.readOpen .flowMapStart
    | ']' => r.readClose .flowListEnd
    | '\x7d' => r.readClose .flowMapEnd
    | ',' => r.readComma
    | '"' => r.readQuotedScalar '"'
    | '\'' => r.readQuotedScalar '\''
    | c =>
      if c == '-' && endsWord rest then r.readEntry
      else if c == '?' && (r.inFlow || endsWord rest) then r.readKey
      else if c == ':' && (r.inFlow || endsWord rest) then r.readValue
      else if !(isBlank c || isIndicator c) || c == '-' ||
          (!r.inFlow && (c == '?' || c == ':')) then
        r.readPlainScalar
      else none

def finish : (bound : Nat) → Reading → Option (List Token)
  | 0, _ => none
  | bound + 1, r => do
    let r ← (skipSpace (r.at_.rest.length + 1) r).dropStale
    match r.at_.rest with
    | [] =>
      let r ← (r.unroll none).dropKey
      some r.tokens
    | c :: rest =>
      let r := r.unroll (some r.at_.column)
      if c == '%' && r.at_.column == 0 then none
      else finish bound (← readToken c rest r)

end Reading

def tokens? (cs : List Char) : Option (List Token) :=
  if cs.all isAllowed then Reading.finish (cs.length + 2) (.ofText cs) else none

end Stencil.Yaml
