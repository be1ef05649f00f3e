import Stencil.Text.Quoted

namespace Stencil

inductive OsChar where
  | char (c : Char)
  | stray (bytes : List UInt8)
  deriving DecidableEq, Repr, Inhabited

abbrev OsText := List OsChar

def OsChar.char? : OsChar → Option Char
  | .char c => some c
  | .stray _ => none

namespace OsText

/-- A character that is still being read: its bits so far, the bytes still to come, and the least
and the greatest value of the next one. -/
structure Partial where
  bytes : List UInt8
  bits : Nat
  missing : Nat
  least : Nat
  greatest : Nat

inductive Start where
  | ascii
  | begins (missing least greatest bits : Nat)
  | invalid

/-- What the first byte of a character says. The second byte has a narrower range where a shorter
spelling, a surrogate or a number above U+10FFFF would arise. -/
def Start.ofByte (b : UInt8) : Start :=
  let n := b.toNat
  if n < 0x80 then .ascii
  else if n < 0xC2 then .invalid
  else if n < 0xE0 then .begins 1 0x80 0xBF (n - 0xC0)
  else if n == 0xE0 then .begins 2 0xA0 0xBF 0
  else if n == 0xED then .begins 2 0x80 0x9F 0xD
  else if n < 0xF0 then .begins 2 0x80 0xBF (n - 0xE0)
  else if n == 0xF0 then .begins 3 0x90 0xBF 0
  else if n < 0xF4 then .begins 3 0x80 0xBF (n - 0xF0)
  else if n == 0xF4 then .begins 3 0x80 0x8F 4
  else .invalid

def read : Option Partial → List UInt8 → OsText
  | none, [] => []
  | some p, [] => [.stray p.bytes]
  | state, b :: bs =>
    let fresh : Unit → OsText := fun _ =>
      match Start.ofByte b with
      | .ascii => .char (Char.ofNat b.toNat) :: read none bs
      | .begins missing least greatest bits =>
        read (some ⟨[b], bits, missing, least, greatest⟩) bs
      | .invalid => .stray [b] :: read none bs
    match state with
    | none => fresh ()
    | some p =>
      if p.least ≤ b.toNat && b.toNat ≤ p.greatest then
        let bits := p.bits * 64 + (b.toNat - 0x80)
        if p.missing ≤ 1 then .char (Char.ofNat bits) :: read none bs
        else read (some ⟨p.bytes ++ [b], bits, p.missing - 1, 0x80, 0xBF⟩) bs
      else .stray p.bytes :: fresh ()

/-- Reads bytes as characters. What is not UTF-8 is kept aside, one unit for each longest start of a
character that is not continued. -/
def ofBytes (bytes : List UInt8) : OsText :=
  read none bytes

def ofString (s : String) : OsText :=
  s.toList.map OsChar.char

def text? (t : OsText) : Option String :=
  (t.mapM OsChar.char?).map String.ofList

def display (t : OsText) : String :=
  String.ofList (t.map fun u => u.char?.getD '\uFFFD')

def hexByte (b : UInt8) : List Char :=
  let digit := fun (n : Nat) => (Text.hexDigits n).map Char.toUpper
  ['\\', 'x'] ++ digit (b.toNat / 16) ++ digit (b.toNat % 16)

def quoteUnit : OsChar → List Char
  | .char c => Text.quoteChar c
  | .stray bytes => bytes.flatMap hexByte

/-- The text in quotation marks, with stray bytes in base sixteen. -/
def quoted (t : OsText) : String :=
  String.ofList ('"' :: (t.flatMap quoteUnit ++ ['"']))

def size : OsText → Nat
  | [] => 0
  | .char c :: us => c.utf8Size + size us
  | .stray bytes :: us => bytes.length + size us

def split (sep : Char) : OsText → List OsText
  | [] => [[]]
  | u :: us =>
    if u = .char sep then [] :: split sep us
    else
      match split sep us with
      | [] => [[u]]
      | part :: rest => (u :: part) :: rest

@[simp] theorem split_nil (sep : Char) : split sep [] = [[]] := rfl

@[simp] theorem split_sep (sep : Char) (us : OsText) :
    split sep (.char sep :: us) = [] :: split sep us := by simp [split]

theorem split_ne_nil (sep : Char) (t : OsText) : split sep t ≠ [] := by
  cases t with
  | nil => simp
  | cons u us =>
    simp only [split]
    split
    · simp
    · split <;> simp

theorem text?_ofString (s : String) : text? (ofString s) = some s := by
  have mapped (cs : List Char) : (cs.map OsChar.char).mapM OsChar.char? = some cs := by
    induction cs with
    | nil => rfl
    | cons c cs ih => simp [List.mapM_cons, ih, OsChar.char?]
  simp [text?, ofString, mapped]

end OsText

end Stencil
