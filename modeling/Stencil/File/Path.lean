import Stencil.Text.OsText

namespace Stencil

/-- A path is kept as it is written; its segments are the parts between slashes. -/
abbrev Path := OsText

namespace Path

def ofString (s : String) : Path := OsText.ofString s

def slash : OsChar := .char '/'

def dot : OsText := [.char '.']

def dotDot : OsText := [.char '.', .char '.']

def isAbsolute (p : Path) : Bool :=
  p.head? == some slash

def join (base p : Path) : Path :=
  if p.isAbsolute then p
  else if base.isEmpty || base.getLast? == some slash then base ++ p
  else base ++ slash :: p

def segments (p : Path) : List OsText :=
  OsText.split '/' p

def ofSegments : List OsText → Path
  | [] => []
  | [segment] => segment
  | segment :: next :: others => segment ++ slash :: ofSegments (next :: others)

def isIdle (segment : OsText) : Bool :=
  segment.isEmpty || segment == dot

def headOf (p : Path) : OsText :=
  if p.isAbsolute then [slash]
  else if p.segments.head? == some dot then dot
  else []

def bodyOf (p : Path) : List OsText :=
  if p.isAbsolute then segments p.tail
  else if p.segments.head? == some dot then p.segments.tail
  else p.segments

/-- What a path leads through: its start, then the segments that lead somewhere. Two paths count as
equal if these are. -/
def components (p : Path) : List OsText :=
  [p.headOf].filter (fun start => !start.isEmpty) ++ p.bodyOf.filter fun s => !isIdle s

def sameComponents (p q : Path) : Bool :=
  p.components == q.components

def trimIdle (segments : List OsText) : List OsText :=
  (segments.reverse.dropWhile isIdle).reverse

def rebuild (start : OsText) (segments : List OsText) : Path :=
  match start, segments with
  | start, [] => start
  | [.char '.'], segments => dot ++ slash :: ofSegments segments
  | start, segments => start ++ ofSegments segments

def parent? (p : Path) : Option Path :=
  match trimIdle p.bodyOf with
  | [] => if p.headOf == dot then some [] else none
  | segment :: others => some (rebuild p.headOf (trimIdle (segment :: others).dropLast))

def fileName? (p : Path) : Option OsText :=
  match (trimIdle p.bodyOf).getLast? with
  | some segment => if segment == dotDot then none else some segment
  | none => none

/-- What follows the last dot of the file name. A dot at the start of the name does not count. -/
def extension? (p : Path) : Option OsText := do
  let name ← p.fileName?
  match (OsText.split '.' name).reverse with
  | last :: before :: others =>
    if others.isEmpty && before.isEmpty then none else some last
  | _ => none

end Path

end Stencil
