import Stencil.Environment
import Stencil.File.Path
import Stencil.Json.Shape
import Stencil.Text.Blank
import Stencil.Yaml.Node

namespace Stencil.Config

open Json (Fault)

structure Layer where
  templateDirs : Option (List Path) := none
  escaping : Option Bool := none
  deriving DecidableEq, Repr

def wordToBool? (word : String) : Option Bool :=
  if ["1", "true", "yes", "on"].contains word then some true
  else if ["0", "false", "no", "off"].contains word then some false
  else none

def wordOf (value : String) : String :=
  Text.lowerAscii (Text.trim value)

namespace Layer

def dirsVariable : String := "ARTIFACT_GEN_TEMPLATE_DIRS"

def escapingVariable : String := "ARTIFACT_GEN_AUTOESCAPE"

def ofEnvironment (env : Environment) : Except String Layer :=
  let templateDirs := (env.filled? dirsVariable).map (OsText.split ':')
  match env.text? escapingVariable with
  | none => .ok { templateDirs }
  | some value =>
    match wordToBool? (wordOf value) with
    | some escaping => .ok { templateDirs, escaping := some escaping }
    | none => .error value

/-- The members read so far. A member may stand only once, even if it is null. -/
structure Draft where
  templateDirs : Option (Option (List String)) := none
  escaping : Option (Option Bool) := none

def Draft.finish (d : Draft) : Layer :=
  { templateDirs := d.templateDirs.join.map (·.map Path.ofString), escaping := d.escaping.join }

namespace Json

open Stencil.Json

def readMember (name : String) (d : Draft) (cs : List Char) : Except Fault (Draft × List Char) :=
  if name = "template_dirs" ∧ d.templateDirs.isNone then do
    let (dirs, rest) ← wantOptional wantStrings (← readColon cs)
    .ok ({ d with templateDirs := some dirs }, rest)
  else if name = "autoescape" ∧ d.escaping.isNone then do
    let (escaping, rest) ← wantOptional wantBool (← readColon cs)
    .ok ({ d with escaping := some escaping }, rest)
  else .error .mismatched

def readMembers : (bound : Nat) → Bool → Draft → List Char → Except Fault (Draft × List Char)
  | 0, _, _, _ => .error .malformed
  | bound + 1, first, d, cs =>
    match memberSeparator first cs with
    | .error fault => .error fault
    | .ok (.closed rest) => .ok (d, rest)
    | .ok (.more rest) => do
      let (name, rest) ← readString rest
      let (d, rest) ← readMember (String.ofList name) d rest
      readMembers bound false d rest

def readFields (cs : List Char) : Except Fault (Draft × List Char) := do
  match ← listSeparator true cs with
  | .closed _ => .error .mismatched
  | .more rest =>
    let (dirs, rest) ← wantOptional wantStrings rest
    match ← listSeparator false rest with
    | .closed _ => .error .mismatched
    | .more rest =>
      let (escaping, rest) ← wantOptional wantBool rest
      .ok (⟨some dirs, some escaping⟩, ← closeList rest)

/-- The layer that a JSON text describes: an object, or a list of the two fields in order. -/
def parse (text : String) : Except Fault Layer := do
  match skipSpace text.toList with
  | '\x7b' :: rest =>
    let (d, rest) ← readMembers (depthFor rest) true {} rest
    readEnd rest
    .ok d.finish
  | '[' :: rest =>
    let (d, rest) ← readFields rest
    readEnd rest
    .ok d.finish
  | other => .error (mismatchAt other)

end Json

namespace Yaml

open Stencil.Yaml

def isNull (text : String) : Bool :=
  ["", "~", "null", "Null", "NULL"].contains text

def bool? (text : String) : Option Bool :=
  if ["true", "True", "TRUE"].contains text then some true
  else if ["false", "False", "FALSE"].contains text then some false
  else none

def text? : Node → Option String
  | .scalar text _ => some text
  | _ => none

def texts? : Node → Option (Option (List String))
  | .scalar text plain => if plain && isNull text then some none else none
  | .list items => (items.mapM text?).map some
  | .map _ => none

def optionalBool? : Node → Option (Option Bool)
  | .scalar text plain =>
    if !plain then none else if isNull text then some none else (bool? text).map some
  | _ => none

def readEntry? (d : Draft) (entry : Node × Node) : Option Draft := do
  let name ← text? entry.1
  if name = "template_dirs" ∧ d.templateDirs.isNone then
    some { d with templateDirs := some (← texts? entry.2) }
  else if name = "autoescape" ∧ d.escaping.isNone then
    some { d with escaping := some (← optionalBool? entry.2) }
  else none

/-- The layer that a YAML text describes. An empty document says nothing. -/
def parse? (text : String) : Option Layer := do
  match ← Node.parse? text with
  | .map entries => (entries.foldlM readEntry? {}).map Draft.finish
  | .scalar "" true => some {}
  | _ => none

end Yaml

end Layer

end Stencil.Config
