import Stencil.Environment
import Stencil.File.Path
import Stencil.Text.Blank

namespace Stencil.Logging

inductive Format where
  | json
  | pretty
  deriving DecidableEq, Repr

def Format.name : Format → String
  | json => "Json"
  | pretty => "Pretty"

def Format.wordOf (text : String) : String :=
  Text.lowerAscii (Text.trim text)

def Format.ofText? (text : String) : Option Format :=
  match wordOf text with
  | "json" => some json
  | "pretty" => some pretty
  | _ => none

def Format.complaint (text : String) : String :=
  "expected \"json\" or \"pretty\", got " ++ Text.quoted (wordOf text)

inductive Rotation where
  | never
  | daily
  | hourly
  | minutely
  deriving DecidableEq, Repr

def Rotation.name : Rotation → String
  | never => "never"
  | daily => "daily"
  | hourly => "hourly"
  | minutely => "minutely"

inductive Output where
  | stderr
  | directory (path : Path) (rotation : Rotation)
  deriving DecidableEq, Repr

namespace Output

def display : Output → String
  | stderr => "stderr"
  | directory path _ => OsText.display path

def rotation? : Output → Option Rotation
  | stderr => none
  | directory _ rotation => some rotation

def same : Output → Output → Bool
  | stderr, stderr => true
  | directory p r, directory q s => Path.sameComponents p q && r == s
  | _, _ => false

end Output

structure Settings where
  format : Format
  output : Output
  filter : String
  deriving DecidableEq, Repr

namespace Settings

def defaultFilter : String := "info,tera=warn"

def default : Settings := ⟨.pretty, .stderr, defaultFilter⟩

def same (s t : Settings) : Bool :=
  s.format == t.format && s.output.same t.output && s.filter == t.filter

def formatVariable : String := "ARTIFACT_GEN_LOG_FORMAT"

def directoryVariable : String := "ARTIFACT_GEN_LOG_DIR"

def filterVariable : String := "ARTIFACT_GEN_LOG"

def commonFilterVariable : String := "RUST_LOG"

def formatOf (env : Environment) : Except String Format :=
  match env.text? formatVariable with
  | none => .ok default.format
  | some text =>
    match Format.ofText? text with
    | some format => .ok format
    | none => .error text

def outputOf (env : Environment) : Output :=
  match env.filled? directoryVariable with
  | some path => .directory path .daily
  | none => default.output

def filterOf (env : Environment) : String :=
  ((env.text? filterVariable).or (env.text? commonFilterVariable)).getD default.filter

/-- The settings of the environment, or the text that names no format. -/
def ofEnvironment (env : Environment) : Except String Settings :=
  (formatOf env).map fun format => ⟨format, outputOf env, filterOf env⟩

def complaint : String :=
  "invalid " ++ formatVariable ++ " value"

end Settings

end Stencil.Logging
