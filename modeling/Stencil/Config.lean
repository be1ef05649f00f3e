import Stencil.Config.Layer
import Stencil.Resolver
import Stencil.Store

namespace Stencil

structure Config where
  templateDirs : List Path
  escaping : Bool
  deriving DecidableEq, Repr

namespace Config

inductive Error where
  | badBoolean (value : String)
  | noFile (path : Path)
  | unreadable (path : Path) (cause : File.Error)
  | badYaml (path : Path)
  | badJson (path : Path)
  | unknownExtension (extension : String)
  | noDirectory (path : Path)
  | notADirectory (path : Path)
  deriving DecidableEq, Repr

def Error.message : Error → String
  | badBoolean value =>
    "invalid " ++ Layer.escapingVariable ++ " value " ++ Text.quoted value
  | noFile path => "config file " ++ OsText.quoted path ++ " does not exist"
  | unreadable path _ => "failed to read config file " ++ OsText.quoted path
  | badYaml path => "failed to parse YAML config " ++ OsText.quoted path
  | badJson path => "failed to parse JSON config " ++ OsText.quoted path
  | unknownExtension extension => "unsupported config extension: " ++ extension
  | noDirectory path => "template directory " ++ OsText.quoted path ++ " does not exist"
  | notADirectory path => "template directory " ++ OsText.quoted path ++ " is not a directory"

def Error.causes? : Error → Option (List String)
  | badBoolean value => some ["expected a boolean, got " ++ Text.quoted (wordOf value)]
  | unreadable _ cause => some [cause.message]
  | badYaml _ | badJson _ => none
  | _ => some []

def default : Config := ⟨[Path.ofString "templates"], false⟩

def same (c d : Config) : Bool :=
  c.templateDirs.map Path.components == d.templateDirs.map Path.components &&
    c.escaping == d.escaping

/-- The configuration that two layers make, the first of which counts more. -/
def ofLayers (first second : Layer) : Config :=
  let dirs := (first.templateDirs.or second.templateDirs).map (·.filter (!·.isEmpty))
  { templateDirs := (dirs.filter (!·.isEmpty)).getD default.templateDirs
    escaping := (first.escaping.or second.escaping).getD default.escaping }

def rebase (file : Path) (layer : Layer) : Layer :=
  match file.parent? with
  | none => layer
  | some base => { layer with templateDirs := layer.templateDirs.map (·.map base.join) }

def readFile (files : File.Tree) (path : Path) : Except Error Layer :=
  if !files.contains path then .error (.noFile path)
  else
    match files.readText path with
    | .error e => .error (.unreadable path e)
    | .ok text =>
      let extension := Text.lowerAscii ((path.extension?.bind OsText.text?).getD "")
      if extension = "yaml" ∨ extension = "yml" then
        match Layer.Yaml.parse? text with
        | some layer => .ok (rebase path layer)
        | none => .error (.badYaml path)
      else if extension = "json" then
        match Layer.Json.parse text with
        | .ok layer => .ok (rebase path layer)
        | .error _ => .error (.badJson path)
      else .error (.unknownExtension extension)

def readEnvironment (env : Environment) : Except Error Layer :=
  (Layer.ofEnvironment env).mapError .badBoolean

/-- The environment comes before a file, and both come before the defaults. -/
def load (files : File.Tree) (env : Environment) (file : Option Path) : Except Error Config := do
  let fromFile ← match file with
    | some path => readFile files path
    | none => .ok {}
  let fromEnvironment ← readEnvironment env
  .ok (ofLayers fromEnvironment fromFile)

def fromEnvironment (env : Environment) : Except Error Config :=
  (readEnvironment env).map fun layer => ofLayers layer {}

/-- Whether every directory is one; the first that is not is told. -/
def checkDirs (files : File.Tree) : List Path → Except Error Unit
  | [] => .ok ()
  | dir :: dirs =>
    if !files.contains dir then .error (.noDirectory dir)
    else if !files.isDir dir then .error (.notADirectory dir)
    else checkDirs files dirs

def ensureDirs (c : Config) (files : File.Tree) : Except Error Unit :=
  checkDirs files c.templateDirs

def store (c : Config) : Store :=
  .chain (c.templateDirs.map .directory)

/-- A resolver over the directories with the depot that it works on, and what is told about it. -/
def build (c : Config) (files : File.Tree) :
    Except Error (Resolver Library × Depot Library) × List Signal :=
  match c.ensureDirs files with
  | .error e => (.error e, [])
  | .ok () =>
    (.ok ((Depot.new ⟨c.store, files⟩).resolver ⟨c.escaping⟩ Library.read),
      [.event (.configured c.templateDirs c.escaping)])

end Config

end Stencil
