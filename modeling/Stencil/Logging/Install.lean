import Stencil.File.Tree
import Stencil.Logging.Record
import Stencil.Logging.Settings

namespace Stencil.Logging

structure Installed where
  settings : Settings
  filter : Filter
  file : Option Path

structure Host where
  log : Option Installed
  files : File.Tree

inductive InstallError where
  | badFilter (text : String) (fault : FilterFault)
  | noDirectory (path : Path) (cause : File.Error)
  | noFile (path : Path) (cause : File.Error)
  | alreadyInstalled
  deriving DecidableEq, Repr

def InstallError.message : InstallError → String
  | badFilter text _ => "invalid log filter " ++ Text.quoted text
  | noDirectory path _ => "failed to create log directory " ++ OsText.quoted path
  | noFile path _ => "failed to open log file in " ++ OsText.quoted path
  | alreadyInstalled => "a global tracing subscriber is already installed"

def InstallError.causes : InstallError → List String
  | badFilter _ fault => fault.causes
  | noDirectory _ cause => [cause.message]
  | noFile _ cause => ["failed to create initial log file: " ++ cause.message, cause.message]
  | alreadyInstalled => ["a global default trace dispatcher has already been set"]

def fileName : String := "artifact-gen.log"

/-- A time as the names of files show it: the day, then hour and minute with a hyphen between. -/
structure Stamp where
  day : String
  time : String

def Stamp.hour (stamp : Stamp) : String :=
  String.ofList (stamp.time.toList.take 2)

def Rotation.fileName (stamp : Stamp) : Rotation → String
  | never => Logging.fileName
  | daily => Logging.fileName ++ "." ++ stamp.day
  | hourly => Logging.fileName ++ "." ++ stamp.day ++ "-" ++ stamp.hour
  | minutely => Logging.fileName ++ "." ++ stamp.day ++ "-" ++ stamp.time

namespace Host

def openFile (files : File.Tree) (path : Path) : Except File.Error File.Tree :=
  match files.find path with
  | .ok (.file _) => .ok files
  | .ok (.dir _) => .error .isADirectory
  | .error e => if e.kind = .notFound then .ok (files.write path ByteArray.empty) else .error e

def openOutput (stamp : Stamp) (files : File.Tree) :
    Output → Except InstallError (Option Path) × File.Tree
  | .stderr => (.ok none, files)
  | .directory path rotation =>
    match files.makeDirs path with
    | (some e, files) => (.error (.noDirectory path e), files)
    | (none, files) =>
      let file := Path.join path (Path.ofString (rotation.fileName stamp))
      match openFile files file with
      | .ok files => (.ok (some file), files)
      | .error e => (.error (.noFile path e), files)

/-- Installs a log, unless there is one. A filter that is none leaves the files alone. -/
def install (stamp : Stamp) (settings : Settings) (p : Host) :
    Except InstallError Unit × Host :=
  match Filter.parse settings.filter with
  | .error fault => (.error (.badFilter settings.filter fault), p)
  | .ok filter =>
    match openOutput stamp p.files settings.output with
    | (.error e, files) => (.error e, { p with files })
    | (.ok file, files) =>
      match p.log with
      | some _ => (.error .alreadyInstalled, { p with files })
      | none => (.ok (), ⟨some ⟨settings, filter, file⟩, files⟩)

def announcement (s : Settings) : Signal :=
  .event (.installed s.format.name s.output.display s.filter)

/-- The lines that a log writes about signals. What stands in lines for people is left open. -/
def lines (signals : List Signal) (log : Installed) : List String :=
  match log.settings.format with
  | .json => (Record.ofSignals log.filter signals).map fun r => r.value.print
  | .pretty => []

def write (signals : List Signal) (p : Host) : Host :=
  match p.log with
  | none => p
  | some log =>
    match log.file with
    | none => p
    | some file =>
      let text := String.join ((lines signals log).map (· ++ "\n"))
      let before := match p.files.find file with
        | .ok (.file content) => content
        | _ => ByteArray.empty
      { p with files := p.files.write file (before ++ text.toUTF8) }

end Host

end Stencil.Logging
