import Stencil.Logging.Install

namespace Stencil.Logging

namespace Host

def logFile (stamp : Stamp) (path : Path) (rotation : Rotation) : Path :=
  Path.join path (Path.ofString (rotation.fileName stamp))

/-- The output can be written to: its directory is there or can be made, and its file opened. -/
def Opens (stamp : Stamp) (files : File.Tree) : Output → Prop
  | .stderr => True
  | .directory path rotation => (files.makeDirs path).1 = none ∧
      ∃ left, openFile (files.makeDirs path).2 (logFile stamp path rotation) = .ok left

def fileOf (stamp : Stamp) : Output → Option Path
  | .stderr => none
  | .directory path rotation => some (logFile stamp path rotation)

/-- What hinders a log from being installed, if `taken` says whether there is one. -/
def Hinders (stamp : Stamp) (settings : Settings) (files : File.Tree) (taken : Prop) :
    InstallError → Prop
  | .badFilter text fault => text = settings.filter ∧ Filter.parse text = .error fault
  | .noDirectory path cause =>
    ∃ rotation, settings.output = .directory path rotation ∧ (files.makeDirs path).1 = some cause
  | .noFile path cause =>
    ∃ rotation, settings.output = .directory path rotation ∧
      openFile (files.makeDirs path).2 (logFile stamp path rotation) = .error cause
  | .alreadyInstalled => taken

/-- The stages of installing, in order: filter, directory, file, and the log itself. -/
def stageOf : InstallError → Nat
  | .badFilter _ _ => 0
  | .noDirectory _ _ => 1
  | .noFile _ _ => 2
  | .alreadyInstalled => 3

/-- The error hinders, and nothing hinders at a stage before. -/
def HindersFirst (stamp : Stamp) (settings : Settings) (files : File.Tree) (taken : Prop)
    (e : InstallError) : Prop :=
  Hinders stamp settings files taken e ∧
    ∀ other, Hinders stamp settings files taken other → stageOf e ≤ stageOf other

inductive Attempt (stamp : Stamp) (settings : Settings) (p : Host) :
    Except InstallError Unit → Host → Prop where
  | badFilter {fault : FilterFault} (unread : Filter.parse settings.filter = .error fault) :
    Attempt stamp settings p (.error (.badFilter settings.filter fault)) p
  | noDirectory {filter : Filter} {path : Path} {rotation : Rotation} {cause : File.Error}
      (read : Filter.parse settings.filter = .ok filter)
      (output : settings.output = .directory path rotation)
      (unmade : (p.files.makeDirs path).1 = some cause) :
    Attempt stamp settings p (.error (.noDirectory path cause))
      { p with files := (p.files.makeDirs path).2 }
  | noFile {filter : Filter} {path : Path} {rotation : Rotation} {cause : File.Error}
      (read : Filter.parse settings.filter = .ok filter)
      (output : settings.output = .directory path rotation)
      (made : (p.files.makeDirs path).1 = none)
      (unopened : openFile (p.files.makeDirs path).2 (logFile stamp path rotation) =
        .error cause) :
    Attempt stamp settings p (.error (.noFile path cause))
      { p with files := (p.files.makeDirs path).2 }
  | taken {filter : Filter} {log : Installed} {files : File.Tree}
      (read : Filter.parse settings.filter = .ok filter)
      (opens : Opens stamp p.files settings.output) (held : p.log = some log) :
    Attempt stamp settings p (.error .alreadyInstalled) { p with files }
  | installed {filter : Filter} {files : File.Tree}
      (read : Filter.parse settings.filter = .ok filter)
      (opens : Opens stamp p.files settings.output) (free : p.log = none) :
    Attempt stamp settings p (.ok ()) ⟨some ⟨settings, filter, fileOf stamp settings.output⟩, files⟩

variable {stamp : Stamp} {settings : Settings} {p q : Host} {files : File.Tree} {taken : Prop}
  {reply : Except InstallError Unit} {e other : InstallError} {log : Installed}

theorem openOutput_cases (stamp : Stamp) (files : File.Tree) (output : Output) :
    (∃ path rotation cause, output = .directory path rotation ∧
      (files.makeDirs path).1 = some cause ∧
      openOutput stamp files output =
        (.error (.noDirectory path cause), (files.makeDirs path).2)) ∨
    (∃ path rotation cause, output = .directory path rotation ∧
      (files.makeDirs path).1 = none ∧
      openFile (files.makeDirs path).2 (logFile stamp path rotation) = .error cause ∧
      openOutput stamp files output = (.error (.noFile path cause), (files.makeDirs path).2)) ∨
    (Opens stamp files output ∧
      ∃ left, openOutput stamp files output = (.ok (fileOf stamp output), left)) := by
  cases output with
  | stderr => exact .inr (.inr ⟨trivial, files, rfl⟩)
  | directory path rotation =>
    rcases made : files.makeDirs path with ⟨_ | cause, between⟩
    · cases opened : openFile between (logFile stamp path rotation) with
      | error cause =>
        refine .inr (.inl ⟨path, rotation, cause, rfl, by rw [made], by rw [made, opened], ?_⟩)
        rw [logFile] at opened
        simp only [openOutput, made, opened]
      | ok left =>
        refine .inr (.inr ⟨⟨by rw [made], left, by rw [made, opened]⟩, left, ?_⟩)
        rw [logFile] at opened
        simp only [openOutput, made, opened]
        rfl
    · refine .inl ⟨path, rotation, cause, rfl, by rw [made], ?_⟩
      simp only [openOutput, made]

theorem install_attempt (asked : install stamp settings p = (reply, q)) :
    Attempt stamp settings p reply q := by
  unfold install at asked
  cases read : Filter.parse settings.filter with
  | error fault =>
    simp only [read] at asked
    cases asked
    exact .badFilter read
  | ok filter =>
    simp only [read] at asked
    rcases openOutput_cases stamp p.files settings.output with
      ⟨path, rotation, cause, output, unmade, opened⟩ |
      ⟨path, rotation, cause, output, made, unopened, opened⟩ | ⟨opens, left, opened⟩
    · simp only [opened] at asked
      cases asked
      exact .noDirectory read output unmade
    · simp only [opened] at asked
      cases asked
      exact .noFile read output made unopened
    · simp only [opened] at asked
      split at asked
      case h_1 log held =>
        cases asked
        exact .taken read opens held
      case h_2 free =>
        cases asked
        exact .installed read opens free

section Attempts

theorem Hinders.after_filter {filter : Filter} (hinders : Hinders stamp settings files taken e)
    (read : Filter.parse settings.filter = .ok filter) : 1 ≤ stageOf e := by
  cases e with
  | badFilter text fault =>
    rcases hinders with ⟨rfl, unread⟩
    rw [read] at unread
    cases unread
  | noDirectory path cause => simp [stageOf]
  | noFile path cause => simp [stageOf]
  | alreadyInstalled => simp [stageOf]

theorem Hinders.after_directory {filter : Filter} {path : Path} {rotation : Rotation}
    (hinders : Hinders stamp settings files taken e)
    (read : Filter.parse settings.filter = .ok filter)
    (output : settings.output = .directory path rotation)
    (made : (files.makeDirs path).1 = none) : 2 ≤ stageOf e := by
  have later := hinders.after_filter read
  cases e with
  | badFilter text fault => exact absurd later (Nat.not_succ_le_zero 0)
  | noDirectory dir cause =>
    rcases hinders with ⟨_, outputToo, unmade⟩
    rw [output] at outputToo
    cases outputToo
    rw [made] at unmade
    cases unmade
  | noFile dir cause => simp [stageOf]
  | alreadyInstalled => simp [stageOf]

theorem Hinders.after_opening {filter : Filter} (hinders : Hinders stamp settings files taken e)
    (read : Filter.parse settings.filter = .ok filter)
    (opens : Opens stamp files settings.output) : e = .alreadyInstalled := by
  cases e with
  | badFilter text fault => exact absurd (hinders.after_filter read) (Nat.not_succ_le_zero 0)
  | noDirectory path cause =>
    rcases hinders with ⟨_, output, unmade⟩
    rw [output] at opens
    rw [opens.1] at unmade
    cases unmade
  | noFile path cause =>
    rcases hinders with ⟨_, output, unopened⟩
    rw [output] at opens
    rcases opens.2 with ⟨left, opened⟩
    rw [opened] at unopened
    cases unopened
  | alreadyInstalled => rfl

theorem Attempt.hindersFirst (attempt : Attempt stamp settings p (.error e) q)
    (held : p.log ≠ none → taken) : HindersFirst stamp settings p.files taken e := by
  cases attempt with
  | badFilter unread => exact ⟨⟨rfl, unread⟩, fun other _ => Nat.zero_le _⟩
  | noDirectory read output unmade =>
    exact ⟨⟨_, output, unmade⟩, fun other hinders => hinders.after_filter read⟩
  | noFile read output made unopened =>
    exact ⟨⟨_, output, unopened⟩, fun other hinders => hinders.after_directory read output made⟩
  | taken read opens log =>
    refine ⟨held (log ▸ Option.some_ne_none _), fun other hinders => ?_⟩
    have last := hinders.after_opening read opens
    exact Nat.le_of_eq (congrArg stageOf last.symm)

theorem Attempt.ok_iff (attempt : Attempt stamp settings p reply q) :
    reply = .ok () ↔ p.log = none ∧ (∃ filter, Filter.parse settings.filter = .ok filter) ∧
      Opens stamp p.files settings.output := by
  constructor
  · rintro rfl
    cases attempt with
    | installed read opens free => exact ⟨free, ⟨_, read⟩, opens⟩
  · rintro ⟨free, ⟨filter, read⟩, opens⟩
    cases reply with
    | ok => rfl
    | error e =>
      have hinders : Hinders stamp settings p.files (p.log ≠ none) e :=
        (attempt.hindersFirst id).1
      obtain rfl := hinders.after_opening read opens
      exact absurd free hinders

theorem Attempt.log_of_error (attempt : Attempt stamp settings p (.error e) q) :
    q.log = p.log := by
  cases attempt <;> rfl

theorem Attempt.log_of_ok (attempt : Attempt stamp settings p (.ok ()) q) :
    ∃ filter, Filter.parse settings.filter = .ok filter ∧
      q.log = some ⟨settings, filter, fileOf stamp settings.output⟩ := by
  cases attempt with
  | installed read opens free => exact ⟨_, read, rfl⟩

theorem Attempt.unread {fault : FilterFault} (attempt : Attempt stamp settings p reply q)
    (unread : Filter.parse settings.filter = .error fault) :
    reply = .error (.badFilter settings.filter fault) ∧ q = p := by
  cases attempt with
  | badFilter unreadToo =>
    rw [unread] at unreadToo
    cases unreadToo
    exact ⟨rfl, rfl⟩
  | _ read =>
    rw [unread] at read
    cases read

end Attempts

/-- What happens while a program runs. Files may change by anyone's doing. -/
inductive Act where
  | ask (stamp : Stamp) (settings : Settings)
  | tell (signals : List Signal)
  | edit (files : File.Tree)

def act (p : Host) : Act → Host
  | .ask stamp settings => (install stamp settings p).2
  | .tell signals => write signals p
  | .edit files => { p with files }

def reply? (p : Host) : Act → Option (Except InstallError Unit)
  | .ask stamp settings => some (install stamp settings p).1
  | .tell _ => none
  | .edit _ => none

def run (p : Host) : List Act → List (Except InstallError Unit) × Host
  | [] => ([], p)
  | a :: acts => ((p.reply? a).toList ++ (run (p.act a) acts).1, (run (p.act a) acts).2)

def bare (files : File.Tree) : Host := ⟨none, files⟩

section Runs

theorem write_log (signals : List Signal) (p : Host) : (write signals p).log = p.log := by
  unfold write
  split
  · rfl
  · split <;> rfl

theorem act_log (p : Host) (a : Act) :
    (p.reply? a = some (.ok ()) ∧ p.log = none ∧ (p.act a).log ≠ none) ∨
    (p.reply? a ≠ some (.ok ()) ∧ (p.act a).log = p.log) := by
  cases a with
  | tell signals => exact .inr ⟨nofun, write_log signals p⟩
  | edit files => exact .inr ⟨nofun, rfl⟩
  | ask stamp settings =>
    rcases asked : install stamp settings p with ⟨reply, q⟩
    have attempt := install_attempt asked
    simp only [reply?, act, asked]
    cases reply with
    | ok =>
      rcases attempt.log_of_ok with ⟨filter, read, log⟩
      have free := (attempt.ok_iff.mp rfl).1
      exact .inl ⟨rfl, free, log ▸ Option.some_ne_none _⟩
    | error e => exact .inr ⟨nofun, attempt.log_of_error⟩

theorem run_log (acts : List Act) (held : p.log = some log) : (p.run acts).2.log = some log := by
  induction acts generalizing p with
  | nil => exact held
  | cons a acts ih =>
    rcases p.act_log a with ⟨-, free, -⟩ | ⟨-, same⟩
    · rw [held] at free
      cases free
    · exact ih (same.trans held)

theorem run_free (acts : List Act) (free : p.log = none) :
    (p.run acts).2.log = none ↔ .ok () ∉ (p.run acts).1 := by
  induction acts generalizing p with
  | nil => exact iff_of_true free List.not_mem_nil
  | cons a acts ih =>
    rcases p.act_log a with ⟨said, -, filled⟩ | ⟨unsaid, same⟩
    · rcases Option.ne_none_iff_exists'.mp filled with ⟨log, held⟩
      have kept := run_log acts held
      simp [run, said, kept]
    · have silent : .ok () ∉ (p.reply? a).toList := by
        simpa [Option.mem_toList] using unsaid
      simp [run, ih (same.trans free), silent]

end Runs

/-- A program that has no log asks for logs, and between whiles anything may happen to files. It is
given one if it was given none before and nothing hinders it, and that one is its log from then on.
Else it is told what hinders first, and its log, or that it has none, stays as it is. -/
theorem installs_once {before : List Act} {replies : List (Except InstallError Unit)}
    (reached : (bare files).run before = (replies, p))
    (asked : install stamp settings p = (reply, q)) :
    (reply = .ok () ↔ .ok () ∉ replies ∧
      (∃ filter, Filter.parse settings.filter = .ok filter) ∧
      Opens stamp p.files settings.output) ∧
    (∀ e, reply = .error e →
      q.log = p.log ∧ HindersFirst stamp settings p.files (.ok () ∈ replies) e) ∧
    (.ok () ∉ replies → p.log = none) ∧
    (reply = .ok () → ∃ filter, Filter.parse settings.filter = .ok filter ∧
      ∀ after, (q.run after).2.log = some ⟨settings, filter, fileOf stamp settings.output⟩) ∧
    ∀ fault, Filter.parse settings.filter = .error fault → q = p := by
  have attempt := install_attempt asked
  have free : p.log = none ↔ .ok () ∉ replies := by
    have whole := run_free before (p := bare files) rfl
    rwa [reached] at whole
  refine ⟨?_, ?_, free.mpr, ?_, ?_⟩
  · rw [← free]
    exact attempt.ok_iff
  · rintro e rfl
    have held : p.log ≠ none → .ok () ∈ replies := fun log =>
      Classical.byContradiction fun unsaid => log (free.mpr unsaid)
    exact ⟨attempt.log_of_error, attempt.hindersFirst held⟩
  · rintro rfl
    rcases attempt.log_of_ok with ⟨filter, read, log⟩
    exact ⟨filter, read, fun after => run_log after log⟩
  · intro fault unread
    exact (attempt.unread unread).2

def noon : Stamp := ⟨"2024-02-29", "12-00"⟩

def ground : File.Tree := .fresh (Path.ofString "/")

def misnamed : Settings := ⟨.json, .directory (Path.ofString "logs") .daily, "a=b"⟩

def spoken : Settings := ⟨.pretty, .stderr, "info"⟩

def filed : Settings := ⟨.json, .directory (Path.ofString "logs") .hourly, "debug"⟩

theorem installs_once_second :
    (install noon misnamed (bare ground)).2 = bare ground ∧
    (install noon spoken ((bare ground).run [.ask noon misnamed]).2).1 = .ok () ∧
    (∀ after, (((bare ground).run [.ask noon misnamed, .ask noon spoken]).2.run after).2.log =
      some ⟨spoken, [⟨none, .from .info⟩], none⟩) ∧
    (install noon filed ((bare ground).run [.ask noon misnamed, .ask noon spoken]).2).1 ≠
      .ok () := by
  have unreadable : (Filter.parse misnamed.filter).toOption = none := by decide +kernel
  have readable : (Filter.parse spoken.filter).toOption = some [⟨none, .from .info⟩] := by
    decide +kernel
  rcases unread : Filter.parse misnamed.filter with fault | filter
  case ok => simp [unread, Except.toOption] at unreadable
  rcases read : Filter.parse spoken.filter with fault | filter
  case error => simp [read, Except.toOption] at readable
  obtain rfl : filter = [⟨none, .from .info⟩] := by
    simpa [read, Except.toOption] using readable
  rcases misasked : install noon misnamed (bare ground) with ⟨refusal, left⟩
  have start : (bare ground).run [] = ([], bare ground) := rfl
  obtain ⟨-, -, -, -, kept⟩ := installs_once start misasked
  obtain rfl : left = bare ground := kept _ unread
  have first : (bare ground).run [.ask noon misnamed] = ([refusal], bare ground) := by
    simp [run, reply?, act, misasked]
  have refused : refusal ≠ .ok () := by
    rw [((install_attempt misasked).unread unread).1]
    intro same
    cases same
  rcases asked : install noon spoken (bare ground) with ⟨answer, logging⟩
  obtain ⟨given, -, -, stays, -⟩ := installs_once first asked
  have ok := given.mpr ⟨by simpa using refused.symm, ⟨_, read⟩, trivial⟩
  have second : (bare ground).run [.ask noon misnamed, .ask noon spoken] =
      ([refusal, answer], logging) := by
    simp [run, reply?, act, misasked, asked]
  rcases askedLast : install noon filed logging with ⟨denial, unchanged⟩
  obtain ⟨givenLast, -⟩ := installs_once second askedLast
  refine ⟨rfl, ?_, ?_, ?_⟩
  · rw [first, asked]
    exact ok
  · rcases stays ok with ⟨filter, readToo, held⟩
    rw [read] at readToo
    cases readToo
    rw [second]
    exact held
  · rw [second, askedLast]
    intro again
    exact (givenLast.mp again).1 (by simp [ok])

end Host

end Stencil.Logging
