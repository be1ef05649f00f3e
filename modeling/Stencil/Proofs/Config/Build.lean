import Stencil.Config
import Stencil.Proofs.Resolver.Transparency
import Stencil.Proofs.Store.Chain
import Stencil.Proofs.Store.Confined

namespace Stencil

open File (Tree Node)
open Template (Compiled)

namespace Config

variable {files : Tree} {front back dirs : List Path} {dir : Path} {e : Error} {name : String}

def Usable (files : Tree) (dir : Path) : Prop :=
  ∃ entries, files.find dir = .ok (.dir entries)

inductive Faulty (files : Tree) (dir : Path) : Error → Prop where
  | missing {fault : File.Error} : files.find dir = .error fault →
      Faulty files dir (.noDirectory dir)
  | file {content : ByteArray} : files.find dir = .ok (.file content) →
      Faulty files dir (.notADirectory dir)

theorem checkDirs_usable (usable : Usable files dir) :
    checkDirs files (dir :: dirs) = checkDirs files dirs := by
  obtain ⟨entries, found⟩ := usable
  simp [checkDirs, Tree.contains, Tree.isDir, found, Node.isDir]

theorem checkDirs_faulty (faulty : Faulty files dir e) :
    checkDirs files (dir :: dirs) = .error e := by
  cases faulty with
  | missing missing => simp [checkDirs, Tree.contains, missing]
  | file file => simp [checkDirs, Tree.contains, Tree.isDir, file, Node.isDir]

theorem usable_or_faulty (files : Tree) (dir : Path) :
    Usable files dir ∨ ∃ e, Faulty files dir e := by
  cases found : files.find dir with
  | error fault => exact .inr ⟨_, .missing found⟩
  | ok node =>
    cases node with
    | dir entries => exact .inl ⟨entries, found⟩
    | file content => exact .inr ⟨_, .file found⟩

theorem checkDirs_append (usable : ∀ dir ∈ front, Usable files dir) :
    checkDirs files (front ++ dirs) = checkDirs files dirs := by
  induction front with
  | nil => rfl
  | cons dir front ih =>
    obtain ⟨first, rest⟩ := List.forall_mem_cons.mp usable
    rw [List.cons_append, checkDirs_usable first]
    exact ih rest

theorem checkDirs_ok_iff : checkDirs files dirs = .ok () ↔ ∀ dir ∈ dirs, Usable files dir := by
  constructor
  · intro passed
    induction dirs with
    | nil => nofun
    | cons dir dirs ih =>
      rcases usable_or_faulty files dir with usable | ⟨e, faulty⟩
      · rw [checkDirs_usable usable] at passed
        exact List.forall_mem_cons.mpr ⟨usable, ih passed⟩
      · rw [checkDirs_faulty faulty] at passed
        cases passed
  · intro usable
    have whole : checkDirs files (dirs ++ []) = .ok () := checkDirs_append usable
    rwa [List.append_nil] at whole

theorem checkDirs_error_iff : checkDirs files dirs = .error e ↔
    ∃ front dir back, dirs = front ++ dir :: back ∧ (∀ other ∈ front, Usable files other) ∧
      Faulty files dir e := by
  constructor
  · intro failed
    induction dirs with
    | nil => cases failed
    | cons dir dirs ih =>
      rcases usable_or_faulty files dir with usable | ⟨fault, faulty⟩
      · rw [checkDirs_usable usable] at failed
        obtain ⟨front, other, back, rfl, usableToo, faulty⟩ := ih failed
        exact ⟨dir :: front, other, back, rfl, List.forall_mem_cons.mpr ⟨usable, usableToo⟩, faulty⟩
      · rw [checkDirs_faulty faulty] at failed
        cases failed
        exact ⟨[], dir, dirs, rfl, nofun, faulty⟩
  · rintro ⟨front, dir, back, rfl, usable, faulty⟩
    rw [checkDirs_append usable, checkDirs_faulty faulty]

theorem firm_store (c : Config) : c.store.Firm := by
  show Store.AllFirm (c.templateDirs.map .directory)
  induction c.templateDirs with
  | nil => trivial
  | cons dir dirs ih => exact ⟨trivial, ih⟩

/-- What the directories of a configuration say of a name, one after the other. -/
def answer (c : Config) (files : Tree) (name : String) : Except File.Error (Option String) :=
  (Store.readFirst files name (c.templateDirs.map .directory)).1

theorem silent_map (silent : ∀ dir ∈ dirs, Store.readBelow dir files name = .ok none) :
    ∀ store ∈ dirs.map Store.directory, store.Silent files name :=
  List.forall_mem_map.mpr silent

theorem answer_first {c : Config} (split : c.templateDirs = front ++ dir :: back)
    (silent : ∀ dir ∈ front, Store.readBelow dir files name = .ok none)
    (spoken : Store.readBelow dir files name ≠ .ok none) :
    c.answer files name = Store.readBelow dir files name := by
  have answered : ¬(Store.directory dir).Silent files name := spoken
  rw [answer, split, List.map_append, List.map_cons, Store.readFirst_append (silent_map silent),
    Store.readFirst_answered answered]
  rfl

theorem answer_none_iff {c : Config} :
    c.answer files name = .ok none ↔
      ∀ dir ∈ c.templateDirs, Store.readBelow dir files name = .ok none := by
  rw [answer, Store.readFirst_eq_none_iff]
  exact List.forall_mem_map

theorem build_eq (c : Config) (files : Tree) :
    (c.build files).1 = (checkDirs files c.templateDirs).map fun _ =>
      (Depot.new ⟨c.store, files⟩).resolver ⟨c.escaping⟩ Library.read := by
  unfold build ensureDirs
  cases checkDirs files c.templateDirs <;> rfl

theorem resolve_firm {library : Library} (firm : library.store.Firm) {engine : Engine}
    {r : Resolver Library} {d : Depot Library}
    (new : (Depot.new library).resolver engine Library.read = (r, d)) (before : List String)
    (name : String) :
    (r.resolve name (r.resolveAll before d)).1.1.map (·.template) =
      engine.make (fun name => (library.store.read library.files name).1) name := by
  obtain rfl : ((Depot.new library).resolver engine Library.read).1 = r := by rw [new]
  obtain rfl : ((Depot.new library).resolver engine Library.read).2 = d := by rw [new]
  have steady : ((Depot.new library).resolver engine Library.read).1.Steady library _ :=
    Resolver.steady_library rfl firm
  have faithful := (Resolver.faithful_new (Depot.new library) engine Library.read).resolveAll
    steady before
  obtain ⟨result, after, signals, resolved, made, -⟩ := faithful.resolve steady name
  rw [resolved]
  exact made

theorem resolve_built {c : Config} {r : Resolver Library} {d : Depot Library}
    (built : (c.build files).1 = .ok (r, d)) (before : List String) (name : String) :
    (r.resolve name (r.resolveAll before d)).1.1.map (·.template) =
      (⟨c.escaping⟩ : Engine).make (c.answer files) name := by
  rw [build_eq] at built
  cases passed : checkDirs files c.templateDirs with
  | error e =>
    rw [passed] at built
    cases built
  | ok _ =>
    rw [passed] at built
    exact resolve_firm c.firm_store (Except.ok.inj built) before name

theorem make_eq_absent_iff (engine : Engine) (answer : String → Except File.Error (Option String)) :
    engine.make answer name = .error (.absent name) ↔ answer name = .ok none := by
  unfold Engine.make Engine.compile
  cases answer name with
  | error cause => simp
  | ok found =>
    cases found with
    | none => simp
    | some source =>
      cases compiled : Template.compile engine.escaping name source <;> simp [compiled]

/-- A configuration has a resolver if each of its directories is one, and otherwise the first that
is not is told, and why. For a name the resolver gives what the first directory decides that says
anything of it, whatever has been resolved before: its text as a template, or its error. -/
theorem build_resolves (c : Config) (files : Tree) :
    ((∃ built, (c.build files).1 = .ok built) ↔ ∀ dir ∈ c.templateDirs, Usable files dir) ∧
    (∀ e, (c.build files).1 = .error e ↔
      ∃ front dir back, c.templateDirs = front ++ dir :: back ∧
        (∀ other ∈ front, Usable files other) ∧ Faulty files dir e) ∧
    ∀ r d, (c.build files).1 = .ok (r, d) → ∀ (before : List String) (name : String),
      let result := (r.resolve name (r.resolveAll before d)).1.1.map (·.template)
      (∀ front dir back, c.templateDirs = front ++ dir :: back →
        (∀ other ∈ front, Store.readBelow other files name = .ok none) →
        (∀ cause, Store.readBelow dir files name = .error cause →
          result = .error (.unreadable name cause)) ∧
        ∀ source, Store.readBelow dir files name = .ok (some source) →
          match Template.compile c.escaping name source with
          | .ok template => result = .ok template
          | .error defect => result = .error (.malformed name (defect.report name))) ∧
      (result = .error (.absent name) ↔
        ∀ dir ∈ c.templateDirs, Store.readBelow dir files name = .ok none) ∧
      (c.templateDirs ≠ [] → Store.Escaping name →
        result = .error (.unreadable name (Store.unsafeName name)) ∧
          (Store.unsafeName name).kind = .invalidInput) := by
  refine ⟨?_, fun e => ?_, fun r d built before name => ?_⟩
  · rw [← checkDirs_ok_iff, build_eq]
    cases checkDirs files c.templateDirs <;> simp [Except.map]
  · rw [← checkDirs_error_iff, build_eq]
    cases checkDirs files c.templateDirs <;> simp [Except.map]
  · have made := resolve_built built before name
    dsimp only
    rw [made, make_eq_absent_iff, answer_none_iff]
    refine ⟨fun front dir back split silent => ⟨fun cause failed => ?_, fun source found => ?_⟩,
      Iff.rfl, fun nonempty escaping => ⟨?_, rfl⟩⟩
    · rw [Engine.make, answer_first split silent (by rw [failed]; nofun), failed]
    · rw [Engine.make, answer_first split silent (by rw [found]; nofun), found]
      dsimp only [Engine.compile]
      cases Template.compile c.escaping name source <;> rfl
    · obtain ⟨dir, back, split⟩ := List.exists_cons_of_ne_nil nonempty
      have refused : Store.readBelow dir files name = .error (Store.unsafeName name) :=
        Store.readBelow_escaping escaping files
      have first : c.templateDirs = [] ++ dir :: back := split
      rw [Engine.make, answer_first first nofun (by rw [refused]; nofun), refused]

def layered : Tree :=
  let file (text : String) : Node := .file text.toUTF8
  let a := Path.ofString "a"
  ⟨.dir [(Path.ofString "p", .dir [(a, file "first")]),
    (Path.ofString "q", .dir [(a, file "second"), (Path.ofString "b", file "third")])], []⟩

theorem build_resolves_layered :
    let c : Config := ⟨[Path.ofString "/p", Path.ofString "/q"], false⟩
    ∃ r d, (c.build layered).1 = .ok (r, d) ∧
      (r.resolve "a" (r.resolveAll ["b", "c"] d)).1.1.map (·.template) =
        .ok ⟨"a", [.text "first"], false⟩ ∧
      (r.resolve "b" (r.resolveAll ["a", "b"] d)).1.1.map (·.template) =
        .ok ⟨"b", [.text "third"], false⟩ ∧
      (r.resolve "c" (r.resolveAll ["a", "c"] d)).1.1.map (·.template) = .error (.absent "c") := by
  intro c
  obtain ⟨succeeds, -, resolves⟩ := build_resolves c layered
  obtain ⟨⟨r, d⟩, built⟩ := succeeds.mpr
    (List.forall_mem_cons.mpr ⟨⟨_, rfl⟩, List.forall_mem_singleton.mpr ⟨_, rfl⟩⟩)
  refine ⟨r, d, built, ?_, ?_, ?_⟩
  · exact ((resolves r d built ["b", "c"] "a").1 [] _ _ rfl nofun).2 "first" rfl
  · exact ((resolves r d built ["a", "b"] "b").1 [_] _ [] rfl
      (List.forall_mem_singleton.mpr rfl)).2 "third" rfl
  · exact (resolves r d built ["a", "c"] "c").2.1.mpr
      (List.forall_mem_cons.mpr ⟨rfl, List.forall_mem_singleton.mpr rfl⟩)

end Config

end Stencil
