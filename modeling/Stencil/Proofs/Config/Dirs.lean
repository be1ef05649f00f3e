import Stencil.Config
import Stencil.Proofs.Text.Bytes

namespace Stencil

theorem Path.join_ne_nil {p : Path} (filled : p ≠ []) (base : Path) : base.join p ≠ [] := by
  unfold join
  split
  · exact filled
  · split
    · exact List.append_ne_nil_of_right_ne_nil _ filled
    · exact List.append_ne_nil_of_right_ne_nil _ (List.cons_ne_nil _ _)

namespace Config

open File (Tree)

def extension (path : Path) : String :=
  Text.lowerAscii ((path.extension?.bind OsText.text?).getD "")

/-- What a file says, as it stands there. Without a file nothing is said. -/
inductive Says (files : Tree) : Option Path → Layer → Prop where
  | nothing : Says files none {}
  | yaml {path : Path} {text : String} {raw : Layer} : files.contains path = true →
      files.readText path = .ok text → extension path = "yaml" ∨ extension path = "yml" →
      Layer.Yaml.parse? text = some raw → Says files (some path) raw
  | json {path : Path} {text : String} {raw : Layer} : files.contains path = true →
      files.readText path = .ok text → extension path = "json" →
      Layer.Json.parse text = .ok raw → Says files (some path) raw

def fileLayer (files : Tree) : Option Path → Except Error Layer
  | none => .ok {}
  | some path => readFile files path

/-- The path that a directory in a file stands for. -/
def fromFile (file : Option Path) (dir : Path) : Path :=
  match file.bind Path.parent? with
  | none => dir
  | some base => base.join dir

def seenFrom (file : Option Path) (layer : Layer) : Layer :=
  { layer with templateDirs := layer.templateDirs.map (·.map (fromFile file)) }

def entries (value : Option (List UInt8)) : List Path :=
  (((value.getD []).splitOn 0x3A).filter (!·.isEmpty)).map OsText.ofBytes

def firstOf (lists : List (List Path)) : List Path :=
  (lists.find? (!·.isEmpty)).getD default.templateDirs

/-- A variable that is set to separators only. -/
def Hollow (value : Option (List UInt8)) : Prop :=
  ∃ bytes, value = some bytes ∧ bytes ≠ [] ∧ ∀ b ∈ bytes, b = 0x3A

def Obeyed (env : Environment) : Prop :=
  ∀ word, env.text? Layer.escapingVariable = some word → (wordToBool? (wordOf word)).isSome

variable {files : Tree} {env : Environment} {file : Option Path} {raw : Layer}
  {value : Option (List UInt8)}

theorem rebase_eq (path : Path) (layer : Layer) :
    rebase path layer = seenFrom (some path) layer := by
  unfold rebase seenFrom
  cases lies : path.parent? with
  | none =>
    have same : fromFile (some path) = id := by
      funext dir
      simp [fromFile, lies]
    simp [same]
  | some base =>
    have same : fromFile (some path) = base.join := by
      funext dir
      simp [fromFile, lies]
    rw [same]

theorem readFile_ok_iff {path : Path} {layer : Layer} :
    readFile files path = .ok layer ↔
      ∃ raw, Says files (some path) raw ∧ seenFrom (some path) raw = layer := by
  simp only [← rebase_eq]
  unfold readFile
  constructor
  · intro read
    split at read
    · cases read
    · rename_i there
      have thereToo : files.contains path = true := by simpa using there
      split at read
      · cases read
      · rename_i text known
        dsimp only at read
        split at read
        · rename_i kind
          split at read
          · rename_i raw parsed
            exact ⟨raw, .yaml thereToo known kind parsed, Except.ok.inj read⟩
          · cases read
        · split at read
          · rename_i kind
            split at read
            · rename_i raw parsed
              exact ⟨raw, .json thereToo known kind parsed, Except.ok.inj read⟩
            · cases read
          · cases read
  · rintro ⟨raw, stated, rfl⟩
    cases stated with
    | yaml there text kind parsed =>
      unfold extension at kind
      simp [there, text, kind, parsed]
    | json there text kind parsed =>
      unfold extension at kind
      simp [there, text, kind, parsed]

theorem fileLayer_ok_iff {layer : Layer} :
    fileLayer files file = .ok layer ↔ ∃ raw, Says files file raw ∧ seenFrom file raw = layer := by
  cases file with
  | none =>
    constructor
    · intro said
      exact ⟨{}, .nothing, Except.ok.inj said⟩
    · rintro ⟨raw, stated, rfl⟩
      cases stated
      rfl
  | some path => exact readFile_ok_iff

theorem fromFile_ne_nil {dir : Path} (filled : dir ≠ []) : fromFile file dir ≠ [] := by
  unfold fromFile
  split
  · exact filled
  · exact Path.join_ne_nil filled _

theorem firstOf_cons {dirs : List Path} (nonempty : dirs ≠ []) (lists : List (List Path)) :
    firstOf (dirs :: lists) = dirs := by
  cases dirs with
  | nil => exact absurd rfl nonempty
  | cons => rfl

theorem dirs_ofLayers (first second : Layer) :
    (ofLayers first second).templateDirs =
      firstOf [((first.templateDirs.or second.templateDirs).getD []).filter (!·.isEmpty)] := by
  unfold ofLayers
  cases first.templateDirs.or second.templateDirs with
  | none => rfl
  | some dirs =>
    dsimp only [Option.map_some, Option.getD_some]
    cases dirs.filter (!·.isEmpty) <;> rfl

theorem filter_split (bytes : List UInt8) :
    (OsText.split ':' (OsText.ofBytes bytes)).filter (!·.isEmpty) = entries (some bytes) := by
  have same : (fun t : OsText => !t.isEmpty) ∘ OsText.ofBytes = fun part => !part.isEmpty :=
    funext fun part => congrArg not (OsText.isEmpty_ofBytes part)
  rw [OsText.split_ofBytes, List.filter_map, same]
  rfl

theorem splitOnP_hollow {α : Type} (p : α → Bool) (cs : List α) :
    (∀ part ∈ cs.splitOnP p, part = []) ↔ ∀ c ∈ cs, p c = true := by
  induction cs with
  | nil => simp
  | cons c cs ih =>
    rw [List.splitOnP_cons_eq_if_modifyHead, List.forall_mem_cons, ← ih]
    by_cases here : p c = true
    · simp [here]
    · cases split : cs.splitOnP p with
      | nil => exact absurd split (List.splitOnP_ne_nil _ _)
      | cons part parts => simp [here]

theorem entries_eq_nil_iff (bytes : List UInt8) :
    entries (some bytes) = [] ↔ ∀ b ∈ bytes, b = 0x3A := by
  have hollow := splitOnP_hollow (· == (0x3A : UInt8)) bytes
  simp only [beq_iff_eq] at hollow
  rw [← hollow, entries, List.map_eq_nil_iff, List.filter_eq_nil_iff]
  simp [List.splitOn]

theorem hollow_iff : Hollow value ↔ value.getD [] ≠ [] ∧ entries value = [] := by
  cases value with
  | none => simp [Hollow]
  | some bytes =>
    rw [entries_eq_nil_iff]
    constructor
    · rintro ⟨others, same, hollow⟩
      cases same
      exact hollow
    · exact fun hollow => ⟨bytes, rfl, hollow⟩

theorem entries_intercalate {dirs : List (List UInt8)} (nonempty : dirs ≠ [])
    (clean : ∀ dir ∈ dirs, dir ≠ [] ∧ 0x3A ∉ dir) :
    entries (some (List.intercalate [0x3A] dirs)) = dirs.map OsText.ofBytes := by
  have split : (List.intercalate [0x3A] dirs).splitOn 0x3A = dirs :=
    List.splitOn_intercalate 0x3A (fun dir member => (clean dir member).2) nonempty
  have kept : dirs.filter (!·.isEmpty) = dirs :=
    List.filter_eq_self.mpr fun dir member => by simpa using (clean dir member).1
  rw [entries, Option.getD_some, split, kept]

theorem ofEnvironment_obeyed (obeyed : Obeyed env) :
    ∃ layer, Layer.ofEnvironment env = .ok layer ∧
      layer.templateDirs = (env.filled? Layer.dirsVariable).map (OsText.split ':') := by
  unfold Layer.ofEnvironment
  cases told : env.text? Layer.escapingVariable with
  | none => exact ⟨_, rfl, rfl⟩
  | some word =>
    obtain ⟨escaping, known⟩ := Option.isSome_iff_exists.mp (obeyed word told)
    simp only [known]
    exact ⟨_, rfl, rfl⟩

theorem load_stated (stated : Says files file raw) :
    load files env file =
      (readEnvironment env).map fun layer => ofLayers layer (seenFrom file raw) := by
  have said : fileLayer files file = .ok (seenFrom file raw) :=
    fileLayer_ok_iff.mpr ⟨raw, stated, rfl⟩
  have loaded : load files env file = (fileLayer files file).bind fun second =>
      (readEnvironment env).bind fun first => .ok (ofLayers first second) := by
    cases file <;> rfl
  rw [loaded, said]
  cases readEnvironment env <;> rfl

theorem load_eq {layer : Layer} (stated : Says files file raw)
    (told : Layer.ofEnvironment env = .ok layer) :
    load files env file = .ok (ofLayers layer (seenFrom file raw)) := by
  rw [load_stated stated, readEnvironment, told]
  rfl

theorem filled?_eq (set : env Layer.dirsVariable = value.map OsText.ofBytes) :
    env.filled? Layer.dirsVariable = (value.filter (!·.isEmpty)).map OsText.ofBytes := by
  have same : (fun t : OsText => !t.isEmpty) ∘ OsText.ofBytes = fun part => !part.isEmpty :=
    funext fun part => congrArg not (OsText.isEmpty_ofBytes part)
  rw [Environment.filled?, set, Option.filter_map, same]

theorem filter_fromFile {dirs : List Path} (filled : ∀ dir ∈ dirs, dir ≠ []) :
    (dirs.map (fromFile file)).filter (!·.isEmpty) = dirs.map (fromFile file) := by
  refine List.filter_eq_self.mpr fun dir member => ?_
  obtain ⟨own, among, rfl⟩ := List.mem_map.mp member
  simpa using fromFile_ne_nil (filled own among)

theorem dirs_of_layers {layer : Layer}
    (told : layer.templateDirs = (env.filled? Layer.dirsVariable).map (OsText.split ':'))
    (set : env Layer.dirsVariable = value.map OsText.ofBytes) :
    (ofLayers layer (seenFrom file raw)).templateDirs =
      if value.getD [] = [] then
        firstOf [((raw.templateDirs.getD []).map (fromFile file)).filter (!·.isEmpty)]
      else firstOf [entries value] := by
  have filed : (seenFrom file raw).templateDirs.getD [] =
      (raw.templateDirs.getD []).map (fromFile file) := by
    unfold seenFrom
    cases raw.templateDirs <;> rfl
  rw [dirs_ofLayers, told, filled?_eq set, ← filed]
  cases value with
  | none => rfl
  | some bytes =>
    cases bytes with
    | nil => rfl
    | cons b bytes => exact congrArg (fun dirs => firstOf [dirs]) (filter_split (b :: bytes))

/-- Unless the variable holds nothing but separators, the first of the two lists that lists anything
counts. If it does, the default counts, whatever the file says. -/
theorem load_dirs (stated : Says files file raw)
    (set : env Layer.dirsVariable = value.map OsText.ofBytes) (obeyed : Obeyed env) :
    let filed := (raw.templateDirs.getD []).map (fromFile file)
    ∃ c, load files env file = .ok c ∧
      ((∀ dir ∈ raw.templateDirs.getD [], dir ≠ []) → ¬(Hollow value ∧ filed ≠ []) →
        c.templateDirs = firstOf [entries value, filed]) ∧
      (Hollow value → c.templateDirs = default.templateDirs) ∧
      ∀ dirs, dirs ≠ [] → (∀ dir ∈ dirs, dir ≠ [] ∧ 0x3A ∉ dir) →
        value = some (List.intercalate [0x3A] dirs) → c.templateDirs = dirs.map OsText.ofBytes := by
  intro filed
  obtain ⟨layer, told, own⟩ := ofEnvironment_obeyed obeyed
  refine ⟨_, load_eq stated told, ?_⟩
  rw [dirs_of_layers own set]
  by_cases empty : value.getD [] = []
  · have none : entries value = [] := by
      rw [entries, empty]
      rfl
    rw [if_pos empty]
    refine ⟨fun filled _ => ?_, fun hollow => absurd empty (hollow_iff.mp hollow).1,
      fun dirs nonempty clean joined => ?_⟩
    · rw [filter_fromFile filled, none]
      rfl
    · have listed := entries_intercalate nonempty clean
      rw [← joined, none] at listed
      exact absurd (List.map_eq_nil_iff.mp listed.symm) nonempty
  · rw [if_neg empty]
    refine ⟨fun _ sound => ?_, fun hollow => ?_, fun dirs nonempty clean joined => ?_⟩
    · by_cases none : entries value = []
      · have hollow := hollow_iff.mpr ⟨empty, none⟩
        have silent : filed = [] := Classical.byContradiction fun said => sound ⟨hollow, said⟩
        rw [none, silent]
        rfl
      · rw [firstOf_cons none, firstOf_cons none]
    · rw [(hollow_iff.mp hollow).2]
      rfl
    · rw [joined, entries_intercalate nonempty clean]
      exact firstOf_cons (mt List.map_eq_nil_iff.mp nonempty) []

def listing : Tree :=
  ⟨.dir [(Path.ofString "c.json", .file "\x7b\"template_dirs\":[\"d\"]\x7d".toUTF8)], []⟩

def setting (bytes : List UInt8) : Environment := fun name =>
  if name = Layer.dirsVariable then some (OsText.ofBytes bytes) else none

theorem eq_ok_of_toOption {ε α : Type} {result : Except ε α} {a : α}
    (found : result.toOption = some a) : result = .ok a := by
  cases result with
  | error => cases found
  | ok b => exact congrArg Except.ok (Option.some.inj found)

theorem says_of_listing :
    Says listing (some (Path.ofString "c.json")) ⟨some [Path.ofString "d"], none⟩ := by
  have parsed : Layer.Json.parse "\x7b\"template_dirs\":[\"d\"]\x7d" =
      .ok ⟨some [Path.ofString "d"], none⟩ := eq_ok_of_toOption (by decide +kernel)
  exact .json rfl rfl (by decide +kernel) parsed

theorem obeyed_setting (bytes : List UInt8) : Obeyed (setting bytes) := by
  intro word set
  simp [Environment.text?, setting, Layer.escapingVariable, Layer.dirsVariable] at set

theorem load_dirs_listed :
    let env := setting [0x3A, 0x61, 0x3A, 0x3A, 0x62]
    ∃ c, load listing env (some (Path.ofString "c.json")) = .ok c ∧
      c.templateDirs = [Path.ofString "a", Path.ofString "b"] := by
  intro env
  have set : env Layer.dirsVariable =
      (some [0x3A, 0x61, 0x3A, 0x3A, 0x62]).map OsText.ofBytes := rfl
  obtain ⟨c, loaded, dirs, -, -⟩ := load_dirs says_of_listing set (obeyed_setting _)
  have sound : ¬Hollow (some [0x3A, 0x61, 0x3A, 0x3A, 0x62]) := by
    rw [hollow_iff]
    decide +kernel
  refine ⟨c, loaded, ?_⟩
  rw [dirs (by decide) fun hollow => sound hollow.1]
  decide +kernel

theorem separators_hide_file :
    ¬∀ (files : Tree) (env : Environment) (file : Option Path) (raw : Layer)
      (value : Option (List UInt8)), Says files file raw →
      (∀ dir ∈ raw.templateDirs.getD [], dir ≠ []) →
      env Layer.dirsVariable = value.map OsText.ofBytes → Obeyed env →
      ∃ c, load files env file = .ok c ∧
        c.templateDirs =
          firstOf [entries value, (raw.templateDirs.getD []).map (fromFile file)] := by
  intro all
  obtain ⟨c, loaded, dirs⟩ := all listing (setting [0x3A]) _ _ (some [0x3A]) says_of_listing
    (by decide) rfl (obeyed_setting _)
  have hidden : load listing (setting [0x3A]) (some (Path.ofString "c.json")) = .ok default :=
    eq_ok_of_toOption (by decide +kernel)
  rw [hidden] at loaded
  cases loaded
  revert dirs
  decide +kernel

end Config

end Stencil
