import Stencil.Proofs.File.Walk
import Stencil.Proofs.Text.Letter
import Stencil.Store

namespace Stencil.Store

open File (Tree Node)

def isSeparator (c : Char) : Bool :=
  c == '/' || c == '\\'

/-- Names that a store below a directory must not follow. -/
inductive Escaping (name : String) : Prop where
  | empty : name = "" → Escaping name
  | nul : '\x00' ∈ name.toList → Escaping name
  | climbing : Between isSeparator ['.', '.'] name.toList → Escaping name
  | rooted {c : Char} {rest : List Char} : isSeparator c = true → name.toList = c :: rest →
      Escaping name
  | drive {letter : Char} {rest : List Char} :
      'a' ≤ letter ∧ letter ≤ 'z' ∨ 'A' ≤ letter ∧ letter ≤ 'Z' →
      name.toList = letter :: ':' :: rest → Escaping name

theorem segments_eq (name : String) :
    segments name = (name.toList.splitOnP isSeparator).map String.ofList := by
  have cut (part : List Char) : Text.splitChar '\\' (String.ofList part) =
      (part.splitOnP (· == '\\')).map String.ofList := by
    rw [Text.splitChar_eq, String.toList_ofList]
  have both := flatMap_splitOnP (· == '/') (· == '\\') name.toList
  unfold isSeparator
  rw [segments, Text.splitChar_eq, List.flatMap_map, ← both, List.map_flatMap]
  simp only [cut]

theorem climbs_iff (name : String) :
    (segments name).contains ".." = true ↔ Between isSeparator ['.', '.'] name.toList := by
  have dots : (".." : String) = String.ofList ['.', '.'] := rfl
  rw [← mem_splitOnP, segments_eq, List.contains_iff_mem, List.mem_map]
  constructor
  · rintro ⟨part, member, same⟩
    rw [dots, String.ofList_inj] at same
    rw [← same]
    exact member
  · exact fun member => ⟨_, member, rfl⟩

theorem hasDrive_iff (name : String) :
    hasDrive name = true ↔ ∃ letter rest, letter.isAlpha = true ∧
      name.toList = letter :: ':' :: rest := by
  unfold hasDrive
  constructor
  · intro found
    split at found
    · rename_i letter rest shape
      exact ⟨letter, rest, found, shape⟩
    · cases found
  · rintro ⟨letter, rest, alphabetic, shape⟩
    rw [shape]
    exact alphabetic

theorem startsWith_iff (name : String) (c : Char) :
    Text.startsWith name (String.ofList [c]) = true ↔ ∃ rest, name.toList = c :: rest := by
  unfold Text.startsWith
  rw [String.toList_ofList]
  cases name.toList with
  | nil => simp
  | cons d rest =>
    rw [List.isPrefixOf_cons_cons, List.isPrefixOf_nil_left, Bool.and_true, beq_iff_eq]
    constructor
    · rintro rfl
      exact ⟨rest, rfl⟩
    · rintro ⟨_, shape⟩
      exact (List.cons.inj shape).1.symm

theorem isUnsafe_iff (name : String) : isUnsafe name = true ↔ Escaping name := by
  have slash := startsWith_iff name '/'
  have backslash := startsWith_iff name '\\'
  unfold isUnsafe
  simp only [Bool.or_eq_true, List.contains_iff_mem, String.isEmpty_iff]
  constructor
  · rintro (((((empty | nul) | climbs) | rooted) | rooted) | drive)
    · exact .empty empty
    · exact .nul nul
    · exact .climbing ((climbs_iff name).mp (List.contains_iff_mem.mpr climbs))
    · obtain ⟨rest, shape⟩ := slash.mp rooted
      exact .rooted rfl shape
    · obtain ⟨rest, shape⟩ := backslash.mp rooted
      exact .rooted rfl shape
    · obtain ⟨letter, rest, alphabetic, shape⟩ := (hasDrive_iff name).mp drive
      exact .drive ((Text.isAlpha_iff letter).mp alphabetic) shape
  · intro escaping
    cases escaping with
    | empty empty => simp [empty]
    | nul nul => simp [nul]
    | climbing climbs =>
      have member := List.contains_iff_mem.mp ((climbs_iff name).mpr climbs)
      simp [member]
    | @rooted c rest separates shape =>
      unfold isSeparator at separates
      rw [Bool.or_eq_true, beq_iff_eq, beq_iff_eq] at separates
      rcases separates with rfl | rfl
      · have starts := slash.mpr ⟨rest, shape⟩
        exact .inl (.inl (.inr starts))
      · have starts := backslash.mpr ⟨rest, shape⟩
        exact .inl (.inr starts)
    | @drive letter rest alphabetic shape =>
      have letters := (Text.isAlpha_iff letter).mpr alphabetic
      exact .inr ((hasDrive_iff name).mpr ⟨letter, rest, letters, shape⟩)

variable {root : Path} {name : String}

theorem dotDot_notMem (safe : ¬Escaping name) :
    Path.dotDot ∉ (Path.ofString name).segments := by
  intro member
  rw [Path.segments, Path.ofString, OsText.split_ofString, Text.splitChar_eq, List.map_map,
    List.mem_map] at member
  obtain ⟨part, among, same⟩ := member
  have dots : part = ['.', '.'] := by
    rw [Function.comp_apply, OsText.ofString, String.toList_ofList] at same
    have units : part.map OsChar.char = ['.', '.'].map OsChar.char := same
    exact (List.map_inj_right fun _ _ => OsChar.char.inj).mp units
  -- Two dots between slashes have no backslash in them, so they stand between separators.
  have whole : ['.', '.'] ∈ (name.toList.splitOnP (· == '/')).flatMap
      (List.splitOnP (· == '\\')) :=
    List.mem_flatMap.mpr ⟨part, among, by rw [dots]; decide⟩
  rw [flatMap_splitOnP] at whole
  exact safe (.climbing ((mem_splitOnP _ _ _).mp whole))

theorem relative_ofString (safe : ¬Escaping name) : (Path.ofString name).isAbsolute = false := by
  unfold Path.isAbsolute Path.ofString OsText.ofString
  cases shape : name.toList with
  | nil => rfl
  | cons c rest =>
    have differ : c ≠ '/' := by
      rintro rfl
      exact safe (.rooted rfl shape)
    simp [Path.slash, differ]

theorem readBelow_safe (safe : ¬Escaping name) (files : Tree) :
    readBelow root files name =
      match files.readText (root.join (Path.ofString name)) with
      | .ok text => .ok (some text)
      | .error e => if e.kind = .notFound then .ok none else .error e := by
  unfold readBelow
  exact if_neg (mt (isUnsafe_iff name).mp safe)

theorem readBelow_escaping (escaping : Escaping name) (files : Tree) :
    readBelow root files name = .error (unsafeName name) := by
  rw [readBelow, if_pos ((isUnsafe_iff name).mpr escaping)]

theorem readText_confined (safe : ¬Escaping name) {files others : Tree}
    {entries entriesToo : List (OsText × Node)} (opens : files.Opens root entries)
    (opensToo : others.Opens root entriesToo) (same : (Node.dir entries).Same (.dir entriesToo)) :
    files.readText (root.join (Path.ofString name)) =
      others.readText (root.join (Path.ofString name)) := by
  refine Tree.readText_alike ?_
  have relative := relative_ofString safe
  rw [Tree.reach_join files root relative, Tree.reach_join others root relative]
  unfold Tree.Opens at opens opensToo
  cases here : files.reach root with
  | error e =>
    rw [here] at opens
    cases opens
  | ok place =>
    cases there : others.reach root with
    | error e =>
      rw [there] at opensToo
      cases opensToo
    | ok placeToo =>
      rw [here] at opens
      rw [there] at opensToo
      have node : place.node = .dir entries := Except.ok.inj opens
      have nodeToo : placeToo.node = .dir entriesToo := Except.ok.inj opensToo
      rw [← node, ← nodeToo] at same
      exact File.Place.walk_alike same (dotDot_notMem safe)

theorem readBelow_ne_unsafeName (safe : ¬Escaping name) (files : Tree) :
    readBelow root files name ≠ .error (unsafeName name) := by
  intro refused
  rw [readBelow_safe safe] at refused
  cases answer : files.readText (root.join (Path.ofString name)) with
  | ok text =>
    rw [answer] at refused
    cases refused
  | error e =>
    rw [answer] at refused
    dsimp only at refused
    split at refused
    · cases refused
    · have message := congrArg (fun e => e.message.toList.head?) (Except.error.inj refused)
      have first : (unsafeName name).message.toList.head? = some 'u' := by
        unfold unsafeName
        rw [String.toList_append]
        rfl
      rw [first] at message
      have faults := Tree.readText_error answer
      revert message
      simp only [List.mem_cons, List.not_mem_nil, or_false] at faults
      rcases faults with rfl | rfl | rfl | rfl | rfl | rfl <;> decide

/-- A store below a directory refuses the names that might lead out of it, and no other name, on
every tree. What it answers to the others is the same on any two trees that have the same below the
directory, whatever else is in them. -/
theorem read_confined (root : Path) (name : String) :
    (∀ files : Tree,
      ((directory root).read files name).1 = .error (unsafeName name) ↔ Escaping name) ∧
    (unsafeName name).kind = .invalidInput ∧
    ∀ (files others : Tree) (entries entriesToo : List (OsText × Node)),
      files.Opens root entries → others.Opens root entriesToo →
      (Node.dir entries).Same (.dir entriesToo) →
      ((directory root).read files name).1 = ((directory root).read others name).1 := by
  refine ⟨fun files => ?_, rfl, fun files others entries entriesToo opens opensToo same => ?_⟩
  · constructor
    · intro refused
      exact Classical.byContradiction fun safe => readBelow_ne_unsafeName safe files refused
    · exact fun escaping => readBelow_escaping escaping files
  · show readBelow root files name = readBelow root others name
    by_cases escaping : Escaping name
    · rw [readBelow_escaping escaping, readBelow_escaping escaping]
    · rw [readBelow_safe escaping, readBelow_safe escaping,
        readText_confined escaping opens opensToo same]

def walled (secret : String) : Tree :=
  let file (text : String) : Node := .file text.toUTF8
  ⟨.dir [(Path.ofString "r", .dir [(Path.ofString "a", file "text")]),
    (Path.ofString "s", file secret)], []⟩

theorem read_confined_walled :
    let root := Path.ofString "/r"
    let store := directory root
    let entries := [(Path.ofString "a", Node.file "text".toUTF8)]
    (walled "one").Opens root entries ∧ (walled "two").Opens root entries ∧
      (store.read (walled "one") "./a").1 = (store.read (walled "two") "./a").1 ∧
      (store.read (walled "one") "./a").1 = .ok (some "text") ∧
      (store.read (walled "one") "b/..\\../s").1 = .error (unsafeName "b/..\\../s") := by
  intro root store entries
  have opens : (walled "one").Opens root entries := Tree.opens_of_find rfl
  have opensToo : (walled "two").Opens root entries := Tree.opens_of_find rfl
  have confined := (read_confined root "./a").2.2 _ _ _ _ opens opensToo (.refl _)
  have climbing : Between isSeparator ['.', '.'] "b/..\\../s".toList :=
    ⟨by simp [isSeparator], ['b', '/'], ['\\', '.', '.', '/', 's'], by simp,
      by simp [isSeparator], by simp [isSeparator]⟩
  have refused := ((read_confined root "b/..\\../s").1 (walled "one")).mpr (.climbing climbing)
  exact ⟨opens, opensToo, confined, rfl, refused⟩

end Stencil.Store
